import Reckon.Proofs.Dialogue.Outcomes

/-!
# Names, units and prototypes belong together

Three things are kept of an accepted definition: its name among the defined ones, its
unit in the stock, and its prototype in the session. After any number of steps they belong
together, whatever has been refused in between, and a body once bound to a name stays.
-/

namespace Reckon

namespace Dialogue

section

variable {β : Type} [Backend β] [Stocked β]

/-- A step reads a definition of this name and does not complain. -/
def Accepts (before after : Dialogue β) (name : String) : Prop :=
  ∃ function : Definition, before.Reads (.definition function) ∧ function.prototype.name = name ∧
    after.complaints = before.complaints

/-- One of the first steps accepts a definition of this name. -/
def AcceptedWithin (first : Nat → Turn β Unit) (start : Dialogue β) (count : Nat) (name : String) :
    Prop :=
  ∃ step < count, ∃ before after, first step start = .ok () before ∧
    first (step + 1) start = .ok () after ∧ before.Accepts after name

/-- The names that were accepted are defined, each is held by one unit, each unit holds the body of
one of them and has it as it is recorded, and the open unit holds no body. -/
structure Consistent (accepted : String → Prop) (dialogue : Dialogue β) : Prop where
  defined (name : String) : name ∈ Backend.defined dialogue.backend ↔ accepted name
  held (name : String) (member : name ∈ Backend.defined dialogue.backend) :
    (Stocked.stock dialogue.backend).countP (·.bears name) = 1
  single (unit : Shelved (Stocked.Content β)) (member : unit ∈ Stocked.stock dialogue.backend) :
    ∃ function, unit.bodies = [function] ∧ function.name ∈ Backend.defined dialogue.backend ∧
      ∃ known, dialogue.session.find? function.name = some known ∧ known.arity = function.arity
  ordinary (name : String) (member : name ∈ Backend.defined dialogue.backend) (suffix : String) :
    name ≠ anonymousName ++ suffix
  bodyless : (Stocked.opened dialogue.backend).Bodyless

variable {before after : Dialogue β} {accepted : String → Prop}

/-- Names without a definition are held by no unit. -/
theorem Consistent.countP_eq_zero (consistent : Consistent accepted before) {name : String}
    (absent : name ∉ Backend.defined before.backend) :
    (Stocked.stock before.backend).countP (·.bears name) = 0 := by
  rw [List.countP_eq_zero]
  intro unit member bears
  obtain ⟨function, only, defined, _⟩ := consistent.single unit member
  rw [Shelved.bears_of_bodies only, decide_eq_true_eq] at bears
  exact absent (bears ▸ defined)

/-- Each defined name has one body. -/
theorem Consistent.eq_of_bound (consistent : Consistent accepted before)
    {function other : Held (Stocked.Content β)} (bound : Bound before.backend function)
    (boundToo : Bound before.backend other) (same : other.name = function.name) :
    other = function := by
  obtain ⟨unit, member, holds⟩ := bound
  obtain ⟨unitToo, memberToo, holdsToo⟩ := boundToo
  obtain ⟨sole, only, defined, _⟩ := consistent.single unit member
  obtain ⟨soleToo, onlyToo, _⟩ := consistent.single unitToo memberToo
  rw [only, List.mem_singleton] at holds
  rw [onlyToo, List.mem_singleton] at holdsToo
  subst holds holdsToo
  have once := consistent.held _ defined
  rw [List.countP_eq_length_filter] at once
  obtain ⟨holder, single⟩ := List.length_eq_one_iff.mp once
  have bears : unit.bears function.name = true := by simp [Shelved.bears_of_bodies only]
  have bearsToo : unitToo.bears function.name = true := by
    simp [Shelved.bears_of_bodies onlyToo, same]
  have first : unit ∈ (Stocked.stock before.backend).filter (·.bears function.name) :=
    List.mem_filter.mpr ⟨member, bears⟩
  have second : unitToo ∈ (Stocked.stock before.backend).filter (·.bears function.name) :=
    List.mem_filter.mpr ⟨memberToo, bearsToo⟩
  rw [single, List.mem_singleton] at first second
  rw [first.trans second.symm, onlyToo] at only
  exact List.head_eq_of_cons_eq only

/-- What changes nothing but the open unit leaves all consistent, if recorded arities stay. -/
theorem Consistent.unshaken (consistent : Consistent accepted before)
    (unshaken : Unshaken before.backend after.backend)
    (records : ∀ name arity,
      (∃ known, before.session.find? name = some known ∧ known.arity = arity) →
      ∃ known, after.session.find? name = some known ∧ known.arity = arity) :
    Consistent accepted after := by
  constructor
  case defined =>
    rw [unshaken.defined]
    exact consistent.defined
  case held =>
    intro name member
    rw [unshaken.defined] at member
    rw [unshaken.stock.countP_eq]
    exact consistent.held name member
  case single =>
    intro unit member
    obtain ⟨function, only, defined, recorded⟩ :=
      consistent.single unit (unshaken.stock.mem_iff.mp member)
    rw [unshaken.defined]
    exact ⟨function, only, defined, records _ _ recorded⟩
  case ordinary =>
    rw [unshaken.defined]
    exact consistent.ordinary
  case bodyless => exact unshaken.bodyless

/-- A definition that is accepted and recorded keeps all consistent. -/
theorem Consistent.grown (consistent : Consistent accepted before) {prototype : Prototype}
    (word : IsWord prototype.name) (fits : before.session.prototypeFault? prototype = none)
    (grown : Grown prototype before.backend after.backend)
    (session : after.session = before.session.record prototype) :
    Consistent (fun name => accepted name ∨ name = prototype.name) after := by
  obtain ⟨new, content, only, stock⟩ := grown.stock
  have bears := Shelved.bears_of_bodies only
  constructor
  case defined =>
    intro name
    rw [grown.defined, NameSet.mem_insert, consistent.defined]
  case held =>
    intro name member
    rw [grown.defined, NameSet.mem_insert] at member
    rw [stock.countP_eq, List.countP_cons, bears]
    rcases member with earlier | rfl
    · have differs : prototype.name ≠ name := fun same => grown.new (same ▸ earlier)
      simp [differs, consistent.held name earlier]
    · simp [consistent.countP_eq_zero grown.new]
  case single =>
    intro unit member
    rw [session, grown.defined]
    rcases List.mem_cons.mp (stock.mem_iff.mp member) with rfl | older
    · exact ⟨_, only, (NameSet.mem_insert ..).mpr (.inr rfl), prototype,
        Session.find?_record_self .., rfl⟩
    · obtain ⟨function, onlyToo, defined, recorded⟩ := consistent.single unit older
      exact ⟨function, onlyToo, (NameSet.mem_insert ..).mpr (.inl defined),
        Session.arity_record fits recorded⟩
  case ordinary =>
    intro name member
    rw [grown.defined, NameSet.mem_insert] at member
    rcases member with earlier | rfl
    · exact consistent.ordinary name earlier
    · exact word.ne_of_anonymous_append
  case bodyless => exact grown.opened.bodyless

omit [Backend β] [Stocked β] in
/-- A definition accepts its own name. -/
theorem Undergoes.accepts_iff {prototype : Prototype}
    (undergoes : before.Undergoes (.defined prototype) after) (name : String) :
    before.Accepts after name ↔ name = prototype.name := by
  obtain ⟨function, rfl, reads⟩ := undergoes.occasion
  constructor
  · rintro ⟨other, readsToo, rfl, _⟩
    cases reads.eq readsToo
    rfl
  · rintro rfl
    exact ⟨function, reads, rfl, undergoes.complaints.trans (List.append_nil _)⟩

omit [Backend β] [Stocked β] in
/-- Another event accepts none. -/
theorem Undergoes.not_accepts {event : Event} (undergoes : before.Undergoes event after)
    (other : ∀ prototype, event ≠ .defined prototype) (name : String) :
    ¬ before.Accepts after name := by
  rintro ⟨function, reads, rfl, uncomplaining⟩
  have occasion := undergoes.occasion
  cases event with
  | skipped => exact reads.unseparated occasion
  | complained complaint =>
    have complaints := undergoes.complaints
    rw [uncomplaining] at complaints
    have lengths := congrArg List.length complaints
    simp [Event.complaints] at lengths
  | defined prototype => exact other prototype rfl
  | declared prototype => cases reads.eq occasion
  | evaluated value =>
    obtain ⟨_, readsToo⟩ := occasion
    cases reads.eq readsToo

/-- Consistent, with the names accepted before and by the step, and with every body bound that was
bound before. -/
def KeepsConsistent (accepted : String → Prop) (before after : Dialogue β) : Prop :=
  Consistent (fun name => accepted name ∨ before.Accepts after name) after ∧
    ∀ function, Bound before.backend function → Bound after.backend function

/-- A step that accepts nothing keeps all consistent if recorded arities stay. -/
theorem Consistent.keeps_unshaken (consistent : Consistent accepted before)
    (unshaken : Unshaken before.backend after.backend)
    (records : ∀ name arity,
      (∃ known, before.session.find? name = some known ∧ known.arity = arity) →
      ∃ known, after.session.find? name = some known ∧ known.arity = arity)
    (without : ∀ name, ¬ before.Accepts after name) : KeepsConsistent accepted before after := by
  refine ⟨?_, fun _ => unshaken.bound⟩
  have kept := consistent.unshaken unshaken records
  refine { kept with defined := fun name => ?_ }
  rw [kept.defined, or_iff_left (without name)]

/-- **A step keeps names, units and prototypes consistent**, and every body bound. -/
theorem Consistent.proceeds {more : Bool} (consistent : Consistent accepted before)
    (proceeds : before.Proceeds more after) : KeepsConsistent accepted before after := by
  have same (session : after.session = before.session) (name : String) (arity : Nat)
      (recorded : ∃ known, before.session.find? name = some known ∧ known.arity = arity) :
      ∃ known, after.session.find? name = some known ∧ known.arity = arity := by
    rwa [session]
  cases proceeds with
  | ended ended session unshaken =>
    apply consistent.keeps_unshaken unshaken (same session)
    rintro name ⟨function, reads, _⟩
    exact reads.1 ended
  | @event _ event passes =>
    obtain ⟨undergoes, affects⟩ := passes
    have session := undergoes.session
    cases event with
    | defined prototype =>
      obtain ⟨fits, grown⟩ := affects
      have word : IsWord prototype.name := by
        obtain ⟨function, rfl, _, _, cursor, read⟩ := undergoes.occasion
        exact (Cursor.readUnit_spelled read).1
      refine ⟨?_, fun _ => grown.bound⟩
      have kept := consistent.grown word fits grown session
      refine { kept with defined := fun name => ?_ }
      rw [kept.defined, undergoes.accepts_iff]
    | declared prototype =>
      apply consistent.keeps_unshaken affects.2 ?_ (undergoes.not_accepts nofun)
      rw [session]
      exact fun _ _ => Session.arity_record affects.1
    | skipped =>
      exact consistent.keeps_unshaken affects (same session) (undergoes.not_accepts nofun)
    | complained complaint =>
      exact consistent.keeps_unshaken affects (same session) (undergoes.not_accepts nofun)
    | evaluated value =>
      exact consistent.keeps_unshaken affects (same session) (undergoes.not_accepts nofun)

/-! ## Runs -/

variable {first : Nat → Turn β Unit} {start : Dialogue β}

omit [Backend β] [Stocked β] in
/-- A name has been accepted by one step more if it was accepted before or by the last step. -/
theorem AcceptedWithin.succ_iff {count : Nat} (reached : first count start = .ok () before)
    (reachedToo : first (count + 1) start = .ok () after) (name : String) :
    AcceptedWithin first start (count + 1) name ↔
      AcceptedWithin first start count name ∨ before.Accepts after name := by
  constructor
  · rintro ⟨step, less, old, new, begins, ends, accepts⟩
    by_cases last : step = count
    · subst last
      rw [reached] at begins
      cases begins
      rw [reachedToo] at ends
      cases ends
      exact .inr accepts
    · exact .inl ⟨step, by omega, old, new, begins, ends, accepts⟩
  · rintro (⟨step, less, rest⟩ | accepts)
    · exact ⟨step, by omega, rest⟩
    · exact ⟨count, by omega, before, after, reached, reachedToo, accepts⟩

/-- A run is consistent after a number of steps, and of every name the body is the one that was
bound to it on the way. -/
structure ConsistentRun (first : Nat → Turn β Unit) (start : Dialogue β) (count : Nat)
    (dialogue : Dialogue β) : Prop where
  reached : first count start = .ok () dialogue
  consistent : Consistent (AcceptedWithin first start count) dialogue
  lasting (step : Nat) (within : step ≤ count) (earlier : Dialogue β)
    (reached : first step start = .ok () earlier) (function : Held (Stocked.Content β))
    (bound : Bound earlier.backend function) (other : Held (Stocked.Content β)) :
    Bound dialogue.backend other ∧ other.name = function.name ↔ other = function

/-- What is bound under a name is the only function bound under it. -/
theorem Consistent.lasting (consistent : Consistent accepted before)
    {function : Held (Stocked.Content β)} (bound : Bound before.backend function)
    (other : Held (Stocked.Content β)) :
    Bound before.backend other ∧ other.name = function.name ↔ other = function := by
  constructor
  · rintro ⟨boundToo, same⟩
    exact consistent.eq_of_bound bound boundToo same
  · rintro rfl
    exact ⟨bound, rfl⟩

/-- **A run stays consistent** if it begins so and each of its steps leads on. -/
theorem consistentRun (empty : first 0 start = .ok () start)
    (begins : Consistent (fun _ => False) start)
    (leads : ∀ count, ∃ before more after, first count start = .ok () before ∧
      first (count + 1) start = .ok () after ∧ before.Proceeds more after) (count : Nat) :
    ∃ dialogue, ConsistentRun first start count dialogue := by
  induction count with
  | zero =>
    have consistent : Consistent (AcceptedWithin first start 0) start := by
      refine { begins with defined := fun name => ?_ }
      rw [begins.defined]
      constructor
      · exact False.elim
      · rintro ⟨step, less, _⟩
        omega
    refine ⟨start, empty, consistent, ?_⟩
    intro step within earlier reached function bound
    obtain rfl : step = 0 := by omega
    rw [empty] at reached
    cases reached
    exact consistent.lasting bound
  | succ count inductionHypothesis =>
    obtain ⟨dialogue, run⟩ := inductionHypothesis
    obtain ⟨before, more, after, reached, reachedToo, proceeds⟩ := leads count
    obtain rfl : before = dialogue := by
      have same := reached.symm.trans run.reached
      cases same
      rfl
    obtain ⟨kept, bound⟩ := run.consistent.proceeds proceeds
    have consistent : Consistent (AcceptedWithin first start (count + 1)) after := by
      refine { kept with defined := fun name => ?_ }
      rw [kept.defined, AcceptedWithin.succ_iff reached reachedToo]
    refine ⟨after, reachedToo, consistent, ?_⟩
    intro step within earlier reachedEarlier function boundEarlier
    apply consistent.lasting
    by_cases last : step = count + 1
    · subst last
      rw [reachedToo] at reachedEarlier
      cases reachedEarlier
      exact boundEarlier
    · exact bound function ((run.lasting step (by omega) earlier reachedEarlier function
        boundEarlier function).mpr rfl).1

/-- Where nothing is defined and no unit is there, all is consistent. -/
theorem consistent_of_empty (defined : Backend.defined start.backend = [])
    (stock : Stocked.stock start.backend = []) (emptied : Emptied start.backend) :
    Consistent (fun _ => False) start := by
  constructor
  case defined => simp [defined]
  case held => simp [defined]
  case single => simp [stock]
  case ordinary => simp [defined]
  case bodyless => exact emptied.bodyless

end

/-- **Definitions, units and prototypes stay consistent.** For every program, table of operators and
platform, and after any number of steps, with the evaluator and with a generator whose machine
refuses whatever units it likes: the defined names are those whose definitions were accepted; each
of them is held by one unit; each unit holds one body, that of a defined name, with the arity that
is recorded for it; no defined name is one of a bare expression; the open unit holds no body; and
whatever body was bound to a name at some earlier time is bound to it still. -/
theorem runs_stay_consistent (settings : Settings) (platform : Platform) (operators : Operators)
    (level : Nat) (cursor : Cursor) (reasons : Nat → Option String) (count : Nat) :
    (∃ dialogue, ConsistentRun steps (withEvaluator settings platform operators cursor) count
      dialogue) ∧
    ∃ dialogue, ConsistentRun (stepsRefusing reasons)
      (withGenerator settings platform operators level cursor) count dialogue := by
  constructor
  · have empty : Emptied (withEvaluator settings platform operators cursor).backend := rfl
    exact consistentRun rfl (consistent_of_empty rfl rfl empty)
      (accompanied_withEvaluator settings platform operators cursor).leads count
  · have empty : Emptied (withGenerator settings platform operators level cursor).backend := rfl
    exact consistentRun rfl (consistent_of_empty rfl rfl empty)
      ((shadowed_withGenerator settings platform operators level cursor).leads reasons) count

end Dialogue

end Reckon
