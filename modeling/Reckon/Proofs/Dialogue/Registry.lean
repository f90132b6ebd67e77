import Reckon.Proofs.Backend.Headers
import Reckon.Proofs.Dialogue.Keeping
import Reckon.Proofs.Dialogue.Outcomes

/-!
# The registry and the open unit

A name in a call is looked up twice: among the functions of the open unit, and then in the
registry of prototypes that the session keeps. Functions come into the open unit by
declarations, by definitions that succeed or fail, and by calls; prototypes are recorded
later or never. Between the steps of a dialogue the two agree all the same, so whatever is
recorded can be found, and found with the arity that was recorded first.
-/

namespace Reckon

namespace Dialogue

open Reckon.Action

section

variable {β : Type} [Backend β] [Stocked β] {before after : Dialogue β} {more : Bool}

/-- A step records nothing, or a prototype that is not refused. -/
theorem Proceeds.session (proceeds : before.Proceeds more after) :
    after.session = before.session ∨
      ∃ prototype, IsWord prototype.name ∧ before.session.prototypeFault? prototype = none ∧
        after.session = before.session.record prototype := by
  cases proceeds with
  | ended ended session unshaken => exact .inl session
  | @event _ event passes =>
    obtain ⟨undergoes, affects⟩ := passes
    have session := undergoes.session
    cases event with
    | defined prototype =>
      obtain ⟨function, rfl, _, _, cursor, read⟩ := undergoes.occasion
      exact .inr ⟨_, (Cursor.readUnit_spelled read).1, affects.1, session⟩
    | declared prototype =>
      obtain ⟨_, _, cursor, read⟩ := undergoes.occasion
      exact .inr ⟨_, Cursor.readUnit_spelled read, affects.1, session⟩
    | skipped => exact .inl session
    | complained complaint => exact .inl session
    | evaluated value => exact .inl session

/-- What is recorded of a word is a prototype of that name with distinct parameters, and nothing
else is recorded. -/
def WellRecorded (session : Session) : Prop :=
  ∀ name known, session.find? name = some known →
    known.name = name ∧ IsWord name ∧ known.parameters.Nodup

/-- A prototype that is recorded would be accepted again. -/
theorem WellRecorded.accepts {session : Session} (recorded : WellRecorded session) {name : String}
    {known : Prototype} (finds : session.find? name = some known) :
    session.prototypeFault? known = none := by
  obtain ⟨rfl, _, distinct⟩ := recorded name known finds
  refine (Session.prototypeFault?_eq_none_iff ..).mpr ⟨distinct, fun other findsToo => ?_⟩
  rw [finds] at findsToo
  cases findsToo
  rfl

/-- A step that leads on records prototypes as they should be. -/
theorem WellRecorded.proceeds (recorded : WellRecorded before.session)
    (proceeds : before.Proceeds more after) : WellRecorded after.session := by
  rcases proceeds.session with same | ⟨prototype, word, accepted, session⟩
  · rwa [same]
  · intro name known finds
    rw [session, Session.find?_record] at finds
    by_cases itself : prototype.name = name
    · subst itself
      rw [if_pos rfl] at finds
      cases finds
      exact ⟨rfl, word, ((Session.prototypeFault?_eq_none_iff ..).mp accepted).1⟩
    · rw [if_neg itself] at finds
      exact recorded name known finds

/-- A recorded name stays recorded with its arity. -/
theorem Proceeds.arity (proceeds : before.Proceeds more after) {name : String} {arity : Nat}
    (recorded : ∃ known, before.session.find? name = some known ∧ known.arity = arity) :
    ∃ known, after.session.find? name = some known ∧ known.arity = arity := by
  rcases proceeds.session with same | ⟨prototype, _, accepted, session⟩
  · rwa [same]
  · rw [session]
    exact Session.arity_record accepted recorded

end

/-! ## Looking names up -/

section

variable {β : Type} [Backend β] [Headed β]

/-- The functions of the open unit have the arities that are recorded for their names. -/
def Concordant (session : Session) (backend : β) : Prop :=
  ∀ name known parameters, session.find? name = some known →
    (Headed.headers backend).get? name = some parameters → parameters.length = known.arity

/-- The functions of the open unit have distinct parameters and the arities that are recorded for
their names. Every recorded name is found, with its arity, and a name is not found exactly if it is
neither recorded nor in the open unit. -/
structure Registered (dialogue : Dialogue β) : Prop where
  once : (Headed.headers dialogue.backend).keys.Nodup
  distinct (header : String × List String)
    (member : header ∈ (Headed.headers dialogue.backend).entries) : header.2.Nodup
  agrees (header : String × List String)
    (member : header ∈ (Headed.headers dialogue.backend).entries) (known : Prototype)
    (finds : dialogue.session.find? header.1 = some known) : header.2.length = known.arity
  resolves (name : String) (known : Prototype)
    (finds : dialogue.session.find? name = some known) :
    ∃ handle after, resolve dialogue.session name dialogue.backend = .ok (some handle) after ∧
      Declarations.arity after handle = known.arity ∧ Declarations.lookup after name = some handle
  unknown (name : String) (after : β) :
    resolve dialogue.session name dialogue.backend = .ok none after ↔
      after = dialogue.backend ∧ dialogue.session.find? name = none ∧
        Declarations.lookup dialogue.backend name = none

variable {session : Session} {backend : β}

omit [Headed β] in
/-- A name of the open unit is found there. -/
theorem resolve_of_lookup {name : String} {handle : Handle}
    (there : Declarations.lookup backend name = some handle) :
    resolve session name backend = .ok (some handle) backend := by
  unfold resolve
  rw [get_bind]
  simp only [there]
  rfl

omit [Headed β] in
/-- Another name is declared if it is recorded. -/
theorem resolve_of_find? {name : String} {known : Prototype}
    (absent : Declarations.lookup backend name = none) (finds : session.find? name = some known)
    {handle : Handle} {after : β}
    (declares : Declarations.declare session known backend = .ok handle after) :
    resolve session name backend = .ok (some handle) after := by
  unfold resolve
  rw [get_bind]
  simp only [absent, finds]
  exact bind_ok declares

omit [Headed β] in
/-- Nothing is found, and nothing changes, exactly if the name is known nowhere. -/
theorem resolve_eq_none_iff {name : String} {after : β} :
    resolve session name backend = .ok none after ↔
      after = backend ∧ session.find? name = none ∧ Declarations.lookup backend name = none := by
  unfold resolve
  rw [get_bind]
  cases Declarations.lookup backend name with
  | some handle => simp [pure, EStateM.pure]
  | none =>
    cases session.find? name with
    | none => simp [pure, EStateM.pure, eq_comm]
    | some known =>
      simp only [bind_eq_ok_iff]
      constructor
      · rintro ⟨handle, last, _, found⟩
        cases found
      · rintro ⟨_, missing, _⟩
        cases missing

/-- A recorded name is found with its arity. -/
theorem exists_resolve (recorded : WellRecorded session) (concordant : Concordant session backend)
    {name : String} {known : Prototype} (finds : session.find? name = some known) :
    ∃ handle after, resolve session name backend = .ok (some handle) after ∧
      Declarations.arity after handle = known.arity ∧
      Declarations.lookup after name = some handle := by
  obtain ⟨rfl, word, distinct⟩ := recorded name known finds
  cases there : Declarations.lookup backend known.name with
  | some handle =>
    refine ⟨handle, backend, resolve_of_lookup there, ?_, there⟩
    have same := Headed.arity_lookup backend word
    rw [there] at same
    obtain ⟨parameters, found, arity⟩ := Option.map_eq_some_iff.mp same.symm
    exact arity.symm.trans (concordant _ known parameters finds found)
  | none =>
    obtain ⟨handle, after, declares, found, arity⟩ :=
      Headed.declares session known backend word (recorded.accepts finds) there
    exact ⟨handle, after, resolve_of_find? there finds declares, arity, found⟩

/-- If what is recorded and the open unit are in order and agree, all names are registered as they
should be. -/
theorem registered {dialogue : Dialogue β} (recorded : WellRecorded dialogue.session)
    (sound : SoundHeaders (Headed.headers dialogue.backend))
    (concordant : Concordant dialogue.session dialogue.backend) : Registered dialogue := by
  constructor
  case once => exact sound.once
  case distinct => exact sound.distinct
  case agrees =>
    intro header member known finds
    exact concordant _ known _ finds (Catalog.get?_of_mem sound.once member)
  case resolves => exact fun name known => exists_resolve recorded concordant
  case unknown => exact fun name after => resolve_eq_none_iff

end

/-! ## Runs -/

/-- A run has recorded sound prototypes after a number of steps, and every name that was recorded on
the way still has the arity that it had then. -/
structure RecordedRun {β : Type} (first : Nat → Turn β Unit) (start : Dialogue β) (count : Nat)
    (dialogue : Dialogue β) : Prop where
  reached : first count start = .ok () dialogue
  recorded : WellRecorded dialogue.session
  lasting (step : Nat) (within : step ≤ count) (earlier : Dialogue β)
    (reached : first step start = .ok () earlier) (name : String) (known : Prototype)
    (finds : earlier.session.find? name = some known) :
    ∃ now, dialogue.session.find? name = some now ∧ now.arity = known.arity

/-- What is recorded stays sound and keeps its arity in a run whose steps lead on. -/
theorem recordedRun {β : Type} [Backend β] [Stocked β] {first : Nat → Turn β Unit}
    {start : Dialogue β} (empty : first 0 start = .ok () start)
    (begins : WellRecorded start.session)
    (leads : ∀ count, ∃ before more after, first count start = .ok () before ∧
      first (count + 1) start = .ok () after ∧ before.Proceeds more after) (count : Nat) :
    ∃ dialogue, RecordedRun first start count dialogue := by
  induction count with
  | zero =>
    refine ⟨start, empty, begins, ?_⟩
    intro step within earlier reached name known finds
    obtain rfl : step = 0 := by omega
    rw [empty] at reached
    cases reached
    exact ⟨known, finds, rfl⟩
  | succ count inductionHypothesis =>
    obtain ⟨dialogue, run⟩ := inductionHypothesis
    obtain ⟨before, more, after, reached, reachedToo, proceeds⟩ := leads count
    obtain rfl : before = dialogue := by
      have same := reached.symm.trans run.reached
      cases same
      rfl
    refine ⟨after, reachedToo, run.recorded.proceeds proceeds, ?_⟩
    intro step within earlier reachedEarlier name known finds
    by_cases last : step = count + 1
    · subst last
      rw [reachedToo] at reachedEarlier
      cases reachedEarlier
      exact ⟨known, finds, rfl⟩
    · exact proceeds.arity (run.lasting step (by omega) earlier reachedEarlier name known finds)

/-- A new session has recorded nothing wrong. -/
theorem wellRecorded_newSession (operators : Operators) : WellRecorded (newSession operators) := by
  intro name known finds
  cases finds

/-- What an evaluator declares agrees with what is recorded. -/
theorem Accompanied.concordant {dialogue : Dialogue Evaluator}
    (accompanied : dialogue.Accompanied) : Concordant dialogue.session dialogue.backend := by
  obtain ⟨generator, coupled⟩ := accompanied
  intro name known parameters finds there
  change (dialogue.backend.current.functions.map _).get? name = some parameters at there
  rw [Catalog.get?_map] at there
  obtain ⟨function, found, rfl⟩ := Option.map_eq_some_iff.mp there
  exact coupled.settled.opened.recorded name function known found finds

/-- What a generator declares agrees with what is recorded. -/
theorem Shadowed.concordant {dialogue : Dialogue Generator} (shadowed : dialogue.Shadowed)
    (recorded : WellRecorded dialogue.session) :
    Concordant dialogue.session dialogue.backend := by
  obtain ⟨evaluator, coupled⟩ := shadowed
  intro name known parameters finds there
  change (dialogue.backend.current.routines.map _).get? name = some parameters at there
  rw [Catalog.get?_map] at there
  obtain ⟨routine, found, rfl⟩ := Option.map_eq_some_iff.mp there
  obtain ⟨_, word, _⟩ := recorded name known finds
  have matched : Matched evaluator.current dialogue.backend.current := coupled.matched
  have same := matched.arities name (.inl word)
  rw [Module.symbol_of_isWord _ word, found] at same
  obtain ⟨function, foundToo, arity⟩ := Option.map_eq_some_iff.mp same
  exact arity.symm.trans (coupled.settled.opened.recorded name function known foundToo finds)

/-- **The registry and the open unit agree between steps.** For every program, table of operators
and platform, and after any number of steps, with the evaluator and with a generator whose machine
refuses whatever units it likes: recorded prototypes and the functions of the open unit have
distinct parameters; a recorded name keeps its arity for good; a function of the open unit has the
arity that is recorded for its name; a recorded name is resolved without a fault, to a function of
that arity that is looked up from then on; and a name is resolved to nothing, with nothing changed,
exactly if it is neither recorded nor in the open unit. -/
theorem recorded_names_are_resolved (settings : Settings) (platform : Platform)
    (operators : Operators) (level : Nat) (cursor : Cursor) (reasons : Nat → Option String)
    (count : Nat) :
    (∃ dialogue, RecordedRun steps (withEvaluator settings platform operators cursor) count
      dialogue ∧ Registered dialogue) ∧
    ∃ dialogue, RecordedRun (stepsRefusing reasons)
      (withGenerator settings platform operators level cursor) count dialogue ∧
      Registered dialogue := by
  have recorded := wellRecorded_newSession operators
  constructor
  · have accompanied := accompanied_withEvaluator settings platform operators cursor
    obtain ⟨dialogue, run⟩ := recordedRun rfl recorded accompanied.leads count
    obtain ⟨before, reached, accompaniedToo⟩ := accompanied.steps count
    rw [run.reached] at reached
    cases reached
    have sound : dialogue.backend.WellHeaded :=
      (steps_keeps Evaluator.kept_wellHeaded count).of_ok run.reached .empty
    exact ⟨dialogue, run, registered run.recorded sound accompaniedToo.concordant⟩
  · have shadowed := shadowed_withGenerator settings platform operators level cursor
    obtain ⟨dialogue, run⟩ := recordedRun rfl recorded (shadowed.leads reasons) count
    obtain ⟨before, reached, shadowedToo⟩ := shadowed.steps reasons count
    rw [run.reached] at reached
    cases reached
    have sound : dialogue.backend.WellHeaded :=
      (stepsRefusing_keeps Generator.kept_wellHeaded (fun _ _ headed => headed) reasons
        count).of_ok run.reached (Generator.wellHeaded_initial level none)
    exact ⟨dialogue, run,
      registered run.recorded (sound _ List.mem_cons_self) (shadowedToo.concordant run.recorded)⟩

end Dialogue

end Reckon
