import Reckon.Proofs.Evaluator.Definition
import Reckon.Proofs.Evaluator.Obstacles

/-!
# The evaluator between the steps of a dialogue

Between steps each live unit holds one body, that of a word which no other live unit
defines and which is recorded with the arity of its function. Every call in the body is
of a recorded function with as many parameters, unless it is excused: when the body was
compiled, the callee may have been a declaration that a refused definition had left in
the open unit. Such a declaration is recorded nowhere, and so nothing holds a later
definition of the name to its arity.
-/

namespace Reckon

namespace Session

/-- Recording an accepted prototype changes no arity that is recorded. -/
theorem arity_record {session : Session} {prototype : Prototype}
    (accepted : session.prototypeFault? prototype = none) {name : String} {arity : Nat}
    (recorded : ∃ known, session.find? name = some known ∧ known.arity = arity) :
    ∃ known, (session.record prototype).find? name = some known ∧ known.arity = arity := by
  obtain ⟨known, finds, same⟩ := recorded
  rw [find?_record]
  by_cases itself : prototype.name = name
  · subst itself
    have agrees := ((prototypeFault?_eq_none_iff ..).mp accepted).2
    exact ⟨prototype, if_pos rfl, (agrees known finds).symm.trans same⟩
  · exact ⟨known, by rw [if_neg itself, finds], same⟩

/-- A prototype that was just recorded is found with its arity. -/
theorem find?_record_self (session : Session) (prototype : Prototype) :
    (session.record prototype).find? prototype.name = some prototype := by
  rw [find?_record, if_pos rfl]

end Session

namespace Evaluator

namespace CodeUnit

variable {unit : CodeUnit} {name : String} {prototype : Prototype} {body : Node} {code : Code}

/-- A unit with one body has its code for its name. -/
theorem Bears.code?_self (bears : unit.Bears name prototype body code) :
    unit.code? name = some (prototype.arity, code) := by
  simp [code?, bears.found]

/-- It has no code for any other name. -/
theorem Bears.code?_other (bears : unit.Bears name prototype body code) {other : String}
    (differs : other ≠ name) : unit.code? other = none := by
  cases found : unit.functions.get? other with
  | none => simp [code?, found]
  | some function =>
    obtain ⟨header, held⟩ := function
    cases held with
    | none => simp [code?, found]
    | some content => exact (differs (bears.sole other _ found (by simp))).elim

/-- A unit has code for the name of its only body and for no other. -/
theorem Bears.code?_eq_some_iff (bears : unit.Bears name prototype body code) {other : String}
    {found : Nat × Code} :
    unit.code? other = some found ↔ other = name ∧ found = (prototype.arity, code) := by
  by_cases same : other = name
  · subst same
    rw [bears.code?_self]
    simp [eq_comm]
  · rw [bears.code?_other same]
    simp [same]

end CodeUnit

/-- How a call in the body of a function is held to the arity of its callee. -/
def Sanctioned (session : Session) (excused : String → String → Prop) (name : String)
    (call : String × Nat) : Prop :=
  (∃ known, session.find? call.1 = some known ∧ known.arity = call.2) ∨ excused name call.1

/-- A unit whose only body is that of a word recorded with its arity, with sanctioned calls. -/
structure Honours (session : Session) (excused : String → String → Prop) (unit : CodeUnit)
    (name : String) (prototype : Prototype) (body : Node) (code : Code) : Prop where
  bears : unit.Bears name prototype body code
  word : IsWord name
  spelled : body.Spelled
  recorded : ∃ known, session.find? name = some known ∧ known.arity = prototype.arity
  calls : code.calls = body.calls
  reads : code.ReadsBelow prototype.arity
  sanctioned (call : String × Nat) (member : call ∈ body.calls) :
    Sanctioned session excused name call

/-- The evaluator as it is between the steps of a dialogue. -/
structure Settled (session : Session) (excused : String → String → Prop) (evaluator : Evaluator) :
    Prop where
  opened : Open session evaluator
  earlier : evaluator.Earlier
  live (unit : CodeUnit) (member : unit ∈ evaluator.live) :
    ∃ name prototype body code, Honours session excused unit name prototype body code
  unique (unit other : CodeUnit) (member : unit ∈ evaluator.live)
    (memberToo : other ∈ evaluator.live)
    (name : String) (defines : name ∈ unit.defined) (definesToo : name ∈ other.defined) :
    unit = other
  numbers : (evaluator.live.map (·.number)).Nodup
  defined (name : String) : name ∈ evaluator.defined ↔ ∃ unit ∈ evaluator.live, name ∈ unit.defined

namespace Settled

variable {session : Session} {excused : String → String → Prop} {evaluator : Evaluator}

/-- An evaluator that has taken nothing in is settled. -/
theorem initial (session : Session) (excused : String → String → Prop) :
    Settled session excused .initial := by
  refine ⟨⟨?_, ?_⟩, ?_, ?_, ?_, List.nodup_nil, ?_⟩
  · intro entry member
    cases member
  · intro name function known found
    cases found
  · intro unit member
    cases member
  · intro unit member
    cases member
  · intro unit other member
    cases member
  · intro name
    simp [Evaluator.initial]

/-- What counts as defined is a word. -/
theorem isWord_of_mem (settled : Settled session excused evaluator) {name : String}
    (member : name ∈ evaluator.defined) : IsWord name := by
  obtain ⟨unit, live, there⟩ := (settled.defined name).mp member
  obtain ⟨other, prototype, body, code, honours⟩ := settled.live unit live
  rw [honours.bears.defined, List.mem_singleton] at there
  exact there ▸ honours.word

/-- What is refused leaves the evaluator settled. -/
theorem leaves (settled : Settled session excused evaluator) {after : Evaluator}
    (leaves : Leaves session evaluator after) : Settled session excused after := by
  obtain ⟨same, number, opened⟩ := leaves
  refine ⟨opened, ?_, ?_, ?_, ?_, ?_⟩
  · intro unit member
    rw [number]
    rw [same] at member
    exact settled.earlier unit member
  · rw [same]
    exact settled.live
  · rw [same]
    exact settled.unique
  · rw [same]
    exact settled.numbers
  · rw [same]
    exact settled.defined

/-- More may be excused. -/
theorem weaken (settled : Settled session excused evaluator) {more : String → String → Prop}
    (implies : ∀ caller callee, excused caller callee → more caller callee) :
    Settled session more evaluator := by
  refine { settled with live := ?_ }
  intro unit member
  obtain ⟨name, prototype, body, code, honours⟩ := settled.live unit member
  refine ⟨name, prototype, body, code, { honours with sanctioned := ?_ }⟩
  intro call made
  exact (honours.sanctioned call made).imp id (implies name call.1)

/-- Live units go on honouring what is recorded when an accepted prototype is. -/
theorem honours_record {prototype header : Prototype} {unit : CodeUnit} {name : String}
    {body : Node} {code : Code} (honours : Honours session excused unit name header body code)
    (accepted : session.prototypeFault? prototype = none) :
    Honours (session.record prototype) excused unit name header body code := by
  refine { honours with
    recorded := Session.arity_record accepted honours.recorded
    sanctioned := ?_ }
  intro call made
  exact (honours.sanctioned call made).imp (Session.arity_record accepted) id

/-- Recording a prototype that the open unit holds keeps the open unit in line. -/
theorem open_record (opened : Open session evaluator) {prototype : Prototype}
    (holds : evaluator.Holds (prototype.name, prototype.arity)) :
    Open (session.record prototype) evaluator := by
  refine ⟨opened.bodyless, ?_⟩
  intro name function known found finds
  rw [Session.find?_record] at finds
  by_cases itself : prototype.name = name
  · subst itself
    rw [if_pos rfl] at finds
    cases finds
    obtain ⟨there, same, arity⟩ := holds
    rw [found] at same
    cases same
    exact arity
  · rw [if_neg itself] at finds
    exact opened.recorded name function known found finds

/-- A declaration that is accepted and recorded leaves the evaluator settled. -/
theorem declared (settled : Settled session excused evaluator) {prototype : Prototype}
    {handle : Handle} {after : Evaluator}
    (declares : declare session prototype evaluator = .ok handle after) :
    Settled (session.record prototype) excused after := by
  have spec := declare_ensures session prototype evaluator
  rw [Action.Ensures, declares] at spec
  obtain ⟨_, accepted, holds, shape⟩ := spec
  have opened : Open session after := by
    rcases shape with rfl | ⟨_, rfl⟩
    · exact settled.opened
    · exact settled.opened.put accepted
  have same : after = { evaluator with current := after.current } := by
    rcases shape with rfl | ⟨_, rfl⟩ <;> rfl
  have number : after.current.number = evaluator.current.number := by
    rcases shape with rfl | ⟨_, rfl⟩ <;> rfl
  have kept := settled.leaves ⟨same, number, opened⟩
  refine { kept with opened := open_record opened holds, live := ?_ }
  intro unit member
  obtain ⟨name, header, body, code, honours⟩ := kept.live unit member
  exact ⟨name, header, body, code, honours_record honours accepted⟩

end Settled

/-! ## Handing off -/

/-- The evaluator after its open unit is handed off. -/
def closed (evaluator : Evaluator) : Evaluator :=
  { evaluator with
    current := .opened (evaluator.current.number + 1)
    live := evaluator.live ++ [evaluator.current] }

/-- Handing off never fails and gives the number of the open unit. -/
theorem handOff_eq (evaluator : Evaluator) :
    handOff evaluator = .ok evaluator.current.number evaluator.closed := rfl

/-- The newest definition is that of the unit handed off last. -/
theorem definition?_closed {evaluator : Evaluator} {name : String} {prototype : Prototype}
    {body : Node} {code : Code} (bears : evaluator.current.Bears name prototype body code)
    (other : String) :
    evaluator.closed.definition? other =
      if other = name then some (prototype.arity, code) else evaluator.definition? other := by
  have newest : evaluator.closed.definition? other =
      (evaluator.current.code? other).or (evaluator.definition? other) := by
    simp only [definition?, closed, List.reverse_append, List.reverse_singleton,
      List.singleton_append, List.findSome?_cons]
    cases evaluator.current.code? other <;> rfl
  rw [newest]
  by_cases same : other = name
  · rw [if_pos same, same, bears.code?_self]
    rfl
  · rw [if_neg same, bears.code?_other same]
    rfl

/-- A unit that was just opened is open. -/
theorem open_opened (session : Session) {evaluator : Evaluator} {number : Nat}
    (opened : evaluator.current = .opened number) : Open session evaluator := by
  constructor
  · intro entry member
    rw [opened] at member
    cases member
  · intro name function known found
    rw [opened] at found
    cases found

/-- The new open unit has a larger number than the one that has been closed. -/
theorem Earlier.closed {evaluator : Evaluator} (earlier : evaluator.Earlier) :
    evaluator.closed.Earlier := by
  intro unit member
  have older : unit = evaluator.current ∨ unit ∈ evaluator.live ++ evaluator.released := by
    simp only [Evaluator.closed, List.mem_append, List.mem_singleton] at member ⊢
    rcases member with (live | itself) | released
    · exact .inr (.inl live)
    · exact .inl itself
    · exact .inr (.inr released)
  change unit.number < evaluator.current.number + 1
  rcases older with rfl | before
  · omega
  · have less := earlier unit before
    omega

/-- A live unit that is released goes, and its names do not count as defined any more. -/
theorem release_eq {number : Nat} {evaluator : Evaluator} {unit : CodeUnit}
    (found : evaluator.live.find? (·.number = number) = some unit) :
    release number evaluator = .ok () { evaluator with
      live := evaluator.live.filter (·.number ≠ number)
      released := evaluator.released ++ [unit]
      defined := evaluator.defined.without unit.defined } := by
  unfold release
  apply (Action.get_bind ..).trans
  rw [found]
  rfl

namespace Settled

variable {session : Session} {excused : String → String → Prop} {evaluator compiled : Evaluator}
  {function : Definition} {handle : Handle}

/-- No live unit has the number of the open one. -/
theorem number_ne (settled : Settled session excused evaluator) {unit : CodeUnit}
    (member : unit ∈ evaluator.live) : unit.number ≠ evaluator.current.number := by
  have less := settled.earlier unit (List.mem_append_left _ member)
  omega

/-- The numbers of live units stay distinct. -/
theorem numbers_closed (settled : Settled session excused evaluator)
    (defines : Defines session function evaluator handle compiled) :
    (compiled.closed.live.map (·.number)).Nodup := by
  rw [closed, defines.same]
  simp only [List.map_append, List.map_cons, List.map_nil]
  refine List.nodup_append.mpr ⟨settled.numbers, by simp, ?_⟩
  intro number member other last
  obtain ⟨unit, live, rfl⟩ := List.mem_map.mp member
  rw [List.mem_singleton.mp last, defines.number]
  exact settled.number_ne live

/-- A definition that is handed off and recorded leaves the evaluator settled, if its calls of
declarations left over are excused. -/
theorem defined_closed (settled : Settled session excused evaluator)
    (word : IsWord function.prototype.name) (spelled : function.body.Spelled)
    (defines : Defines session function evaluator handle compiled)
    (excuses : ∀ callee there, IsWord callee → session.find? callee = none →
      callee ≠ function.prototype.name → evaluator.current.functions.get? callee = some there →
      excused function.prototype.name callee) :
    Settled (session.record function.prototype) excused compiled.closed := by
  obtain ⟨declared, code, bears, arity, calls, reads⟩ := defines.bears
  have live : compiled.live = evaluator.live := by rw [defines.same]
  have fresh : function.prototype.name ∉ evaluator.defined := fun member =>
    word.ne_anonymousName (defines.new member)
  have recorded := Session.find?_record_self session function.prototype
  have earlier : compiled.Earlier := by
    intro unit member
    rw [defines.number]
    rw [defines.same] at member
    exact settled.earlier unit member
  have newest : Honours (session.record function.prototype) excused compiled.current
      function.prototype.name declared function.body code := by
    refine ⟨bears, word, spelled, ⟨_, recorded, arity.symm⟩, calls, reads, ?_⟩
    intro call member
    cases defines.accounted call member with
    | recorded finds same =>
      exact .inl (Session.arity_record defines.accepted ⟨_, finds, same⟩)
    | itself => exact .inl ⟨_, recorded, rfl⟩
    | leftOver unrecorded other found =>
      exact .inr (excuses _ _ (spelled.word_of_mem_calls member) unrecorded other found)
  have apart (unit : CodeUnit) (member : unit ∈ evaluator.live) :
      function.prototype.name ∉ unit.defined := fun there =>
    fresh ((settled.defined _).mpr ⟨unit, member, there⟩)
  have among (unit : CodeUnit) : unit ∈ compiled.closed.live ↔
      unit ∈ evaluator.live ∨ unit = compiled.current := by
    simp [closed, live]
  refine ⟨open_opened _ rfl, earlier.closed, ?_, ?_, settled.numbers_closed defines, ?_⟩
  · intro unit member
    rcases (among unit).mp member with older | rfl
    · obtain ⟨name, header, body, code, honours⟩ := settled.live unit older
      exact ⟨name, header, body, code, honours_record honours defines.accepted⟩
    · exact ⟨_, _, _, _, newest⟩
  · intro unit other member memberToo name names namesToo
    rcases (among unit).mp member with older | rfl
    · rcases (among other).mp memberToo with olderToo | rfl
      · exact settled.unique unit other older olderToo name names namesToo
      · rw [bears.defined, List.mem_singleton] at namesToo
        exact (apart unit older (namesToo ▸ names)).elim
    · rcases (among other).mp memberToo with olderToo | rfl
      · rw [bears.defined, List.mem_singleton] at names
        exact (apart other olderToo (names ▸ namesToo)).elim
      · rfl
  · intro name
    have names : compiled.closed.defined = evaluator.defined.insert function.prototype.name := by
      rw [closed, defines.same]
    rw [names, NameSet.mem_insert, settled.defined]
    constructor
    · rintro (⟨unit, member, there⟩ | rfl)
      · exact ⟨unit, (among unit).mpr (.inl member), there⟩
      · exact ⟨compiled.current, (among _).mpr (.inr rfl), by simp [bears.defined]⟩
    · rintro ⟨unit, member, there⟩
      rcases (among unit).mp member with older | rfl
      · exact .inl ⟨unit, older, there⟩
      · exact .inr (by simpa [bears.defined] using there)

/-- The definitions that calls find are the bodies of the live units. -/
theorem definition?_eq_some_iff (settled : Settled session excused evaluator) {name : String}
    {arity : Nat} {code : Code} :
    evaluator.definition? name = some (arity, code) ↔
      ∃ unit ∈ evaluator.live, ∃ prototype body,
        unit.Bears name prototype body code ∧ prototype.arity = arity := by
  have held (unit : CodeUnit) (member : unit ∈ evaluator.live) (found : Nat × Code)
      (finds : unit.code? name = some found) : ∃ prototype body,
        unit.Bears name prototype body found.2 ∧ prototype.arity = found.1 := by
    obtain ⟨other, prototype, body, code, honours⟩ := settled.live unit member
    obtain ⟨rfl, rfl⟩ := honours.bears.code?_eq_some_iff.mp finds
    exact ⟨prototype, body, honours.bears, rfl⟩
  constructor
  · intro found
    obtain ⟨unit, member, finds⟩ := List.exists_of_findSome?_eq_some found
    exact ⟨unit, List.mem_reverse.mp member, held unit (List.mem_reverse.mp member) _ finds⟩
  · rintro ⟨unit, member, prototype, body, bears, rfl⟩
    cases found : evaluator.definition? name with
    | none =>
      have missing := List.findSome?_eq_none_iff.mp found unit (List.mem_reverse.mpr member)
      rw [bears.code?_self] at missing
      cases missing
    | some other =>
      obtain ⟨rival, memberToo, finds⟩ := List.exists_of_findSome?_eq_some found
      obtain ⟨header, content, bearsToo, arity⟩ :=
        held rival (List.mem_reverse.mp memberToo) _ finds
      obtain rfl := settled.unique unit rival member (List.mem_reverse.mp memberToo) name
        (by simp [bears.defined]) (by simp [bearsToo.defined])
      rw [bears.code?_self] at finds
      exact finds.symm

/-- What calls find is the only body of a live unit that honours what is recorded. -/
theorem honours_of_definition? (settled : Settled session excused evaluator) {name : String}
    {arity : Nat} {code : Code} (found : evaluator.definition? name = some (arity, code)) :
    ∃ unit ∈ evaluator.live, ∃ prototype body,
      Honours session excused unit name prototype body code ∧ prototype.arity = arity := by
  obtain ⟨unit, member, prototype, body, bears, rfl⟩ := settled.definition?_eq_some_iff.mp found
  obtain ⟨other, header, content, inner, honours⟩ := settled.live unit member
  obtain ⟨rfl, same⟩ := honours.bears.code?_eq_some_iff.mp bears.code?_self
  obtain ⟨sameArity, rfl⟩ := Prod.mk.inj same
  exact ⟨unit, member, header, content, honours, sameArity.symm⟩

/-- Live code of a settled evaluator reads no argument that its function does not have. -/
theorem readsArguments (settled : Settled session excused evaluator) :
    evaluator.ReadsArguments := by
  intro name arity code found
  obtain ⟨unit, _, prototype, body, honours, rfl⟩ := settled.honours_of_definition? found
  exact honours.reads

/-- What calls find is defined by a word, and calls words. -/
theorem words (settled : Settled session excused evaluator) {name : String} {arity : Nat}
    {code : Code} (found : evaluator.definition? name = some (arity, code)) :
    IsWord name ∧ ∀ call ∈ code.calls, IsWord call.1 := by
  obtain ⟨unit, _, prototype, body, honours, _⟩ := settled.honours_of_definition? found
  refine ⟨honours.word, ?_⟩
  intro call member
  rw [honours.calls] at member
  exact honours.spelled.word_of_mem_calls member

/-- A live definition is recorded with the number of its parameters. -/
theorem recorded_of_definition? (settled : Settled session excused evaluator) {name : String}
    {arity : Nat} {code : Code} (found : evaluator.definition? name = some (arity, code)) :
    ∃ known, session.find? name = some known ∧ known.arity = arity := by
  obtain ⟨unit, _, prototype, body, honours, rfl⟩ := settled.honours_of_definition? found
  exact honours.recorded

/-- A sanctioned call of a live definition has as many arguments as that has parameters, unless it
is excused. -/
theorem fits_of_sanctioned (settled : Settled session excused evaluator) {name : String}
    {call : String × Nat} (sanctioned : Sanctioned session excused name call) {arity : Nat}
    {code : Code} (found : evaluator.definition? call.1 = some (arity, code)) :
    arity = call.2 ∨ excused name call.1 := by
  refine sanctioned.imp ?_ id
  rintro ⟨known, finds, same⟩
  obtain ⟨knownToo, findsToo, sameToo⟩ := settled.recorded_of_definition? found
  rw [finds] at findsToo
  cases findsToo
  exact sameToo.symm.trans same

/-- A call in live code fits the live definition of its callee, unless it is excused. -/
theorem fits (settled : Settled session excused evaluator) {name : String} {arity : Nat}
    {code : Code} (live : evaluator.definition? name = some (arity, code)) {call : String × Nat}
    (member : call ∈ code.calls) {expected : Nat} {inner : Code}
    (found : evaluator.definition? call.1 = some (expected, inner)) :
    expected = call.2 ∨ excused name call.1 := by
  obtain ⟨unit, _, prototype, body, honours, _⟩ := settled.honours_of_definition? live
  rw [honours.calls] at member
  exact settled.fits_of_sanctioned (honours.sanctioned call member) found

/-- A call in a function that was just compiled fits every live definition of another word. -/
theorem fits_of_accounted (settled : Settled session excused evaluator) {prototype : Prototype}
    {call : String × Nat} (accounted : Accounted session evaluator prototype call)
    (other : call.1 ≠ prototype.name) {arity : Nat} {code : Code}
    (found : evaluator.definition? call.1 = some (arity, code)) : arity = call.2 := by
  obtain ⟨known, recorded, same⟩ := settled.recorded_of_definition? found
  cases accounted with
  | recorded finds arity =>
    rw [finds] at recorded
    cases recorded
    exact same.symm.trans arity
  | itself => exact (other rfl).elim
  | leftOver unrecorded =>
    rw [unrecorded] at recorded
    cases recorded

end Settled

end Evaluator

end Reckon
