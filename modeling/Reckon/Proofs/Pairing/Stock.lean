import Reckon.Proofs.Dialogue.Events
import Reckon.Proofs.Generator.Stock
import Reckon.Proofs.Pairing.Expressions

/-!
# The generator does in order what a step asks of it

Calling a function may materialize pending units, but no unit comes in or goes out by it,
and giving a unit up takes that one out and no other. So a generator that an evaluator
would be coupled with, were its units not refused, does in order what a step of a
dialogue asks of it, whether its units are refused or not.
-/

namespace Reckon

namespace Linker

open Instruction

/-- Materializing brings no unit in and takes none out. -/
theorem shelved_materialize (platform : Platform) {linker : Linker}
    (distinct : (linker.units.map (·.number)).Nodup) :
    ((linker.materialize platform).2.units.map CompiledUnit.shelved).Perm
      (linker.units.map CompiledUnit.shelved) := by
  have shelved : CompiledUnit.shelved ∘ handedOff = CompiledUnit.shelved := rfl
  rw [units, List.map_append] at distinct
  have perm := (handedOff_materialize platform (List.nodup_append.mp distinct).1).map
    CompiledUnit.shelved
  rw [List.map_map, List.map_map, shelved] at perm
  exact perm

/-- Calling a function brings no unit in and takes none out. -/
theorem shelved_call {platform : Platform} {holds : String → Nat → Code → Prop} {next : Nat}
    {linker after : Linker} (linking : Linking platform holds next linker) {name : String}
    {arguments : List Float}
    (called : (∃ value, call platform name arguments linker = .ok value after) ∨
      ∃ fault, call platform name arguments linker = .error fault after) :
    (after.units.map CompiledUnit.shelved).Perm (linker.units.map CompiledUnit.shelved) := by
  obtain ⟨outcome, names, comes, _⟩ := call_comes linking.materialize.imaged name arguments
  obtain rfl : after = (linker.materialize platform).2.withHostSymbols names := by
    unfold Action.Comes at comes
    rcases called with ⟨value, done⟩ | ⟨fault, failed⟩
    · rw [done] at comes
      cases outcome <;> cases comes
      rfl
    · rw [failed] at comes
      cases outcome <;> cases comes
      rfl
  exact shelved_materialize platform linking.numbers

/-- Giving a unit up takes out the unit of the number and no other. -/
theorem units_release {number : Nat} {linker after : Linker} {names : NameSet}
    (distinct : (linker.units.map (·.number)).Nodup)
    (released : release number linker = .ok names after) :
    after.units = linker.units.filter (·.number ≠ number) := by
  rw [units, List.map_append] at distinct
  obtain ⟨_, _, apart⟩ := List.nodup_append.mp distinct
  unfold release at released
  rw [Action.get_bind] at released
  cases found : linker.materialized.find? (·.number = number) with
  | some unit =>
    rw [found] at released
    cases released
    have member := List.mem_of_find?_eq_some found
    have numbered : unit.number = number := by simpa using List.find?_some found
    have kept : linker.pending.filter (·.number ≠ number) = linker.pending := by
      apply List.filter_eq_self.mpr
      intro other pending
      refine decide_eq_true fun same => ?_
      exact apart _ (List.mem_map_of_mem pending) _ (List.mem_map_of_mem member)
        (same.trans numbered.symm)
    rw [units, units, List.filter_append, kept]
  | none =>
    have kept : linker.materialized.filter (·.number ≠ number) = linker.materialized := by
      apply List.filter_eq_self.mpr
      intro other member
      have missed := List.find?_eq_none.mp found other member
      simpa using missed
    rw [found] at released
    cases waiting : linker.pending.find? (·.number = number) with
    | some unit =>
      simp only [waiting] at released
      cases released
      rw [units, units, List.filter_append, kept]
    | none =>
      simp only [waiting] at released
      cases released

/-- The units with another number than one that was just added are the older ones. -/
theorem units_add_filter {linker : Linker} {unit : CompiledUnit} {number : Nat}
    (itself : unit.number = number) (others : ∀ other ∈ linker.units, other.number ≠ number) :
    (linker.add unit).units.filter (·.number ≠ number) = linker.units := by
  have kept (units : List CompiledUnit) (among : units ⊆ linker.units) :
      units.filter (·.number ≠ number) = units :=
    List.filter_eq_self.mpr fun other member => decide_eq_true (others other (among member))
  have pending := kept linker.pending (List.subset_append_left ..)
  have materialized := kept linker.materialized (List.subset_append_right ..)
  have taken : [unit].filter (·.number ≠ number) = [] := by simp [itself]
  rw [units, units, Linker.add, List.filter_append, List.filter_append, pending, materialized,
    taken, List.append_nil]

/-- Choosing units by their numbers and looking at them may change places. -/
theorem shelved_filter (number : Nat) (units : List CompiledUnit) :
    (units.filter (·.number ≠ number)).map CompiledUnit.shelved =
      (units.map CompiledUnit.shelved).filter (·.number ≠ number) := by
  rw [List.filter_map]
  rfl

end Linker

namespace Generator

open Reckon.Action Instruction

variable {session : Session} {excused : String → String → Prop} {platform : Platform}
  {evaluator : Evaluator} {generator after : Generator}

/-- A module that matches a unit without bodies has none, from outside. -/
theorem bodyless_shelved {unit : Evaluator.CodeUnit}
    (matched : Matched unit generator.current) : (Stocked.opened generator).Bodyless := by
  intro function member
  obtain ⟨routine, among, rfl⟩ := List.mem_map.mp member
  obtain ⟨entry, there, rfl⟩ := List.mem_map.mp among
  change entry.2.block.map _ = none
  rw [matched.blockless entry there]
  rfl

/-- What is refused has only added declarations to the open module. -/
theorem Differs.unshaken {unit : Evaluator.CodeUnit} (differs : Differs generator after)
    (matched : Matched unit after.current) (longer : generator.outline <+: after.outline) :
    Unshaken generator after := by
  constructor
  case defined =>
    rw [differs.same]
    rfl
  case stock =>
    rw [differs.same]
    exact .refl _
  case opened => exact .inr ⟨differs.number, longer, bodyless_shelved matched⟩

/-- A unit that is refused leaves nothing behind. -/
theorem handOff_error {reason : String} (refused : generator.refusal = some reason) :
    handOff generator = .error
      (.compile (.rejectedUnit (unitName generator.current.number) reason) none)
      { generator with
        current := .opened (generator.current.number + 1)
        closed := generator.closed ++ [generator.current]
        defined := generator.defined.without generator.current.defined } := by
  have stops : generator.refusalOf? generator.current = some reason := by
    simp [refusalOf?, refused]
  unfold handOff
  apply (get_bind ..).trans
  simp only [stops]
  rfl

/-- A module that is handed off was not refused, and is in the linker then. -/
theorem Rendered.delivered_of_handOff {name : String} {body : Node} {unit : Evaluator.CodeUnit}
    (rendered : Rendered name body unit generator after) {closed : Generator} {number : Nat}
    (handsOff : handOff after = .ok number closed) :
    generator.refusal = none ∧ number = after.current.number ∧ closed = after.delivered := by
  cases refused : generator.refusal with
  | none =>
    rw [handOff_ok rendered refused] at handsOff
    cases handsOff
    exact ⟨rfl, rfl, rfl⟩
  | some reason =>
    have refusal : after.refusal = some reason := by rw [rendered.same, ← refused]
    rw [handOff_error refusal] at handsOff
    cases handsOff

/-- The only function of a module that was written out. -/
theorem Rendered.defined_current {name : String} {body : Node} {unit : Evaluator.CodeUnit}
    (rendered : Rendered name body unit generator after) :
    after.current.defined = [generator.current.symbol name] := by
  obtain ⟨routine, declared, code, only, _, symbol, _⟩ := rendered.routine
  rw [Module.defined, Catalog.values, List.filter_map]
  change (((after.current.routines.entries.filter fun entry => entry.2.block.isSome).map
    Prod.snd).map _) = _
  rw [only]
  exact congrArg ([·]) symbol

/-- The one routine with a block is the one body that is seen from outside. -/
theorem Rendered.bodies_shelved {name : String} {body : Node} {unit : Evaluator.CodeUnit}
    {prototype : Prototype} {code : Code} (rendered : Rendered name body unit generator after)
    (bears : unit.Bears name prototype body code) (number level : Nat) :
    ∃ content, (CompiledUnit.ofRoutines number level after.current.routines.values).shelved.bodies =
      [⟨generator.current.symbol name, prototype.arity, some content⟩] := by
  obtain ⟨routine, declared, other, only, _, symbol, found, renders⟩ := rendered.routine
  rw [bears.found] at found
  cases found
  obtain ⟨block, _, _, held, _⟩ := renders.block
  have complete : after.current.routines.values.filter (·.block.isSome) = [routine] := by
    rw [Catalog.values, List.filter_map]
    exact congrArg (List.map Prod.snd) only
  refine ⟨(routine.parameters, block), ?_⟩
  simp [Shelved.bodies, CompiledUnit.shelved, CompiledUnit.ofRoutines, complete, Routine.held, held,
    symbol, Routine.arity, renders.parameters]

/-- What is executed leaves everything but the linker alone, and the units in that. -/
theorem execute_shelved {holds : String → Nat → Code → Prop} {next : Nat} {handle : Handle}
    {arguments : List Float} (linking : Linker.Linking platform holds next generator.linker)
    (executes : (∃ value, execute platform handle arguments generator = .ok value after) ∨
      ∃ fault, execute platform handle arguments generator = .error fault after) :
    after = { generator with linker := after.linker } ∧
      (after.linker.units.map CompiledUnit.shelved).Perm
        (generator.linker.units.map CompiledUnit.shelved) := by
  by_cases given : arguments.length = generator.arityOf handle
  · have whole : execute platform handle arguments generator =
        Generator.linking (Linker.call platform handle.symbol arguments) generator := by
      unfold execute
      apply (get_bind ..).trans
      rw [if_pos given]
    cases called : Linker.call platform handle.symbol arguments generator.linker with
    | ok value linker =>
      rw [whole, Generator.linking, called] at executes
      obtain rfl : { generator with linker } = after := by
        rcases executes with ⟨_, same⟩ | ⟨_, same⟩ <;> cases same
        rfl
      exact ⟨rfl, Linker.shelved_call linking (.inl ⟨value, called⟩)⟩
    | error fault linker =>
      rw [whole, Generator.linking, called] at executes
      obtain rfl : { generator with linker } = after := by
        rcases executes with ⟨_, same⟩ | ⟨_, same⟩ <;> cases same
        rfl
      exact ⟨rfl, Linker.shelved_call linking (.inr ⟨fault, called⟩)⟩
  · have whole : execute platform handle arguments generator =
        .error (.compile (.arityMismatch handle.symbol (generator.arityOf handle)
          arguments.length) none) generator := by
      unfold execute
      apply (get_bind ..).trans
      rw [if_neg given]
      rfl
    rw [whole] at executes
    obtain rfl : generator = after := by
      rcases executes with ⟨_, same⟩ | ⟨_, same⟩ <;> cases same
      rfl
    exact ⟨rfl, .refl _⟩

/-- Giving a unit up takes it out of the linker and leaves the open module alone. -/
theorem release_shelved {number : Nat}
    (distinct : (generator.linker.units.map (·.number)).Nodup)
    (released : release number generator = .ok () after) :
    after.current = generator.current ∧
      after.linker.units = generator.linker.units.filter (·.number ≠ number) := by
  unfold release at released
  cases given : Linker.release number generator.linker with
  | ok names linker =>
    have done : linking (Linker.release number) generator =
        .ok names { generator with linker } := by
      rw [Generator.linking, given]
    rw [bind_ok done] at released
    cases released
    exact ⟨rfl, Linker.units_release distinct given⟩
  | error fault linker =>
    have failed : linking (Linker.release number) generator =
        .error fault { generator with linker } := by
      rw [Generator.linking, given]
    rw [bind_error failed] at released
    cases released

end Generator

/-- The evaluator would be coupled with the generator if units of that were not refused. -/
def Shadowed (session : Session) (excused : String → String → Prop) (platform : Platform)
    (evaluator : Evaluator) (generator : Generator) : Prop :=
  Coupled session excused platform evaluator { generator with refusal := none }

namespace Shadowed

open Reckon.Action

variable {session : Session} {excused : String → String → Prop} {platform : Platform}
  {evaluator : Evaluator} {generator : Generator}

/-- A function is declared on both sides, or refused on both. -/
theorem declare (shadowed : Shadowed session excused platform evaluator generator)
    {prototype : Prototype} (word : IsWord prototype.name) :
    (∃ handle after handleToo afterToo,
      Evaluator.declare session prototype evaluator = .ok handle after ∧
      Generator.declare session prototype generator = .ok handleToo afterToo ∧
      session.prototypeFault? prototype = none ∧ Evaluator.Leaves session evaluator after ∧
      Matched after.current afterToo.current ∧ Generator.Differs generator afterToo) ∨
    ∃ error location,
      Generator.declare session prototype generator =
        .error (.compile error location) generator := by
  have matched : Matched evaluator.current generator.current := shadowed.matched
  have agrees := Generator.declare_agrees session prototype matched (.inl word)
  rcases agrees.ends (Evaluator.declare_ensures session prototype evaluator) with
    ⟨handle, after, handleToo, afterToo, reached, reachedToo, ⟨_, matched, differs⟩, spec⟩ |
    ⟨fault, after, afterToo, _, reachedToo, ⟨rfl, rfl⟩, _, error, location, rfl⟩
  · obtain ⟨_, accepted, _, shape⟩ := spec
    refine .inl ⟨handle, after, handleToo, afterToo, reached, reachedToo, accepted, ?_, matched,
      differs⟩
    rcases shape with rfl | ⟨_, rfl⟩
    · exact ⟨rfl, rfl, shadowed.settled.opened⟩
    · exact ⟨rfl, rfl, shadowed.settled.opened.put accepted⟩
  · exact .inr ⟨error, location, reachedToo⟩

/-- A function compiles on both sides, or is refused on both. -/
theorem define (shadowed : Shadowed session excused platform evaluator generator)
    {function : Definition} (nameable : Nameable function.prototype.name)
    (spelled : function.body.Spelled) :
    (∃ handle compiled compiledToo,
      Reckon.define session function evaluator = .ok handle compiled ∧
      Reckon.define session function generator = .ok ⟨generator.current.number,
        generator.current.symbol function.prototype.name⟩ compiledToo ∧
      Evaluator.Defines session function evaluator handle compiled ∧
      Generator.Rendered function.prototype.name function.body compiled.current generator
        compiledToo) ∨
    ∃ error location after afterToo,
      Reckon.define session function generator = .error (.compile error location) afterToo ∧
      Evaluator.Leaves session evaluator after ∧ Matched after.current afterToo.current ∧
      Generator.Differs generator afterToo := by
  have matched : Matched evaluator.current generator.current := shadowed.matched
  have agrees := Generator.define_agrees shadowed.keyed nameable spelled matched
    shadowed.settled.opened shadowed.settled.earlier shadowed.earlier shadowed.defined
    fun other member => shadowed.settled.isWord_of_mem member
  have ensures := Evaluator.define_ensures shadowed.keyed shadowed.settled.opened
    shadowed.settled.earlier function
  rcases agrees.ends ensures with
    ⟨handle, compiled, handleToo, compiledToo, reached, reachedToo, ⟨rfl, rendered⟩, defines⟩ |
    ⟨fault, after, afterToo, reached, reachedToo, ⟨matched, differs⟩, leaves, compiles⟩
  · exact .inl ⟨handle, compiled, compiledToo, reached, reachedToo, defines, rendered⟩
  · obtain ⟨error, location, rfl⟩ := compiles spelled
    exact .inr ⟨error, location, after, afterToo, reachedToo, leaves, matched, differs⟩

/-- What was just defined is taken away again with its module. -/
theorem without_defined (shadowed : Shadowed session excused platform evaluator generator)
    {function : Definition} {handle : Handle} {compiled : Evaluator} {compiledToo : Generator}
    (nameable : Nameable function.prototype.name)
    (defines : Evaluator.Defines session function evaluator handle compiled)
    (rendered : Generator.Rendered function.prototype.name function.body compiled.current generator
      compiledToo) :
    compiledToo.defined.without compiledToo.current.defined = generator.defined := by
  rw [rendered.defined_current, rendered.same]
  apply NameSet.without_insert
  have same : generator.defined = evaluator.defined := shadowed.defined
  rw [same]
  intro member
  rcases nameable with word | anonymous
  · rw [Module.symbol_of_isWord _ word] at member
    exact word.ne_anonymousName (defines.new member)
  · rw [anonymous, Module.symbol_anonymous] at member
    exact (shadowed.settled.isWord_of_mem member).ne_of_anonymous_append _ rfl

/-- A definition whose unit is accepted is a new unit of the stock. -/
theorem grown (shadowed : Shadowed session excused platform evaluator generator)
    {function : Definition} {handle : Handle} {compiled : Evaluator} {compiledToo : Generator}
    (word : IsWord function.prototype.name)
    (defines : Evaluator.Defines session function evaluator handle compiled)
    (rendered : Generator.Rendered function.prototype.name function.body compiled.current generator
      compiledToo) : Grown function.prototype generator compiledToo.delivered := by
  obtain ⟨declared, code, bears, arity, _⟩ := defines.bears
  obtain ⟨content, bodies⟩ :=
    rendered.bodies_shelved bears compiledToo.current.number compiledToo.level
  have same : generator.defined = evaluator.defined := shadowed.defined
  rw [Module.symbol_of_isWord _ word, arity] at bodies
  constructor
  case new =>
    intro member
    change _ ∈ generator.defined at member
    rw [same] at member
    exact word.ne_anonymousName (defines.new member)
  case defined =>
    change compiledToo.defined = _
    rw [rendered.same, Module.symbol_of_isWord _ word]
    rfl
  case stock =>
    refine ⟨_, content, bodies, ?_⟩
    rw [Generator.stock_eq, Generator.stock_eq, Generator.delivered, rendered.same]
    simp only [Linker.units, Linker.add, List.map_append, List.map_cons,
      List.append_assoc, List.singleton_append]
    exact List.perm_middle
  case opened => rfl

/-- A module that is refused leaves nothing but an empty one. -/
theorem rejected (shadowed : Shadowed session excused platform evaluator generator)
    {function : Definition} {handle : Handle} {compiled : Evaluator}
    {compiledToo closed : Generator} {fault : Fault}
    (nameable : Nameable function.prototype.name)
    (defines : Evaluator.Defines session function evaluator handle compiled)
    (rendered : Generator.Rendered function.prototype.name function.body compiled.current generator
      compiledToo)
    (rejects : Generator.handOff compiledToo = .error fault closed) :
    Unshaken generator closed := by
  have refusal : compiledToo.refusal = generator.refusal := by rw [rendered.same]
  have without := shadowed.without_defined nameable defines rendered
  cases refused : generator.refusal with
  | none =>
    rw [Generator.handOff_ok rendered refused] at rejects
    cases rejects
  | some reason =>
    rw [Generator.handOff_error (refusal.trans refused)] at rejects
    cases rejects
    constructor
    case defined => exact without
    case stock =>
      rw [Generator.stock_eq, Generator.stock_eq, rendered.same]
    case opened => exact .inl rfl

/-- A bare expression leaves no trace in the stock. -/
theorem evaluated (shadowed : Shadowed session excused platform evaluator generator)
    {body : Node} {handle : Handle} {compiled : Evaluator} {declared : Prototype} {code : Code}
    {compiledToo closed executed released : Generator} {number : Nat}
    (wraps : Evaluator.Wraps session excused evaluator body handle compiled declared code)
    (rendered : Generator.Rendered anonymousName body compiled.current generator compiledToo)
    (handsOff : Generator.handOff compiledToo = .ok number closed)
    (executes : (∃ value, Generator.execute platform
        ⟨generator.current.number, generator.current.symbol anonymousName⟩ [] closed =
          .ok value executed) ∨
      ∃ fault, Generator.execute platform
        ⟨generator.current.number, generator.current.symbol anonymousName⟩ [] closed =
          .error fault executed)
    (releases : Generator.release number executed = .ok () released) :
    Unshaken generator released := by
  obtain ⟨accepting, rfl, rfl⟩ := rendered.delivered_of_handOff handsOff
  have coupled : Coupled session excused platform evaluator generator := by
    have same : { generator with refusal := none } = generator := by rw [← accepting]
    rw [Shadowed, same] at shadowed
    exact shadowed
  obtain ⟨outcome, outcomeToo, left, executedToo, releasedToo, _, gives, comes, givesToo, after,
    _, _⟩ := coupled.expression wraps rendered
  obtain rfl : executed = executedToo := comes.eq_of_ends executes
  rw [releases] at givesToo
  cases givesToo
  rw [wraps.release_closed] at gives
  cases gives
  have linking := coupled.linking_delivered (.inr rfl) wraps.spelled wraps.defines rendered
    wraps.bears wraps.calls
  obtain ⟨same, units⟩ := Generator.execute_shelved linking executes
  have numbers : (executed.linker.units.map (·.number)).Nodup := by
    have perm := units.map (·.number)
    rw [List.map_map, List.map_map] at perm
    exact perm.symm.nodup linking.numbers
  obtain ⟨current, left⟩ := Generator.release_shelved numbers releases
  constructor
  case defined => exact after.defined.trans coupled.defined.symm
  case stock =>
    -- Only the unit of the expression has come in, and it is given up by its number.
    have added : compiledToo.delivered.linker = generator.linker.add (.ofRoutines
        compiledToo.current.number compiledToo.level compiledToo.current.routines.values) := by
      rw [Generator.delivered, rendered.same]
    have kept : compiledToo.delivered.linker.units.filter
        (·.number ≠ compiledToo.current.number) = generator.linker.units := by
      rw [added]
      refine Linker.units_add_filter ?_ ?_
      · rfl
      · intro other member
        have less := coupled.linking.earlier other member
        rw [← rendered.number] at less
        exact Nat.ne_of_lt less
    rw [Generator.stock_eq, Generator.stock_eq, left, Linker.shelved_filter, ← kept,
      Linker.shelved_filter]
    exact units.filter _
  case opened =>
    left
    rw [Emptied, Generator.opened_eq, current, same]
    rfl

/-- What the generator compiles, the evaluator compiles beside it. -/
theorem rendered_of_define (shadowed : Shadowed session excused platform evaluator generator)
    {function : Definition} {handle : Handle} {compiled : Generator}
    (nameable : Nameable function.prototype.name) (spelled : function.body.Spelled)
    (done : Reckon.define session function generator = .ok handle compiled) :
    handle = ⟨generator.current.number, generator.current.symbol function.prototype.name⟩ ∧
      ∃ handleToo compiledToo,
        Evaluator.Defines session function evaluator handleToo compiledToo ∧
        Generator.Rendered function.prototype.name function.body compiledToo.current generator
          compiled := by
  rcases shadowed.define nameable spelled with
    ⟨_, _, _, _, doneToo, defines, rendered⟩ | ⟨_, _, _, _, refuses, _⟩
  · rw [done] at doneToo
    cases doneToo
    exact ⟨rfl, _, _, defines, rendered⟩
  · rw [done] at refuses
    cases refuses

/-- What does not compile has only added declarations to the open module. -/
theorem unshaken_of_define (shadowed : Shadowed session excused platform evaluator generator)
    {function : Definition} {fault : Fault} {after : Generator}
    (nameable : Nameable function.prototype.name) (spelled : function.body.Spelled)
    (failed : Reckon.define session function generator = .error fault after) :
    Unshaken generator after := by
  have matched : Matched evaluator.current generator.current := shadowed.matched
  rcases shadowed.define nameable spelled with
    ⟨_, _, _, _, doneToo, _⟩ | ⟨error, location, _, _, refuses, _, matchedAfter, differs⟩
  · rw [failed] at doneToo
    cases doneToo
  · rw [failed] at refuses
    cases refuses
    have longer := Generator.define_longer matched nameable _ _ failed ⟨error, location, rfl⟩
    exact differs.unshaken matchedAfter longer

/-- **The generator does in order what a step asks of it**, whether its units are refused or not. -/
theorem orderly (shadowed : Shadowed session excused platform evaluator generator) :
    Orderly session platform generator := by
  have matched : Matched evaluator.current generator.current := shadowed.matched
  constructor
  case bodyless => exact Generator.bodyless_shelved matched
  case declares =>
    intro prototype handle after word done
    change Generator.declare session prototype generator = _ at done
    rcases shadowed.declare word with
      ⟨_, _, _, afterToo, _, reachedToo, accepted, _, matchedAfter, differs⟩ |
      ⟨error, location, refuses⟩
    · rw [done] at reachedToo
      cases reachedToo
      have longer := (Generator.declare_lengthens session prototype).of_ok done
      exact ⟨accepted, differs.unshaken matchedAfter (Generator.outline_prefix longer)⟩
    · rw [done] at refuses
      cases refuses
  case declarationRefused =>
    intro prototype fault after word failed
    change Generator.declare session prototype generator = _ at failed
    rcases shadowed.declare word with
      ⟨_, _, _, afterToo, _, reachedToo, _⟩ | ⟨error, location, refuses⟩
    · rw [failed] at reachedToo
      cases reachedToo
    · rw [failed] at refuses
      cases refuses
      exact .refl (Generator.bodyless_shelved matched)
  case defines =>
    intro function handle compiled closed number word spelled done handsOff
    obtain ⟨_, _, _, defines, rendered⟩ := shadowed.rendered_of_define (.inl word) spelled done
    obtain ⟨_, _, rfl⟩ := rendered.delivered_of_handOff handsOff
    exact ⟨defines.accepted, shadowed.grown word defines rendered⟩
  case refuses =>
    intro function fault after named spelled failed
    exact shadowed.unshaken_of_define named spelled failed
  case rejects =>
    intro function handle compiled closed fault named spelled done rejected
    obtain ⟨_, _, _, defines, rendered⟩ := shadowed.rendered_of_define named spelled done
    exact shadowed.rejected named defines rendered rejected
  case evaluates =>
    intro body handle compiled closed executed released number spelled done handsOff executes
      releases
    have unnamed : Nameable (Definition.anonymous body).prototype.name := .inr rfl
    obtain ⟨rfl, _, _, defines, rendered⟩ := shadowed.rendered_of_define unnamed spelled done
    obtain ⟨declared, code, wraps⟩ := shadowed.settled.wraps spelled defines
    exact shadowed.evaluated wraps rendered handsOff executes releases

end Shadowed

end Reckon
