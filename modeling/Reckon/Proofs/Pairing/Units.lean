import Reckon.Proofs.Pairing.Definition

/-!
# Units that were handed off

A unit that the generator hands off embodies one function: it defines the symbol of the
function alone, requires what the code of the function calls apart from itself, and its
block renders the code. How far the unit has come does not matter.
-/

namespace Reckon

open Instruction

/-- The unit holds one function, by its symbol, with the number of its parameters and its code. -/
structure Embodies (unit : CompiledUnit) (symbol : String) (arity : Nat) (code : Code) : Prop where
  defined : unit.defined = [symbol]
  required (name : String) :
    name ∈ unit.required ↔ name ≠ symbol ∧ ∃ given, (name, given) ∈ code.calls
  routine : ∃ routine, unit.routines = [routine] ∧ routine.symbol = symbol ∧
    Renders routine arity code

namespace Embodies

variable {unit : CompiledUnit} {symbol : String} {arity : Nat} {code : Code}

/-- How far a unit has come does not matter. -/
theorem withState (embodies : Embodies unit symbol arity code) (state : UnitState) :
    Embodies { unit with state } symbol arity code := ⟨embodies.1, embodies.2, embodies.3⟩

/-- The unit defines its symbol and nothing else. -/
theorem mem_defined_iff (embodies : Embodies unit symbol arity code) (name : String) :
    name ∈ unit.defined ↔ name = symbol := by
  rw [embodies.defined, List.mem_singleton]

/-- The block of the function is the one that renders its code. -/
theorem block? (embodies : Embodies unit symbol arity code) :
    ∃ routine block, unit.block? symbol = some (routine.parameters, block) ∧
      routine.block = some block ∧ Renders routine arity code := by
  obtain ⟨routine, only, named, renders⟩ := embodies.routine
  obtain ⟨block, _, _, held, _⟩ := renders.block
  refine ⟨routine, block, ?_, held, renders⟩
  simp [CompiledUnit.block?, only, named, held]

end Embodies

/-- A unit made of one routine with a block embodies the function of the routine. -/
theorem CompiledUnit.embodies_ofRoutines {routines : List Routine} {routine : Routine} {arity : Nat}
    {code : Code} (number level : Nat) (only : routines.filter (·.block.isSome) = [routine])
    (renders : Renders routine arity code) (words : ∀ call ∈ code.calls, IsWord call.1) :
    Embodies (.ofRoutines number level routines) routine.symbol arity code := by
  obtain ⟨block, _, _, held, _, calls, _⟩ := renders.block
  refine ⟨?_, ?_, routine, only, rfl, renders⟩
  · simp only [ofRoutines, only]
    rfl
  · intro name
    have callees : (block.callees : List String) = code.calls.map Prod.fst := by
      rw [Block.callees_eq, calls]
    simp only [ofRoutines, only, List.mem_filter, NameSet.mem_without, NameSet.mem_union,
      List.flatMap_cons, List.flatMap_nil, List.append_nil, held, Option.map_some, Option.getD_some,
      callees, List.mem_map, Prod.exists, exists_and_right, exists_eq_right, List.map_cons,
      List.map_nil, List.mem_singleton]
    constructor
    · rintro ⟨⟨absent | ⟨given, made⟩, differs⟩, _⟩
      · cases absent
      · exact ⟨fun same => differs (.inr same), given, made⟩
    · rintro ⟨differs, given, made⟩
      refine ⟨⟨.inr ⟨given, made⟩, ?_⟩, ?_⟩
      · rintro (absent | same)
        · cases absent
        · exact differs same
      · have word := words _ made
        simp [word.not_isIntrinsic]

namespace Generator

/-- The generator after its open module is handed off and accepted. -/
def delivered (generator : Generator) : Generator :=
  { generator with
    current := .opened (generator.current.number + 1)
    closed := generator.closed ++ [generator.current]
    linker := generator.linker.add (.ofRoutines generator.current.number generator.level
      generator.current.routines.values) }

/-- A module is complete if every block returns. -/
theorem incompleteLine?_eq_none_iff {routines : List Routine} {line : Nat} :
    incompleteLine? line routines = none ↔
      ∀ routine ∈ routines, ∀ block, routine.block = some block → block.returned ≠ none := by
  induction routines generalizing line with
  | nil => simp [incompleteLine?]
  | cons routine rest inductionHypothesis =>
    rw [incompleteLine?, List.forall_mem_cons]
    split
    case h_1 found => simp [found]
    case h_2 complete =>
      rw [inductionHypothesis, iff_and_self]
      rintro _ ⟨label, instructions, returned⟩ found rfl
      exact complete label instructions found

/-- A module whose blocks all return is delivered, unless all modules are refused. -/
theorem handOff_delivers {generator : Generator} (accepting : generator.refusal = none)
    (complete : ∀ routine ∈ generator.current.routines.values, ∀ block,
      routine.block = some block → block.returned ≠ none) :
    handOff generator = .ok generator.current.number generator.delivered := by
  have accepted : generator.refusalOf? generator.current = none := by
    simp [refusalOf?, accepting, incompleteLine?_eq_none_iff.mpr complete]
  unfold handOff
  apply (Action.get_bind ..).trans
  simp only [accepted]
  rfl

/-- A module with one complete routine is accepted, unless all modules are refused. -/
theorem handOff_ok {name : String} {body : Node} {unit : Evaluator.CodeUnit}
    {before after : Generator} (rendered : Rendered name body unit before after)
    (accepting : before.refusal = none) :
    handOff after = .ok after.current.number after.delivered := by
  obtain ⟨routine, declared, code, only, _, _, _, renders⟩ := rendered.routine
  obtain ⟨block, operand, _, held, returned, _⟩ := renders.block
  apply handOff_delivers
  · rw [rendered.same]
    exact accepting
  · intro other member content heldToo
    obtain ⟨entry, there, rfl⟩ := List.mem_map.mp member
    have among : entry ∈ after.current.routines.entries.filter
        (fun entry => entry.2.block.isSome) :=
      List.mem_filter.mpr ⟨there, by simp [heldToo]⟩
    rw [only, List.mem_singleton] at among
    subst among
    rw [held] at heldToo
    cases heldToo
    simp [returned]

/-- The unit that is handed off embodies the function. -/
theorem Rendered.embodies {name : String} {body : Node} {unit : Evaluator.CodeUnit}
    {before after : Generator} (rendered : Rendered name body unit before after)
    (spelled : body.Spelled) {prototype : Prototype} {code : Code}
    (bears : unit.Bears name prototype body code) (calls : code.calls = body.calls) :
    Embodies (.ofRoutines after.current.number after.level after.current.routines.values)
      (before.current.symbol name) prototype.arity code := by
  obtain ⟨routine, declared, other, only, _, symbol, found, renders⟩ := rendered.routine
  rw [bears.found] at found
  cases found
  rw [← symbol]
  refine CompiledUnit.embodies_ofRoutines _ _ ?_ renders ?_
  · rw [Catalog.values, List.filter_map]
    exact congrArg (List.map Prod.snd) only
  · intro call member
    rw [calls] at member
    exact spelled.word_of_mem_calls member

end Generator

end Reckon
