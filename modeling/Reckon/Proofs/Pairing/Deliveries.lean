import Reckon.Proofs.Evaluator.Requests
import Reckon.Proofs.Pairing.Twins

/-!
# What is handed off

A unit delivers the bodies of a unit of the evaluator if it was made of a twin of it. It
then defines the symbols of the functions with bodies, its blocks render their code, and it
requires what the bodies call and the unit does not define itself. Words have the same
symbol in every module, so a word tells nothing of the unit that defines it; the symbol of a
wrapped expression does.
-/

namespace Reckon

open Reckon.Action Instruction
open Evaluator (CodeUnit)

/-- The symbol of a function in the module of a number. -/
def symbolIn (number : Nat) (name : String) : String := (Module.opened number).symbol name

/-- The symbol of a function depends on the number of its module. -/
theorem Module.symbol_eq (module : Module) (name : String) :
    module.symbol name = symbolIn module.number name := rfl

/-- The symbol of a word is the word, whatever the module is. -/
theorem symbolIn_of_isWord (number : Nat) {name : String} (word : IsWord name) :
    symbolIn number name = name := Module.symbol_of_isWord _ word

/-- Symbols tell names apart, and the modules of wrapped expressions. -/
theorem symbolIn_inj {number other : Nat} {name nameToo : String} (nameable : Nameable name)
    (nameableToo : Nameable nameToo) (same : symbolIn number name = symbolIn other nameToo) :
    name = nameToo ∧ (IsWord name ∨ number = other) := by
  rcases nameable with word | rfl
  · rw [symbolIn_of_isWord number word] at same
    rcases nameableToo with wordToo | rfl
    · exact ⟨same.trans (symbolIn_of_isWord other wordToo), .inl word⟩
    · exact (word.ne_of_anonymous_append _ (same.trans (Module.symbol_anonymous _))).elim
  · rw [symbolIn, Module.symbol_anonymous] at same
    rcases nameableToo with wordToo | rfl
    · rw [symbolIn_of_isWord other wordToo] at same
      exact (wordToo.ne_of_anonymous_append _ same.symm).elim
    · rw [symbolIn, Module.symbol_anonymous] at same
      exact ⟨rfl, .inr (anonymousSymbol_inj same)⟩

/-- The unit that is made of the module. -/
def Module.handedOff (module : Module) (level : Nat) : CompiledUnit :=
  .ofRoutines module.number level module.routines.values

/-- The names of the functions with bodies are listed. -/
theorem Evaluator.CodeUnit.mem_defined_iff_carries {unit : CodeUnit}
    (once : unit.functions.keys.Nodup) (name : String) :
    name ∈ unit.defined ↔ ∃ arity body code, unit.Carries name arity body code := by
  rw [unit.mem_defined_iff]
  constructor
  · rintro ⟨⟨prototype, content⟩, member, held⟩
    have found := Catalog.get?_of_mem once member
    cases content with
    | none => cases held
    | some pair => exact ⟨prototype.arity, pair.1, pair.2, prototype, found, rfl⟩
  · rintro ⟨_, body, code, prototype, found, _⟩
    exact ⟨_, Catalog.mem_of_find? found, rfl⟩

/-- The compiled unit was made of a twin of the unit. -/
structure Delivers (unit : CodeUnit) (compiled : CompiledUnit) : Prop where
  number : compiled.number = unit.number
  once : unit.functions.keys.Nodup
  resolved (name : String) (arity : Nat) (body : Node) (code : Code)
    (carries : unit.Carries name arity body code) : Resolved name arity body code
  rendered (name : String) (arity : Nat) (body : Node) (code : Code)
    (carries : unit.Carries name arity body code) : ∃ routine block,
      compiled.block? (symbolIn unit.number name) = some (routine.parameters, block) ∧
      routine.block = some block ∧ Renders routine arity code
  defined (symbol : String) : symbol ∈ compiled.defined ↔
    ∃ name arity body code, unit.Carries name arity body code ∧ symbolIn unit.number name = symbol
  required (callee : String) : callee ∈ compiled.required ↔ callee ∉ compiled.defined ∧
    ∃ name arity body code given, unit.Carries name arity body code ∧ (callee, given) ∈ code.calls

/-- Both define the same words. -/
theorem Delivers.mem_defined_iff {unit : CodeUnit} {compiled : CompiledUnit}
    (delivers : Delivers unit compiled) {name : String} (word : IsWord name) :
    name ∈ compiled.defined ↔ name ∈ unit.defined := by
  rw [delivers.defined, CodeUnit.mem_defined_iff_carries delivers.once]
  constructor
  · rintro ⟨other, arity, body, code, carries, symbol⟩
    have nameable := (delivers.resolved other arity body code carries).nameable
    rw [← symbolIn_of_isWord unit.number word] at symbol
    obtain ⟨rfl, _⟩ := symbolIn_inj nameable (.inl word) symbol
    exact ⟨arity, body, code, carries⟩
  · rintro ⟨arity, body, code, carries⟩
    exact ⟨name, arity, body, code, carries, symbolIn_of_isWord _ word⟩

namespace Twin

variable {unit : CodeUnit} {module : Module}

/-- A routine with a block renders the code of a function of the unit. -/
theorem of_block (twin : Twin unit module) {routine : Routine}
    (member : routine ∈ module.routines.values) (held : routine.block ≠ none) :
    ∃ name arity body code, unit.Carries name arity body code ∧
      module.routines.get? (module.symbol name) = some routine ∧ Renders routine arity code := by
  obtain ⟨entry, there, rfl⟩ := List.mem_map.mp member
  have found := Catalog.get?_of_mem twin.alongside.filed.once there
  obtain ⟨name, nameable, own, arity, body, code, carries⟩ :=
    (twin.alongside.blocks entry there).resolve_left held
  obtain ⟨routine, foundToo, renders⟩ := (twin.rendition name arity body code carries).routine
  rw [own, found] at foundToo
  cases foundToo
  exact ⟨name, arity, body, code, carries, own ▸ found, renders⟩

/-- Every block returns. -/
theorem complete (twin : Twin unit module) (routine : Routine)
    (member : routine ∈ module.routines.values) (block : Block)
    (held : routine.block = some block) : block.returned ≠ none := by
  obtain ⟨_, _, _, _, _, _, renders⟩ := twin.of_block member (by simp [held])
  obtain ⟨same, operand, _, heldToo, returned, _⟩ := renders.block
  rw [held] at heldToo
  cases heldToo
  simp [returned]

/-- The blocks call what the bodies call. -/
theorem called_iff (twin : Twin unit module) (callee : String) :
    (∃ routine ∈ module.routines.values, routine.block.isSome = true ∧
      callee ∈ ((routine.block.map Block.callees).getD [] : List String)) ↔
    ∃ name arity body code given, unit.Carries name arity body code ∧
      (callee, given) ∈ code.calls := by
  constructor
  · rintro ⟨routine, member, held, made⟩
    obtain ⟨block, content⟩ := Option.isSome_iff_exists.mp held
    obtain ⟨name, arity, body, code, carries, _, renders⟩ :=
      twin.of_block member (by simp [content])
    obtain ⟨_, _, _, contentToo, _, calls, _⟩ := renders.block
    rw [content] at contentToo
    cases contentToo
    simp only [content, Option.map_some, Option.getD_some, Block.callees_eq, calls,
      List.mem_map, Prod.exists, exists_and_right, exists_eq_right] at made
    obtain ⟨given, made⟩ := made
    exact ⟨name, arity, body, code, given, carries, made⟩
  · rintro ⟨name, arity, body, code, given, carries, made⟩
    obtain ⟨routine, found, renders⟩ := (twin.rendition name arity body code carries).routine
    obtain ⟨block, _, _, held, _, calls, _⟩ := renders.block
    refine ⟨routine, List.mem_map_of_mem (Catalog.mem_of_find? found), by simp [held], ?_⟩
    simp only [held, Option.map_some, Option.getD_some, Block.callees_eq, calls]
    exact List.mem_map_of_mem made

/-- The unit that is made of a twin delivers the bodies. -/
theorem delivers (twin : Twin unit module) (level : Nat) :
    Delivers unit (module.handedOff level) := by
  have number := twin.alongside.number
  have filed := twin.alongside.filed
  have symbols (name : String) : symbolIn unit.number name = module.symbol name := by
    rw [module.symbol_eq, number]
  constructor
  case number => exact number.symm
  case once => exact twin.alongside.once
  case resolved =>
    exact fun name arity body code carries =>
      (twin.rendition name arity body code carries).toResolved
  case rendered =>
    intro name arity body code carries
    obtain ⟨routine, found, renders⟩ := (twin.rendition name arity body code carries).routine
    obtain ⟨block, _, _, held, _⟩ := renders.block
    refine ⟨routine, block, ?_, held, renders⟩
    rw [symbols]
    exact filed.block?_ofRoutines _ _ found held
  case defined =>
    intro symbol
    refine (filed.mem_defined_ofRoutines_iff _ _ symbol).trans ?_
    constructor
    · rintro ⟨block, blocked⟩
      obtain ⟨routine, member, rfl, held⟩ := filed.block?_eq_some_iff.mp blocked
      obtain ⟨name, arity, body, code, carries, found, _⟩ :=
        twin.of_block member (by simp [held])
      refine ⟨name, arity, body, code, carries, ?_⟩
      rw [symbols]
      exact (filed.own _ (Catalog.mem_of_find? found)).symm
    · rintro ⟨name, arity, body, code, carries, rfl⟩
      obtain ⟨routine, found, renders⟩ := (twin.rendition name arity body code carries).routine
      obtain ⟨block, _, _, held, _⟩ := renders.block
      refine ⟨block, ?_⟩
      rw [symbols, Module.block?, found, Option.bind_some, held]
  case required =>
    intro callee
    have called := twin.called_iff callee
    have ordinary (made : ∃ name arity body code given, unit.Carries name arity body code ∧
        (callee, given) ∈ code.calls) : isIntrinsic callee = false := by
      obtain ⟨name, arity, body, code, given, carries, made⟩ := made
      have rendition := twin.rendition name arity body code carries
      rw [rendition.calls] at made
      exact (rendition.spelled.word_of_mem_calls made).not_isIntrinsic
    rw [← called] at ordinary ⊢
    simp only [Module.handedOff, CompiledUnit.ofRoutines, List.mem_filter, NameSet.mem_without,
      NameSet.mem_union, List.mem_flatMap, List.not_mem_nil, false_or, List.mem_map,
      Bool.not_eq_true', and_assoc] at ordinary ⊢
    constructor
    · rintro ⟨made, apart, _⟩
      exact ⟨apart, made⟩
    · rintro ⟨apart, made⟩
      exact ⟨made, apart, ordinary made⟩

end Twin

end Reckon
