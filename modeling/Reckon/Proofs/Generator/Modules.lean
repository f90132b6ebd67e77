import Reckon.Generator.State
import Reckon.Proofs.Catalog

/-!
# Modules

A module is asked for a routine by its symbol. Routines stand under their own symbols, each
once, so the routines with a block can be told from the list that is handed off.
-/

namespace Reckon

open Instruction

namespace Module

/-- The block of a function. -/
def block? (module : Module) (symbol : String) : Option Block :=
  (module.routines.get? symbol).bind (·.block)

/-- The function has a block, and it returns. -/
def Finishes (module : Module) (symbol : String) : Prop :=
  ∃ block, module.block? symbol = some block ∧ block.returned.isSome = true

/-- Routines stand under their own symbols, and the reserved name is not among them. -/
structure Filed (module : Module) : Prop where
  once : module.routines.keys.Nodup
  own (entry : String × Routine) (member : entry ∈ module.routines.entries) :
    entry.2.symbol = entry.1
  ordinary (symbol : String) (member : symbol ∈ module.routines.keys) : symbol ≠ anonymousName

/-- In a module without functions none is finished. -/
theorem not_finishes_opened (number : Nat) (symbol : String) :
    ¬ (Module.opened number).Finishes symbol := by
  rintro ⟨block, held, _⟩
  cases held

/-- No symbol of an ordinary function is the reserved name. -/
theorem symbol_ne_anonymousName (module : Module) (name : String) :
    module.symbol name ≠ anonymousName := by
  unfold symbol
  split
  · rename_i reserved
    subst reserved
    intro same
    have lengths := congrArg (fun name => name.toList.length) same
    simp at lengths
  · assumption

/-- A routine that is put in brings its own block and no other. -/
theorem block?_withRoutine (module : Module) (routine : Routine) (symbol : String) :
    (module.withRoutine routine).block? symbol =
      if symbol = routine.symbol then routine.block else module.block? symbol := by
  unfold block? withRoutine
  rw [Catalog.get?_put]
  by_cases same : symbol = routine.symbol
  · rw [if_pos same.symm, if_pos same, Option.bind_some]
  · rw [if_neg (Ne.symm same), if_neg same]

namespace Filed

variable {module : Module}

/-- In a module without functions none is filed wrongly. -/
theorem opened (number : Nat) : (Module.opened number).Filed := by
  constructor
  case once => exact List.nodup_nil
  case own => exact nofun
  case ordinary => exact nofun

/-- A routine with an ordinary symbol leaves the module filed. -/
theorem withRoutine (filed : module.Filed) {routine : Routine}
    (ordinary : routine.symbol ≠ anonymousName) : (module.withRoutine routine).Filed := by
  constructor
  case once => exact Catalog.nodup_keys_put filed.once _ _
  case own =>
    intro entry member
    rcases Catalog.mem_entries_put member with rfl | earlier
    · rfl
    · exact filed.own entry earlier
  case ordinary =>
    intro symbol member
    obtain ⟨entry, there, rfl⟩ := List.mem_map.mp member
    rcases Catalog.mem_entries_put there with rfl | earlier
    · exact ordinary
    · exact filed.ordinary _ (List.mem_map_of_mem earlier)

/-- The routines with blocks, each found under its symbol. -/
theorem block?_eq_some_iff (filed : module.Filed) {symbol : String} {block : Block} :
    module.block? symbol = some block ↔
      ∃ routine ∈ module.routines.values, routine.symbol = symbol ∧ routine.block = some block := by
  unfold block?
  rw [Option.bind_eq_some_iff]
  constructor
  · rintro ⟨routine, found, held⟩
    have member := Catalog.mem_of_find? found
    exact ⟨routine, List.mem_map_of_mem member, filed.own _ member, held⟩
  · rintro ⟨routine, member, rfl, held⟩
    obtain ⟨entry, there, rfl⟩ := List.mem_map.mp member
    refine ⟨entry.2, ?_, held⟩
    rw [filed.own entry there]
    exact Catalog.get?_of_mem filed.once there

/-- The functions with a block, as a module lists them when it is refused. -/
theorem mem_defined_iff (filed : module.Filed) (symbol : String) :
    symbol ∈ module.defined ↔ ∃ block, module.block? symbol = some block := by
  simp only [filed.block?_eq_some_iff]
  simp only [Module.defined, List.mem_map, List.mem_filter, Option.isSome_iff_exists]
  constructor
  · rintro ⟨routine, ⟨member, block, held⟩, own⟩
    exact ⟨block, routine, member, own, held⟩
  · rintro ⟨block, routine, member, own, held⟩
    exact ⟨routine, ⟨member, block, held⟩, own⟩

/-- The functions that the unit defines which is made of the module. -/
theorem mem_defined_ofRoutines_iff (filed : module.Filed) (number level : Nat) (symbol : String) :
    symbol ∈ (CompiledUnit.ofRoutines number level module.routines.values).defined ↔
      ∃ block, module.block? symbol = some block := by
  rw [← filed.mem_defined_iff, Module.defined]
  simp [CompiledUnit.ofRoutines]

/-- The block of a function in the unit that is made of the module. -/
theorem block?_ofRoutines (filed : module.Filed) (number level : Nat) {symbol : String}
    {routine : Routine} {block : Block} (found : module.routines.get? symbol = some routine)
    (held : routine.block = some block) :
    (CompiledUnit.ofRoutines number level module.routines.values).block? symbol =
      some (routine.parameters, block) := by
  have member := Catalog.mem_of_find? found
  have own : routine.symbol = symbol := filed.own _ member
  let among := module.routines.values.filter (·.block.isSome)
  have chosen : routine ∈ among :=
    List.mem_filter.mpr ⟨List.mem_map_of_mem member, by simp [held]⟩
  have picked : among.find? (·.symbol = symbol) = some routine := by
    refine find?_eq_of_sole chosen own fun other amongToo ownToo => ?_
    obtain ⟨entry, there, rfl⟩ := List.mem_map.mp (List.mem_filter.mp amongToo).1
    have foundToo := Catalog.get?_of_mem filed.once there
    rw [← filed.own entry there, ownToo, found] at foundToo
    exact (Option.some.inj foundToo).symm
  change (among.find? (·.symbol = symbol)).bind _ = _
  rw [picked, Option.bind_some, held]
  rfl

end Filed

end Module

end Reckon
