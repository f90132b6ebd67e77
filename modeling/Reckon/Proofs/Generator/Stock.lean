import Reckon.Proofs.Backend.Lengthening
import Reckon.Proofs.Backend.Stock
import Reckon.Proofs.Generator.Keeping
import Reckon.Proofs.Pairing.Linking

/-!
# The stock of the generator

The stock of the generator is the units of its linker, pending or materialized. While a
body is written out, routines are only added to the open module, and if the body is
refused its own routine is a declaration again.
-/

namespace Reckon

open Reckon.Action Instruction

namespace Instruction.Routine

/-- A routine as it looks from outside. -/
def held (routine : Routine) : Held (List String × Block) :=
  { name := routine.symbol
    arity := routine.arity
    body := routine.block.map fun block => (routine.parameters, block) }

end Instruction.Routine

/-- A unit of the linker as it looks from outside. -/
def CompiledUnit.shelved (unit : CompiledUnit) : Shelved (List String × Block) :=
  { number := unit.number, functions := unit.routines.map Routine.held }

/-- A module as it looks from outside. -/
def Module.shelved (module : Module) : Shelved (List String × Block) :=
  { number := module.number, functions := module.routines.values.map Routine.held }

namespace Generator

instance : Stocked Generator where
  Content := List String × Block
  stock generator := generator.linker.units.map CompiledUnit.shelved
  opened generator := generator.current.shelved

/-- The stock of a generator is the units of its linker, looked at from outside. -/
theorem stock_eq (generator : Generator) :
    Stocked.stock generator = generator.linker.units.map CompiledUnit.shelved := rfl

/-- The open unit of a generator is its open module, looked at from outside. -/
theorem opened_eq (generator : Generator) :
    Stocked.opened generator = generator.current.shelved := rfl

/-! ## The open module -/

/-- The routines of the open module. -/
abbrev routines (generator : Generator) : List (String × Routine) :=
  generator.current.routines.entries

/-- To declare a prototype only adds to the functions of the open module. -/
theorem declare_lengthens (session : Session) (prototype : Prototype) :
    Lengthens routines (declare session prototype) := by
  rw [lengthens_iff_keeps]
  refine fun start => declare_keeps fun generator begins absent => begins.trans ?_
  exact ⟨_, (Catalog.entries_put_of_none absent _).symm⟩

/-- Writing a body out only adds to a list in the generator if declaring does. -/
theorem emit_lengthens {δ : Type} {list : Generator → List δ} {session : Session}
    (declares : ∀ prototype, Lengthens list (declare session prototype))
    (scope : List (String × String)) (node : Node) :
    Lengthens (fun emission : Emission => list emission.generator) (emit session scope node) := by
  rw [lengthens_iff_keeps]
  intro start
  apply @emit_keeps fun generator => start <+: list generator
  exact fun prototype => lengthens_iff_keeps.mp (declares prototype) start

/-- The open module as it looks from outside. -/
abbrev outline (generator : Generator) : List (Held (List String × Block)) :=
  generator.current.shelved.functions

/-- If functions were only added, so were the outlines of functions. -/
theorem outline_prefix {before after : Generator} (longer : before.routines <+: after.routines) :
    before.outline <+: after.outline :=
  (longer.map Prod.snd).map Routine.held

/-- A routine that stands under its symbol looks as before when a refused body is dropped. -/
theorem outline_withRoutine {generator : Generator} {routine : Routine} {number : Nat}
    {other : Routine} (found : generator.current.routines.get? other.symbol = some routine)
    (alike : other.held = routine.held) :
    (generator.withRoutine number other).outline = generator.outline := by
  by_cases here : generator.current.number = number
  · have current : (generator.withRoutine number other).current =
        generator.current.withRoutine other := by
      simp [withRoutine, here]
    rw [outline, current]
    exact Catalog.map_values_put found Routine.held alike
  · have current : (generator.withRoutine number other).current = generator.current := by
      simp [withRoutine, here]
    rw [outline, current]

/-- A body that is refused has only added declarations to the open module. -/
theorem defineBody_longer (session : Session) (name : String) (body : Node)
    (parameters : List String) {generator : Generator}
    (keyed : ∀ entry ∈ generator.routines, entry.2.symbol = entry.1) :
    Ensures (defineBody session ⟨generator.current.number, name⟩ body parameters) generator
      (Refusing outline generator.outline) := by
  unfold defineBody
  apply ensures_get
  refine ensures_check (fun accepted => ?_) fun _ _ => refusing_error List.prefix_rfl
  cases found : generator.routine? ⟨generator.current.number, name⟩ with
  | none => exact ensures_pure refusing_ok
  | some routine =>
    have there := found
    rw [routine?_current] at there
    have symbol : routine.symbol = name := keyed _ (Catalog.mem_of_find? there)
    have blockless : routine.block = none := by
      have without : generator.hasBody ⟨generator.current.number, name⟩ = false := by
        simp_all [redefinitionFault?]
      simpa [hasBody, found] using without
    have longer := emit_lengthens (declare_lengthens session)
      (parameters.zip routine.parameters) body
      { generator, names := (routine.names.take "entry").2, instructions := [] }
    unfold Ensures at longer ⊢
    dsimp only
    cases written : emit session (parameters.zip routine.parameters) body
        { generator, names := (routine.names.take "entry").2, instructions := [] } with
    | ok operand emission => exact refusing_ok
    | error problem emission =>
      rw [written] at longer
      rintro fault after failed ⟨error, location, rfl⟩
      cases failed
      have kept := Catalog.get?_of_prefix longer there
      rw [@outline_withRoutine _ routine]
      · exact outline_prefix longer
      · rw [symbol]
        exact kept
      · simp [Routine.held, Routine.arity, remainder, blockless]

/-- A definition that is refused has only added declarations to the open module. -/
theorem define_longer {session : Session} {function : Definition} {unit : Evaluator}
    {generator : Generator} (matched : Matched unit.current generator.current)
    (nameable : Nameable function.prototype.name) :
    Ensures (define session function) generator (Refusing outline generator.outline) := by
  have declares : Lengthens outline (declare session function.prototype) := by
    intro state
    have longer := declare_lengthens session function.prototype state
    unfold Ensures at longer ⊢
    cases ended : declare session function.prototype state <;> rw [ended] at longer <;>
      exact outline_prefix longer
  apply define_refusing declares
  intro handle middle declared
  have agrees := declare_agrees session function.prototype matched nameable
  change declare session function.prototype generator = _ at declared
  unfold Agree at agrees
  rw [declared] at agrees
  split at agrees
  case h_1 reached otherReached =>
    cases otherReached
    obtain ⟨rfl, matchedAfter, differs⟩ := agrees
    rw [← differs.number]
    exact defineBody_longer session _ _ _ matchedAfter.filed.own
  case h_2 otherReached => cases otherReached
  case h_3 => exact agrees.elim

end Generator

end Reckon
