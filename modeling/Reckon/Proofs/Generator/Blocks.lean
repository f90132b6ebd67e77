import Reckon.Proofs.Generator.Keeping
import Reckon.Proofs.Pairing.Units

/-!
# The blocks of the open module

What a module is asked about its functions depends on which of them have a block, and on
whether the block returns. Declaring gives no function a block. Compiling a body gives one
to a function that had none, or leaves the blocks as they are; if it breaks off without
refusing the body, the block stays behind unfinished. A module whose blocks all return is
the only one that is handed off.
-/

namespace Reckon

open Reckon.Action Instruction

namespace Generator

/-! ## Declarations -/

/-- Declarations at most have come in. -/
structure Announces (before after : Generator) : Prop where
  linker : after.linker = before.linker
  defined : after.defined = before.defined
  number : after.current.number = before.current.number
  blocks (symbol : String) : after.current.block? symbol = before.current.block? symbol
  filed : after.current.Filed

namespace Announces

variable {before middle after : Generator}

/-- Nothing has come in if nothing has happened. -/
theorem refl (filed : before.current.Filed) : Announces before before :=
  ⟨rfl, rfl, rfl, fun _ => rfl, filed⟩

/-- Declarations on declarations are declarations. -/
theorem trans (start : Announces before middle) (rest : Announces middle after) :
    Announces before after := by
  constructor
  case linker => exact rest.linker.trans start.linker
  case defined => exact rest.defined.trans start.defined
  case number => exact rest.number.trans start.number
  case blocks => exact fun symbol => (rest.blocks symbol).trans (start.blocks symbol)
  case filed => exact rest.filed

/-- A routine without a block may come in for a function that has none. -/
theorem put (announces : Announces before middle) (routine : Routine)
    (ordinary : routine.symbol ≠ anonymousName) (blockless : routine.block = none)
    (bare : before.current.block? routine.symbol = none) (linker : after.linker = middle.linker)
    (defined : after.defined = middle.defined)
    (current : after.current = middle.current.withRoutine routine) : Announces before after := by
  constructor
  case linker => exact linker.trans announces.linker
  case defined => exact defined.trans announces.defined
  case number => exact current ▸ announces.number
  case blocks =>
    intro symbol
    rw [current, Module.block?_withRoutine]
    split
    · rename_i same
      rw [same, blockless, bare]
    · exact announces.blocks symbol
  case filed => exact current ▸ announces.filed.withRoutine ordinary

end Announces

/-- Whatever has been announced before, declaring one more prototype brings in declarations only. -/
theorem declare_announces (before : Generator) (session : Session) (prototype : Prototype) :
    Keeps (Announces before) (declare session prototype) := by
  refine declare_keeps fun generator announces absent => ?_
  have bare : before.current.block? (generator.current.symbol prototype.name) = none := by
    rw [← announces.blocks, Module.block?, absent]
    rfl
  exact announces.put (.declared _ prototype.parameters)
    (generator.current.symbol_ne_anonymousName prototype.name) rfl bare rfl rfl rfl

/-- The handle that declaring gives is that of a function of the open module. -/
theorem declare_handle (session : Session) (prototype : Prototype) (generator : Generator) :
    Ensures (declare session prototype) generator fun
      | .ok handle after =>
        handle = ⟨generator.current.number, generator.current.symbol prototype.name⟩ ∧
        after.current.number = generator.current.number ∧
        ∃ routine, after.current.routines.get? (generator.current.symbol prototype.name) =
          some routine
      | .error _ after => after = generator := by
  unfold declare
  refine ensures_check (fun _ => ensures_get ?_) fun _ _ => rfl
  cases found : generator.current.routines.get? (generator.current.symbol prototype.name) with
  | some routine =>
    simp only [found]
    exact ensures_check (fun _ => ensures_pure ⟨rfl, rfl, routine, found⟩) fun _ _ => rfl
  | none =>
    simp only [found]
    split
    · rfl
    · exact ⟨rfl, rfl, _, Catalog.get?_put_self ..⟩

/-! ## Bodies -/

/-- A function of the open module that had no block, and did not count as defined, has got one. -/
structure Gains (before : Generator) (symbol : String) (block : Block) (after : Generator) :
    Prop where
  linker : after.linker = before.linker
  number : after.current.number = before.current.number
  blocks (name : String) :
    after.current.block? name = if name = symbol then some block else before.current.block? name
  new : symbol ∉ before.defined
  bare : before.current.block? symbol = none
  filed : after.current.Filed

/-- A routine with a block has come in. -/
theorem Announces.gains {before middle after : Generator} (announces : Announces before middle)
    (routine : Routine) {block : Block} (held : routine.block = some block)
    (ordinary : routine.symbol ≠ anonymousName) (new : routine.symbol ∉ before.defined)
    (bare : before.current.block? routine.symbol = none) (linker : after.linker = middle.linker)
    (current : after.current = middle.current.withRoutine routine) :
    Gains before routine.symbol block after := by
  constructor
  case linker => exact linker.trans announces.linker
  case number => exact current ▸ announces.number
  case blocks =>
    intro name
    rw [current, Module.block?_withRoutine, held, announces.blocks]
  case new => exact new
  case bare => exact bare
  case filed => exact current ▸ announces.filed.withRoutine ordinary

/-- Declarations before the body do not matter. -/
theorem Gains.of_announces {before middle after : Generator} {symbol : String} {block : Block}
    (gains : Gains middle symbol block after) (announces : Announces before middle) :
    Gains before symbol block after := by
  constructor
  case linker => exact gains.linker.trans announces.linker
  case number => exact gains.number.trans announces.number
  case blocks => exact fun name => by rw [gains.blocks, announces.blocks]
  case new => exact announces.defined ▸ gains.new
  case bare => exact announces.blocks symbol ▸ gains.bare
  case filed => exact gains.filed

/-- What compiling promises: the function gets a block that returns, and counts as defined; or it
is left with an unfinished one by a fault that is no refusal; or there are declarations at most. -/
def Compiles (before : Generator) (symbol : String) {α : Type} :
    EStateM.Result Fault Generator α → Prop
  | .ok _ after => Announces before after ∨ ∃ block, Gains before symbol block after ∧
      block.returned.isSome = true ∧ after.defined = before.defined.insert symbol
  | .error fault after => Announces before after ∨ ∃ block, Gains before symbol block after ∧
      block.returned = none ∧ after.defined = before.defined ∧ ¬ fault.IsCompile

/-- A routine of the open module's number goes into the open module. -/
theorem current_withRoutine (generator : Generator) {number : Nat}
    (own : generator.current.number = number) (routine : Routine) :
    (generator.withRoutine number routine).current = generator.current.withRoutine routine := by
  simp [withRoutine, own]

/-- A body is compiled for a function of the open module, or is refused, or broken off. -/
theorem defineBody_compiles {generator : Generator} (filed : generator.current.Filed)
    (session : Session) (symbol : String) (body : Node) (parameters : List String) :
    Ensures (defineBody session ⟨generator.current.number, symbol⟩ body parameters) generator
      (Compiles generator symbol) := by
  unfold defineBody
  refine ensures_get (ensures_check (fun fresh => ?_) fun _ _ => .inl (.refl filed))
  cases found : generator.routine? ⟨generator.current.number, symbol⟩ with
  | none => exact ensures_pure (.inl (.refl filed))
  | some routine =>
    have there := found
    rw [routine?_current] at there
    obtain rfl : routine.symbol = symbol := filed.own _ (Catalog.mem_of_find? there)
    have ordinary : routine.symbol ≠ anonymousName := by
      apply filed.ordinary
      rw [← Catalog.get?_isSome_iff, there]
      rfl
    have bare : routine.block = none := by
      have without : generator.hasBody ⟨generator.current.number, routine.symbol⟩ = false := by
        simp_all [redefinitionFault?]
      simpa [hasBody, found] using without
    have new : routine.symbol ∉ generator.defined := by
      intro member
      simp [redefinitionFault?, member, ordinary] at fresh
    have blockless : generator.current.block? routine.symbol = none := by
      rw [Module.block?, there, Option.bind_some, bare]
    have announces := emit_keeps (declare_announces generator session)
      (parameters.zip routine.parameters) body
      { generator, names := (routine.names.take "entry").2, instructions := [] } (.refl filed)
    unfold Ensures at announces ⊢
    dsimp only
    cases written : emit session (parameters.zip routine.parameters) body
        { generator, names := (routine.names.take "entry").2, instructions := [] } with
    | ok operand emission =>
      rw [written] at announces
      let block : Block :=
        { label := (routine.names.take "entry").1
          instructions := emission.instructions
          returned := some operand }
      let replaced : Routine := { routine with names := emission.names, block := some block }
      have current := emission.generator.current_withRoutine announces.number replaced
      refine .inr ⟨block, announces.gains replaced rfl ordinary new blockless rfl current, rfl, ?_⟩
      exact congrArg (·.insert routine.symbol) announces.defined
    | error fault emission =>
      rw [written] at announces
      let left := remainder fault (routine.names.take "entry").1 emission.instructions
      let replaced : Routine := { routine with names := emission.names, block := left }
      have current := emission.generator.current_withRoutine announces.number replaced
      by_cases refused : fault.IsCompile
      · obtain ⟨error, location, rfl⟩ := refused
        exact .inl (announces.put replaced ordinary rfl blockless rfl rfl current)
      · obtain ⟨block, held, unfinished⟩ :
            ∃ block, left = some block ∧ block.returned = none := by
          cases fault
          case compile error location => exact (refused ⟨error, location, rfl⟩).elim
          all_goals exact ⟨_, rfl, rfl⟩
        exact .inr ⟨block, announces.gains replaced held ordinary new blockless rfl current,
          unfinished, announces.defined, refused⟩

/-- A definition is compiled, or is refused, or broken off. -/
theorem define_compiles {generator : Generator} (filed : generator.current.Filed)
    (session : Session) (definition : Definition) :
    Ensures (Reckon.define session definition) generator
      (Compiles generator (generator.current.symbol definition.prototype.name)) := by
  have handles := declare_handle session definition.prototype generator
  have announces := declare_announces generator session definition.prototype generator
    (.refl filed)
  change Ensures (declare session definition.prototype >>= fun handle =>
    defineBody session handle definition.body definition.prototype.parameters >>= fun _ =>
      pure handle) generator _
  apply (handles.and announces).bind
  · exact fun fault middle failed => .inl failed.2
  · rintro handle middle ⟨⟨rfl, _⟩, announces⟩
    rw [← announces.number]
    have compiles := defineBody_compiles announces.filed session
      (generator.current.symbol definition.prototype.name) definition.body
      definition.prototype.parameters
    apply compiles.bind
    · rintro fault after (quiet | ⟨block, gains, unfinished, defined, misuse⟩)
      · exact .inl (announces.trans quiet)
      · exact .inr ⟨block, gains.of_announces announces, unfinished,
          defined.trans announces.defined, misuse⟩
    · rintro _ after (quiet | ⟨block, gains, finished, defined⟩)
      · exact .inl (announces.trans quiet)
      · exact .inr ⟨block, gains.of_announces announces, finished, announces.defined ▸ defined⟩

end Generator

end Reckon
