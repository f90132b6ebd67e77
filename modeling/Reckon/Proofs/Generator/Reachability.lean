import Reckon.Proofs.Backend.Lengthening
import Reckon.Proofs.Generator.Keeping
import Reckon.Proofs.Pairing.Declaration

/-!
# Where a generator can come to

A generator comes from its start to its other states by its operations, on any handles and
whether or not they succeed. What holds of an empty module, and is not lost when a function is
declared in a module or gets a block, holds of all modules of a generator wherever it has come to.
So routines stand under their own symbols and have distinct parameters, whose names are in use.
-/

namespace Reckon

open Reckon.Action Instruction

namespace Generator

/-- The property holds of the open module and of those that were handed off. -/
def EveryModule (good : Module → Prop) (generator : Generator) : Prop :=
  ∀ module ∈ generator.current :: generator.closed, good module

section Modules

variable {good : Module → Prop} {generator : Generator}

/-- What holds of an open module without functions holds of all modules at the beginning. -/
theorem everyModule_initial (opened : ∀ number, good (.opened number)) (level : Nat)
    (refusal : Option String) : EveryModule good (.initial level refusal) := by
  intro module member
  rw [List.mem_singleton.mp member]
  exact opened 1

/-- A routine that is found is one of a module. -/
theorem EveryModule.of_routine? (every : EveryModule good generator) {handle : Handle}
    {routine : Routine} (found : generator.routine? handle = some routine) :
    ∃ module, good module ∧ module.routines.get? handle.symbol = some routine := by
  obtain ⟨module, among, there⟩ := Option.bind_eq_some_iff.mp found
  exact ⟨module, every module (List.mem_of_find?_eq_some among), there⟩

/-- A property that a replaced routine keeps in its module is kept in all of them. -/
theorem EveryModule.withRoutine (every : EveryModule good generator) (number : Nat)
    {routine : Routine} (replaces : ∀ module, good module → good (module.withRoutine routine)) :
    EveryModule good (generator.withRoutine number routine) := by
  intro changed member
  obtain ⟨module, there, rfl⟩ : ∃ module ∈ generator.current :: generator.closed,
      changed = if module.number = number then module.withRoutine routine else module := by
    simpa [Generator.withRoutine, eq_comm] using member
  split
  · exact replaces module (every module there)
  · exact every module there

/-- The open module is closed, and another is opened. -/
theorem EveryModule.closed (every : EveryModule good generator)
    (opened : ∀ number, good (.opened number)) (number : Nat) :
    EveryModule good { generator with
      current := .opened number, closed := generator.closed ++ [generator.current] } := by
  intro module member
  rcases List.mem_cons.mp member with rfl | closed
  · exact opened number
  · apply every module
    simpa [or_comm] using closed

/-- All modules keep what holds of an empty one and is not lost when a function is declared, or
when a routine takes the place of one with the same symbol and the same parameters that was found
in a module and had no more names in use. -/
theorem kept_everyModule (opened : ∀ number, good (.opened number))
    (declared : ∀ (module : Module) (symbol : String) (parameters : List String), good module →
      good (module.withRoutine (.declared symbol parameters)))
    (replaced : ∀ (source module : Module) (symbol : String) (routine other : Routine),
      good source → source.routines.get? symbol = some routine → good module →
      other.symbol = routine.symbol → other.parameters = routine.parameters →
      routine.names.taken ⊆ other.names.taken → good (module.withRoutine other)) :
    Kept (EveryModule good) := by
  have declares (session : Session) (prototype : Prototype) :
      Keeps (EveryModule good) (declare session prototype) := by
    refine declare_keeps fun generator every _ module member => ?_
    rcases List.mem_cons.mp member with rfl | closed
    · exact declared _ _ _ (every _ List.mem_cons_self)
    · exact every module (List.mem_cons_of_mem _ closed)
  constructor
  case declares => exact declares
  case defines =>
    intro session handle body parameters
    apply defineBody_keeps (declares session)
    · intro before routine generator other everyBefore found every symbol header used
      obtain ⟨source, goodSource, there⟩ := everyBefore.of_routine? found
      exact every.withRoutine _ fun module goodModule =>
        replaced source module _ routine other goodSource there goodModule symbol header used
    · exact fun _ every => every
  case handsOff =>
    intro generator every
    change Ensures handOff generator _
    unfold handOff
    apply ensures_get
    dsimp only
    cases generator.refusalOf? generator.current with
    | some reason => exact every.closed opened _
    | none => exact every.closed opened _
  case executes =>
    intro platform handle arguments
    change Keeps (EveryModule good) (execute platform handle arguments)
    unfold execute
    apply keeps_get
    intro generator
    dsimp only
    split
    · exact linking_keeps (fun _ _ every => every) _
    · exact keeps_throw _
  case releases =>
    intro number
    apply (linking_keeps (fun _ _ every => every) (Linker.release number)).bind
    exact fun names => keeps_modify fun _ every => every

end Modules

/-- The states that the operations of a generator lead to. At any time it may be decided that units
are refused from then on, or are not. -/
inductive Reachable : Generator → Prop
  | initial (level : Nat) (refusal : Option String) : Reachable (.initial level refusal)
  | refuses {generator : Generator} (reached : Reachable generator) (refusal : Option String) :
      Reachable { generator with refusal }
  | declares {generator : Generator} (reached : Reachable generator) (session : Session)
      (prototype : Prototype) : Reachable (after (declare session prototype) generator)
  | defines {generator : Generator} (reached : Reachable generator) (session : Session)
      (handle : Handle) (body : Node) (parameters : List String) :
      Reachable (after (defineBody session handle body parameters) generator)
  | handsOff {generator : Generator} (reached : Reachable generator) :
      Reachable (after handOff generator)
  | executes {generator : Generator} (reached : Reachable generator) (platform : Platform)
      (handle : Handle) (arguments : List Float) :
      Reachable (after (execute platform handle arguments) generator)
  | releases {generator : Generator} (reached : Reachable generator) (number : Nat) :
      Reachable (after (release number) generator)

/-- What all operations keep holds wherever a generator can come to. -/
theorem Reachable.holds {good : Generator → Prop} (kept : Kept good)
    (initial : ∀ level refusal, good (.initial level refusal))
    (refuses : ∀ generator refusal, good generator → good { generator with refusal })
    {generator : Generator} (reached : Reachable generator) : good generator := by
  induction reached with
  | initial level refusal => exact initial level refusal
  | refuses _ refusal holds => exact refuses _ refusal holds
  | declares _ session prototype holds => exact (kept.declares session prototype).holds_after holds
  | defines _ session handle body parameters holds =>
    exact (kept.defines session handle body parameters).holds_after holds
  | handsOff _ holds => exact kept.handsOff.holds_after holds
  | executes _ platform handle arguments holds =>
    exact (kept.executes platform handle arguments).holds_after holds
  | releases _ number holds => exact (kept.releases number).holds_after holds

end Generator

/-- Routines stand under their own symbols, and are sound. -/
def Module.Sound (module : Module) : Prop :=
  ∀ entry ∈ module.routines.entries, entry.2.symbol = entry.1 ∧ entry.2.Sound

namespace Module

variable {module : Module}

/-- A module without functions is sound. -/
theorem sound_opened (number : Nat) : (Module.opened number).Sound := nofun

/-- A sound routine leaves a sound module sound. -/
theorem Sound.withRoutine (sound : module.Sound) {routine : Routine} (soundToo : routine.Sound) :
    (module.withRoutine routine).Sound := by
  intro entry member
  rcases Catalog.mem_entries_put member with rfl | earlier
  · exact ⟨rfl, soundToo⟩
  · exact sound entry earlier

/-- A routine that is found in a sound module is sound, and stands under its own symbol. -/
theorem Sound.of_get? (sound : module.Sound) {symbol : String} {routine : Routine}
    (found : module.routines.get? symbol = some routine) :
    routine.symbol = symbol ∧ routine.Sound :=
  sound _ (Catalog.mem_of_find? found)

end Module

namespace Generator

/-- The operations of a generator keep all its modules sound. -/
theorem kept_sound : Kept (EveryModule Module.Sound) := by
  apply kept_everyModule Module.sound_opened
  · intro module symbol parameters sound
    exact sound.withRoutine (Routine.declared_sound symbol parameters)
  · intro source module symbol routine other soundSource found sound _ header used
    obtain ⟨_, soundRoutine⟩ := soundSource.of_get? found
    refine sound.withRoutine ⟨header ▸ soundRoutine.distinct, ?_⟩
    rw [header]
    exact List.Subset.trans soundRoutine.used used

/-- **The modules of a generator are sound** wherever it can come to. -/
theorem Reachable.sound {generator : Generator} (reached : Reachable generator) :
    EveryModule Module.Sound generator :=
  reached.holds kept_sound (everyModule_initial Module.sound_opened) fun _ _ every => every

end Generator

end Reckon
