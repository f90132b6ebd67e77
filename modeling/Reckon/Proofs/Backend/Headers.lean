import Reckon.Proofs.Evaluator.Keeping
import Reckon.Proofs.Generator.Reachability

/-!
# The functions of the open unit by their headers

A header is the name of a function and the names of its parameters. The open unit has one
for each of its functions. No operation of a back end brings in a name a second time, or
a function that names two parameters alike: a prototype that does so is refused before it
reaches the unit.
-/

namespace Reckon

open Reckon.Action Instruction

/-- A back end whose open unit can be gone through by headers. Looking a word up finds the function
with its header, and what is not found can be declared. -/
class Headed (β : Type) [Declarations β] where
  /-- The parameters of the functions of the open unit, by the names that the unit knows them by. -/
  headers : β → Catalog String (List String)
  arity_lookup (backend : β) {name : String} (word : IsWord name) :
    (Declarations.lookup backend name).map (Declarations.arity backend) =
      ((headers backend).get? name).map List.length
  declares (session : Session) (prototype : Prototype) (backend : β) (word : IsWord prototype.name)
    (accepted : session.prototypeFault? prototype = none)
    (absent : Declarations.lookup backend prototype.name = none) :
    ∃ handle after, Declarations.declare session prototype backend = .ok handle after ∧
      Declarations.lookup after prototype.name = some handle ∧
      Declarations.arity after handle = prototype.arity

/-- No name occurs twice, and no function names two parameters alike. -/
structure SoundHeaders (headers : Catalog String (List String)) : Prop where
  once : headers.keys.Nodup
  distinct (entry : String × List String) (member : entry ∈ headers.entries) : entry.2.Nodup

namespace SoundHeaders

/-- Where there are no headers, none is wrong. -/
theorem empty : SoundHeaders Catalog.empty := ⟨List.nodup_nil, nofun⟩

/-- A header with distinct parameters may be put beside sound ones. -/
theorem put {headers : Catalog String (List String)} (sound : SoundHeaders headers) (name : String)
    {parameters : List String} (distinct : parameters.Nodup) :
    SoundHeaders (headers.put name parameters) := by
  constructor
  · exact Catalog.nodup_keys_put sound.once name parameters
  · intro entry member
    rcases Catalog.mem_entries_put member with rfl | earlier
    · exact distinct
    · exact sound.distinct entry earlier

/-- A function that is found has distinct parameters. -/
theorem of_get? {headers : Catalog String (List String)} (sound : SoundHeaders headers)
    {name : String} {parameters : List String} (found : headers.get? name = some parameters) :
    parameters.Nodup :=
  sound.distinct _ (Catalog.mem_of_find? found)

end SoundHeaders

/-! ## The evaluator -/

namespace Evaluator

/-- The functions of a unit by their headers. -/
def CodeUnit.headers (unit : CodeUnit) : Catalog String (List String) :=
  unit.functions.map fun function => function.prototype.parameters

/-- The arity under a name in the open unit is the number of parameters in its header. -/
theorem arity_lookup (evaluator : Evaluator) (name : String) :
    (Declarations.lookup evaluator name).map (Declarations.arity evaluator) =
      (evaluator.current.headers.get? name).map List.length := by
  rw [lookup_eq, CodeUnit.headers, Catalog.get?_map]
  cases found : evaluator.current.functions.get? name with
  | none => rfl
  | some function => exact congrArg some (arityOf_current found)

/-- A function that the open unit does not have is declared if its prototype is not refused. -/
theorem declare_new {session : Session} {prototype : Prototype} {evaluator : Evaluator}
    (accepted : session.prototypeFault? prototype = none)
    (absent : Declarations.lookup evaluator prototype.name = none) :
    ∃ handle after, declare session prototype evaluator = .ok handle after ∧
      Declarations.lookup after prototype.name = some handle ∧
      Declarations.arity after handle = prototype.arity := by
  have missing : evaluator.current.functions.get? prototype.name = none := by
    rwa [lookup_eq, Option.map_eq_none_iff] at absent
  let after : Evaluator := { evaluator with
    current := { evaluator.current with
      functions := evaluator.current.functions.put prototype.name ⟨prototype, none⟩ } }
  have there : after.current.functions.get? prototype.name = some ⟨prototype, none⟩ :=
    Catalog.get?_put_self ..
  refine ⟨⟨evaluator.current.number, prototype.name⟩, after, ?_, ?_, arityOf_current there⟩
  · unfold declare
    rw [accepted, check, pure_bind, get_bind]
    simp only [missing]
    rfl
  · rw [lookup_eq, there]
    rfl

instance : Headed Evaluator where
  headers evaluator := evaluator.current.headers
  arity_lookup evaluator name _ := arity_lookup evaluator name
  declares _ _ _ _ := declare_new

/-- The open unit has sound headers. -/
abbrev WellHeaded (evaluator : Evaluator) : Prop := SoundHeaders evaluator.current.headers

/-- Giving a function its body leaves the headers sound. -/
theorem CodeUnit.soundHeaders_withBody {unit : CodeUnit} (sound : SoundHeaders unit.headers)
    (name : String) (body : Node × Code) : SoundHeaders (unit.withBody name body).headers := by
  unfold withBody
  cases found : unit.functions.get? name with
  | none => exact sound
  | some function =>
    have distinct : function.prototype.parameters.Nodup := by
      refine sound.of_get? (?_ : unit.headers.get? name = some _)
      rw [headers, Catalog.get?_map, found]
      rfl
    rw [headers, Catalog.map_put]
    exact sound.put name distinct

/-- No operation of the evaluator loses the headers of the open unit their soundness. -/
theorem kept_wellHeaded : Kept WellHeaded := by
  have declares (session : Session) (prototype : Prototype) :
      Keeps WellHeaded (declare session prototype) := by
    apply keeps_of_ensures (declare_ensures session prototype)
    · rintro evaluator handle after sound ⟨_, accepted, _, rfl | ⟨_, rfl⟩⟩
      · exact sound
      · have distinct := ((Session.prototypeFault?_eq_none_iff ..).mp accepted).1
        change SoundHeaders (Catalog.map _ (Catalog.put _ _ _))
        rw [Catalog.map_put]
        exact sound.put prototype.name distinct
    · rintro evaluator fault after sound ⟨rfl, _⟩
      exact sound
  constructor
  case declares => exact declares
  case defines =>
    intro session handle body parameters
    apply defineBody_keeps (declares session)
    intro evaluator code sound
    change SoundHeaders (ite _ _ _ : CodeUnit).headers
    split
    · exact CodeUnit.soundHeaders_withBody sound ..
    · exact sound
  case handsOff => exact fun _ _ => SoundHeaders.empty
  case executes => exact execute_keeps
  case releases =>
    intro number evaluator sound
    change Ensures (release number) evaluator _
    unfold release
    apply ensures_get
    cases evaluator.live.find? (·.number = number) <;> exact sound

end Evaluator

/-! ## The generator -/

/-- The routines of a module by their headers. -/
def Module.headers (module : Module) : Catalog String (List String) :=
  module.routines.map Routine.parameters

/-- A routine with distinct parameters leaves the headers of its module sound. -/
theorem Module.soundHeaders_withRoutine {module : Module}
    (sound : SoundHeaders module.headers) {routine : Routine}
    (distinct : routine.parameters.Nodup) :
    SoundHeaders (module.withRoutine routine).headers := by
  rw [Module.headers, Module.withRoutine, Catalog.map_put]
  exact sound.put routine.symbol distinct

namespace Generator

/-- The arity of a handle of the open module is the arity of its routine. -/
theorem arityOf_current {generator : Generator} {symbol : String} {routine : Routine}
    (found : generator.current.routines.get? symbol = some routine) :
    generator.arityOf ⟨generator.current.number, symbol⟩ = routine.arity := by
  rw [arityOf, routine?_current, found]

/-- A word that is looked up in a generator is a symbol of the open module. -/
theorem lookup_of_isWord (generator : Generator) {name : String} (word : IsWord name) :
    Declarations.lookup generator name =
      (generator.current.routines.get? name).map fun _ => ⟨generator.current.number, name⟩ := by
  change ((generator.current.routines.get? (generator.current.symbol name)).map fun _ =>
    (⟨_, generator.current.symbol name⟩ : Handle)) = _
  rw [Module.symbol_of_isWord _ word]

/-- The arity under a word in the open module is the number of parameters in its header. -/
theorem arity_lookup (generator : Generator) {name : String} (word : IsWord name) :
    (Declarations.lookup generator name).map (Declarations.arity generator) =
      (generator.current.headers.get? name).map List.length := by
  rw [lookup_of_isWord generator word, Module.headers, Catalog.get?_map]
  cases found : generator.current.routines.get? name with
  | none => rfl
  | some routine => exact congrArg some (arityOf_current found)

/-- A function that the open module does not have is declared if its prototype is not refused. -/
theorem declare_new {session : Session} {prototype : Prototype} {generator : Generator}
    (word : IsWord prototype.name) (accepted : session.prototypeFault? prototype = none)
    (absent : Declarations.lookup generator prototype.name = none) :
    ∃ handle after, declare session prototype generator = .ok handle after ∧
      Declarations.lookup after prototype.name = some handle ∧
      Declarations.arity after handle = prototype.arity := by
  have missing : generator.current.routines.get? prototype.name = none := by
    rwa [lookup_of_isWord generator word, Option.map_eq_none_iff] at absent
  let routine : Routine := .declared prototype.name prototype.parameters
  let after : Generator := { generator with current := generator.current.withRoutine routine }
  have there : after.current.routines.get? prototype.name = some routine :=
    Catalog.get?_put_self ..
  refine ⟨⟨generator.current.number, prototype.name⟩, after, ?_, ?_, ?_⟩
  · unfold declare
    rw [accepted, check, pure_bind, get_bind]
    simp only [Module.symbol_of_isWord _ word, missing, if_neg word.nonempty]
    rfl
  · rw [lookup_of_isWord after word, there]
    rfl
  · exact (arityOf_current there).trans (Routine.arity_declared ..)

instance : Headed Generator where
  headers generator := generator.current.headers
  arity_lookup := arity_lookup
  declares _ _ _ := declare_new

/-- The open module and those that were handed off have sound headers. -/
abbrev WellHeaded : Generator → Prop := EveryModule fun module => SoundHeaders module.headers

/-- A generator that has compiled nothing has sound headers. -/
theorem wellHeaded_initial (level : Nat) (refusal : Option String) :
    WellHeaded (.initial level refusal) :=
  everyModule_initial (fun _ => .empty) level refusal

/-- No operation of the generator loses the headers of its modules their soundness. -/
theorem kept_wellHeaded : Kept WellHeaded := by
  refine kept_everyModule (fun _ => .empty) ?_ ?_
  · intro module symbol parameters sound
    exact Module.soundHeaders_withRoutine sound (Routine.declared_sound ..).distinct
  · intro source module symbol routine other soundSource found sound _ header _
    have distinct : routine.parameters.Nodup := by
      refine soundSource.of_get? (?_ : source.headers.get? symbol = some _)
      rw [Module.headers, Catalog.get?_map, found]
      rfl
    exact Module.soundHeaders_withRoutine sound (header ▸ distinct)

end Generator

end Reckon
