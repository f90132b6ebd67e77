import Reckon.Proofs.Backend.Attempts
import Reckon.Proofs.Generator.Reachability
import Reckon.Proofs.Generator.Semantics
import Reckon.Proofs.Generator.Stock

/-!
# What a refused body leaves in the open module

While a body is written out the open module gets declarations: of the function itself, and of
recorded functions that the body calls. The block is dropped when the body is refused, wherever
that happens, so the routine looks from outside as it did before. Only the names that the block
took stay taken, and nobody sees them.
-/

namespace Reckon

open Reckon.Action Instruction

namespace Generator

/-! ## Numbers of modules -/

/-- No operation gives the open module a number that one handed off has, too. -/
theorem kept_earlier : Kept Earlier := by
  have declares (session : Session) (prototype : Prototype) :
      Keeps Earlier (declare session prototype) :=
    declare_keeps fun _ earlier _ => earlier
  constructor
  case declares => exact declares
  case defines =>
    intro session handle body parameters
    apply defineBody_keeps (declares session)
    · intro before routine generator other _ _ earlier _ _ _ module member
      have numbers (module : Module) :
          (if module.number = handle.unit then module.withRoutine other else module).number =
            module.number := by
        split <;> rfl
      obtain ⟨closed, there, rfl⟩ := List.mem_map.mp member
      change _ < (if _ then _ else _ : Module).number
      rw [numbers, numbers]
      exact earlier closed there
    · exact fun _ earlier => earlier
  case handsOff =>
    intro generator earlier
    have closed (module : Module) (member : module ∈ generator.closed ++ [generator.current]) :
        module.number < generator.current.number + 1 := by
      rcases List.mem_append.mp member with old | last
      · exact Nat.lt_succ_of_lt (earlier module old)
      · rw [List.mem_singleton.mp last]
        exact Nat.lt_succ_self _
    change Ensures handOff generator _
    unfold handOff
    apply ensures_get
    dsimp only
    cases generator.refusalOf? generator.current with
    | some reason => exact closed
    | none => exact closed
  case executes =>
    intro platform handle arguments
    change Keeps Earlier (execute platform handle arguments)
    unfold execute
    apply keeps_get
    intro generator
    dsimp only
    split
    · exact linking_keeps (fun _ _ earlier => earlier) _
    · exact keeps_throw _
  case releases =>
    intro number
    apply (linking_keeps (fun _ _ earlier => earlier) (Linker.release number)).bind
    exact fun names => keeps_modify fun _ earlier => earlier

/-- Modules that were handed off have smaller numbers wherever a generator can come to. -/
theorem Reachable.earlier {generator : Generator} (reached : Reachable generator) :
    generator.Earlier :=
  reached.holds kept_earlier (fun _ _ => nofun) fun _ _ earlier => earlier

/-! ## Declarations -/

/-- The open module has got functions of one kind, and all else is as before. -/
structure Adds (kind : Held (List String × Block) → Prop) (before after : Generator) : Prop where
  same : after = { before with current := after.current }
  number : after.current.number = before.current.number
  extended : Extended kind before.outline after.outline

namespace Adds

variable {kind : Held (List String × Block) → Prop} {first second third : Generator}

/-- Nothing has been added where nothing has happened. -/
theorem refl (kind : Held (List String × Block) → Prop) (generator : Generator) :
    Adds kind generator generator := ⟨rfl, rfl, .refl ..⟩

/-- What was added in two rounds was added. -/
theorem trans (start : Adds kind first second) (rest : Adds kind second third) :
    Adds kind first third := by
  refine ⟨?_, rest.number.trans start.number, start.extended.trans rest.extended⟩
  rw [rest.same, start.same]

/-- Functions of one kind are functions of any wider kind. -/
theorem imp {weaker : Held (List String × Block) → Prop}
    (implies : ∀ function, kind function → weaker function) (adds : Adds kind first second) :
    Adds weaker first second :=
  { adds with extended := adds.extended.imp implies }

/-- Functions that come in change no number of a module. -/
theorem earlier (adds : Adds kind first second) (earlier : first.Earlier) : second.Earlier := by
  intro closed member
  rw [adds.number]
  rw [adds.same] at member
  exact earlier closed member

end Adds

variable {session : Session}

/-- What a prototype looks like when it is declared. -/
theorem held_declared (module : Module) (prototype : Prototype) :
    (Routine.declared (module.symbol prototype.name) prototype.parameters).held =
      prototype.announced module.symbol := by
  simp only [Routine.held, Prototype.announced]
  rw [Routine.arity_declared]
  rfl

/-- Declaring adds the prototype at most, and nothing if it is refused. -/
theorem declare_adds (session : Session) (prototype : Prototype) (generator : Generator) :
    Ensures (declare session prototype) generator fun
      | .ok _ after => Adds (· = prototype.announced generator.current.symbol) generator after
      | .error _ after => after = generator := by
  unfold declare
  refine ensures_check (fun _ => ensures_get ?_) fun _ _ => rfl
  cases found : generator.current.routines.get? (generator.current.symbol prototype.name) with
  | some routine =>
    simp only [found]
    exact ensures_check (fun _ => ensures_pure (.refl ..)) fun _ _ => rfl
  | none =>
    simp only [found]
    split
    · exact rfl
    · refine ⟨rfl, rfl, ?_⟩
      let routine : Routine :=
        .declared (generator.current.symbol prototype.name) prototype.parameters
      have held : routine.held = prototype.announced generator.current.symbol :=
        held_declared generator.current prototype
      have entries := Catalog.entries_put_of_none found routine
      have outline := congrArg (fun entries => (entries.map Prod.snd).map Routine.held) entries
      rw [List.map_append, List.map_append] at outline
      exact ⟨[routine.held], outline, List.forall_mem_singleton.mpr held⟩

/-- Recorded prototypes of functions with these names, as they look when they are declared. -/
def Recalled (session : Session) (symbol : String → String) (names : List String)
    (function : Held (List String × Block)) : Prop :=
  ∃ name ∈ names, ∃ known, session.find? name = some known ∧ function = known.announced symbol

/-- Writing a body out only adds declarations of recorded functions that it calls. -/
theorem emit_adds (session : Session) (scope : List (String × String)) (node : Node)
    (start : Generator) :
    Keeps (Behind (Adds (Recalled session start.current.symbol (node.calls.map Prod.fst)) start))
      (emit session scope node) := by
  refine emit_keeps_of (fun call made => generating_keeps (resolve_keeps fun known recorded => ?_))
    append_keeps
  apply keeps_of_ensures (declare_adds session known)
  · intro generator handle after adds more
    refine adds.trans (more.imp ?_)
    rintro function rfl
    refine ⟨call.1, List.mem_map_of_mem made, known, recorded, ?_⟩
    rw [Module.symbol_congr adds.number]
  · rintro generator fault after adds rfl
    exact adds

/-! ## Bodies -/

section Inversion

variable {handle : Handle} {body : Node} {parameters : List String} {generator after : Generator}
  {routine : Routine}

/-- Where writing a body out for a routine starts from. -/
abbrev Emission.start (generator : Generator) (routine : Routine) : Emission :=
  { generator, names := (routine.names.take "entry").2, instructions := [] }

/-- A function that may get a body has none. -/
theorem blockless_of_accepted {defined : NameSet} {location : Option Location}
    (found : generator.routine? handle = some routine)
    (accepted : redefinitionFault? defined handle.symbol (generator.hasBody handle) location =
      none) : routine.block = none := by
  have without : generator.hasBody handle = false := by simp_all [redefinitionFault?]
  simpa [hasBody, found] using without

/-- A body that was not compiled was refused at once, or when it had been written out in part. -/
theorem defineBody_error {fault : Fault}
    (failed : defineBody session handle body parameters generator = .error fault after) :
    after = generator ∨ ∃ routine emission, generator.routine? handle = some routine ∧
      routine.block = none ∧
      emit session (parameters.zip routine.parameters) body (.start generator routine) =
        .error fault emission ∧
      after = emission.generator.withRoutine handle.unit
        { routine with
          names := emission.names
          block := remainder fault (routine.names.take "entry").1 emission.instructions } := by
  rw [defineBody, get_bind] at failed
  cases verdict : redefinitionFault? generator.defined handle.symbol (generator.hasBody handle)
      body.location with
  | some fault =>
    rw [verdict] at failed
    cases failed
    exact .inl rfl
  | none =>
    right
    rw [verdict] at failed
    cases found : generator.routine? handle with
    | none =>
      rw [found] at failed
      cases failed
    | some routine =>
      rw [found] at failed
      dsimp only at failed
      cases written : emit session (parameters.zip routine.parameters) body
          (.start generator routine) with
      | ok operand emission =>
        rw [written] at failed
        cases failed
      | error fault emission =>
        rw [written] at failed
        cases failed
        exact ⟨routine, emission, rfl, blockless_of_accepted found verdict, written, rfl⟩

end Inversion

/-! ## Attempts -/

section

variable {symbol : String} {body : Node} {parameters : List String} {function : Definition}
  {generator after : Generator} {fault : Fault}

/-- A body that is refused leaves declarations of recorded functions that it calls. -/
theorem defineBody_adds (sound : EveryModule Module.Sound generator) (earlier : generator.Earlier)
    (refused : fault.IsCompile)
    (failed : defineBody session ⟨generator.current.number, symbol⟩ body parameters generator =
      .error fault after) :
    Adds (Recalled session generator.current.symbol (body.calls.map Prod.fst)) generator after := by
  rcases defineBody_error failed with rfl | ⟨routine, emission, found, blockless, written, rfl⟩
  · exact .refl ..
  · obtain ⟨error, location, rfl⟩ := refused
    obtain ⟨module, goodModule, there⟩ := sound.of_routine? found
    obtain ⟨own, _⟩ := goodModule.of_get? there
    have adds := (emit_adds session _ body generator).of_error written (.refl ..)
    let dropped : Routine := { routine with
      names := emission.names
      block := remainder (.compile error location) (routine.names.take "entry").1
        emission.instructions }
    -- The routine without its block looks as it did before.
    have stands : emission.generator.current.routines.get? dropped.symbol = some routine := by
      have longer := (emit_keeps (fun prototype => lengthens_iff_keeps.mp
        (declare_lengthens session prototype) generator.routines) _ body).of_error written
        List.prefix_rfl
      have ownToo : dropped.symbol = symbol := own
      rw [ownToo]
      rw [routine?_current] at found
      exact Catalog.get?_of_prefix longer found
    have alike : dropped.held = routine.held := by
      simp only [Routine.held, Routine.arity, dropped, remainder, blockless]
    have outline := @outline_withRoutine _ _ generator.current.number _ stands alike
    have replaced := (adds.earlier earlier).withRoutine dropped
    rw [adds.number] at replaced
    constructor
    case same =>
      rw [replaced, adds.same]
    case number =>
      rw [replaced]
      exact adds.number
    case extended =>
      rw [outline]
      exact adds.extended

/-- The same for a body that was refused when its function had been declared. -/
theorem defineBody_adds_declared (sound : EveryModule Module.Sound generator)
    (earlier : generator.Earlier) {prototype : Prototype} {handle : Handle} {declared : Generator}
    (accepted : declare session prototype generator = .ok handle declared)
    (refused : fault.IsCompile)
    (failed : defineBody session handle body parameters declared = .error fault after) :
    Adds (Recalled session generator.current.symbol (body.calls.map Prod.fst)) declared after := by
  have handled := declare_handle session prototype generator
  rw [Ensures, accepted] at handled
  obtain ⟨rfl, number, _⟩ := handled
  have soundToo := (kept_sound.declares session prototype).of_ok accepted sound
  have earlierToo := (kept_earlier.declares session prototype).of_ok accepted earlier
  rw [← number] at failed
  have adds := defineBody_adds soundToo earlierToo refused failed
  rwa [Module.symbol_congr number] at adds

/-- A definition that is refused leaves such declarations and its own. -/
theorem define_adds (sound : EveryModule Module.Sound generator) (earlier : generator.Earlier)
    (refused : fault.IsCompile)
    (failed : define session function generator = .error fault after) :
    Adds (fun held => held = function.prototype.announced generator.current.symbol ∨
      Recalled session generator.current.symbol (function.body.calls.map Prod.fst) held)
      generator after := by
  have declares := declare_adds session function.prototype generator
  rcases bind_eq_error_iff.mp failed with undeclared | ⟨handle, declared, accepted, later⟩
  · change Generator.declare _ _ _ = _ at undeclared
    rw [Ensures, undeclared] at declares
    rw [declares]
    exact .refl ..
  · change Generator.declare _ _ _ = _ at accepted
    rw [Ensures, accepted] at declares
    rcases bind_eq_error_iff.mp later with bodies | ⟨_, _, _, impossible⟩
    · have adds := defineBody_adds_declared sound earlier accepted refused bodies
      exact (declares.imp fun _ => .inl).trans (adds.imp fun _ => .inr)
    · cases impossible

end

variable {attempt : Attempt} {before after : Generator} {fault : Fault}

/-- An attempt that is refused adds only declarations that it makes. -/
theorem run_adds (sound : EveryModule Module.Sound before) (earlier : before.Earlier)
    (within : attempt.IsWithin before.current.number) (refused : fault.IsCompile)
    (failed : attempt.run session before = .error fault after) :
    Adds (fun held => ∃ prototype, attempt.Declares session prototype ∧
      held = prototype.announced before.current.symbol) before after := by
  have recalls (held : Held (List String × Block))
      (recalled : Recalled session before.current.symbol attempt.callees held) :
      ∃ prototype, attempt.Declares session prototype ∧
        held = prototype.announced before.current.symbol := by
    obtain ⟨name, called, known, recorded, rfl⟩ := recalled
    exact ⟨known, .inr ⟨name, called, recorded⟩, rfl⟩
  cases attempt with
  | declare prototype =>
    rcases bind_eq_error_iff.mp failed with undeclared | ⟨_, _, _, impossible⟩
    · change Generator.declare _ _ _ = _ at undeclared
      have declares := declare_adds session prototype before
      rw [Ensures, undeclared] at declares
      rw [declares]
      exact .refl ..
    · cases impossible
  | define definition =>
    rcases bind_eq_error_iff.mp failed with undefined | ⟨_, _, _, impossible⟩
    · refine (define_adds sound earlier refused undefined).imp fun held kind => ?_
      rcases kind with rfl | recalled
      · exact ⟨definition.prototype, .inl rfl, rfl⟩
      · exact recalls held recalled
    · cases impossible
  | defineBody handle body parameters =>
    obtain ⟨unit, symbol⟩ := handle
    obtain rfl : unit = before.current.number := within
    exact (defineBody_adds sound earlier refused failed).imp recalls

/-- What is left of a refused attempt are declarations that it makes. -/
theorem leavesDeclarations (sound : EveryModule Module.Sound before) (earlier : before.Earlier)
    (within : attempt.IsWithin before.current.number) (refused : fault.IsCompile)
    (failed : attempt.run session before = .error fault after) :
    LeavesDeclarations session attempt before.current.symbol before after := by
  have adds := run_adds sound earlier within refused failed
  constructor
  case defined =>
    rw [adds.same]
    rfl
  case stock =>
    rw [adds.same]
    rfl
  case number => exact adds.number
  case opened => exact adds.extended

end Generator

end Reckon
