import Reckon.Proofs.Generator.Covering

/-!
# Trying a definition again

After a refused attempt the open module has more declarations than before. A definition that would
have been accepted before is accepted still. Its block makes the same calls and returns the same
value, so the unit that is handed off is like the one that would have been handed off without the
attempt. There is one exception: recorded functions whose symbols are the same in the open module.
-/

namespace Reckon

open Reckon.Action Instruction

/-- The session does not record two functions that the module knows by one symbol. Only the reserved
name and the symbol that is made of it can be mistaken for each other, and the latter is no word. -/
def Session.Unambiguous (session : Session) (module : Module) : Prop :=
  session.find? anonymousName = none ∨ session.find? (module.symbol anonymousName) = none

/-- Recorded functions are told apart by their symbols. -/
theorem Session.Unambiguous.eq_of_symbol {session : Session} {module : Module}
    (unambiguous : session.Unambiguous module) {known other : Prototype}
    (recorded : session.find? known.name = some known)
    (recordedToo : session.find? other.name = some other)
    (same : module.symbol known.name = module.symbol other.name) : known = other := by
  have absurd {known other : Prototype} (recorded : session.find? known.name = some known)
      (recordedToo : session.find? other.name = some other) (reserved : known.name = anonymousName)
      (same : module.symbol known.name = other.name) : False := by
    rw [reserved] at recorded same
    rw [← same] at recordedToo
    rcases unambiguous with missing | missing
    · rw [missing] at recorded
      cases recorded
    · rw [missing] at recordedToo
      cases recordedToo
  have names : known.name = other.name := by
    by_cases reserved : known.name = anonymousName
    · by_cases reservedToo : other.name = anonymousName
      · rw [reserved, reservedToo]
      · have plain : module.symbol other.name = other.name := if_neg reservedToo
        rw [plain] at same
        exact (absurd recorded recordedToo reserved same).elim
    · have plain : module.symbol known.name = known.name := if_neg reserved
      by_cases reservedToo : other.name = anonymousName
      · rw [plain] at same
        exact (absurd recordedToo recorded reservedToo same.symm).elim
      · rwa [plain, show module.symbol other.name = other.name from if_neg reservedToo] at same
  rw [← names, recorded] at recordedToo
  exact Option.some.inj recordedToo

namespace Generator

variable {session : Session} {left right : Generator}

/-! ## Bodies -/

/-- The block that was written out for a routine. -/
def Emission.block (emission : Emission) (routine : Routine) (operand : Operand) : Block where
  label := (routine.names.take "entry").1
  instructions := emission.instructions
  returned := some operand

/-- The routine with its block. -/
def Emission.completed (emission : Emission) (routine : Routine) (operand : Operand) : Routine :=
  { routine with names := emission.names, block := some (emission.block routine operand) }

/-- The generator with the completed routine in its open module. The function counts as defined. -/
def Emission.finished (emission : Emission) (routine : Routine) (operand : Operand) : Generator :=
  { emission.generator with
    current := emission.generator.current.withRoutine (emission.completed routine operand)
    defined := emission.generator.defined.insert routine.symbol }

section

variable {handle : Handle} {body : Node} {parameters : List String} {generator after : Generator}
  {routine : Routine} {operand : Operand} {emission : Emission}

/-- A body is compiled exactly if its function has none yet and it can be written out. -/
theorem defineBody_eq_ok_iff (found : generator.routine? handle = some routine) :
    defineBody session handle body parameters generator = .ok () after ↔
      redefinitionFault? generator.defined handle.symbol (generator.hasBody handle)
          body.location = none ∧
        ∃ operand emission,
          emit session (parameters.zip routine.parameters) body (.start generator routine) =
            .ok operand emission ∧
          after = { emission.generator.withRoutine handle.unit
              (emission.completed routine operand) with
            defined := emission.generator.defined.insert handle.symbol } := by
  rw [defineBody, get_bind]
  cases verdict : redefinitionFault? generator.defined handle.symbol (generator.hasBody handle)
      body.location with
  | some fault =>
    constructor
    · rintro ⟨⟩
    · rintro ⟨⟨⟩, _⟩
  | none =>
    rw [found]
    dsimp only
    cases written : emit session (parameters.zip routine.parameters) body
        (.start generator routine) with
    | ok operand emission =>
      constructor
      · rintro ⟨⟩
        exact ⟨rfl, operand, emission, rfl, rfl⟩
      · rintro ⟨_, _, _, ⟨⟩, rfl⟩
        rfl
    | error fault emission =>
      constructor
      · rintro ⟨⟩
      · rintro ⟨_, _, _, ⟨⟩, _⟩

/-- The block does what code does that denotes the body. -/
def Realizes (symbol : String → String) (parameters : List String) (body : Node)
    (registers : List String) (block : Block) : Prop :=
  ∃ code, Denotes symbol parameters body code ∧
    ∀ (m : Type → Type) [Monad m] [LawfulMonad m] (platform : Platform)
      (call : String → List Float → m Float) (arguments : List Float) (argument : Nat → m Float),
      arguments.length = registers.length → Supplies arguments argument →
      block.run platform call (registers.zip (arguments.map .double)) =
        code.run platform argument call

/-- Blocks for one body do the same. -/
theorem Realizes.bodiesAlike {symbol : String → String} {registers registersToo : List String}
    {block blockToo : Block} (realizes : Realizes symbol parameters body registers block)
    (realizesToo : Realizes symbol parameters body registersToo blockToo)
    (lengths : parameters.length = registers.length)
    (lengthsToo : parameters.length = registersToo.length)
    (returned : block.returned.isSome = blockToo.returned.isSome) :
    BodiesAlike (registers, block) (registersToo, blockToo) := by
  obtain ⟨code, denotes, runs⟩ := realizes
  obtain ⟨codeToo, denotesToo, runsToo⟩ := realizesToo
  refine .of_fitting (lengths.symm.trans lengthsToo) returned ?_
  intro m _ _ platform call arguments given
  let argument (position : Nat) : m Float := pure (arguments.getD position 0.0)
  have supplies : Supplies arguments argument := by
    intro position value there
    simp [argument, there]
  have fits : arguments.length = parameters.length := given.trans lengths.symm
  rw [runs m platform call arguments argument given supplies,
    runsToo m platform call arguments argument (fits.trans lengthsToo) supplies]
  apply eq_of_map_some
  rw [← denotes m platform call arguments argument fits supplies,
    ← denotesToo m platform call arguments argument fits supplies]

/-- The open module gets the completed routine, whose block realizes the body. -/
theorem defineBody_written (keyed : session.Keyed) (sound : EveryModule Module.Sound generator)
    (earlier : generator.Earlier)
    (found : generator.current.routines.get? routine.symbol = some routine)
    (fits : parameters.length = routine.arity)
    (accepted : redefinitionFault? generator.defined routine.symbol
      (generator.hasBody ⟨generator.current.number, routine.symbol⟩) body.location = none)
    (written : emit session (parameters.zip routine.parameters) body (.start generator routine) =
      .ok operand emission) :
    defineBody session ⟨generator.current.number, routine.symbol⟩ body parameters generator =
        .ok () (emission.finished routine operand) ∧
      emission.generator.current.number = generator.current.number ∧
      Realizes generator.current.symbol parameters body routine.parameters
        (emission.block routine operand) := by
  rw [← routine?_current] at found
  have adds := (emit_adds session _ body generator).of_ok written (.refl ..)
  have replaced := (adds.earlier earlier).withRoutine (emission.completed routine operand)
  rw [adds.number] at replaced
  have done := (defineBody_eq_ok_iff found).mpr ⟨accepted, operand, emission, written, rfl⟩
  dsimp only at done
  rw [replaced] at done
  change _ = EStateM.Result.ok () (emission.finished routine operand) at done
  obtain ⟨names, block, code, kept, _, denotes, runs⟩ :=
    defineBody_denotes keyed sound found fits done
  -- The routine that the handle names now is the one that was put in place.
  have stands : emission.completed routine operand =
      { routine with names, block := some block } := by
    have shown := (emission.finished routine operand).routine?_current routine.symbol
    change routine? _ ⟨emission.generator.current.number, routine.symbol⟩ = _ at shown
    rw [adds.number, kept] at shown
    exact (Option.some.inj (shown.trans (Catalog.get?_put_self ..))).symm
  obtain rfl : emission.block routine operand = block :=
    Option.some.inj (congrArg Routine.block stands)
  exact ⟨done, adds.number, code, denotes, runs⟩

end

/-- A body is accepted for a routine that looks the same. -/
theorem Covers.accepts (covers : Covers session left right) {routine other : Routine}
    (found : left.current.routines.get? routine.symbol = some routine)
    (foundToo : right.current.routines.get? routine.symbol = some other)
    (alike : other.held = routine.held) :
    redefinitionFault? right.defined routine.symbol
        (right.hasBody ⟨right.current.number, routine.symbol⟩) =
      redefinitionFault? left.defined routine.symbol
        (left.hasBody ⟨left.current.number, routine.symbol⟩) := by
  have blocks : other.block.isSome = routine.block.isSome := by
    have bodies := congrArg (fun function => function.body.isSome) alike
    simpa only [Routine.held, Option.isSome_map] using bodies
  have defined : right.defined = left.defined := by rw [covers.same]
  simp only [hasBody, routine?_current, found, foundToo, blocks, defined]

/-- A routine answers the same if it is completed in both open modules, with blocks that do the
same. -/
theorem Covers.answer?_finished {emission emissionToo : Emission}
    (covers : Covers session emission.generator emissionToo.generator) {routine other : Routine}
    (alike : other.held = routine.held) {operand operandToo : Operand}
    (bodies : BodiesAlike (routine.parameters, emission.block routine operand)
      (other.parameters, emissionToo.block other operandToo))
    (platform : Platform) (arguments : List Float) :
    answer? platform ⟨emission.generator.current.number, routine.symbol⟩ arguments
        (emissionToo.finished other operandToo) =
      answer? platform ⟨emission.generator.current.number, routine.symbol⟩ arguments
        (emission.finished routine operand) := by
  have named : other.symbol = routine.symbol := congrArg Held.name alike
  have arity : other.arity = routine.arity := congrArg Held.arity alike
  have completed : (emission.completed routine operand).held.Alike
      (emissionToo.completed other operandToo).held := ⟨named.symm, arity.symm, .some bodies⟩
  have same : emissionToo.finished other operandToo =
      { emission.finished routine operand with
        current := (emissionToo.finished other operandToo).current } := by
    simp only [Emission.finished, named]
    rw [covers.same]
  have stands : (emission.finished routine operand).current.routines.get? routine.symbol =
      some (emission.completed routine operand) := Catalog.get?_put_self ..
  have standsToo : (emissionToo.finished other operandToo).current.routines.get? routine.symbol =
      some (emissionToo.completed other operandToo) := by
    rw [← named]
    exact Catalog.get?_put_self ..
  have arities : ((emissionToo.finished other operandToo).current.routines.get? routine.symbol).map
        Routine.arity =
      ((emission.finished routine operand).current.routines.get? routine.symbol).map
        Routine.arity := by
    rw [stands, standsToo]
    exact congrArg some arity
  exact answer?_congr same covers.number (covers.share.bodies_withRoutine completed rfl) arities
    platform arguments

/-- A body that is compiled on the left is compiled on the right, and the function answers the
same. -/
theorem defineBody_mirrors (keyed : session.Keyed) (sound : EveryModule Module.Sound left)
    (soundToo : EveryModule Module.Sound right) (earlier : left.Earlier)
    (covers : Covers session left right) {symbol : String} {routine : Routine}
    (found : left.current.routines.get? symbol = some routine) {parameters : List String}
    (fits : parameters.length = routine.arity) {body : Node} {after : Generator}
    (done : defineBody session ⟨left.current.number, symbol⟩ body parameters left = .ok () after) :
    ∃ afterToo,
      defineBody session ⟨left.current.number, symbol⟩ body parameters right = .ok () afterToo ∧
      ∀ platform arguments,
        answer? platform ⟨left.current.number, symbol⟩ arguments afterToo =
          answer? platform ⟨left.current.number, symbol⟩ arguments after := by
  have there := found
  rw [← routine?_current] at there
  obtain ⟨module, goodModule, stands⟩ := sound.of_routine? there
  obtain ⟨rfl, _⟩ := goodModule.of_get? stands
  obtain ⟨other, foundToo, alike⟩ := covers.routine found
  have named : other.symbol = routine.symbol := congrArg Held.name alike
  have arity : other.arity = routine.arity := congrArg Held.arity alike
  have fitsToo : parameters.length = other.arity := fits.trans arity.symm
  obtain ⟨accepted, operand, emission, written, _⟩ := (defineBody_eq_ok_iff there).mp done
  have mirrors : Mirrors session (emit session (parameters.zip routine.parameters) body)
      (emit session (parameters.zip other.parameters) body)
      (.start left routine) (.start right other) :=
    emit_mirrors keyed (scopes_zip fits) (scopes_zip fitsToo) body covers
  obtain ⟨operandToo, emissionToo, writtenToo, coversToo⟩ := mirrors operand emission written
  have acceptedToo := accepted
  change redefinitionFault? left.defined routine.symbol
    (left.hasBody ⟨left.current.number, routine.symbol⟩) body.location = none at acceptedToo
  rw [← covers.accepts found foundToo alike, ← named] at acceptedToo
  rw [← named] at foundToo
  obtain ⟨doneLeft, number, realizes⟩ :=
    defineBody_written keyed sound earlier found fits accepted written
  obtain ⟨doneRight, _, realizesToo⟩ :=
    defineBody_written keyed soundToo (covers.earlier earlier) foundToo fitsToo acceptedToo
      writtenToo
  cases done.symm.trans doneLeft
  rw [covers.number, named] at doneRight
  rw [covers.symbol] at realizesToo
  have bodies := realizes.bodiesAlike realizesToo fits fitsToo rfl
  have answers := coversToo.answer?_finished alike bodies
  rw [number] at answers
  exact ⟨_, doneRight, answers⟩

/-! ## Attempts -/

variable {attempt : Attempt} {before after : Generator} {fault : Fault}

/-- Once the prototype of its function is declared, a refused attempt adds only declarations of
recorded functions. -/
theorem run_adds_declared (sound : EveryModule Module.Sound before) (earlier : before.Earlier)
    (within : attempt.IsWithin before.current.number) (refused : fault.IsCompile)
    (failed : attempt.run session before = .error fault after) {own : Prototype}
    (isOf : attempt.IsOf before own) {handle : Handle} {declared : Generator}
    (accepted : declare session own before = .ok handle declared) :
    Adds (Recalled session before.current.symbol attempt.callees) declared after := by
  cases attempt with
  | declare prototype =>
    obtain rfl : own = prototype := isOf
    rcases bind_eq_error_iff.mp failed with undeclared | ⟨_, _, _, impossible⟩
    · cases accepted.symm.trans undeclared
    · cases impossible
  | define definition =>
    obtain rfl : own = definition.prototype := isOf
    rcases bind_eq_error_iff.mp failed with undefined | ⟨_, _, _, impossible⟩
    · rcases bind_eq_error_iff.mp undefined with undeclared | ⟨_, _, acceptedToo, later⟩
      · cases accepted.symm.trans undeclared
      · cases accepted.symm.trans acceptedToo
        rcases bind_eq_error_iff.mp later with bodies | ⟨_, _, _, impossible⟩
        · exact defineBody_adds_declared sound earlier accepted refused bodies
        · cases impossible
    · cases impossible
  | defineBody given body parameters =>
    obtain ⟨unit, symbol⟩ := given
    obtain rfl : unit = before.current.number := within
    have there : Declarations.lookup before own.name = some ⟨before.current.number, symbol⟩ := isOf
    obtain ⟨_, rfl⟩ := (covering session).stands there accepted
    exact defineBody_adds sound earlier refused failed

/-- Declarations of recorded functions make a generator know more. -/
theorem Adds.covers (keyed : session.Keyed) (unambiguous : session.Unambiguous before.current)
    {names : List String} (sound : before.current.Sound) (soundToo : after.current.Sound)
    (adds : Adds (Recalled session before.current.symbol names) before after) :
    Covers session before after := by
  obtain ⟨more, outline, recalled⟩ := adds.extended
  have entries : after.current.display.entries = before.current.display.entries ++
      more.map fun function => (function.name, function) := by
    rw [sound.entries_display, soundToo.entries_display, ← List.map_append]
    exact congrArg _ outline
  constructor
  case same => exact adds.same
  case number => exact adds.number
  case share =>
    refine ⟨before.current.display.entries, .refl .., _, entries, fun entry member => ?_⟩
    obtain ⟨function, new, rfl⟩ := List.mem_map.mp member
    obtain ⟨_, _, _, _, rfl⟩ := recalled function new
    rfl
  case kept =>
    intro symbol function found
    exact Catalog.get?_of_prefix ⟨_, entries.symm⟩ found
  case added =>
    intro symbol absent function found known recorded named
    have member := Catalog.mem_of_find? found
    rw [entries] at member
    rcases List.mem_append.mp member with earlier | later
    · have listed : symbol ∈ before.current.display.keys := List.mem_map_of_mem earlier
      rw [← Catalog.get?_isSome_iff, absent] at listed
      cases listed
    · obtain ⟨_, new, ⟨⟩⟩ := List.mem_map.mp later
      obtain ⟨name, _, other, recordedToo, rfl⟩ := recalled _ new
      obtain rfl := keyed name other recordedToo
      rw [unambiguous.eq_of_symbol recorded recordedToo named]

/-- A definition may be tried again, unless symbols are mistaken for each other. -/
theorem mayBeRetried (keyed : session.Keyed) (unambiguous : session.Unambiguous before.current)
    (sound : EveryModule Module.Sound before) (earlier : before.Earlier)
    (within : attempt.IsWithin before.current.number) (refused : fault.IsCompile)
    (failed : attempt.run session before = .error fault after) :
    MayBeRetried session attempt before after := by
  intro again handle defined isOf done
  obtain ⟨_, declared, declares, rest⟩ := bind_eq_ok_iff.mp done
  change declare session again.prototype before = _ at declares
  obtain ⟨_, _, bodied, rest⟩ := bind_eq_ok_iff.mp rest
  cases rest
  obtain ⟨rfl, accepted, number, routine, found, arity⟩ := declare_stands declares
  rw [← number] at bodied ⊢
  rw [← Module.symbol_congr number] at found bodied ⊢
  have every := (kept_sound.declares session again.prototype).of_ok declares sound
  have everyToo := (attempt.run_keeps kept_sound).of_error failed sound
  have covers : Covers session declared after := by
    have adds := run_adds_declared sound earlier within refused failed isOf declares
    rw [← Module.symbol_congr number] at adds
    rw [Session.Unambiguous, ← Module.symbol_congr number] at unambiguous
    exact adds.covers keyed unambiguous (every _ List.mem_cons_self)
      (everyToo _ List.mem_cons_self)
  have declaresToo := covers.declare_present accepted found arity
  obtain ⟨definedToo, bodiedToo, answers⟩ := defineBody_mirrors keyed every everyToo
    ((kept_earlier.declares session again.prototype).of_ok declares earlier) covers found
    arity.symm bodied
  exact ⟨definedToo, (bind_ok declaresToo).trans (bind_ok bodiedToo), answers⟩

end Generator

end Reckon
