import Reckon.Proofs.Backend.Imitation
import Reckon.Proofs.Generator.Answers
import Reckon.Proofs.Generator.Leftovers

/-!
# Generators with more declarations

The open module of one generator may have declarations that another one lacks. If they are of
recorded functions they are what the other one would declare as well, as soon as a body calls the
functions. So whatever body the other one can write out can be written out here, in registers with
other names: names that were taken once stay taken, and the parameters of a declaration may be
called otherwise.
-/

namespace Reckon

open Reckon.Action Instruction

namespace Generator

variable {session : Session} {left right : Generator}

/-! ## Declarations -/

/-- What is accepted and in the open module already, with the same arity, stays as it is. -/
theorem declare_present {prototype : Prototype} {generator : Generator} {routine : Routine}
    (accepted : session.prototypeFault? prototype = none)
    (found : generator.current.routines.get? (generator.current.symbol prototype.name) =
      some routine) (arity : routine.arity = prototype.arity) :
    declare session prototype generator =
      .ok ⟨generator.current.number, generator.current.symbol prototype.name⟩ generator := by
  unfold declare
  rw [accepted, check, pure_bind, get_bind]
  simp only [found]
  rw [(declarationFault?_eq_none_iff prototype _).mpr arity, check, pure_bind]
  rfl

/-- What is accepted and not in the open module yet is put there without a block. -/
theorem declare_absent {prototype : Prototype} {generator : Generator}
    (accepted : session.prototypeFault? prototype = none)
    (absent : generator.current.routines.get? (generator.current.symbol prototype.name) = none)
    (named : generator.current.symbol prototype.name ≠ "") :
    declare session prototype generator =
      .ok ⟨generator.current.number, generator.current.symbol prototype.name⟩ { generator with
        current := generator.current.withRoutine
          (.declared (generator.current.symbol prototype.name) prototype.parameters) } := by
  unfold declare
  rw [accepted, check, pure_bind, get_bind]
  simp only [absent, if_neg named]
  rfl

/-- What accepting a prototype comes to. -/
theorem declare_cases {prototype : Prototype} {generator after : Generator} {handle : Handle}
    (done : declare session prototype generator = .ok handle after) :
    handle = ⟨generator.current.number, generator.current.symbol prototype.name⟩ ∧
      session.prototypeFault? prototype = none ∧
      ((∃ routine, generator.current.routines.get? (generator.current.symbol prototype.name) =
          some routine ∧ routine.arity = prototype.arity ∧ after = generator) ∨
        generator.current.routines.get? (generator.current.symbol prototype.name) = none ∧
          generator.current.symbol prototype.name ≠ "" ∧
          after = { generator with
            current := generator.current.withRoutine
              (.declared (generator.current.symbol prototype.name) prototype.parameters) }) := by
  cases verdict : session.prototypeFault? prototype with
  | some fault =>
    rw [declare, verdict] at done
    cases done
  | none =>
    cases found : generator.current.routines.get? (generator.current.symbol prototype.name) with
    | some routine =>
      by_cases arity : routine.arity = prototype.arity
      · rw [declare_present verdict found arity] at done
        cases done
        exact ⟨rfl, rfl, .inl ⟨routine, rfl, arity, rfl⟩⟩
      · rw [declare, verdict, check, pure_bind, get_bind] at done
        simp only [found, declarationFault?, if_neg arity] at done
        cases done
    | none =>
      by_cases named : generator.current.symbol prototype.name = ""
      · rw [declare, verdict, check, pure_bind, get_bind] at done
        simp only [found, if_pos named] at done
        cases done
      · rw [declare_absent verdict found named] at done
        cases done
        exact ⟨rfl, rfl, .inr ⟨rfl, named, rfl⟩⟩

/-- A prototype that was accepted stands in the open module with its arity. -/
theorem declare_stands {prototype : Prototype} {generator after : Generator} {handle : Handle}
    (done : declare session prototype generator = .ok handle after) :
    handle = ⟨generator.current.number, generator.current.symbol prototype.name⟩ ∧
      session.prototypeFault? prototype = none ∧
      after.current.number = generator.current.number ∧
      ∃ routine, after.current.routines.get? (generator.current.symbol prototype.name) =
        some routine ∧ routine.arity = prototype.arity := by
  obtain ⟨handle, accepted, ⟨routine, found, arity, rfl⟩ | ⟨_, _, rfl⟩⟩ := declare_cases done
  · exact ⟨handle, accepted, rfl, routine, found, arity⟩
  · exact ⟨handle, accepted, rfl, _, Catalog.get?_put_self .., Routine.arity_declared ..⟩

/-- A declaration that comes in stands behind all functions. -/
theorem extended_withRoutine {module : Module} {routine : Routine}
    (blockless : routine.block = none) (absent : module.display.get? routine.symbol = none) :
    Extended (fun entry => entry.2.body = none) module.display.entries
      (module.withRoutine routine).display.entries := by
  rw [Module.display_withRoutine, Catalog.entries_put_of_none absent]
  refine .snoc ?_ _
  rw [Routine.held, blockless]
  rfl

/-- The right generator has more declarations in its open module than the left one. Those that only
the right one has are of recorded functions, if a recorded function has their symbol. -/
structure Covers (session : Session) (left right : Generator) : Prop where
  same : right = { left with current := right.current }
  number : right.current.number = left.current.number
  share : left.current.Share right.current
  kept (symbol : String) (function : Held (List String × Block))
    (found : left.current.display.get? symbol = some function) :
    right.current.display.get? symbol = some function
  added (symbol : String) (absent : left.current.display.get? symbol = none)
    (function : Held (List String × Block))
    (found : right.current.display.get? symbol = some function) (known : Prototype)
    (recorded : session.find? known.name = some known)
    (named : left.current.symbol known.name = symbol) :
    function = known.announced left.current.symbol

namespace Covers

/-- Both generators use the same symbols. -/
theorem symbol (covers : Covers session left right) :
    right.current.symbol = left.current.symbol :=
  Module.symbol_congr covers.number

/-- Numbers that are smaller than that of the open module are so on both sides. -/
theorem earlier (covers : Covers session left right) (earlier : left.Earlier) : right.Earlier := by
  intro closed member
  rw [covers.number]
  rw [covers.same] at member
  exact earlier closed member

/-- A routine of the left open module looks the same in the right one. -/
theorem routine (covers : Covers session left right) {symbol : String} {routine : Routine}
    (found : left.current.routines.get? symbol = some routine) :
    ∃ other, right.current.routines.get? symbol = some other ∧ other.held = routine.held := by
  have shown : left.current.display.get? symbol = some routine.held := by
    rw [Module.get?_display, found]
    rfl
  have shownToo := covers.kept symbol _ shown
  rw [Module.get?_display] at shownToo
  exact Option.map_eq_some_iff.mp shownToo

/-- A function that the left open module has is declared in the right one already. -/
theorem declare_present (covers : Covers session left right) {prototype : Prototype}
    {routine : Routine} (accepted : session.prototypeFault? prototype = none)
    (found : left.current.routines.get? (left.current.symbol prototype.name) = some routine)
    (arity : routine.arity = prototype.arity) :
    declare session prototype right =
      .ok ⟨left.current.number, left.current.symbol prototype.name⟩ right := by
  obtain ⟨other, foundToo, alike⟩ := covers.routine found
  have arityToo : other.arity = prototype.arity := (congrArg Held.arity alike).trans arity
  rw [← covers.symbol] at foundToo
  rw [Generator.declare_present accepted foundToo arityToo, covers.symbol, covers.number]

/-- The same declaration comes into both open modules. -/
theorem put (covers : Covers session left right) {routine : Routine}
    (blockless : routine.block = none)
    (absent : left.current.display.get? routine.symbol = none)
    (absentToo : right.current.display.get? routine.symbol = none) :
    Covers session { left with current := left.current.withRoutine routine }
      { right with current := right.current.withRoutine routine } := by
  obtain ⟨front, extended, extendedToo⟩ := covers.share
  constructor
  case same => rw [covers.same]
  case number => exact covers.number
  case share =>
    exact ⟨front, extended.trans (extended_withRoutine blockless absent),
      extendedToo.trans (extended_withRoutine blockless absentToo)⟩
  all_goals simp only [Module.display_withRoutine, Catalog.get?_put]
  case kept =>
    intro symbol function found
    split at found
    · rename_i same
      rwa [if_pos same]
    · rename_i differs
      rw [if_neg differs]
      exact covers.kept symbol function found
  case added =>
    intro symbol missing function found
    split at missing
    · cases missing
    · rename_i differs
      rw [if_neg differs] at found
      exact covers.added symbol missing function found

/-- A declaration that only the right open module had comes into the left one. -/
theorem catchUp (covers : Covers session left right) {routine : Routine}
    (blockless : routine.block = none)
    (absent : left.current.display.get? routine.symbol = none)
    (found : right.current.display.get? routine.symbol = some routine.held) :
    Covers session { left with current := left.current.withRoutine routine } right := by
  obtain ⟨front, extended, extendedToo⟩ := covers.share
  constructor
  case same => rw [covers.same]
  case number => exact covers.number
  case share =>
    exact ⟨front, extended.trans (extended_withRoutine blockless absent), extendedToo⟩
  all_goals simp only [Module.display_withRoutine, Catalog.get?_put]
  case kept =>
    intro symbol function standing
    split at standing
    · rename_i same
      subst same
      cases standing
      exact found
    · exact covers.kept symbol function standing
  case added =>
    intro symbol missing function standing
    split at missing
    · cases missing
    · exact covers.added symbol missing function standing

end Covers

/-- A generator whose open module has more declarations finds the same functions, as long as they
are recorded. -/
theorem covering (session : Session) :
    Covering session (fun known => session.find? known.name = some known) (Covers session) := by
  constructor
  case found =>
    intro left right covers name handle there
    rw [lookup_eq] at there ⊢
    obtain ⟨routine, found, rfl⟩ := Option.map_eq_some_iff.mp there
    obtain ⟨other, foundToo, alike⟩ := covers.routine found
    have arity : other.arity = routine.arity := congrArg Held.arity alike
    rw [covers.symbol, covers.number, foundToo]
    refine ⟨rfl, ?_⟩
    change right.arityOf _ = left.arityOf _
    rw [arityOf_current found, ← covers.number, arityOf_current foundToo, arity]
  case declare =>
    intro left right covers prototype recorded handle after done
    change declare session prototype left = _ at done
    obtain ⟨rfl, accepted, ⟨routine, found, arity, rfl⟩ | ⟨absent, named, rfl⟩⟩ :=
      declare_cases done
    · have stands := covers.declare_present accepted found arity
      refine ⟨_, _, stands, rfl, covers, ?_⟩
      rw [lookup_eq, found]
      rfl
    · let routine : Routine :=
        .declared (left.current.symbol prototype.name) prototype.parameters
      have held : routine.held = prototype.announced left.current.symbol :=
        held_declared left.current prototype
      have missing : left.current.display.get? routine.symbol = none := by
        rw [Module.get?_display]
        exact Option.map_eq_none_iff.mpr absent
      have looked : Declarations.lookup
          { left with current := left.current.withRoutine routine } prototype.name =
            some ⟨left.current.number, left.current.symbol prototype.name⟩ := by
        rw [lookup_eq]
        exact congrArg (Option.map _) (Catalog.get?_put_self ..)
      cases standing : right.current.routines.get? (left.current.symbol prototype.name) with
      | none =>
        have missingToo : right.current.display.get? routine.symbol = none := by
          rw [Module.get?_display]
          exact Option.map_eq_none_iff.mpr standing
        have declares := declare_absent accepted (covers.symbol ▸ standing)
          (covers.symbol ▸ named)
        rw [covers.symbol, covers.number] at declares
        exact ⟨_, _, declares, rfl, covers.put rfl missing missingToo, looked⟩
      | some other =>
        have shown : right.current.display.get? routine.symbol = some other.held := by
          rw [Module.get?_display]
          exact congrArg (Option.map _) standing
        have alike := covers.added _ missing _ shown prototype recorded rfl
        have arity : other.arity = prototype.arity := congrArg Held.arity alike
        have declares := declare_present accepted (covers.symbol ▸ standing) arity
        rw [covers.symbol, covers.number] at declares
        rw [alike, ← held] at shown
        exact ⟨_, _, declares, rfl, covers.catchUp rfl missing shown, looked⟩
  case stands =>
    intro state after prototype handle given there done
    rw [lookup_eq] at there
    obtain ⟨routine, found, rfl⟩ := Option.map_eq_some_iff.mp there
    change declare session prototype state = _ at done
    obtain ⟨rfl, _, ⟨_, _, _, rfl⟩ | ⟨absent, _⟩⟩ := declare_cases done
    · exact ⟨rfl, rfl⟩
    · rw [absent] at found
      cases found

/-! ## Bodies -/

variable {before other : Emission}

/-- The right block is written out if the left one is, with whatever operands, and the right
generator stays ahead. -/
abbrev Mirrors {α : Type} (session : Session) (action actionToo : Emit α)
    (before other : Emission) : Prop :=
  Imitates action actionToo before other fun _ after _ afterToo =>
    Covers session after.generator afterToo.generator

/-- What parts of the generators do alike they do alike while blocks are written. -/
theorem generating_imitates {α : Type} {action actionToo : Action Generator α}
    {related : α → Generator → α → Generator → Prop}
    (imitates : Imitates action actionToo before.generator other.generator related) :
    Imitates (generating action) (generating actionToo) before other
      fun value after valueToo afterToo =>
        related value after.generator valueToo afterToo.generator := by
  intro value after done
  obtain ⟨generator, ended, rfl⟩ := generating_ok done
  obtain ⟨valueToo, generatorToo, endedToo, holds⟩ := imitates value generator ended
  refine ⟨valueToo, { other with generator := generatorToo }, ?_, holds⟩
  rw [generating, endedToo]

/-- Any instruction that is appended on the left is one on the right as well. -/
theorem append_mirrors (covers : Covers session before.generator other.generator)
    (wanted : String) (instruction instructionToo : String → Instruction) :
    Mirrors session (append wanted instruction) (append wanted instructionToo) before other := by
  rintro _ _ ⟨⟩
  exact ⟨_, _, rfl, covers⟩

/-- So is any operation, whatever its operands are. -/
theorem emitOperation_mirrors (covers : Covers session before.generator other.generator)
    (operation : Operation) (left right leftToo rightToo : Operand) :
    Mirrors session (emitOperation operation left right)
      (emitOperation operation leftToo rightToo) before other := by
  cases operation with
  | arithmetic kind =>
    apply (append_mirrors covers _ _ _).bind
    intro _ after _ afterToo covers
    exact imitates_pure covers
  | below =>
    apply (append_mirrors covers _ _ _).bind
    intro bit middle bitToo middleToo covers
    apply (append_mirrors covers _ _ _).bind
    intro _ after _ afterToo covers
    exact imitates_pure covers

/-- If each body is written out on both sides, so is a row of bodies. -/
theorem emitAll_mirrors {scope scopeToo : List (String × String)} {nodes : List Node}
    (each : ∀ node ∈ nodes, ∀ before other, Covers session before.generator other.generator →
      Mirrors session (emit session scope node) (emit session scopeToo node) before other)
    (covers : Covers session before.generator other.generator) :
    Mirrors session (emitAll session scope nodes) (emitAll session scopeToo nodes)
      before other := by
  induction nodes generalizing before other with
  | nil =>
    rw [emitAll, emitAll]
    exact imitates_pure covers
  | cons node rest inductionHypothesis =>
    obtain ⟨itself, others⟩ := List.forall_mem_cons.mp each
    rw [emitAll, emitAll]
    apply (itself before other covers).bind
    intro operand middle operandToo middleToo covers
    apply (inductionHypothesis others covers).bind
    intro operands after operandsToo afterToo covers
    exact imitates_pure covers

/-- A body that is written out on the left is written out on the right, for the same parameters in
other registers. -/
theorem emit_mirrors (keyed : session.Keyed) {parameters registers registersToo : List String}
    {scope scopeToo : List (String × String)} (scopes : Scopes parameters registers scope)
    (scopesToo : Scopes parameters registersToo scopeToo) (node : Node)
    (covers : Covers session before.generator other.generator) :
    Mirrors session (emit session scope node) (emit session scopeToo node) before other := by
  induction node using Node.byParts generalizing before other with
  | number value location =>
    rw [emit, emit]
    exact imitates_pure covers
  | reference name location =>
    rw [emit, emit]
    have paired := scopes name
    have pairedToo := scopesToo name
    cases found : Evaluator.position? name parameters with
    | none =>
      rw [found] at paired
      rw [paired]
      exact imitates_throw _
    | some position =>
      rw [found] at paired pairedToo
      obtain ⟨register, _, finds⟩ := paired
      obtain ⟨registerToo, _, findsToo⟩ := pairedToo
      rw [finds, findsToo]
      exact imitates_pure covers
  | binary operator left right location inLeft inRight =>
    rw [emit, emit]
    apply (inLeft covers).bind
    intro leftOperand middle leftOperandToo middleToo covers
    apply (inRight covers).bind
    intro rightOperand after rightOperandToo afterToo covers
    cases Operation.ofOperator? operator with
    | some operation => exact emitOperation_mirrors covers operation _ _ _ _
    | none => exact imitates_throw _
  | call callee arguments location each =>
    have recorded (name : String) (known : Prototype) (finds : session.find? name = some known) :
        known.name = name ∧ session.find? known.name = some known := by
      obtain rfl := keyed name known finds
      exact ⟨rfl, finds⟩
    rw [emit, emit]
    apply (generating_imitates ((covering session).resolve recorded covers callee)).bind
    intro found middle foundToo middleToo means
    cases found with
    | none => exact imitates_throw _
    | some handle =>
      obtain ⟨rfl, covers, arity⟩ := means handle rfl
      change middleToo.generator.arityOf handle = middle.generator.arityOf handle at arity
      apply imitates_get
      dsimp only
      rw [arity]
      split
      · apply (emitAll_mirrors (fun node member _ _ => each node member) covers).bind
        intro operands after operandsToo afterToo covers
        apply (append_mirrors covers _ _ _).bind
        intro _ last _ lastToo covers
        exact imitates_pure covers
      · exact imitates_throw _
  | prototype header =>
    rw [emit]
    exact imitates_throw _
  | definition header body location =>
    rw [emit]
    exact imitates_throw _

end Generator

end Reckon
