import Reckon.Proofs.Backend.Attempts
import Reckon.Proofs.Generator.Reachability
import Reckon.Proofs.Generator.Stock
import Reckon.Proofs.Linker.Likeness
import Reckon.Proofs.Pairing.Units

/-!
# What a module answers

Only the functions with a body count when a module is handed off: whether one of them does not
return decides if the module is refused, and the unit is made of them. So modules whose functions
with a body correspond, one by one and in order, are both accepted or both refused, and a function
of theirs answers the same.
-/

namespace Reckon

open Reckon.Action Instruction

/-! ## Functions that correspond -/

/-- Functions of one name and arity. Neither has a body, or both do and the bodies do the same. -/
structure Held.Alike (function other : Held (List String × Block)) : Prop where
  name : function.name = other.name
  arity : function.arity = other.arity
  body : Option.Rel BodiesAlike function.body other.body

namespace Held.Alike

variable {function other : Held (List String × Block)}

/-- A function is like itself. -/
theorem refl (function : Held (List String × Block)) : function.Alike function := by
  refine ⟨rfl, rfl, ?_⟩
  cases function.body with
  | none => exact .none
  | some body => exact .some (.refl body)

/-- What bodies that do the same have in common. -/
theorem map_body_eq (alike : function.Alike other) {γ : Type} {look : List String × Block → γ}
    (same : ∀ body bodyToo, BodiesAlike body bodyToo → look body = look bodyToo) :
    function.body.map look = other.body.map look := by
  obtain ⟨_, _, bodies⟩ := alike
  generalize function.body = body? at bodies
  generalize other.body = bodyToo? at bodies
  cases bodies with
  | none => rfl
  | some alike => exact congrArg some (same _ _ alike)

/-- Neither function has a body, or both do. -/
theorem isSome_eq (alike : function.Alike other) : function.body.isSome = other.body.isSome := by
  have same : function.body.map (fun _ => ()) = other.body.map fun _ => () :=
    alike.map_body_eq fun _ _ _ => rfl
  simpa using congrArg Option.isSome same

end Held.Alike

/-- The functions of a module by their symbols, as they look from outside. -/
def Module.display (module : Module) : Catalog String (Held (List String × Block)) :=
  module.routines.map Routine.held

namespace Module

variable {module : Module}

/-- What a module shows under a symbol is its routine there, looked at from outside. -/
theorem get?_display (module : Module) (symbol : String) :
    module.display.get? symbol = (module.routines.get? symbol).map Routine.held :=
  Catalog.get?_map ..

/-- To replace a routine is to replace what the module shows for it. -/
theorem display_withRoutine (module : Module) (routine : Routine) :
    (module.withRoutine routine).display = module.display.put routine.symbol routine.held :=
  Catalog.map_put ..

/-- The functions with a body, each with its symbol. -/
theorem bodies_eq (module : Module) :
    module.shelved.bodies =
      (module.display.entries.filter (·.2.body.isSome)).map Prod.snd := by
  have functions : module.shelved.functions = module.display.entries.map Prod.snd := by
    simp only [shelved, display, Catalog.values, Catalog.map, List.map_map]
    rfl
  rw [Shelved.bodies, functions, List.filter_map]
  rfl

/-- In a sound module functions stand under their own names. -/
theorem Sound.entries_display (sound : module.Sound) :
    module.display.entries =
      module.shelved.functions.map fun function => (function.name, function) := by
  simp only [shelved, display, Catalog.values, Catalog.map, List.map_map]
  refine List.map_congr_left fun entry member => ?_
  rw [← (sound entry member).1]
  rfl

end Module

/-! ## Completing a function -/

/-- What is filed under one key in two catalogs that start alike. -/
theorem Catalog.forall₂_file {κ α : Type} [DecidableEq κ] {related : α → α → Prop}
    (refl : ∀ value, related value value) {value other : α} (holds : related value other)
    (key : κ) (entries : List (κ × α)) :
    List.Forall₂ (fun entry entryToo => related entry.2 entryToo.2)
      (file key value entries) (file key other entries) := by
  have same (entries : List (κ × α)) :
      List.Forall₂ (fun entry entryToo : κ × α => related entry.2 entryToo.2) entries entries :=
    List.forall₂_same.mpr fun entry _ => refl entry.2
  induction entries with
  | nil => exact .cons holds .nil
  | cons first rest inductionHypothesis =>
    rw [file, file]
    split
    · exact .cons holds (same rest)
    · exact .cons (refl first.2) inductionHypothesis

/-- Two modules start with the same functions, and have only declarations behind them. -/
def Module.Share (module other : Module) : Prop :=
  ∃ front, Extended (fun entry => entry.2.body = none) front module.display.entries ∧
    Extended (fun entry => entry.2.body = none) front other.display.entries

/-- Modules that start alike have functions with a body that correspond, after one function has
got bodies that do the same. -/
theorem Module.Share.bodies_withRoutine {module other : Module} (share : module.Share other)
    {routine routineToo : Routine} (alike : routine.held.Alike routineToo.held)
    (complete : routine.block.isSome = true) :
    List.Forall₂ Held.Alike (module.withRoutine routine).shelved.bodies
      (other.withRoutine routineToo).shelved.bodies := by
  obtain ⟨front, ⟨tail, entries, bodyless⟩, ⟨tailToo, entriesToo, bodylessToo⟩⟩ := share
  let bodied (entry : String × Held (List String × Block)) : Bool := entry.2.body.isSome
  have nothing (tail : List (String × Held (List String × Block)))
      (bodyless : ∀ entry ∈ tail, entry.2.body = none) : tail.filter bodied = [] :=
    List.filter_eq_nil_iff.mpr fun entry member => by simp [bodied, bodyless entry member]
  have alone (tail : List (String × Held (List String × Block)))
      (bodyless : ∀ entry ∈ tail, entry.2.body = none) (function : Held (List String × Block))
      (has : function.body.isSome = true) :
      (Catalog.file routine.symbol function tail).filter bodied = [(routine.symbol, function)] :=
    Catalog.filter_entries_put (·.body.isSome) ⟨tail⟩ routine.symbol has
      fun entry member => by simp [bodyless entry member]
  have has : routine.held.body.isSome = true := by rwa [Routine.held, Option.isSome_map]
  have hasToo : routineToo.held.body.isSome = true := alike.isSome_eq ▸ has
  have named : routineToo.symbol = routine.symbol := alike.name.symm
  rw [Module.bodies_eq, Module.bodies_eq, Module.display_withRoutine, Module.display_withRoutine,
    named, List.forall₂_map_left_iff, List.forall₂_map_right_iff]
  simp only [Catalog.put, entries, entriesToo, Catalog.file_append]
  by_cases listed : routine.symbol ∈ front.map Prod.fst
  · rw [if_pos listed, if_pos listed, List.filter_append, List.filter_append, nothing _ bodyless,
      nothing _ bodylessToo, List.append_nil, List.append_nil]
    apply List.rel_filter _ (Catalog.forall₂_file .refl alike routine.symbol front)
    intro entry entryToo alike
    change entry.2.body.isSome = true ↔ entryToo.2.body.isSome = true
    rw [alike.isSome_eq]
  · rw [if_neg listed, if_neg listed, List.filter_append, List.filter_append,
      alone _ bodyless _ has, alone _ bodylessToo _ hasToo]
    exact List.rel_append (List.forall₂_same.mpr fun entry _ => .refl entry.2) (.cons alike .nil)

/-! ## Units -/

namespace CompiledUnit

/-- The block that a unit has for a symbol is the body that its routine shows. -/
theorem block?_eq (unit : CompiledUnit) (symbol : String) :
    unit.block? symbol =
      (unit.routines.find? (·.symbol = symbol)).bind fun routine => routine.held.body := by
  unfold block?
  refine Option.bind_congr fun routine _ => ?_
  unfold Routine.held
  cases routine.block <;> rfl

/-- Looking for a symbol among routines that correspond finds bodies that do the same. -/
theorem find?_alike {routines others : List Routine}
    (alike : List.Forall₂ (fun routine other : Routine => routine.held.Alike other.held)
      routines others) (symbol : String) :
    Option.Rel BodiesAlike
      ((routines.find? (·.symbol = symbol)).bind fun routine => routine.held.body)
      ((others.find? (·.symbol = symbol)).bind fun routine => routine.held.body) := by
  induction alike with
  | nil => exact .none
  | @cons routine other _ _ first _ inductionHypothesis =>
    have own : routine.symbol = other.symbol := first.name
    rw [List.find?_cons, List.find?_cons, own]
    cases decide (other.symbol = symbol) with
    | true => exact first.body
    | false => exact inductionHypothesis

/-- Units are alike if their functions with a body correspond. -/
theorem ofRoutines_alike {number level : Nat} {routines others : List Routine}
    (bodies : List.Forall₂ Held.Alike ((routines.map Routine.held).filter (·.body.isSome))
      ((others.map Routine.held).filter (·.body.isSome))) :
    Alike (ofRoutines number level routines) (ofRoutines number level others) := by
  have complete (routines : List Routine) :
      (routines.map Routine.held).filter (·.body.isSome) =
        (routines.filter (·.block.isSome)).map Routine.held := by
    rw [List.filter_map]
    congr 2
    funext routine
    exact Option.isSome_map
  rw [complete, complete, List.forall₂_map_left_iff, List.forall₂_map_right_iff] at bodies
  have symbols : (routines.filter (·.block.isSome)).map (·.symbol) =
      (others.filter (·.block.isSome)).map (·.symbol) :=
    map_eq_of_forall₂ bodies fun _ _ alike => alike.name
  have callees : (routines.filter (·.block.isSome)).map
        (fun routine => (routine.block.map Block.callees).getD []) =
      (others.filter (·.block.isSome)).map
        (fun routine => (routine.block.map Block.callees).getD []) := by
    refine map_eq_of_forall₂ bodies fun routine other alike => ?_
    have same := alike.map_body_eq fun _ _ => BodiesAlike.callees
    rw [Routine.held, Routine.held, Option.map_map, Option.map_map] at same
    exact congrArg (Option.getD · []) same
  constructor
  case same => simp only [ofRoutines, symbols, List.flatMap_def, callees]
  case blocks =>
    intro symbol
    rw [block?_eq, block?_eq]
    exact find?_alike bodies symbol

end CompiledUnit

/-- Actions that agree, with the same values, answer the same. -/
theorem Action.Agree.answer_eq {σ τ α : Type} {left : EStateM Fault σ α} {right : EStateM Fault τ α}
    {state : σ} {other : τ} {good : α → σ → α → τ → Prop} {bad : σ → τ → Prop}
    (agree : Agree left right state other good bad)
    (values : ∀ value after valueToo afterToo, good value after valueToo afterToo →
      value = valueToo) : answer left state = answer right other := by
  unfold Agree at agree
  unfold answer
  cases ended : left state <;> cases endedToo : right other <;> rw [ended, endedToo] at agree
  case ok.ok => exact congrArg Except.ok (values _ _ _ _ agree)
  case error.error => exact congrArg Except.error agree.1
  all_goals exact agree.elim

namespace Generator

/-- A module is accepted if modules are, and none of its bodies is without a result. -/
theorem refusalOf?_eq_none_iff (generator : Generator) (module : Module) :
    generator.refusalOf? module = none ↔ generator.refusal = none ∧
      some false ∉ module.shelved.bodies.map fun function =>
        function.body.map (·.2.returned.isSome) := by
  unfold refusalOf?
  cases generator.refusal with
  | some reason => simp
  | none =>
    simp only [Option.map_eq_none_iff, incompleteLine?_eq_none_iff, true_and]
    constructor
    · intro complete member
      obtain ⟨function, among, unfinished⟩ := List.mem_map.mp member
      obtain ⟨routine, there, rfl⟩ := List.mem_map.mp (List.mem_filter.mp among).1
      obtain ⟨body, held, missing⟩ := Option.map_eq_some_iff.mp unfinished
      obtain ⟨block, stands, rfl⟩ := Option.map_eq_some_iff.mp held
      exact complete routine there block stands (by simpa using missing)
    · intro complete routine there block stands missing
      refine complete (List.mem_map.mpr ⟨routine.held, List.mem_filter.mpr ⟨?_, ?_⟩, ?_⟩)
      · exact List.mem_map_of_mem there
      · simp [Routine.held, stands]
      · simp [Routine.held, stands, missing]

/-- What a function answers when the open module has been handed off. -/
theorem answer?_eq (platform : Platform) (handle : Handle) (arguments : List Float)
    (generator : Generator) :
    answer? platform handle arguments generator =
      if generator.refusalOf? generator.current = none then
        some (answer (execute platform handle arguments) generator.delivered)
      else none := by
  unfold answer?
  cases verdict : generator.refusalOf? generator.current with
  | none =>
    have handed : Backend.handOff generator = .ok generator.current.number generator.delivered := by
      change handOff generator = _
      rw [handOff, get_bind, verdict]
      rfl
    rw [handed, if_pos rfl]
    rfl
  | some reason =>
    obtain ⟨fault, after, handed⟩ :
        ∃ fault after, Backend.handOff generator = .error fault after := by
      change ∃ fault after, handOff generator = .error fault after
      rw [handOff, get_bind, verdict]
      exact ⟨_, _, rfl⟩
    rw [handed, if_neg (Option.some_ne_none reason)]

/-- Running a function asks for its arity and for what the linker answers. -/
theorem answer_execute (platform : Platform) (handle : Handle) (arguments : List Float)
    (generator : Generator) :
    answer (execute platform handle arguments) generator =
      if arguments.length = generator.arityOf handle then
        answer (Linker.call platform handle.symbol arguments) generator.linker
      else .error (.compile
        (.arityMismatch handle.symbol (generator.arityOf handle) arguments.length) none) := by
  unfold answer execute
  rw [get_bind]
  by_cases given : arguments.length = generator.arityOf handle
  · rw [if_pos given, if_pos given, linking]
    cases Linker.call platform handle.symbol arguments generator.linker <;> rfl
  · rw [if_neg given, if_neg given]
    rfl

/-- Handles of the open module find its routines when it is handed off, unless a module with the
same number was before. -/
theorem routine?_delivered (generator : Generator) (symbol : String) :
    generator.delivered.routine? ⟨generator.current.number, symbol⟩ =
      ((generator.closed.find? (·.number = generator.current.number)).getD generator.current
        ).routines.get? symbol := by
  have found : generator.delivered.module? generator.current.number =
      some ((generator.closed.find? (·.number = generator.current.number)).getD
        generator.current) := by
    simp only [module?, delivered, Module.opened]
    rw [List.find?_cons, List.find?_append]
    cases generator.closed.find? (·.number = generator.current.number) <;> simp
  rw [routine?, found]
  rfl

/-- **Modules whose functions with a body correspond answer the same.** -/
theorem answer?_congr {left right : Generator}
    (same : right = { left with current := right.current })
    (number : right.current.number = left.current.number)
    (bodies : List.Forall₂ Held.Alike left.current.shelved.bodies right.current.shelved.bodies)
    {symbol : String}
    (arity : (right.current.routines.get? symbol).map Routine.arity =
      (left.current.routines.get? symbol).map Routine.arity)
    (platform : Platform) (arguments : List Float) :
    answer? platform ⟨left.current.number, symbol⟩ arguments right =
      answer? platform ⟨left.current.number, symbol⟩ arguments left := by
  have accepted : right.refusalOf? right.current = none ↔ left.refusalOf? left.current = none := by
    have returned := map_eq_of_forall₂ bodies fun _ _ alike =>
      alike.map_body_eq fun _ _ => BodiesAlike.returned
    rw [refusalOf?_eq_none_iff, refusalOf?_eq_none_iff, returned, same]
  have linkers : Linker.Resembles left.delivered.linker right.delivered.linker := by
    have units : CompiledUnit.Alike
        (.ofRoutines left.current.number left.level left.current.routines.values)
        (.ofRoutines left.current.number left.level right.current.routines.values) :=
      CompiledUnit.ofRoutines_alike bodies
    have alike := (Linker.Resembles.refl left.linker).add units
    simp only [delivered, number]
    rw [same]
    exact alike
  have arities : right.delivered.arityOf ⟨left.current.number, symbol⟩ =
      left.delivered.arityOf ⟨left.current.number, symbol⟩ := by
    have foundToo := right.routine?_delivered symbol
    rw [number] at foundToo
    unfold arityOf
    rw [foundToo, routine?_delivered, same]
    cases left.closed.find? (·.number = left.current.number) with
    | some module => rfl
    | none =>
      rcases both_of_map_eq arity with
        ⟨absent, absentToo⟩ | ⟨routine, other, there, thereToo, alike⟩
      · simp only [Option.getD_none, absent, absentToo]
      · simp only [Option.getD_none, there, thereToo, alike]
  have answers := (Linker.call_alike linkers platform symbol arguments).answer_eq
    fun _ _ _ _ related => related.1
  rw [answer?_eq, answer?_eq, answer_execute, answer_execute, arities, ← answers]
  simp only [accepted]

end Generator

end Reckon
