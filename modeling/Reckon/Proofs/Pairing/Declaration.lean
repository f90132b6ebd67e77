import Reckon.Generator.Execution
import Reckon.Proofs.Backend.Contract
import Reckon.Proofs.Catalog
import Reckon.Proofs.Evaluator.Definition
import Reckon.Proofs.Generator.Modules
import Reckon.Proofs.Instruction.Names
import Reckon.Proofs.Token.Words

/-!
# Open units side by side

The open unit of the evaluator and the open module of the generator match if they have
the same number and declare the same functions with the same numbers of parameters.
Names of functions are words or the reserved name, whose symbol is numbered; different
names then have different symbols. Declaring and resolving names does the same on both
sides.
-/

namespace Reckon

open Reckon.Action Instruction

/-- A word, or the name of the function that wraps a bare expression. -/
def Nameable (name : String) : Prop := IsWord name ∨ name = anonymousName

/-- The symbol of the wrapped expression of a unit. -/
def anonymousSymbol (number : Nat) : String := anonymousName ++ ("." ++ toString number)

/-- The symbol of a wrapped expression tells which unit it is of. -/
theorem anonymousSymbol_inj {number other : Nat}
    (same : anonymousSymbol number = anonymousSymbol other) : number = other := by
  have chars := congrArg String.toList same
  simp only [anonymousSymbol, String.toList_append, List.append_cancel_left_eq] at chars
  exact toString_nat_inj (String.toList_inj.mp chars)

namespace Module

/-- The symbol of a word is the word. -/
theorem symbol_of_isWord (module : Module) {name : String} (word : IsWord name) :
    module.symbol name = name := by
  rw [symbol, if_neg word.ne_anonymousName]

/-- The symbol of the reserved name is that of the wrapped expression. -/
theorem symbol_anonymous (module : Module) :
    module.symbol anonymousName = anonymousSymbol module.number := by
  rw [symbol, if_pos rfl, String.append_assoc, anonymousSymbol]

/-- Different names have different symbols. -/
theorem symbol_inj (module : Module) {name other : String} (nameable : Nameable name)
    (nameableToo : Nameable other) (same : module.symbol name = module.symbol other) :
    name = other := by
  rcases nameable with word | rfl
  · rw [module.symbol_of_isWord word] at same
    rcases nameableToo with wordToo | rfl
    · exact same.trans (module.symbol_of_isWord wordToo)
    · rw [symbol_anonymous] at same
      exact (word.ne_of_anonymous_append _ same).elim
  · rcases nameableToo with wordToo | rfl
    · rw [module.symbol_of_isWord wordToo, symbol_anonymous] at same
      exact (wordToo.ne_of_anonymous_append _ same.symm).elim
    · rfl

/-- No function has an empty symbol. -/
theorem symbol_ne_empty (module : Module) {name : String} (nameable : Nameable name) :
    module.symbol name ≠ "" := by
  rcases nameable with word | rfl
  · rw [module.symbol_of_isWord word]
    exact word.nonempty
  · intro same
    rw [symbol_anonymous] at same
    have lengths := congrArg String.length same
    simp [anonymousSymbol, anonymousName] at lengths

end Module

/-- The registers of the parameters are distinct and in use. -/
structure Instruction.Routine.Sound (routine : Routine) : Prop where
  distinct : routine.parameters.Nodup
  used : routine.parameters ⊆ routine.names.taken

namespace Instruction.Routine

/-- A routine is declared with a register for each parameter. -/
theorem declared_sound (symbol : String) (parameters : List String) :
    (declared symbol parameters).Sound := by
  obtain ⟨_, distinct, used⟩ := Names.ofParameters_spec parameters
  exact ⟨distinct, used⟩

/-- A declared routine has as many parameters as its declaration. -/
theorem arity_declared (symbol : String) (parameters : List String) :
    (declared symbol parameters).arity = parameters.length :=
  (Names.ofParameters_spec parameters).1

end Instruction.Routine

/-- An open unit and an open module that declare the same functions. Only routines of the symbols
given have blocks. -/
structure Alongside (bodied : String → Prop) (unit : Evaluator.CodeUnit) (module : Module) :
    Prop where
  number : unit.number = module.number
  blocks (entry : String × Routine) (member : entry ∈ module.routines.entries) :
    entry.2.block = none ∨ bodied entry.1
  once : unit.functions.keys.Nodup
  filed : module.Filed
  sound (entry : String × Routine) (member : entry ∈ module.routines.entries) : entry.2.Sound
  arities (name : String) (nameable : Nameable name) :
    (unit.functions.get? name).map (·.prototype.arity) =
      (module.routines.get? (module.symbol name)).map (·.arity)

/-- An open unit and an open module that declare the same functions and hold no body. -/
abbrev Matched (unit : Evaluator.CodeUnit) (module : Module) : Prop :=
  Alongside (fun _ => False) unit module

namespace Alongside

variable {bodied : String → Prop} {unit : Evaluator.CodeUnit} {module : Module}

/-- A unit and a module of one number that have just been opened declare the same, namely nothing.
-/
theorem opened (bodied : String → Prop) (number : Nat) :
    Alongside bodied (.opened number) (.opened number) := by
  refine ⟨rfl, ?_, List.nodup_nil, .opened number, ?_, ?_⟩
  · intro entry member
    cases member
  · intro entry member
    cases member
  · intro name nameable
    rfl

/-- A function that one of the two declares, the other declares as well. -/
theorem of_some (alongside : Alongside bodied unit module) {name : String}
    (nameable : Nameable name) {function : Evaluator.Function}
    (found : unit.functions.get? name = some function) :
    ∃ routine, module.routines.get? (module.symbol name) = some routine ∧
      routine.arity = function.prototype.arity := by
  have same := alongside.arities name nameable
  rw [found] at same
  obtain ⟨routine, there, arity⟩ := Option.map_eq_some_iff.mp same.symm
  exact ⟨routine, there, arity⟩

/-- What the unit does not declare the module does not declare either. -/
theorem of_none (alongside : Alongside bodied unit module) {name : String}
    (nameable : Nameable name) (missing : unit.functions.get? name = none) :
    module.routines.get? (module.symbol name) = none := by
  have same := alongside.arities name nameable
  rw [missing] at same
  exact Option.map_eq_none_iff.mp same.symm

/-- More routines may have blocks. -/
theorem weaken (alongside : Alongside bodied unit module) {more : String → Prop}
    (among : ∀ symbol, bodied symbol → more symbol) : Alongside more unit module :=
  { alongside with
    blocks := fun entry member => (alongside.blocks entry member).imp_right (among entry.1) }

/-- A function may be put into the one and a routine of as many parameters into the other. -/
theorem put (alongside : Alongside bodied unit module) {name : String} (nameable : Nameable name)
    {function : Evaluator.Function} {routine : Routine}
    (symbol : routine.symbol = module.symbol name)
    (arity : routine.arity = function.prototype.arity)
    (blocks : routine.block = none ∨ bodied routine.symbol) (sound : routine.Sound) :
    Alongside bodied { unit with functions := unit.functions.put name function }
      (module.withRoutine routine) := by
  refine ⟨alongside.number, ?_, Catalog.nodup_keys_put alongside.once _ _, ?_, ?_, ?_⟩
  · intro entry member
    rcases Catalog.mem_entries_put member with rfl | earlier
    · exact blocks
    · exact alongside.blocks entry earlier
  · apply alongside.filed.withRoutine
    rw [symbol]
    exact module.symbol_ne_anonymousName name
  · intro entry member
    rcases Catalog.mem_entries_put member with rfl | earlier
    · exact sound
    · exact alongside.sound entry earlier
  · intro other nameableToo
    have symbols : (module.withRoutine routine).symbol other = module.symbol other := rfl
    rw [symbols, Module.withRoutine, Catalog.get?_put, Catalog.get?_put, symbol]
    by_cases same : name = other
    · subst same
      simp only [if_true, Option.map_some, arity]
    · rw [if_neg same, if_neg fun symbols => same (module.symbol_inj nameable nameableToo symbols)]
      exact alongside.arities other nameableToo

/-- The same declaration is put into both. -/
theorem declared (alongside : Alongside bodied unit module) {prototype : Prototype}
    (nameable : Nameable prototype.name) :
    Alongside bodied { unit with functions := unit.functions.put prototype.name ⟨prototype, none⟩ }
      (module.withRoutine (.declared (module.symbol prototype.name) prototype.parameters)) := by
  apply alongside.put nameable rfl _ (.inl rfl)
  · exact Routine.declared_sound ..
  · exact Routine.arity_declared ..

/-- A routine of a declared function may be replaced by one with as many parameters. -/
theorem withRoutine (alongside : Alongside bodied unit module) {name : String}
    (nameable : Nameable name) {function : Evaluator.Function}
    (found : unit.functions.get? name = some function) {routine : Routine}
    (symbol : routine.symbol = module.symbol name)
    (arity : routine.arity = function.prototype.arity)
    (blocks : routine.block = none ∨ bodied routine.symbol) (sound : routine.Sound) :
    Alongside bodied unit (module.withRoutine routine) := by
  have whole := alongside.put nameable symbol arity blocks sound
  refine ⟨alongside.number, whole.blocks, alongside.once, whole.filed, whole.sound, ?_⟩
  intro other nameableToo
  rw [← whole.arities other nameableToo, Catalog.get?_put]
  split
  · rename_i same
    rw [← same, found, Option.map_some]
  · rfl

end Alongside

/-- No routine of the module has a block. -/
theorem Matched.blockless {unit : Evaluator.CodeUnit} {module : Module}
    (matched : Matched unit module) (entry : String × Routine)
    (member : entry ∈ module.routines.entries) : entry.2.block = none :=
  (matched.blocks entry member).resolve_right id

namespace Generator

/-- The routines of the open module are those that its handles name. -/
theorem routine?_current (generator : Generator) (symbol : String) :
    generator.routine? ⟨generator.current.number, symbol⟩ =
      generator.current.routines.get? symbol := by
  simp [routine?, module?]

/-- Only the open module has changed, and neither its number nor its routines with a block. -/
structure Differs (before after : Generator) : Prop where
  same : after = { before with current := after.current }
  number : after.current.number = before.current.number
  kept (symbol : String) (routine : Routine)
    (found : before.current.routines.get? symbol = some routine) (held : routine.block ≠ none) :
    after.current.routines.get? symbol = some routine

namespace Differs

/-- A generator that is left alone has changed nothing else. -/
theorem refl (generator : Generator) : Differs generator generator :=
  ⟨rfl, rfl, fun _ _ found _ => found⟩

/-- What changed in two rounds has changed. -/
theorem trans {first second third : Generator} (start : Differs first second)
    (rest : Differs second third) : Differs first third := by
  refine ⟨?_, rest.number.trans start.number, fun symbol routine found held => ?_⟩
  · rw [rest.same, start.same]
  · exact rest.kept symbol routine (start.kept symbol routine found held) held

/-- A routine may come in for a function that has no block. -/
theorem put {before after : Generator} (differs : Differs before after) (routine : Routine)
    (bare : before.current.block? routine.symbol = none) :
    Differs before { after with current := after.current.withRoutine routine } := by
  constructor
  case same => rw [differs.same]
  case number => exact differs.number
  case kept =>
    intro symbol older found held
    rw [Module.withRoutine, Catalog.get?_put, if_neg]
    · exact differs.kept symbol older found held
    · rintro rfl
      rw [Module.block?, found] at bare
      exact held bare

end Differs

/-- Declaring a function does the same in the evaluator and the generator. -/
theorem declare_agrees (session : Session) (prototype : Prototype) {bodied : String → Prop}
    {evaluator : Evaluator} {generator : Generator}
    (alongside : Alongside bodied evaluator.current generator.current)
    (nameable : Nameable prototype.name) :
    Agree (Evaluator.declare session prototype) (declare session prototype) evaluator generator
      (fun _ after handle generatorAfter =>
        handle = ⟨generator.current.number, generator.current.symbol prototype.name⟩ ∧
          Alongside bodied after.current generatorAfter.current ∧ Differs generator generatorAfter)
      (fun after generatorAfter => after = evaluator ∧ generatorAfter = generator) := by
  unfold Evaluator.declare declare
  refine agree_check (fun accepted => agree_get ?_) ⟨rfl, rfl⟩
  cases found : evaluator.current.functions.get? prototype.name with
  | some function =>
    obtain ⟨routine, there, arity⟩ := alongside.of_some nameable found
    simp only [there, arity]
    exact agree_check (fun _ => agree_pure ⟨rfl, alongside, .refl generator⟩) ⟨rfl, rfl⟩
  | none =>
    have missing := alongside.of_none nameable found
    simp only [missing]
    rw [if_neg (generator.current.symbol_ne_empty nameable)]
    refine ⟨rfl, alongside.declared nameable, (Differs.refl generator).put _ ?_⟩
    rw [Module.block?, Routine.declared, missing]
    rfl

end Generator

end Reckon
