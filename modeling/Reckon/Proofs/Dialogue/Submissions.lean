import Reckon.Proofs.Dialogue.Outcomes
import Reckon.Proofs.Generator.Requests

/-!
# Units that a run hands off

A step hands a unit off if it reads a definition or a bare expression, compiles it, and the
machine accepts the module. Then the linker has one unit more, with the one function that was
compiled. A bare expression is run and its unit is given up before the step ends. Every other
step leaves the linker alone.
-/

namespace Reckon

open Reckon.Action

/-- The symbol of what a program unit defines, in the unit with this number. Each bare expression
has a symbol of its own. -/
def ProgramUnit.symbol (number : Nat) : ProgramUnit → String
  | .definition function => function.prototype.name
  | .declaration prototype => prototype.name
  | .expression _ => anonymousSymbol number

namespace Dialogue

/-- The next step reads a program unit, compiles its function and hands the module off. -/
structure Submission (dialogue : Dialogue Generator) (read : ProgramUnit) (handle : Handle)
    (compiled closed : Generator) : Prop where
  reads : dialogue.Reads read
  defines : ∃ function, (read = .definition function ∨ read = .expression function) ∧
    define dialogue.session function dialogue.backend = .ok handle compiled
  handsOff : ∃ number, Generator.handOff compiled = .ok number closed

/-- The step of this number, in a run from the start, hands a unit off to the linker. -/
def HandsOver (reasons : Nat → Option String) (start : Dialogue Generator) (step : Nat)
    (read : ProgramUnit) (unit : CompiledUnit) : Prop :=
  ∃ before handle compiled closed, stepsRefusing reasons step start = .ok () before ∧
    Submission (before.facing (reasons step)) read handle compiled closed ∧
    closed.linker = compiled.linker.add unit

/-! ## What the linker holds -/

section

variable {platform : Platform} {next : Nat} {linker : Linker}

/-- Everything that the held definitions call is a word. -/
def Worded (holds : String → Nat → Code → Prop) : Prop :=
  ∀ symbol arity code, holds symbol arity code → ∀ call ∈ code.calls, IsWord call.1

/-- The linker holds definitions with calls of words, one for each unit. -/
def Held (platform : Platform) (next : Nat) (linker : Linker) : Prop :=
  ∃ holds, Worded holds ∧ Linker.Linking platform holds next linker

/-- To materialize changes none of the definitions that the linker holds. -/
theorem Held.materialize (held : Held platform next linker) :
    Held platform next (linker.materialize platform).2 := by
  obtain ⟨holds, worded, linking⟩ := held
  exact ⟨holds, worded, linking.materialize⟩

/-- To remember host functions changes none of them either. -/
theorem Held.withHostSymbols (held : Held platform next linker) (names : List String) :
    Held platform next (linker.withHostSymbols names) := by
  obtain ⟨holds, worded, linking⟩ := held
  exact ⟨holds, worded, linking.withHostSymbols names⟩

/-- Running a function leaves the linker as it is, or materializes what can be. -/
theorem Held.execute {generator : Generator} (held : Held platform next generator.linker)
    (handle : Handle) (arguments : List Float) :
    Held platform next
      (Action.after (Generator.execute platform handle arguments) generator).linker := by
  rcases Generator.after_execute platform handle arguments generator with same | ⟨names, same⟩
  · rw [same]
    exact held
  · rw [same]
    exact held.materialize.withHostSymbols names

end

/-! ## What a step does to the linker -/

/-- A module that is not accepted does not come to the linker. -/
theorem linker_of_handOff_error {generator after : Generator} {fault : Fault}
    (rejects : Generator.handOff generator = .error fault after) :
    after.linker = generator.linker := by
  unfold Generator.handOff at rejects
  rw [get_bind] at rejects
  dsimp only at rejects
  cases refused : generator.refusalOf? generator.current with
  | some reason =>
    rw [refused] at rejects
    cases rejects
    rfl
  | none =>
    rw [refused] at rejects
    cases rejects

section

variable {dialogue after : Dialogue Generator} {read other : ProgramUnit} {function : Definition}
  {handle : Handle} {compiled closed : Generator}

/-- What is read decides what is submitted. -/
theorem Submission.define_eq (submits : Submission dialogue read handle compiled closed)
    (reads : dialogue.Reads other)
    (asks : other = .definition function ∨ other = .expression function) :
    read = other ∧
      define dialogue.session function dialogue.backend = .ok handle compiled := by
  obtain rfl := submits.reads.eq reads
  obtain ⟨same, asksToo, done⟩ := submits.defines
  obtain rfl : same = function := by
    rcases asks with rfl | rfl <;> rcases asksToo with equal | equal <;> cases equal <;> rfl
  exact ⟨rfl, done⟩

/-- A step submits one function at most. -/
theorem Submission.unique {handleToo : Handle} {compiledToo closedToo : Generator}
    (submits : Submission dialogue read handle compiled closed)
    (submitsToo : Submission dialogue other handleToo compiledToo closedToo) :
    read = other ∧ compiled = compiledToo ∧ closed = closedToo := by
  obtain ⟨function, asks, doneToo⟩ := submitsToo.defines
  obtain ⟨rfl, done⟩ := submits.define_eq submitsToo.reads asks
  rw [done] at doneToo
  cases doneToo
  obtain ⟨number, handsOff⟩ := submits.handsOff
  obtain ⟨numberToo, handsOffToo⟩ := submitsToo.handsOff
  rw [handsOff] at handsOffToo
  cases handsOffToo
  exact ⟨rfl, rfl, rfl⟩

/-- A function that does not compile is not submitted. -/
theorem not_submission_of_refused {fault : Fault} {last : Generator} (reads : dialogue.Reads other)
    (asks : other = .definition function ∨ other = .expression function)
    (refuses : define dialogue.session function dialogue.backend = .error fault last) :
    ¬ Submission dialogue read handle compiled closed := by
  intro submits
  obtain ⟨_, done⟩ := submits.define_eq reads asks
  rw [refuses] at done
  cases done

/-- Nor is one whose module is not accepted. -/
theorem not_submission_of_rejected {fault : Fault} {first : Handle} {last done : Generator}
    (reads : dialogue.Reads other)
    (asks : other = .definition function ∨ other = .expression function)
    (defines : define dialogue.session function dialogue.backend = .ok first done)
    (rejects : Generator.handOff done = .error fault last) :
    ¬ Submission dialogue read handle compiled closed := by
  intro submits
  obtain ⟨_, definesToo⟩ := submits.define_eq reads asks
  rw [defines] at definesToo
  cases definesToo
  obtain ⟨number, handsOff⟩ := submits.handsOff
  rw [rejects] at handsOff
  cases handsOff

/-- The ends of a step as the linker sees them. -/
inductive Deals (dialogue after : Dialogue Generator) : Prop
  /-- No unit is handed off. -/
  | nothing (same : after.backend.linker = dialogue.backend.linker)
      (none : ∀ read handle compiled closed, ¬ Submission dialogue read handle compiled closed)
  /-- The unit of a definition is handed off. -/
  | keeps {function : Definition} {handle : Handle} {compiled closed : Generator}
      (submits : Submission dialogue (.definition function) handle compiled closed)
      (same : after.backend.linker = closed.linker)
  /-- The unit of a bare expression is handed off, run and given up. -/
  | returns {function : Definition} {handle : Handle} {compiled closed released : Generator}
      {number : Nat} (submits : Submission dialogue (.expression function) handle compiled closed)
      (handsOff : Generator.handOff compiled = .ok number closed)
      (releases : Generator.release number
        (Action.after (Generator.execute dialogue.platform handle []) closed) = .ok () released)
      (same : after.backend.linker = released.linker)

/-- A declaration submits nothing. -/
theorem not_submission_of_declaration {prototype : Prototype}
    (reads : dialogue.Reads (.declaration prototype)) :
    ¬ Submission dialogue read handle compiled closed := by
  intro submits
  obtain rfl := submits.reads.eq reads
  obtain ⟨function, asks, _⟩ := submits.defines
  rcases asks with absurd | absurd <;> cases absurd

/-- Taking a unit in deals with the linker in one of the ways of a step. -/
theorem Takes.deals {started : Bool} {cursor : Cursor}
    (takes : Takes { dialogue with started, cursor } read after) (reads : dialogue.Reads read) :
    Deals dialogue after := by
  cases takes with
  | @defined function _ _ _ number defines handsOff =>
    exact .keeps ⟨reads, ⟨function, .inl rfl, defines⟩, number, handsOff⟩ rfl
  | definitionRefused refuses _ =>
    exact .nothing ((Generator.define_linker _ _).view_of_error refuses) fun _ _ _ _ =>
      not_submission_of_refused reads (.inl rfl) refuses
  | definitionRejected defines rejects _ =>
    have same := (linker_of_handOff_error rejects).trans
      ((Generator.define_linker _ _).view_of_ok defines)
    exact .nothing same fun _ _ _ _ => not_submission_of_rejected reads (.inl rfl) defines rejects
  | @declared prototype _ _ declares =>
    have same := (Generator.declare_linker dialogue.session prototype).view_of_ok declares
    exact .nothing same fun _ _ _ _ => not_submission_of_declaration reads
  | @declarationRefused prototype _ _ _ refuses _ =>
    have same := (Generator.declare_linker dialogue.session prototype).view_of_error refuses
    exact .nothing same fun _ _ _ _ => not_submission_of_declaration reads
  | @evaluated function _ _ _ _ _ number _ defines handsOff executes releases =>
    refine .returns ⟨reads, ⟨function, .inr rfl, defines⟩, number, handsOff⟩ handsOff ?_ rfl
    exact (after_of_ok executes).symm ▸ releases
  | @failed function _ _ _ _ _ number _ _ defines handsOff fails _ releases =>
    refine .returns ⟨reads, ⟨function, .inr rfl, defines⟩, number, handsOff⟩ handsOff ?_ rfl
    exact (after_of_error fails).symm ▸ releases
  | expressionRefused refuses _ =>
    exact .nothing ((Generator.define_linker _ _).view_of_error refuses) fun _ _ _ _ =>
      not_submission_of_refused reads (.inr rfl) refuses
  | expressionRejected defines rejects _ =>
    have same := (linker_of_handOff_error rejects).trans
      ((Generator.define_linker _ _).view_of_ok defines)
    exact .nothing same fun _ _ _ _ => not_submission_of_rejected reads (.inr rfl) defines rejects

/-- **A step hands off no unit, or the unit of a definition, or that of a bare expression.** -/
theorem Turns.deals {more : Bool} (turns : Turns dialogue more after) : Deals dialogue after := by
  cases turns with
  | finished ended =>
    exact .nothing rfl fun _ _ _ _ submits => submits.reads.1 ended
  | separated separator =>
    exact .nothing rfl fun _ _ _ _ submits => submits.reads.unseparated separator
  | malformed more unseparated fails =>
    refine .nothing rfl fun _ _ _ _ submits => ?_
    obtain ⟨_, _, _, parsed⟩ := submits.reads
    rw [fails] at parsed
    cases parsed
  | took more unseparated reads takes => exact takes.deals ⟨more, unseparated, _, reads⟩

/-! ## The unit that is handed off -/

/-- The linker between two steps. -/
theorem Shadowed.held (shadowed : dialogue.Shadowed) :
    Held dialogue.platform dialogue.backend.current.number dialogue.backend.linker := by
  obtain ⟨evaluator, coupled⟩ := shadowed
  exact ⟨evaluator.Finds, fun _ _ _ found => (coupled.settled.words found).2, coupled.linking⟩

/-- What comes to the linker when a function is submitted. -/
structure Delivers (dialogue : Dialogue Generator) (read : ProgramUnit)
    (compiled closed : Generator) (unit : CompiledUnit) : Prop where
  before : compiled.linker = dialogue.backend.linker
  linker : closed.linker = dialogue.backend.linker.add unit
  number : unit.number = dialogue.backend.current.number
  returned : Generator.handOff compiled = .ok unit.number closed
  waits : unit.state = .pending
  defined : unit.defined = [read.symbol unit.number]
  words : ∀ name ∈ unit.required, IsWord name
  held : Held dialogue.platform (dialogue.backend.current.number + 1) closed.linker

/-- A function that is submitted comes to the linker in a unit of its own. -/
theorem Submission.delivers (submits : Submission dialogue read handle compiled closed)
    (shadowed : dialogue.Shadowed) : ∃ unit, Delivers dialogue read compiled closed unit := by
  obtain ⟨evaluator, shadowed⟩ := shadowed
  obtain ⟨function, asks, done⟩ := submits.defines
  obtain ⟨number, handsOff⟩ := submits.handsOff
  obtain ⟨_, _, cursor, parsed⟩ := submits.reads
  have spelledUnit := Cursor.readUnit_spelled parsed
  obtain ⟨nameable, spelled, symbol⟩ : Nameable function.prototype.name ∧ function.body.Spelled ∧
      dialogue.backend.current.symbol function.prototype.name =
        read.symbol dialogue.backend.current.number := by
    rcases asks with rfl | rfl
    · exact ⟨.inl spelledUnit.1, spelledUnit.2, Module.symbol_of_isWord _ spelledUnit.1⟩
    · obtain ⟨body, spelled, rfl⟩ := spelledUnit
      exact ⟨.inr rfl, spelled, Module.symbol_anonymous _⟩
  obtain ⟨_, _, compiledToo, defines, rendered⟩ :=
    shadowed.rendered_of_define nameable spelled done
  obtain ⟨accepting, rfl, rfl⟩ := rendered.delivered_of_handOff handsOff
  have coupled : Coupled dialogue.session (fun _ _ => True) dialogue.platform evaluator
      dialogue.backend := by
    have same : { dialogue.backend with refusal := none } = dialogue.backend := by
      rw [← accepting]
    rw [Reckon.Shadowed, same] at shadowed
    exact shadowed
  obtain ⟨declared, code, bears, _, calls, _⟩ := defines.bears
  have embodies := rendered.embodies spelled bears calls
  have linking := coupled.linking_delivered nameable spelled defines rendered bears calls
  have words : ∀ call ∈ code.calls, IsWord call.1 := by
    rw [calls]
    exact fun call member => spelled.word_of_mem_calls member
  refine ⟨.ofRoutines compiled.current.number compiled.level compiled.current.routines.values, ?_⟩
  constructor
  case before => rw [rendered.same]
  case linker => rw [Generator.delivered, rendered.same]
  case number => exact rendered.number
  case returned => exact handsOff
  case waits => rfl
  case defined =>
    rw [embodies.defined, symbol]
    exact congrArg (fun number => [read.symbol number]) rendered.number.symm
  case words =>
    intro name required
    obtain ⟨_, given, made⟩ := (embodies.required name).mp required
    exact words _ made
  case held =>
    refine ⟨_, ?_, linking⟩
    rintro symbol arity inner (found | ⟨_, _, rfl⟩)
    · exact (coupled.settled.words found).2
    · exact words

end

end Dialogue

end Reckon
