import Reckon.Proofs.Pairing.Runs
import Reckon.Proofs.Pairing.Stock

/-!
# Dialogues with a machine that refuses units

A machine may refuse any unit that is handed to it. The generator then stands as if the
unit had not been asked for, apart from the number of the next one, and so some evaluator
would still be coupled with it if no more units were refused. A step always comes to one
of its ends.
-/

namespace Reckon

namespace Linker

/-- Numbers that are not given to units may be skipped. -/
theorem Linking.later {platform : Platform} {holds : String → Nat → Code → Prop} {next : Nat}
    {linker : Linker} (linking : Linking platform holds next linker) :
    Linking platform holds (next + 1) linker := by
  refine { linking with earlier := ?_, image := ?_ }
  · exact fun unit member => Nat.lt_succ_of_lt (linking.earlier unit member)
  · intro loaded member
    refine (linking.image loaded member).imp id ?_
    rintro ⟨number, code, less, embodies, gone⟩
    exact ⟨number, code, Nat.lt_succ_of_lt less, embodies, gone⟩

end Linker

namespace Shadowed

variable {session : Session} {excused : String → String → Prop} {platform : Platform}
  {evaluator : Evaluator} {generator : Generator}

/-- What is refused on both sides leaves the one shadowed by the other. -/
theorem leaves (shadowed : Shadowed session excused platform evaluator generator)
    {after : Evaluator} {afterToo : Generator} (leaves : Evaluator.Leaves session evaluator after)
    (matched : Matched after.current afterToo.current)
    (differs : Generator.Differs generator afterToo) :
    Shadowed session excused platform after afterToo := by
  refine Coupled.leaves shadowed leaves matched ⟨?_, differs.number, differs.kept⟩
  rw [differs.same]

/-- A declaration that is accepted on both sides is recorded. -/
theorem recorded (shadowed : Shadowed session excused platform evaluator generator)
    {prototype : Prototype} {handle : Handle} {after : Evaluator} {afterToo : Generator}
    (declares : Evaluator.declare session prototype evaluator = .ok handle after)
    (leaves : Evaluator.Leaves session evaluator after)
    (matched : Matched after.current afterToo.current)
    (differs : Generator.Differs generator afterToo) :
    Shadowed (session.record prototype) excused platform after afterToo :=
  { shadowed.leaves leaves matched differs with
    keyed := shadowed.keyed.record prototype, settled := shadowed.settled.declared declares }

/-- A module that is refused leaves the generator shadowed by an evaluator that has opened another
unit. -/
theorem rejects (shadowed : Shadowed session excused platform evaluator generator)
    {function : Definition} {handle : Handle} {compiled : Evaluator} {compiledToo : Generator}
    (nameable : Nameable function.prototype.name)
    (defines : Evaluator.Defines session function evaluator handle compiled)
    (rendered : Generator.Rendered function.prototype.name function.body compiled.current generator
      compiledToo) :
    Shadowed session excused platform
      { evaluator with current := .opened (evaluator.current.number + 1) }
      { compiledToo with
        current := .opened (compiledToo.current.number + 1)
        closed := compiledToo.closed ++ [compiledToo.current]
        defined := compiledToo.defined.without compiledToo.current.defined } := by
  have settled := shadowed.settled
  have number : evaluator.current.number = compiledToo.current.number :=
    shadowed.matched.number.trans rendered.number.symm
  have linker : compiledToo.linker = generator.linker := by rw [rendered.same]
  constructor
  case keyed => exact shadowed.keyed
  case settled =>
    refine { settled with opened := Evaluator.open_opened session rfl, earlier := ?_ }
    exact fun unit member => Nat.lt_succ_of_lt (settled.earlier unit member)
  case matched =>
    rw [number]
    exact .opened _ _
  case earlier =>
    intro module member
    change module.number < compiledToo.current.number + 1
    rcases List.mem_append.mp member with older | last
    · rw [rendered.same] at older
      have less := shadowed.earlier module older
      have number := rendered.number
      change module.number < generator.current.number at less
      omega
    · rw [List.mem_singleton.mp last]
      omega
  case defined => exact (shadowed.without_defined nameable defines rendered).trans shadowed.defined
  case accepting => rfl
  case linking =>
    change Linker.Linking platform evaluator.Finds (compiledToo.current.number + 1)
      compiledToo.linker
    rw [linker, rendered.number]
    exact Linker.Linking.later shadowed.linking
  case fits =>
    change Linker.Fits compiledToo.linker.image excused
    rw [linker]
    exact shadowed.fits

end Shadowed

namespace Dialogue

variable {dialogue : Dialogue Generator}

/-- Some evaluator would be coupled with the generator if its units were not refused. -/
def Shadowed (dialogue : Dialogue Generator) : Prop :=
  ∃ evaluator, Reckon.Shadowed dialogue.session (fun _ _ => True) dialogue.platform evaluator
    dialogue.backend

namespace Shadowed

/-- A unit is taken in while units are refused. -/
theorem takes_refusing (shadowed : dialogue.Shadowed) {unit : ProgramUnit} (spelled : unit.Spelled)
    {reason : String} (refused : dialogue.backend.refusal = some reason) :
    ∃ after, Takes dialogue unit after ∧ after.Shadowed := by
  obtain ⟨evaluator, shadowed⟩ := shadowed
  cases unit with
  | declaration prototype =>
    rcases shadowed.declare spelled with
      ⟨_, _, _, _, reached, reachedToo, _, leaves, matched, differs⟩ | ⟨_, _, refuses⟩
    · exact ⟨_, .declared reachedToo, _, shadowed.recorded reached leaves matched differs⟩
    · exact ⟨_, .declarationRefused refuses rfl, evaluator, shadowed⟩
  | definition function =>
    rcases shadowed.define (.inl spelled.1) spelled.2 with
      ⟨_, _, _, _, done, defines, rendered⟩ | ⟨_, _, _, _, refuses, leaves, matched, differs⟩
    · have refusal := (congrArg Generator.refusal rendered.same).trans refused
      exact ⟨_, .definitionRejected done (Generator.handOff_error refusal) rfl, _,
        shadowed.rejects (.inl spelled.1) defines rendered⟩
    · exact ⟨_, .definitionRefused refuses rfl, _, shadowed.leaves leaves matched differs⟩
  | expression function =>
    obtain ⟨body, spelled, rfl⟩ := spelled
    have unnamed : Nameable (Definition.anonymous body).prototype.name := .inr rfl
    rcases shadowed.define unnamed spelled with
      ⟨_, _, _, _, done, defines, rendered⟩ | ⟨_, _, _, _, refuses, leaves, matched, differs⟩
    · have refusal := (congrArg Generator.refusal rendered.same).trans refused
      exact ⟨_, .expressionRejected done (Generator.handOff_error refusal) rfl, _,
        shadowed.rejects (.inr rfl) defines rendered⟩
    · exact ⟨_, .expressionRefused refuses rfl, _, shadowed.leaves leaves matched differs⟩

/-- A step is taken while units are refused. -/
theorem step_refusing (shadowed : dialogue.Shadowed) {reason : String}
    (refused : dialogue.backend.refusal = some reason) :
    ∃ more after, Turns dialogue more after ∧ after.Shadowed := by
  by_cases ended : dialogue.cursor.nextToken.kind = .endOfInput
  · exact ⟨false, _, .finished ended, shadowed⟩
  by_cases separator : dialogue.cursor.nextToken.isSymbol ';' = true
  · exact ⟨true, _, .separated separator, shadowed⟩
  have unseparated := Bool.eq_false_iff.mpr separator
  cases reads : dialogue.cursor.readUnit dialogue.session.operators with
  | failed error stopped => exact ⟨true, _, .malformed ended unseparated reads, shadowed⟩
  | parsed unit cursor =>
    have moved : Shadowed { dialogue with started := true, cursor } := shadowed
    obtain ⟨after, takes, there⟩ := moved.takes_refusing (Cursor.readUnit_spelled reads) refused
    exact ⟨true, after, .took ended unseparated reads takes, there⟩

/-- A step is taken while units are accepted. -/
theorem step_accepting (shadowed : dialogue.Shadowed)
    (accepting : dialogue.backend.refusal = none) :
    ∃ more after, Turns dialogue more after ∧ after.Shadowed := by
  obtain ⟨evaluator, shadowed⟩ := shadowed
  have coupled : Coupled dialogue.session (fun _ _ => True) dialogue.platform evaluator
      dialogue.backend := by
    have same : { dialogue.backend with refusal := none } = dialogue.backend := by
      rw [← accepting]
    rw [Reckon.Shadowed, same] at shadowed
    exact shadowed
  let beside : Dialogue Evaluator :=
    { settings := dialogue.settings, platform := dialogue.platform, cursor := dialogue.cursor,
      started := dialogue.started, session := dialogue.session, backend := evaluator,
      results := dialogue.results, complaints := dialogue.complaints, output := dialogue.output }
  have paired : Paired (fun _ _ => True) beside dialogue :=
    ⟨rfl, rfl, rfl, rfl, coupled, fun _ _ _ _ => ⟨"", trivial⟩⟩
  obtain ⟨more, left, right, _, turns, pairedAfter, _⟩ := paired.step
  refine ⟨more, right, turns, left.backend, ?_⟩
  have coupledAfter : Coupled left.session (fun _ _ => True) left.platform left.backend
      right.backend := pairedAfter.coupled.weaken fun _ _ _ => trivial
  rw [← pairedAfter.session, ← pairedAfter.platform] at coupledAfter
  exact { coupledAfter with accepting := rfl }

/-- **A step comes to one of its ends** and leaves the generator shadowed. -/
theorem step (shadowed : dialogue.Shadowed) :
    ∃ more after, Turns dialogue more after ∧ after.Shadowed := by
  cases refused : dialogue.backend.refusal with
  | none => exact shadowed.step_accepting refused
  | some reason => exact shadowed.step_refusing refused

end Shadowed

/-! ## Steps -/

/-- The dialogue with a machine that refuses units if there is a reason. -/
def facing (dialogue : Dialogue Generator) (reason? : Option String) : Dialogue Generator :=
  { dialogue with backend := { dialogue.backend with refusal := reason? } }

/-- Whether the machine refuses units does not matter to what it shadows. -/
theorem Shadowed.facing (shadowed : dialogue.Shadowed) (reason? : Option String) :
    (dialogue.facing reason?).Shadowed := shadowed

/-- Takes a step with a machine that refuses units for the reason given, if there is one. -/
def stepRefusing (reason? : Option String) : Turn Generator Bool := do
  modify fun dialogue =>
    { dialogue with backend := { dialogue.backend with refusal := reason? } }
  step

/-- Takes a number of steps, each with a machine that refuses units if there is a reason for that
step. -/
def stepsRefusing (reasons : Nat → Option String) : Nat → Turn Generator Unit
  | 0 => pure ()
  | count + 1 => do
    stepsRefusing reasons count
    let _ ← stepRefusing (reasons count)

section

variable {before after : Generator} {reason? : Option String}

/-- Whether units will be refused cannot be seen from outside. -/
theorem unshaken_of_refusal
    (unshaken : Unshaken { before with refusal := reason? } after) : Unshaken before after :=
  ⟨unshaken.defined, unshaken.stock,
    unshaken.opened.imp id fun gained => ⟨gained.number, gained.kept, gained.bodyless⟩⟩

/-- What an event does to a back end that refuses units it does to the back end itself. -/
theorem affects_of_refusal {session : Session} {event : Event}
    (affects : event.Affects session { before with refusal := reason? } after) :
    event.Affects session before after := by
  cases event with
  | defined prototype =>
    obtain ⟨accepted, grown⟩ := affects
    exact ⟨accepted, grown.new, grown.defined, grown.stock, grown.opened⟩
  | declared prototype => exact ⟨affects.1, unshaken_of_refusal affects.2⟩
  | _ => exact unshaken_of_refusal affects

end

/-- A step with a machine that may refuse units comes to one of its ends. -/
theorem Shadowed.turns (shadowed : dialogue.Shadowed) (reason? : Option String) :
    ∃ more after output, Turns (dialogue.facing reason?) more after ∧ after.Shadowed ∧
      stepRefusing reason? dialogue = .ok more { after with output } := by
  obtain ⟨more, after, turns, shadowedAfter⟩ := (shadowed.facing reason?).step
  obtain ⟨output, stepped⟩ := turns.ends dialogue.output
  exact ⟨more, after, output, turns, shadowedAfter, stepped⟩

/-- A step with a machine that may refuse units leads on. -/
theorem Shadowed.proceeds (shadowed : dialogue.Shadowed) (reason? : Option String) :
    ∃ more after, stepRefusing reason? dialogue = .ok more after ∧
      dialogue.Proceeds more after ∧ after.Shadowed := by
  obtain ⟨more, after, output, turns, shadowedAfter, stepped⟩ := shadowed.turns reason?
  obtain ⟨evaluator, orderly⟩ := shadowed.facing reason?
  refine ⟨more, { after with output }, stepped, ?_, shadowedAfter⟩
  apply Proceeds.withOutput
  cases turns.proceeds orderly.orderly with
  | event passes =>
    obtain ⟨undergoes, affects⟩ := passes
    exact .event ⟨⟨undergoes.occasion, undergoes.complaints, undergoes.results,
      undergoes.session, undergoes.moved⟩, affects_of_refusal affects⟩
  | ended ended session unshaken => exact .ended ended session (unshaken_of_refusal unshaken)

/-- One more step is taken after the others. -/
theorem stepsRefusing_succ_eq {reasons : Nat → Option String} {count : Nat}
    {start before after : Dialogue Generator} {more : Bool}
    (reached : stepsRefusing reasons count start = .ok () before)
    (stepped : stepRefusing (reasons count) before = .ok more after) :
    stepsRefusing reasons (count + 1) start = .ok () after := by
  change (stepsRefusing reasons count >>= fun _ => stepRefusing (reasons count) >>= fun _ =>
    pure ()) start = _
  rw [Action.bind_ok reached, Action.bind_ok stepped]
  rfl

/-- A number of steps with a machine that may refuse units is taken. -/
theorem Shadowed.steps (shadowed : dialogue.Shadowed) (reasons : Nat → Option String)
    (count : Nat) :
    ∃ before, stepsRefusing reasons count dialogue = .ok () before ∧ before.Shadowed := by
  induction count with
  | zero => exact ⟨dialogue, rfl, shadowed⟩
  | succ count inductionHypothesis =>
    obtain ⟨before, reached, there⟩ := inductionHypothesis
    obtain ⟨more, after, stepped, _, shadowedAfter⟩ := there.proceeds (reasons count)
    exact ⟨after, stepsRefusing_succ_eq reached stepped, shadowedAfter⟩

/-- Where a number of steps comes to, the generator is shadowed. -/
theorem Shadowed.of_steps (shadowed : dialogue.Shadowed) {reasons : Nat → Option String}
    {count : Nat} {before : Dialogue Generator}
    (reached : stepsRefusing reasons count dialogue = .ok () before) : before.Shadowed := by
  obtain ⟨there, reachedToo, shadowedThere⟩ := shadowed.steps reasons count
  rw [reached] at reachedToo
  cases reachedToo
  exact shadowedThere

/-- The last of several steps comes to one of its ends. -/
theorem Shadowed.last_step (shadowed : dialogue.Shadowed) {reasons : Nat → Option String}
    {count : Nat} {last : Dialogue Generator}
    (reached : stepsRefusing reasons (count + 1) dialogue = .ok () last) :
    ∃ before more after output, stepsRefusing reasons count dialogue = .ok () before ∧
      before.Shadowed ∧ Turns (before.facing (reasons count)) more after ∧
      last = { after with output } := by
  obtain ⟨before, reachedBefore, there⟩ := shadowed.steps reasons count
  obtain ⟨more, after, output, turns, _, stepped⟩ := there.turns (reasons count)
  refine ⟨before, more, after, output, reachedBefore, there, turns, ?_⟩
  have reachedToo := stepsRefusing_succ_eq reachedBefore stepped
  rw [reached] at reachedToo
  cases reachedToo
  rfl

/-- Each of the steps leads on. -/
theorem Shadowed.leads (shadowed : dialogue.Shadowed) (reasons : Nat → Option String)
    (count : Nat) :
    ∃ before more after, stepsRefusing reasons count dialogue = .ok () before ∧
      stepsRefusing reasons (count + 1) dialogue = .ok () after ∧ before.Proceeds more after := by
  obtain ⟨before, reached, there⟩ := shadowed.steps reasons count
  obtain ⟨more, after, stepped, proceeds, _⟩ := there.proceeds (reasons count)
  exact ⟨before, more, after, reached, stepsRefusing_succ_eq reached stepped, proceeds⟩

end Dialogue

end Reckon
