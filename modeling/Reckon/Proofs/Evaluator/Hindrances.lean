import Reckon.Proofs.CallGraph
import Reckon.Proofs.Evaluator.Expressions

/-!
# What stands in the way of evaluation

The evaluator's live definitions form a call graph. If all calls that can be reached have
the right number of arguments, running code ends as the graph says: with a value if
nothing stands in the way of its calls, and otherwise with the failure of whatever
stands in the way first.
-/

namespace Reckon

namespace Hindrance

/-- The fault of a call that something stands in the way of. -/
def fault : Hindrance → Fault
  | unresolved name => .run (.unresolved [name] "")
  | nesting => .tooDeep

/-- What is told of it when a function is executed. -/
def error (symbol : String) : Hindrance → RunError
  | unresolved name => .unresolved [name] ""
  | nesting => .endless symbol

/-- The code of the error. -/
def code : Hindrance → String
  | unresolved _ => "E001"
  | nesting => "E002"

/-- The error that is told has the code of its kind. -/
@[simp] theorem error_code (symbol : String) (hindrance : Hindrance) :
    (hindrance.error symbol).code = hindrance.code := by
  cases hindrance <;> rfl

end Hindrance

namespace Evaluator

/-- The body of a function of the unit as it was written, with the arity of the function. -/
def CodeUnit.written? (unit : CodeUnit) (name : String) : Option (Nat × Node) := do
  let function ← unit.functions.get? name
  let body ← function.body
  return (function.prototype.arity, body.1)

/-- A body that was written has code, and only such a body has. -/
theorem CodeUnit.written?_eq_none_iff {unit : CodeUnit} {name : String} :
    unit.written? name = none ↔ unit.code? name = none := by
  cases found : unit.functions.get? name with
  | none => simp [written?, code?, found]
  | some function => cases held : function.body <;> simp [written?, code?, found, held]

/-- The newest live body of a name as it was written, with the arity of its function. -/
def written? (evaluator : Evaluator) (name : String) : Option (Nat × Node) :=
  evaluator.live.reverse.findSome? (·.written? name)

/-- The calls in the live bodies. -/
def callGraph (evaluator : Evaluator) : CallGraph := fun name =>
  (evaluator.written? name).map fun found => (found.1, found.2.calls)

/-- The calls in live bodies are those of their code. -/
theorem Settled.callGraph_eq {session : Session} {excused : String → String → Prop}
    {evaluator : Evaluator} (settled : Settled session excused evaluator) (name : String) :
    evaluator.callGraph name =
      (evaluator.definition? name).map fun found => (found.1, found.2.calls) := by
  have honoured : ∀ unit ∈ evaluator.live.reverse, ∃ name prototype body code,
      Honours session excused unit name prototype body code :=
    fun unit member => settled.live unit (List.mem_reverse.mp member)
  unfold callGraph written? definition?
  generalize evaluator.live.reverse = units at honoured
  induction units with
  | nil => rfl
  | cons unit rest inductionHypothesis =>
    obtain ⟨⟨other, prototype, body, code, honours⟩, others⟩ := List.forall_mem_cons.mp honoured
    by_cases itself : name = other
    · subst itself
      simp [CodeUnit.written?, CodeUnit.code?, honours.bears.found, honours.calls]
    · have absent := honours.bears.code?_other itself
      simp only [List.findSome?_cons, absent, CodeUnit.written?_eq_none_iff.mpr absent]
      exact inductionHypothesis others

/-- What is computed ends as it must with this first thing in its way, if any. -/
def Meets {α : Type} (outcome : Except Fault α) : Option Hindrance → Prop
  | none => ∃ value, outcome = .ok value
  | some hindrance => outcome = .error hindrance.fault

/-- Of two computations one after the other, the first decides if it meets anything. -/
theorem Meets.bind {α β : Type} {outcome : Except Fault α} {next : α → Except Fault β}
    {first second : Option Hindrance} (start : Meets outcome first)
    (rest : ∀ value, outcome = .ok value → Meets (next value) second) :
    Meets (outcome >>= next) (first.or second) := by
  cases first with
  | none =>
    obtain ⟨value, rfl⟩ := start
    exact rest value rfl
  | some hindrance =>
    cases start
    rfl

/-- What is made of a value meets nothing more. -/
theorem Meets.map {α β : Type} {outcome : Except Fault α} {first : Option Hindrance}
    (start : Meets outcome first) (change : α → β) :
    Meets (outcome >>= fun value => pure (change value)) first := by
  cases first with
  | none =>
    obtain ⟨value, rfl⟩ := start
    exact ⟨change value, rfl⟩
  | some hindrance =>
    cases start
    rfl

section

variable {platform : Platform} {graph : CallGraph} {levels : Nat} {arguments : List Float}
  {perform : String → List Float → Except Fault Float}

/-- If each code ends as the first thing in the way of its calls says, so does a row of codes. -/
theorem runAll_meets {codes : List Code}
    (each : ∀ code ∈ codes, Meets (code.run platform (argument arguments) perform)
      (graph.first? platform.provides levels code.calls)) :
    Meets (Code.runAll platform (argument arguments) perform codes)
      (graph.first? platform.provides levels (callsOfCodes codes)) := by
  induction codes with
  | nil =>
    rw [callsOfCodes, CallGraph.first?_nil]
    exact ⟨[], rfl⟩
  | cons code rest inductionHypothesis =>
    obtain ⟨itself, others⟩ := List.forall_mem_cons.mp each
    rw [callsOfCodes, CallGraph.first?_append, Code.runAll]
    apply itself.bind
    intro value _
    exact (inductionHypothesis others).map (value :: ·)

/-- Code ends as the first thing in the way of its calls says if each call does. -/
theorem run_meets {code : Code} (reads : code.ReadsBelow arguments.length)
    (answers : ∀ callee values, (callee, values.length) ∈ code.calls →
      Meets (perform callee values)
        (graph.first? platform.provides levels [(callee, values.length)])) :
    Meets (code.run platform (argument arguments) perform)
      (graph.first? platform.provides levels code.calls) := by
  induction code using Code.byParts with
  | constant value =>
    rw [Code.calls, CallGraph.first?_nil]
    exact ⟨value, rfl⟩
  | parameter position =>
    rw [Code.calls, CallGraph.first?_nil]
    exact ⟨arguments[position], argument_eq_ok reads⟩
  | operation kind left right inLeft inRight =>
    have first := inLeft reads.1 fun callee values member =>
      answers callee values (List.mem_append_left _ member)
    have second := inRight reads.2 fun callee values member =>
      answers callee values (List.mem_append_right _ member)
    rw [Code.calls, CallGraph.first?_append, Code.run]
    apply first.bind
    intro leftValue _
    exact second.map (platform.apply kind leftValue)
  | call callee operands inOperands =>
    have inside : Meets (Code.runAll platform (argument arguments) perform operands)
        (graph.first? platform.provides levels (callsOfCodes operands)) := by
      apply runAll_meets
      intro operand among
      apply inOperands operand among (readsBelow_of_mem reads operand among)
      intro inner values made
      exact answers inner values
        (List.mem_append_left _ (mem_callsOfCodes.mpr ⟨operand, among, made⟩))
    rw [Code.calls, CallGraph.first?_append, Code.run]
    apply inside.bind
    intro values ran
    rw [← (runAll_ok ran).1]
    apply answers
    rw [Code.calls, (runAll_ok ran).1]
    exact List.mem_append_right _ (List.mem_singleton_self _)

end

/-- Along the calls that can be reached, the graph has what calls in the evaluator find, and they
are made with the right number of arguments. -/
structure Follows (evaluator : Evaluator) (graph : CallGraph) (calls : List (String × Nat)) :
    Prop where
  mirrors (call : String × Nat) (reaches : graph.Reaches calls call) :
    graph call.1 = (evaluator.definition? call.1).map fun found => (found.1, found.2.calls)
  fits (call : String × Nat) (reaches : graph.Reaches calls call) (arity : Nat)
    (inner : List (String × Nat)) (live : graph call.1 = some (arity, inner)) : call.2 = arity

namespace Follows

variable {evaluator : Evaluator} {graph : CallGraph} {calls : List (String × Nat)}

/-- Of a graph that is followed along some calls, each single call is followed. -/
theorem of_mem (follows : evaluator.Follows graph calls) {call : String × Nat}
    (member : call ∈ calls) : evaluator.Follows graph [call] := by
  have wider {other : String × Nat} (reaches : graph.Reaches [call] other) :
      graph.Reaches calls other := by
    cases reaches with
    | here itself => exact .here (List.mem_singleton.mp itself ▸ member)
    | through itself live inside =>
      exact .through (List.mem_singleton.mp itself ▸ member) live inside
  exact ⟨fun other reaches => follows.mirrors other (wider reaches),
    fun other reaches => follows.fits other (wider reaches)⟩

/-- The graph is followed further inside the definitions that are called. -/
theorem inside (follows : evaluator.Follows graph calls) {name : String} {given arity : Nat}
    {inner : List (String × Nat)} (member : (name, given) ∈ calls)
    (live : graph name = some (arity, inner)) : evaluator.Follows graph inner :=
  ⟨fun call reaches => follows.mirrors call (.through member live reaches),
    fun call reaches => follows.fits call (.through member live reaches)⟩

end Follows

/-- A call ends as the first thing in its way says. -/
theorem call_meets {platform : Platform} {evaluator : Evaluator} {graph : CallGraph}
    (sound : evaluator.ReadsArguments) {depth : Nat} {name : String} {values : List Float}
    (follows : evaluator.Follows graph [(name, values.length)]) :
    Meets (call platform evaluator depth name values)
      (graph.first? platform.provides depth [(name, values.length)]) := by
  induction depth generalizing name values with
  | zero => rfl
  | succ depth inductionHypothesis =>
    have mirrored := follows.mirrors _ (.here (List.mem_singleton_self _))
    rw [call]
    cases found : evaluator.definition? name with
    | some definition =>
      obtain ⟨arity, code⟩ := definition
      have live : graph name = some (arity, code.calls) := by simpa [found] using mirrored
      have same : values.length = arity :=
        follows.fits _ (.here (List.mem_singleton_self _)) arity code.calls live
      simp only [if_pos same]
      rw [CallGraph.first?_live platform.provides live]
      apply run_meets (same ▸ sound name arity code found)
      intro callee given member
      exact inductionHypothesis
        ((follows.inside (List.mem_singleton_self _) live).of_mem member)
    | none =>
      have dead : graph name = none := by simpa [found] using mirrored
      rw [CallGraph.first?_dead platform.provides dead]
      cases host : platform.hostFunction? name with
      | some function => simp [Meets, Platform.provides, host]
      | none => simp [Meets, Platform.provides, host, Hindrance.fault]

/-- Code ends as the first thing in the way of its calls says. -/
theorem Follows.run_meets {evaluator : Evaluator} {graph : CallGraph} {code : Code}
    (follows : evaluator.Follows graph code.calls) (sound : evaluator.ReadsArguments)
    {arguments : List Float} (reads : code.ReadsBelow arguments.length) (platform : Platform)
    (depth : Nat) : Meets (code.run platform (argument arguments) (call platform evaluator depth))
      (graph.first? platform.provides depth code.calls) :=
  Evaluator.run_meets reads fun _ _ member => call_meets sound (follows.of_mem member)

namespace Wraps

variable {session : Session} {excused : String → String → Prop} {evaluator compiled : Evaluator}
  {body : Node} {handle : Handle} {declared : Prototype} {code : Code}

/-- Everything that the expression reaches is a word. -/
theorem word_of_reaches
    (wraps : Wraps session excused evaluator body handle compiled declared code)
    {call : String × Nat} (reaches : evaluator.callGraph.Reaches body.calls call) :
    IsWord call.1 := by
  apply reaches.all (fun _ => wraps.spelled.word_of_mem_calls)
  intro caller arity inner _ live
  rw [wraps.settled.callGraph_eq] at live
  obtain ⟨⟨arity, code⟩, found, same⟩ := Option.map_eq_some_iff.mp live
  cases same
  exact (wraps.settled.words found).2

/-- What the graph of the live definitions has for the calls of the expression is what they find
while the expression is live. -/
theorem follows (wraps : Wraps session excused evaluator body handle compiled declared code)
    (fits : ∀ call, evaluator.callGraph.Reaches body.calls call → ∀ arity inner,
      evaluator.callGraph call.1 = some (arity, inner) → call.2 = arity) :
    compiled.closed.Follows evaluator.callGraph body.calls := by
  refine ⟨?_, fits⟩
  intro call reaches
  rw [wraps.definition?_other (wraps.word_of_reaches reaches).ne_anonymousName]
  exact wraps.settled.callGraph_eq call.1

/-- The code of the expression ends as the first thing in the way of its calls says. -/
theorem meets (wraps : Wraps session excused evaluator body handle compiled declared code)
    (fits : ∀ call, evaluator.callGraph.Reaches body.calls call → ∀ arity inner,
      evaluator.callGraph call.1 = some (arity, inner) → call.2 = arity) (platform : Platform) :
    Meets (code.run platform (argument []) (call platform compiled.closed platform.depth))
      (evaluator.callGraph.first? platform.provides platform.depth body.calls) := by
  have follows := wraps.follows fits
  have reads : code.ReadsBelow ([] : List Float).length := wraps.reads
  rw [← wraps.calls] at follows ⊢
  exact follows.run_meets wraps.readsArguments reads platform platform.depth

/-- If nothing stands in the way, the expression has a value. -/
theorem comes_value (wraps : Wraps session excused evaluator body handle compiled declared code)
    {platform : Platform} {outcome : Except RunError Float}
    (comes : Action.Comes (execute platform handle []) compiled.closed outcome compiled.closed)
    (ends : Meets (code.run platform (argument []) (call platform compiled.closed platform.depth))
      none) : ∃ value, outcome = .ok value := by
  obtain ⟨value, ran⟩ := ends
  unfold Action.Comes at comes
  rw [wraps.execute_closed platform, ran] at comes
  cases outcome with
  | ok value => exact ⟨value, rfl⟩
  | error error => cases comes

/-- Whatever stands in the way first is what is told of the expression. -/
theorem comes_error (wraps : Wraps session excused evaluator body handle compiled declared code)
    {platform : Platform} {outcome : Except RunError Float} {hindrance : Hindrance}
    (comes : Action.Comes (execute platform handle []) compiled.closed outcome compiled.closed)
    (ends : Meets (code.run platform (argument []) (call platform compiled.closed platform.depth))
      (some hindrance)) : outcome = .error (hindrance.error handle.symbol) := by
  unfold Action.Comes at comes
  rw [wraps.execute_closed platform, ends] at comes
  cases outcome with
  | ok value => cases hindrance <;> cases comes
  | error error => cases hindrance <;> cases comes <;> rfl

end Wraps

end Evaluator

end Reckon
