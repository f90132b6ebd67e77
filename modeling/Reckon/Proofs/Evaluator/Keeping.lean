import Reckon.Evaluator.Execution
import Reckon.Proofs.Backend.Keeping
import Reckon.Proofs.Evaluator.Compilation

/-!
# What the evaluator keeps

All that resolving a body asks of the evaluator is to find functions, and that may declare
some. So whatever declaring keeps, resolving keeps. Running a function changes nothing.
-/

namespace Reckon

namespace Evaluator

open Reckon.Action

variable {good : Evaluator → Prop} {session : Session}

/-- Compiling a row of bodies keeps what compiling each of them keeps. -/
theorem compileAll_keeps {parameters : List String} {nodes : List Node}
    (each : ∀ node ∈ nodes, Keeps good (compile session parameters node)) :
    Keeps good (compileAll session parameters nodes) := by
  induction nodes with
  | nil =>
    rw [compileAll]
    exact keeps_pure _
  | cons node rest inductionHypothesis =>
    obtain ⟨itself, others⟩ := List.forall_mem_cons.mp each
    rw [compileAll]
    exact itself.bind fun _ => (inductionHypothesis others).bind fun _ => keeps_pure _

/-- Resolving a body keeps what finding the functions that it calls keeps. -/
theorem compile_keeps_of {parameters : List String} {node : Node}
    (finds : ∀ call ∈ node.calls, Keeps good (resolve session call.1)) :
    Keeps good (compile session parameters node) := by
  induction node using Node.byParts with
  | number value location =>
    rw [compile]
    exact keeps_pure _
  | reference name location =>
    rw [compile]
    cases position? name parameters with
    | some position => exact keeps_pure _
    | none => exact keeps_throw _
  | binary operator left right location inLeft inRight =>
    rw [Node.calls, List.forall_mem_append] at finds
    rw [compile]
    refine (inLeft finds.1).bind fun leftCode => (inRight finds.2).bind fun rightCode => ?_
    cases Operation.ofOperator? operator with
    | some kind => exact keeps_pure _
    | none => exact keeps_throw _
  | call callee arguments location each =>
    rw [Node.calls, List.forall_mem_append, List.forall_mem_singleton] at finds
    rw [compile]
    refine finds.2.bind fun found => ?_
    cases found with
    | none => exact keeps_throw _
    | some handle =>
      apply keeps_get
      intro evaluator
      dsimp only
      split
      · refine (compileAll_keeps fun argument member => each argument member ?_).bind
          fun _ => keeps_pure _
        exact fun call made => finds.1 call (mem_callsOfNodes.mpr ⟨argument, member, made⟩)
      · exact keeps_throw _
  | prototype header =>
    rw [compile]
    exact keeps_throw _
  | definition header body location =>
    rw [compile]
    exact keeps_throw _

/-- Resolving a body keeps what declaring keeps. -/
theorem compile_keeps (declares : ∀ prototype, Keeps good (declare session prototype))
    (parameters : List String) (node : Node) : Keeps good (compile session parameters node) :=
  compile_keeps_of fun _ _ => resolve_keeps fun known _ => declares known

/-- Compiling a body keeps what declaring and giving a function a body keep. -/
theorem defineBody_keeps (declares : ∀ prototype, Keeps good (declare session prototype))
    {handle : Handle} {body : Node}
    (gives : ∀ evaluator code, good evaluator → good { evaluator.withBody handle (body, code) with
      defined := evaluator.defined.insert handle.symbol }) (parameters : List String) :
    Keeps good (defineBody session handle body parameters) := by
  apply keeps_get
  intro before
  refine (keeps_check _).bind fun _ => (compile_keeps declares parameters body).bind fun code => ?_
  exact keeps_modify fun evaluator => gives evaluator code

/-- Running a function loses nothing, for it leaves the evaluator as it is. -/
theorem execute_keeps (platform : Platform) (handle : Handle) (arguments : List Float) :
    Keeps good (execute platform handle arguments) := by
  unfold execute
  apply keeps_get
  intro evaluator
  dsimp only
  split
  · cases evaluator.outcome platform handle arguments with
    | ok value => exact keeps_pure _
    | error fault => cases fault <;> exact keeps_throw _
  · exact keeps_throw _

end Evaluator

end Reckon
