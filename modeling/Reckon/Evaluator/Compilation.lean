import Reckon.Evaluator.State

/-!
# Resolving expressions

A body is resolved from left to right. Operands come before their operator; a called
function is found and its number of arguments checked before the arguments are looked
at. Finding a function may declare it in the open unit, and it stays declared even if
a later part of the body is refused.
-/

namespace Reckon

namespace Evaluator

/-- The position of a parameter. Of several with the same name the last one counts. -/
def position? (name : String) : List String → Option Nat
  | [] => none
  | parameter :: rest =>
    match position? name rest with
    | some position => some (position + 1)
    | none => if parameter = name then some 0 else none

mutual

/-- Resolves an expression over the given parameters. -/
def compile (session : Session) (parameters : List String) : Node → Action Evaluator Code
  | .number value _ => return .constant value
  | .reference name location =>
    match position? name parameters with
    | some position => return .parameter position
    | none => throw (.compile (.unknownVariable name) location)
  | .binary operator left right location => do
    let leftCode ← compile session parameters left
    let rightCode ← compile session parameters right
    match Operation.ofOperator? operator with
    | some kind => return .operation kind leftCode rightCode
    | none => throw (.compile (.invalidOperator operator) location)
  | .call callee arguments location => do
    match ← resolve session callee with
    | some handle =>
      let arity := (← get).arityOf handle
      if arity = arguments.length then
        let codes ← compileAll session parameters arguments
        return .call handle.symbol codes
      else throw (.compile (.arityMismatch callee arity arguments.length) location)
    | none => throw (.compile (.unknownFunction callee) location)
  | .prototype header => throw (.misplaced ⟨.prototype header⟩)
  | .definition header body location => throw (.misplaced ⟨.definition header body location⟩)

/-- Resolves expressions from left to right. -/
def compileAll (session : Session) (parameters : List String) :
    List Node → Action Evaluator (List Code)
  | [] => return []
  | node :: rest => do
    let code ← compile session parameters node
    let codes ← compileAll session parameters rest
    return code :: codes

end

/-- Compiles a body for a declared function. -/
def defineBody (session : Session) (handle : Handle) (body : Node) (parameters : List String) :
    Action Evaluator Unit := do
  let before ← get
  check (redefinitionFault? before.defined handle.symbol (before.hasBody handle) body.location)
  let code ← compile session parameters body
  modify fun evaluator =>
    { evaluator.withBody handle (body, code) with
      defined := evaluator.defined.insert handle.symbol }

/-- Hands the open unit off and opens the next. -/
def handOff : Action Evaluator Nat := do
  let evaluator ← get
  set { evaluator with
    current := .opened (evaluator.current.number + 1)
    live := evaluator.live ++ [evaluator.current] }
  return evaluator.current.number

/-- Gives a live unit up. The functions with a body in it no longer count as defined. -/
def release (number : Nat) : Action Evaluator Unit := do
  let evaluator ← get
  match evaluator.live.find? (·.number = number) with
  | some unit =>
    set { evaluator with
      live := evaluator.live.filter (·.number ≠ number)
      released := evaluator.released ++ [unit]
      defined := evaluator.defined.without unit.defined }
  | none => throw .notLive

end Evaluator

end Reckon
