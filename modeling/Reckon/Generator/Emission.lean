import Reckon.Generator.State

/-!
# From expressions to instructions

An expression is written out as the instructions that compute it, operands first, and
yields the operand that holds its value. The order of checks is that of evaluation
from left to right: operands before their operator, the called function and its number
of arguments before the arguments.

When a body is refused its block is dropped, but the names it took stay taken, so the
next attempt counts on from there. A body with a misplaced unit in it stays as it is,
incomplete; the module is refused when it is handed off.
-/

namespace Reckon

open Instruction

namespace Generator

/-- A block being written. -/
structure Emission where
  generator : Generator
  names : Names
  instructions : List Instruction

/-- A part of writing a block. -/
abbrev Emit (α : Type) := EStateM Fault Emission α

/-- Carries an operation of the generator out while a block is being written. -/
def generating {α : Type} (action : Action Generator α) : Emit α := fun emission =>
  match action emission.generator with
  | .ok value generator => .ok value { emission with generator }
  | .error fault generator => .error fault { emission with generator }

/-- Appends an instruction that writes a new register, named as wanted if it can be. -/
def append (wanted : String) (instruction : String → Instruction) : Emit String := do
  let emission ← get
  let (name, names) := emission.names.take wanted
  set { emission with names, instructions := emission.instructions ++ [instruction name] }
  return name

/-- The name wanted for the result of an operation. -/
def resultName : Arithmetic → String
  | .add => "addtmp"
  | .subtract => "subtmp"
  | .multiply => "multmp"

/-- Appends the instructions of an operation. -/
def emitOperation (operation : Operation) (left right : Operand) : Emit Operand := do
  match operation with
  | .arithmetic kind =>
    return .register (← append (resultName kind) fun name => .arithmetic name kind left right)
  | .below =>
    let bit ← append "cmptmp" fun name => .compare name left right
    return .register (← append "booltmp" fun name => .widen name bit)

mutual

/-- Writes an expression out. The scope pairs parameters with registers; of several with
the same name the last one counts. -/
def emit (session : Session) (scope : List (String × String)) : Node → Emit Operand
  | .number value _ => return .constant value
  | .reference name location =>
    match scope.reverse.lookup name with
    | some register => return .register register
    | none => throw (.compile (.unknownVariable name) location)
  | .binary operator left right location => do
    let leftOperand ← emit session scope left
    let rightOperand ← emit session scope right
    match Operation.ofOperator? operator with
    | some operation => emitOperation operation leftOperand rightOperand
    | none => throw (.compile (.invalidOperator operator) location)
  | .call callee arguments location => do
    match ← generating (resolve session callee) with
    | some handle =>
      let arity := (← get).generator.arityOf handle
      if arity = arguments.length then
        let operands ← emitAll session scope arguments
        return .register (← append "calltmp" fun name => .call name handle.symbol operands)
      else throw (.compile (.arityMismatch callee arity arguments.length) location)
    | none => throw (.compile (.unknownFunction callee) location)
  | .prototype header => throw (.misplaced ⟨.prototype header⟩)
  | .definition header body location => throw (.misplaced ⟨.definition header body location⟩)

/-- Writes expressions out from left to right. -/
def emitAll (session : Session) (scope : List (String × String)) : List Node → Emit (List Operand)
  | [] => return []
  | node :: rest => do
    let operand ← emit session scope node
    let operands ← emitAll session scope rest
    return operand :: operands

end

/-- What is left of a block after a fault. -/
def remainder (fault : Fault) (label : String) (instructions : List Instruction) : Option Block :=
  match fault with
  | .compile .. => none
  | _ => some { label, instructions, returned := none }

/-- Compiles a body for a declared function. -/
def defineBody (session : Session) (handle : Handle) (body : Node) (parameters : List String) :
    Action Generator Unit := do
  let before ← get
  check (redefinitionFault? before.defined handle.symbol (before.hasBody handle) body.location)
  match before.routine? handle with
  | none => pure ()
  | some routine =>
    let (label, names) := routine.names.take "entry"
    let scope := parameters.zip routine.parameters
    match emit session scope body { generator := before, names, instructions := [] } with
    | .ok operand emission =>
      let block : Block :=
        { label, instructions := emission.instructions, returned := some operand }
      let after := emission.generator.withRoutine handle.unit
        { routine with names := emission.names, block := some block }
      set { after with defined := after.defined.insert handle.symbol }
    | .error fault emission =>
      set (emission.generator.withRoutine handle.unit
        { routine with
          names := emission.names
          block := remainder fault label emission.instructions })
      throw fault

end Generator

end Reckon
