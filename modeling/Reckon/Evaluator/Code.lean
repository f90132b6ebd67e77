import Reckon.Platform

/-!
# Resolved expressions

The code of a body is the expression with everything looked up that can be: a
parameter is its position, an operator its meaning. Calls keep the name of their
function, which is looked up when the call is made.

Code runs in any monad that says what a parameter and a call yield, so one definition
serves evaluation with failures as well as the observation of calls.
-/

namespace Reckon

/-- A resolved expression. -/
inductive Code where
  | constant (value : Float)
  | parameter (position : Nat)
  | operation (kind : Operation) (left right : Code)
  | call (callee : String) (arguments : List Code)
  deriving Inhabited

namespace Code

variable {m : Type → Type} [Monad m]

mutual

/-- Runs code: operands from left to right, arguments before their call. -/
def run (platform : Platform) (parameter : Nat → m Float) (call : String → List Float → m Float) :
    Code → m Float
  | .constant value => pure value
  | .parameter position => parameter position
  | .operation kind left right => do
    let leftValue ← run platform parameter call left
    let rightValue ← run platform parameter call right
    return platform.apply kind leftValue rightValue
  | .call callee arguments => do
    let values ← runAll platform parameter call arguments
    call callee values

/-- Runs codes from left to right. -/
def runAll (platform : Platform) (parameter : Nat → m Float)
    (call : String → List Float → m Float) : List Code → m (List Float)
  | [] => pure []
  | code :: rest => do
    let value ← run platform parameter call code
    let values ← runAll platform parameter call rest
    return value :: values

end

end Code

end Reckon
