import Reckon.Backend
import Reckon.Evaluator.Code

/-!
# The units of the evaluator

A unit holds functions by name, in the order of their declaration. A function keeps
the prototype it was first declared with; its body arrives later or never. Units that
were handed off are live until they are given up. A unit that was given up stays
known to those who hold a handle of it, but takes no part in calls.
-/

namespace Reckon

namespace Evaluator

/-- A function: its prototype, and its body as written and as resolved, if it has one. -/
structure Function where
  prototype : Prototype
  body : Option (Node × Code)

/-- Functions compiled together. -/
structure CodeUnit where
  number : Nat
  functions : Catalog String Function

namespace CodeUnit

/-- A unit without functions. -/
def opened (number : Nat) : CodeUnit := { number, functions := Catalog.empty }

/-- The names of the functions with a body, in the order of their declaration. -/
def defined (unit : CodeUnit) : List String :=
  (unit.functions.entries.filter (fun entry => entry.2.body.isSome)).map Prod.fst

/-- The code of a function of the unit, with its arity. -/
def code? (unit : CodeUnit) (name : String) : Option (Nat × Code) := do
  let function ← unit.functions.get? name
  let body ← function.body
  return (function.prototype.arity, body.2)

/-- Gives a function of the unit a body. A name without a function is left alone. -/
def withBody (unit : CodeUnit) (name : String) (body : Node × Code) : CodeUnit :=
  match unit.functions.get? name with
  | some function =>
    { unit with functions := unit.functions.put name { function with body := some body } }
  | none => unit

end CodeUnit

end Evaluator

open Evaluator in
/-- The state of the evaluator: the open unit, the live ones in the order of their hand-off,
those given up, and the names of the functions that count as defined. -/
structure Evaluator where
  current : CodeUnit
  live : List CodeUnit
  released : List CodeUnit
  defined : NameSet

namespace Evaluator

/-- An evaluator with nothing in its open unit. -/
def initial : Evaluator :=
  { current := .opened 1, live := [], released := [], defined := [] }

/-- A unit by its number. -/
def unit? (evaluator : Evaluator) (number : Nat) : Option CodeUnit :=
  (evaluator.current :: evaluator.live ++ evaluator.released).find? (·.number = number)

/-- The function that a handle names. -/
def function? (evaluator : Evaluator) (handle : Handle) : Option Function := do
  let unit ← evaluator.unit? handle.unit
  unit.functions.get? handle.symbol

/-- The number of parameters of a function; none for a handle of nothing. -/
def arityOf (evaluator : Evaluator) (handle : Handle) : Nat :=
  match evaluator.function? handle with
  | some function => function.prototype.arity
  | none => 0

/-- Whether a function has a body. -/
def hasBody (evaluator : Evaluator) (handle : Handle) : Bool :=
  match evaluator.function? handle with
  | some function => function.body.isSome
  | none => false

/-- Gives the function of a handle a body, wherever its unit is. -/
def withBody (evaluator : Evaluator) (handle : Handle) (body : Node × Code) : Evaluator :=
  let change (unit : CodeUnit) : CodeUnit :=
    if unit.number = handle.unit then unit.withBody handle.symbol body else unit
  { evaluator with
    current := change evaluator.current
    live := evaluator.live.map change
    released := evaluator.released.map change }

/-- The function of the open unit with a name. -/
def lookup (evaluator : Evaluator) (name : String) : Option Handle :=
  (evaluator.current.functions.get? name).map fun _ => ⟨evaluator.current.number, name⟩

/-- Declares a function in the open unit, unless it is there with the same arity. -/
def declare (session : Session) (prototype : Prototype) : Action Evaluator Handle := do
  check (session.prototypeFault? prototype)
  let evaluator ← get
  let handle : Handle := ⟨evaluator.current.number, prototype.name⟩
  match evaluator.current.functions.get? prototype.name with
  | some function => check (declarationFault? prototype function.prototype.arity)
  | none =>
    set { evaluator with
      current := { evaluator.current with
        functions := evaluator.current.functions.put prototype.name
          { prototype, body := none } } }
  return handle

instance : Declarations Evaluator where
  lookup := lookup
  declare := declare
  arity := arityOf

end Evaluator

end Reckon
