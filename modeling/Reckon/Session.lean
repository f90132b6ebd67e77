import Reckon.Node
import Reckon.Operators

/-!
# Sessions

A session keeps what outlives a single unit: the table of operators and the latest
prototype of every function that was declared or defined.
-/

namespace Reckon

/-- The operators and the known prototypes. -/
structure Session where
  operators : Operators
  prototypes : Catalog String Prototype

namespace Session

/-- A session with the standard operators that knows no function. -/
def fresh : Session := { operators := Operators.standard, prototypes := Catalog.empty }

/-- A fresh session with further operators, taken in order up to the first that is refused. -/
def withOperators (given : List (Datum × Datum)) : Except OperatorError Session := do
  let operators ← given.foldlM (fun table pair => table.register pair.1 pair.2) Operators.standard
  return { fresh with operators }

/-- Remembers a prototype as the latest of its name. -/
def record (session : Session) (prototype : Prototype) : Session :=
  { session with prototypes := session.prototypes.put prototype.name prototype }

/-- The latest prototype of a name. -/
def find? (session : Session) (name : String) : Option Prototype := session.prototypes.get? name

/-- The recorded prototype is found; those of other names are as before. -/
theorem find?_record (session : Session) (prototype : Prototype) (name : String) :
    (session.record prototype).find? name =
      if prototype.name = name then some prototype else session.find? name :=
  Catalog.get?_put ..

end Session

end Reckon
