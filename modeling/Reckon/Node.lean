import Reckon.Location

/-!
# Expressions and units as trees

Expressions are numbers, references to parameters, binary operations and calls.
Units are prototypes, which announce a function, and definitions, which also give
its body. Parsing puts units at the top only; a tree made by hand may carry one
where an expression belongs. Such a tree can be compared, walked and shown, but
it has no value.
-/

namespace Reckon

/-- A function's name and the names of its parameters, which need not differ. -/
structure Prototype where
  name : String
  parameters : List String
  location : Option Location
  deriving DecidableEq, Repr

/-- The number of parameters. -/
def Prototype.arity (prototype : Prototype) : Nat := prototype.parameters.length

/-- The reserved name of the function that wraps an expression at the top. No
word of a source text spells it. -/
def anonymousName : String := "__anon_expr"

/-- Whether the prototype is that of a wrapped expression. -/
def Prototype.isAnonymous (prototype : Prototype) : Bool := prototype.name == anonymousName

/-- A tree. Its places are those of the tokens it was read from, if it was read. -/
inductive Node where
  | number (value : Float) (location : Option Location)
  | reference (name : String) (location : Option Location)
  | binary (operator : String) (left right : Node) (location : Option Location)
  | call (callee : String) (arguments : List Node) (location : Option Location)
  | prototype (header : Prototype)
  | definition (header : Prototype) (body : Node) (location : Option Location)
  deriving Inhabited

/-- The place a tree starts at; a binary operation starts at its operator. -/
def Node.location : Node → Option Location
  | .number _ location => location
  | .reference _ location => location
  | .binary _ _ _ location => location
  | .call _ _ location => location
  | .prototype header => header.location
  | .definition _ _ location => location

/-- A function with its body. -/
structure Definition where
  prototype : Prototype
  body : Node
  location : Option Location

/-- Wraps an expression as a function without parameters. -/
def Definition.anonymous (body : Node) : Definition where
  prototype := { name := anonymousName, parameters := [], location := body.location }
  body := body
  location := body.location

/-- The definition as a tree. -/
def Definition.node (definition : Definition) : Node :=
  .definition definition.prototype definition.body definition.location

end Reckon
