import Reckon.Node

/-!
# Equality and traversal of trees

Trees are the same when they have the same shape, names and numbers; places do
not count. Numbers compare as doubles do, so a NaN differs from itself and the
two zeros are the same.
-/

namespace Reckon

/-- The name of a tree's kind. -/
def Node.kind : Node → String
  | .number .. => "NumberLiteral"
  | .reference .. => "VariableRef"
  | .binary .. => "BinaryOp"
  | .call .. => "Call"
  | .prototype .. => "Prototype"
  | .definition .. => "FunctionDef"

/-- Prototypes are the same up to their places. -/
def Prototype.same (left right : Prototype) : Bool :=
  left.name == right.name && left.parameters == right.parameters

mutual

/-- Whether two trees are the same up to their places. -/
def Node.same : Node → Node → Bool
  | .number value _, .number other _ => value == other
  | .reference name _, .reference other _ => name == other
  | .binary operator left right _, .binary operator' left' right' _ =>
    operator == operator' && left.same left' && right.same right'
  | .call callee arguments _, .call callee' arguments' _ =>
    callee == callee' && Node.allSame arguments arguments'
  | .prototype header, .prototype header' => header.same header'
  | .definition header body _, .definition header' body' _ =>
    header.same header' && body.same body'
  | _, _ => false

/-- Whether two lists of trees are the same, tree by tree. -/
def Node.allSame : List Node → List Node → Bool
  | [], [] => true
  | tree :: rest, tree' :: rest' => tree.same tree' && Node.allSame rest rest'
  | _, _ => false

end

mutual

/-- The kinds of a tree and of all trees in it, each before those inside. -/
def Node.walk : Node → List String
  | .number .. => ["NumberLiteral"]
  | .reference .. => ["VariableRef"]
  | .binary _ left right _ => "BinaryOp" :: left.walk ++ right.walk
  | .call _ arguments _ => "Call" :: Node.walkAll arguments
  | .prototype _ => ["Prototype"]
  | .definition _ body _ => "FunctionDef" :: "Prototype" :: body.walk

/-- The kinds of a list of trees, one tree after the other. -/
def Node.walkAll : List Node → List String
  | [] => []
  | tree :: rest => tree.walk ++ Node.walkAll rest

end

end Reckon
