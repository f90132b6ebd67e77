import Reckon.Decimal.Notation
import Reckon.Node

/-!
# Written forms of trees

The detailed form shows every field of every tree. The prefix form is a
parenthesised list with the operator or the function in front; it exists for
expressions and for units over expressions, and a unit in the place of an
expression is refused.
-/

namespace Reckon

open Text

/-- A prototype with all its fields. -/
def Prototype.detail (prototype : Prototype) : String :=
  "Prototype(name=" ++ quoted prototype.name ++ ", params=[" ++
    ", ".intercalate (prototype.parameters.map quoted) ++ "])"

mutual

/-- A tree with all its fields except places. -/
def Node.detail : Node → String
  | .number value _ => "NumberLiteral(value=" ++ Decimal.plain value ++ ")"
  | .reference name _ => "VariableRef(name=" ++ quoted name ++ ")"
  | .binary operator left right _ =>
    "BinaryOp(operator=" ++ quoted operator ++ ", left=" ++ left.detail ++ ", right=" ++
      right.detail ++ ")"
  | .call callee arguments _ =>
    "Call(callee=" ++ quoted callee ++ ", args=[" ++
      ", ".intercalate (Node.detailAll arguments) ++ "])"
  | .prototype header => header.detail
  | .definition header body _ =>
    "FunctionDef(prototype=" ++ header.detail ++ ", body=" ++ body.detail ++ ")"

/-- The detailed forms of a list of trees. -/
def Node.detailAll : List Node → List String
  | [] => []
  | tree :: rest => tree.detail :: Node.detailAll rest

end

/-- A unit that stands where an expression belongs. -/
structure Misplaced where
  unit : Node

/-- The complaint about a misplaced unit. -/
def Misplaced.message (misplaced : Misplaced) : String :=
  "Not an expression node: " ++ misplaced.unit.detail

/-- The integer that a double is, if it is one and lies below 10 ^ 16 in magnitude. -/
def smallInteger? (value : Float) : Option Int :=
  match Decimal.shape value with
  | .finite negative significand exponent =>
    let (numerator, denominator) := Decimal.fraction significand exponent
    if numerator % denominator = 0 && numerator < denominator * Decimal.tenTo 16 then
      let size : Int := (numerator / denominator : Nat)
      some (if negative then -size else size)
    else none
  | _ => none

/-- Numbers in the prefix form: integers without a point while they are short,
any other number in the plain notation. -/
def numberText (value : Float) : String :=
  match smallInteger? value with
  | some integer => toString integer
  | none => Decimal.plain value

/-- The prefix form of a prototype. -/
def Prototype.listed (prototype : Prototype) : String :=
  "(" ++ " ".intercalate (prototype.name :: prototype.parameters) ++ ")"

mutual

/-- The prefix form of an expression. -/
def Node.expressionText : Node → Except Misplaced String
  | .number value _ => .ok (numberText value)
  | .reference name _ => .ok name
  | .binary operator left right _ => do
    let leftText ← left.expressionText
    let rightText ← right.expressionText
    return "(" ++ operator ++ " " ++ leftText ++ " " ++ rightText ++ ")"
  | .call callee arguments _ => do
    let texts ← Node.expressionTexts arguments
    return "(" ++ " ".intercalate ("call" :: callee :: texts) ++ ")"
  | .prototype header => .error ⟨.prototype header⟩
  | .definition header body location => .error ⟨.definition header body location⟩

/-- The prefix forms of a list of expressions; the first unit among them is refused. -/
def Node.expressionTexts : List Node → Except Misplaced (List String)
  | [] => .ok []
  | tree :: rest => do
    let text ← tree.expressionText
    let texts ← Node.expressionTexts rest
    return text :: texts

end

/-- The prefix form of a definition. -/
def Definition.listed (definition : Definition) : Except Misplaced String := do
  let body ← definition.body.expressionText
  return "(def " ++ definition.prototype.listed ++ " " ++ body ++ ")"

/-- The prefix form of an expression or a unit. -/
def Node.listed : Node → Except Misplaced String
  | .prototype header => .ok header.listed
  | .definition header body location => Definition.listed ⟨header, body, location⟩
  | expression => expression.expressionText

end Reckon
