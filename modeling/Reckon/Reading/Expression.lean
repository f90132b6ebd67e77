import Reckon.Node
import Reckon.Operators
import Reckon.Reading.Outcome

/-!
# Reading expressions

    expression ::= primary (operator primary)*
    primary    ::= number | '(' expression ')' | identifier
                 | identifier '(' [expression (',' expression)*] ')'

Operators are grouped by precedence climbing: a row of operators is folded to the
left for as long as the next one does not bind tighter; one that does takes the
operand first. Which symbols are operators is up to the table.

The readers are mutually recursive and count a depth down. Four levels for each
character that is left, and four more, are enough.
-/

namespace Reckon

namespace Reader

/-- A number stands for itself. -/
def number : Reader Node := do
  let token ← peek
  advance
  return .number (lexemeValue token.lexeme) (some token.location)

mutual

/-- A number, a parenthesised expression, a reference or a call. -/
def primary (operators : Operators) : Nat → Reader Node
  | 0 => exhausted
  | depth + 1 => do
    let token ← peek
    if token.kind = .identifier then named operators depth
    else if token.kind = .number then number
    else if token.isSymbol '(' then parenthesised operators depth
    else refuse .expression

/-- An expression between parentheses. The opening one has been seen. -/
def parenthesised (operators : Operators) : Nat → Reader Node
  | 0 => exhausted
  | depth + 1 => do
    advance
    let inner ← expression operators depth
    symbol ')' .closingParenthesis
    return inner

/-- A reference, or a call if an opening parenthesis follows the name. -/
def named (operators : Operators) : Nat → Reader Node
  | 0 => exhausted
  | depth + 1 => do
    let name ← peek
    advance
    let next ← peek
    if next.isSymbol '(' then
      advance
      let first ← peek
      if first.isSymbol ')' then
        advance
        return .call name.lexeme [] (some name.location)
      else
        let arguments ← arguments operators depth
        return .call name.lexeme arguments (some name.location)
    else return .reference name.lexeme (some name.location)

/-- One argument or more up to and including the closing parenthesis. -/
def arguments (operators : Operators) : Nat → Reader (List Node)
  | 0 => exhausted
  | depth + 1 => do
    let first ← expression operators depth
    let next ← peek
    if next.isSymbol ')' then
      advance
      return [first]
    else
      symbol ',' .argumentSeparator
      let others ← arguments operators depth
      return first :: others

/-- A primary and the operators that follow it. -/
def expression (operators : Operators) : Nat → Reader Node
  | 0 => exhausted
  | depth + 1 => do
    let first ← primary operators depth
    operation operators depth 0 first

/-- Folds operators of at least the given precedence into what stands left of them. -/
def operation (operators : Operators) : Nat → Int → Node → Reader Node
  | 0, _, _ => exhausted
  | depth + 1, least, left => do
    let operator ← peek
    if operators.precedence operator < least then return left
    else
      advance
      let operand ← primary operators depth
      let next ← peek
      let right ←
        (if operators.precedence operator < operators.precedence next then
          operation operators depth (operators.precedence operator + 1) operand
        else pure operand)
      operation operators depth least
        (.binary operator.lexeme left right (some operator.location))

end

end Reader

end Reckon
