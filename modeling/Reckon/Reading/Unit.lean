import Reckon.Reading.Expression

/-!
# Reading units

    prototype  ::= identifier '(' identifier* ')'
    definition ::= 'def' prototype expression
    declaration ::= 'extern' prototype

A bare expression is read as the definition of the anonymous function.
-/

namespace Reckon

namespace Reader

/-- The identifiers in front. -/
def parameters : Nat → Reader (List String)
  | 0 => exhausted
  | depth + 1 => do
    let token ← peek
    if token.kind = .identifier then
      advance
      let others ← parameters depth
      return token.lexeme :: others
    else return []

/-- A name and its parameters between parentheses. -/
def prototype (depth : Nat) : Reader Prototype := do
  let name ← peek
  if name.kind = .identifier then
    advance
    symbol '(' .parameterList
    let parameters ← parameters depth
    symbol ')' .parameterListEnd
    return { name := name.lexeme, parameters, location := some name.location }
  else refuse .functionName

/-- A definition. Its keyword has been seen. -/
def definition (operators : Operators) (depth : Nat) : Reader Definition := do
  let keyword ← peek
  advance
  let prototype ← prototype depth
  let body ← expression operators depth
  return { prototype, body, location := some keyword.location }

/-- A declaration. Its keyword has been seen. -/
def declaration (depth : Nat) : Reader Prototype := do
  advance
  prototype depth

/-- A bare expression. -/
def anonymous (operators : Operators) (depth : Nat) : Reader Definition := do
  let body ← expression operators depth
  return .anonymous body

end Reader

end Reckon
