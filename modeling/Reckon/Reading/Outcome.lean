import Reckon.Diagnostic
import Reckon.Token.Scan

/-!
# Readers of token sequences

A reader looks at the next token, goes past tokens and ends in one of two ways: with
a result, or with a syntax error. Either way it leaves the cursor where it stopped;
an error is always about the token that is next there. Readers count their depth
down, and one that starts too low ends without an answer.
-/

namespace Reckon

/-- What was expected where something else was found. -/
inductive Expectation where
  | expression
  | closingParenthesis
  | argumentSeparator
  | functionName
  | parameterList
  | parameterListEnd
  deriving DecidableEq, Repr

namespace Expectation

/-- The code of a syntax error. -/
def code : Expectation → String
  | expression => "P001"
  | closingParenthesis => "P002"
  | argumentSeparator => "P003"
  | functionName => "P004"
  | parameterList => "P005"
  | parameterListEnd => "P006"

/-- The message of a syntax error. -/
def message : Expectation → String
  | expression => "Unknown token when expecting an expression"
  | closingParenthesis => "Expected ')'"
  | argumentSeparator => "Expected ')' or ',' in argument list"
  | functionName => "Expected function name in prototype"
  | parameterList => "Expected '(' in prototype"
  | parameterListEnd => "Expected ')' in prototype"

/-- The advice that goes with a syntax error at a token. -/
def help (found : Token) : Expectation → String
  | expression =>
    "Found " ++ found.text ++ "; an expression starts with a number, an identifier or '('."
  | closingParenthesis => "Found " ++ found.text ++ " after the parenthesized expression."
  | argumentSeparator => "Call arguments are separated by commas."
  | functionName => "A prototype starts with the function name, e.g. foo(a b)."
  | parameterList => "The function name must be followed by '('."
  | parameterListEnd => "Parameter names are identifiers separated by whitespace, not commas."

/-- Repairs worth trying. -/
def suggestions : Expectation → List String
  | closingParenthesis => ["Add a closing ')'"]
  | argumentSeparator => ["Separate arguments with ','", "Close the call with ')'"]
  | _ => []

end Expectation

/-- A token that does not fit. -/
structure SyntaxError where
  expected : Expectation
  found : Token
  deriving DecidableEq, Repr

/-- The report of a syntax error is located at the token that does not fit. -/
def SyntaxError.diagnostic (error : SyntaxError) : Diagnostic :=
  .error error.expected.code error.expected.message (some error.found.location)
    (some (error.expected.help error.found)) error.expected.suggestions

/-- How reading ended, and where. -/
inductive Outcome (α : Type) where
  | parsed (value : α) (cursor : Cursor)
  | failed (error : SyntaxError) (cursor : Cursor)

namespace Outcome

/-- Where reading stopped. -/
def cursor {α : Type} : Outcome α → Cursor
  | parsed _ cursor => cursor
  | failed _ cursor => cursor

/-- The result or the error. -/
def result {α : Type} : Outcome α → Except SyntaxError α
  | parsed value _ => .ok value
  | failed error _ => .error error

/-- The outcome with its result changed. -/
def map {α β : Type} (change : α → β) : Outcome α → Outcome β
  | parsed value cursor => parsed (change value) cursor
  | failed error cursor => failed error cursor

end Outcome

/-- A reader starts at a cursor. It gives no answer only if its depth was too low. -/
def Reader (α : Type) : Type := Cursor → Option (Outcome α)

namespace Reader

variable {α β : Type}

/-- Reads nothing and succeeds. -/
def succeed (value : α) : Reader α := fun cursor => some (.parsed value cursor)

/-- Reads with one reader and goes on with another, unless the first fails. -/
def andThen (first : Reader α) (next : α → Reader β) : Reader β := fun cursor =>
  match first cursor with
  | none => none
  | some (.failed error stopped) => some (.failed error stopped)
  | some (.parsed value after) => next value after

instance : Monad Reader where
  pure := succeed
  bind := andThen

/-- Gives no answer: the depth has been used up. -/
def exhausted : Reader α := fun _ => none

/-- The next token, which stays next. -/
def peek : Reader Token := fun cursor => some (.parsed cursor.nextToken cursor)

/-- Goes past the next token. -/
def advance : Reader Unit := fun cursor => some (.parsed () cursor.pastToken)

/-- Refuses the next token. -/
def refuse (expected : Expectation) : Reader α := fun cursor =>
  some (.failed ⟨expected, cursor.nextToken⟩ cursor)

/-- Goes past a symbol, or refuses the token that stands in its place. -/
def symbol (character : Char) (expected : Expectation) : Reader Unit := do
  let token ← peek
  if token.isSymbol character then advance else refuse expected

/-- A value is read without looking at anything. -/
theorem pure_apply (value : α) (cursor : Cursor) :
    (pure value : Reader α) cursor = some (.parsed value cursor) := rfl

/-- A second reader starts where the first one ended with a result. -/
theorem bind_apply (first : Reader α) (next : α → Reader β) (cursor : Cursor) :
    (first >>= next) cursor =
      match first cursor with
      | none => none
      | some (.failed error stopped) => some (.failed error stopped)
      | some (.parsed value after) => next value after := rfl

/-- To peek is to see the next token and to stay in front of it. -/
theorem peek_apply (cursor : Cursor) : peek cursor = some (.parsed cursor.nextToken cursor) := rfl

/-- To advance is to go past the next token, whatever it is. -/
theorem advance_apply (cursor : Cursor) : advance cursor = some (.parsed () cursor.pastToken) := rfl

/-- A refusal is about the next token and stays in front of it. -/
theorem refuse_apply (expected : Expectation) (cursor : Cursor) :
    (refuse expected : Reader α) cursor = some (.failed ⟨expected, cursor.nextToken⟩ cursor) := rfl

/-- A symbol is gone past if it is the next token, and otherwise expected in vain. -/
theorem symbol_apply (character : Char) (expected : Expectation) (cursor : Cursor) :
    symbol character expected cursor =
      if cursor.nextToken.isSymbol character then some (.parsed () cursor.pastToken)
      else some (.failed ⟨expected, cursor.nextToken⟩ cursor) := by
  unfold symbol
  rw [bind_apply]
  simp only [peek_apply]
  split <;> rfl

end Reader

end Reckon
