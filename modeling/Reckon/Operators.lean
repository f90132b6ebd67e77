import Reckon.Catalog
import Reckon.Datum
import Reckon.Text.Alphanumeric
import Reckon.Text.Blank
import Reckon.Token

/-!
# The table of binary operators

An operator is a single character with a positive precedence; a greater precedence
binds tighter. The characters of words, numbers and blanks and the ones that the
grammar uses itself cannot be operators. Every table starts from the four
operators that have a meaning.
-/

namespace Reckon

open Text

/-- Precedences by operator, in the order in which the operators came in. -/
abbrev Operators := Catalog Char Nat

/-- The four operators with a meaning. -/
def Operators.standard : Operators := ⟨[('<', 10), ('+', 20), ('-', 30), ('*', 40)]⟩

/-- The characters that the grammar or the lexemes use themselves. -/
def isReserved (c : Char) : Bool :=
  c = '(' || c = ')' || c = ',' || c = ';' || c = '#' || c = '.'

/-- Whether a character can be an operator. -/
def isOperatorCharacter (c : Char) : Bool := !(isAlphanumeric c || isBlank c || isReserved c)

/-- Why an operator was not taken into the table. -/
inductive OperatorError where
  | notOneCharacter (given : Datum)
  | unusable (character : Char)
  | badPrecedence (given : Datum)

/-- The complaint about an operator. -/
def OperatorError.message : OperatorError → String
  | .notOneCharacter given => "operator must be a single character, got " ++ given.shown
  | .unusable character => quoted character.toString ++ " cannot be used as a binary operator"
  | .badPrecedence given => "precedence must be a positive integer, got " ++ given.shown

/-- The character that a setting gives as an operator. -/
def operatorCharacter (given : Datum) : Except OperatorError Char :=
  match given with
  | .text content =>
    match content.toList with
    | [character] =>
      if isOperatorCharacter character then .ok character else .error (.unusable character)
    | _ => .error (.notOneCharacter given)
  | _ => .error (.notOneCharacter given)

/-- The precedence that a setting gives. -/
def givenPrecedence (given : Datum) : Except OperatorError Nat :=
  match given with
  | .integer value => if 0 < value then .ok value.toNat else .error (.badPrecedence given)
  | _ => .error (.badPrecedence given)

namespace Operators

/-- Adds an operator or replaces its precedence. The operator is checked first. -/
def register (operators : Operators) (operator precedence : Datum) :
    Except OperatorError Operators := do
  let character ← operatorCharacter operator
  let strength ← givenPrecedence precedence
  return operators.put character strength

/-- The precedence of a token as a binary operator, or -1 if it is none. -/
def precedence (operators : Operators) (token : Token) : Int :=
  if token.kind = .symbol then
    match token.lexeme.toList with
    | [character] =>
      match operators.get? character with
      | some strength => strength
      | none => -1
    | _ => -1
  else -1

/-- A token that is no symbol is no operator. -/
theorem precedence_of_kind_ne (operators : Operators) (token : Token)
    (word : token.kind ≠ .symbol) : operators.precedence token = -1 := by
  simp [precedence, word]

/-- Precedences are at least -1. -/
theorem neg_one_le_precedence (operators : Operators) (token : Token) :
    -1 ≤ operators.precedence token := by
  unfold precedence
  split
  · split
    · split <;> omega
    · omega
  · omega

end Operators

end Reckon
