import Reckon.Text.DecimalDigit

/-!
# Number lexemes

A lexeme made of digits and points may hold more than one number can use, such as
`3.4.5`. Its value is that of the longest front part that is a number: digits, with
or without a point and more digits after it, or a point with digits after it. A
lexeme without such a front part is worth zero. No sign, exponent or digit
separator belongs to a number; digits may come from any script.
-/

namespace Reckon

open Text

/-- Whether a character is a decimal digit of some script. -/
def isNumeralDigit (c : Char) : Bool := (decimalDigit? c).isSome

/-- The longest front part that is a number. -/
def numberFront? (lexeme : List Char) : Option (List Char) :=
  let whole := lexeme.takeWhile isNumeralDigit
  match lexeme.dropWhile isNumeralDigit with
  | '.' :: rest =>
    let fraction := rest.takeWhile isNumeralDigit
    if whole.isEmpty && fraction.isEmpty then none else some (whole ++ '.' :: fraction)
  | _ => if whole.isEmpty then none else some whole

/-- The natural number that a row of digits writes; other characters count as zero. -/
def digitsValue (digits : List Char) : Nat :=
  digits.foldl (fun total c => 10 * total + (decimalDigit? c).getD 0) 0

/-- The double nearest to a number written as digits with at most one point. -/
def numeralValue (numeral : List Char) : Float :=
  let whole := numeral.takeWhile isNumeralDigit
  let fraction := (numeral.dropWhile isNumeralDigit).drop 1
  Float.ofScientific (digitsValue (whole ++ fraction)) true fraction.length

/-- The value of a number lexeme. -/
def lexemeValue (lexeme : String) : Float :=
  match numberFront? lexeme.toList with
  | some numeral => numeralValue numeral
  | none => 0.0

end Reckon
