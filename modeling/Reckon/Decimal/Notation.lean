import Reckon.Decimal.Shortest

/-!
# Decimal notations of a double

Four notations share one treatment of the sign and of the values that are not
finite: the plain one (shortest digits that read back), the fixed one (a given
number of places), the scientific one (a given number of places after the first
digit) and the general one (a given number of significant digits, written in the
fixed or the scientific way). A negative zero keeps its sign.
-/

namespace Reckon.Decimal

/-- The decimal digits of a natural number. -/
def digitText (value : Nat) : List Char := Nat.toDigits 10 value

/-- Zeros in front up to a width. -/
def padded (width : Nat) (digits : List Char) : List Char :=
  List.replicate (width - digits.length) '0' ++ digits

/-- The mark, the sign and at least two digits of an exponent. -/
def exponentText (power : Int) : List Char :=
  'e' :: (if power < 0 then '-' else '+') :: padded 2 (digitText power.natAbs)

/-- Writes a double: the sign, then `magnitude` of the finite value. -/
def signed (magnitude : Nat → Int → List Char) (value : Float) : String :=
  match shape value with
  | .notANumber => "nan"
  | .infinite negative => if negative then "-inf" else "inf"
  | .finite negative significand exponent =>
    String.ofList ((if negative then ['-'] else []) ++ magnitude significand exponent)

/-- Digits with a point after the first `position` of them; missing digits are
zeros, and at least one digit stands on either side of the point. -/
def positional (digits : List Char) (position : Int) : List Char :=
  if position ≤ 0 then '0' :: '.' :: List.replicate (-position).toNat '0' ++ digits
  else
    let front := position.toNat
    if digits.length ≤ front then
      digits ++ List.replicate (front - digits.length) '0' ++ ['.', '0']
    else digits.take front ++ '.' :: digits.drop front

/-- The first digit, the others after a point if there are any, and the exponent. -/
def scientificDigits (digits : List Char) (power : Int) : List Char :=
  match digits with
  | [] => exponentText power
  | [first] => first :: exponentText power
  | first :: rest => first :: '.' :: rest ++ exponentText power

/-- The plain notation writes the digits positionally when the first of them
stands for a power of ten from -4 to 15. -/
def plainMagnitude (significand : Nat) (exponent : Int) : List Char :=
  let numeral := shortest significand exponent
  let digits := digitText numeral.digits
  let position := numeral.power + digits.length
  if -4 < position && position ≤ 16 then positional digits position
  else scientificDigits digits (position - 1)

/-- Shortest digits that read back. -/
def plain (value : Float) : String := signed plainMagnitude value

/-- Digits of the value rounded to a number of places, with a point if there are any. -/
def fixedMagnitude (places significand : Nat) (exponent : Int) : List Char :=
  let (numerator, denominator) := fraction significand exponent
  let scaled := roundHalfEven (numerator * tenTo places) denominator
  let digits := padded (places + 1) (digitText scaled)
  let front := digits.length - places
  if places = 0 then digits else digits.take front ++ '.' :: digits.drop front

/-- The value rounded to a number of decimal places, a half going to the even digit. -/
def fixed (places : Nat) (value : Float) : String := signed (fixedMagnitude places) value

/-- The digits of a value rounded to `places + 1` significant ones, and the power
of ten of the first. Rounding up to the next power of ten moves the first digit. -/
def significantDigits (places significand : Nat) (exponent : Int) : List Char × Int :=
  if significand = 0 then (List.replicate (places + 1) '0', 0)
  else
    let (numerator, denominator) := fraction significand exponent
    let power := magnitude numerator denominator
    let (above, below) := scaled numerator denominator (power - places)
    let rounded := roundHalfEven above below
    if rounded = tenTo (places + 1) then (digitText (tenTo places), power + 1)
    else (digitText rounded, power)

/-- One digit before the point, `places` after it, and an exponent. -/
def scientific (places : Nat) (value : Float) : String :=
  signed (fun significand exponent =>
    let (digits, power) := significantDigits places significand exponent
    scientificDigits digits power) value

/-- Digits without the zeros at their end, but at least `least` of them. -/
def withoutTrailingZeros (least : Nat) (digits : List Char) : List Char :=
  digits.take least ++ ((digits.drop least).reverse.dropWhile (· == '0')).reverse

/-- At most `digits` significant digits without zeros at the end of the fraction.
A first digit below the fourth decimal place or beyond the given number of digits
calls for an exponent. -/
def general (digits : Nat) (value : Float) : String :=
  signed (fun significand exponent =>
    let places := digits - 1
    let (all, power) := significantDigits places significand exponent
    if -4 ≤ power && power < places + 1 then
      let front := (power + 1).toNat
      if power < 0 then
        positional (withoutTrailingZeros 1 all) (power + 1)
      else
        let kept := withoutTrailingZeros front all
        if kept.length = front then kept else kept.take front ++ '.' :: kept.drop front
    else scientificDigits (withoutTrailingZeros 1 all) power) value

end Reckon.Decimal
