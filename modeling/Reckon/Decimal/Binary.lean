import Reckon.Decimal.Powers

/-!
# Binary floating-point numbers, taken apart

A finite double is a sign and a natural number times a power of two. Everything
that is written about a number in decimal is computed from this exact form; the
opaque arithmetic of the machine plays no part in it.
-/

namespace Reckon.Decimal

/-- What a double stands for. A finite magnitude is `significand · 2 ^ exponent`. -/
inductive Shape where
  | finite (negative : Bool) (significand : Nat) (exponent : Int)
  | infinite (negative : Bool)
  | notANumber

/-- Takes the bits of a double apart. Subnormal numbers share the least exponent
and lack the implicit leading bit. -/
def shapeOfBits (bits : Nat) : Shape :=
  let negative := bits / twoTo 63 % 2 == 1
  let field : Nat := bits / twoTo 52 % twoTo 11
  let fraction : Nat := bits % twoTo 52
  if field = 2047 then
    if fraction = 0 then .infinite negative else .notANumber
  else if field = 0 then .finite negative fraction (-1074)
  else .finite negative (twoTo 52 + fraction) ((field : Int) - 1075)

/-- The shape of a double. -/
def shape (value : Float) : Shape := shapeOfBits value.toBits.toNat

/-- The bits of `significand · 2 ^ exponent`, a number with at most 53 binary digits
that is not too great for a double. -/
def bitsOfDyadic (significand : Nat) (exponent : Int) : Nat :=
  if significand = 0 then 0
  else
    let place := max (-1074) (exponent + significand.log2 - 52)
    let digits :=
      if exponent ≤ place then significand / twoTo (place - exponent).toNat
      else significand * twoTo (exponent - place).toNat
    if digits < twoTo 52 then digits else (place + 1075).toNat * twoTo 52 + (digits - twoTo 52)

/-- A finite magnitude as a fraction of natural numbers. -/
def fraction (significand : Nat) (exponent : Int) : Nat × Nat :=
  if exponent < 0 then (significand, twoTo (-exponent).toNat)
  else (significand * twoTo exponent.toNat, 1)

/-- Every finite magnitude has a positive denominator. -/
theorem fraction_positive (significand : Nat) (exponent : Int) :
    0 < (fraction significand exponent).2 := by
  unfold fraction
  split
  · exact twoTo_pos _
  · exact Nat.one_pos

end Reckon.Decimal
