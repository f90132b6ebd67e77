import Reckon.Decimal.Binary
import Reckon.Platform

/-!
# The platform of the machine

Arithmetic is that of IEEE doubles. The comparison holds when the left number is
less or when the two cannot be compared. The host functions are those of the
mathematical library; functions of two arguments read missing ones as zero.

The remainder is computed exactly from the binary forms of its arguments. Of two
equal numbers, the greater and the lesser are both the second, which decides between
the two zeros.
-/

namespace Reckon

namespace Platform

/-- Less, or not comparable. -/
def lessOrUnordered (left right : Float) : Bool := !(right ≤ left)

/-- The operations of IEEE doubles. -/
def doubleArithmetic : Arithmetic → Float → Float → Float
  | .add, left, right => left + right
  | .subtract, left, right => left - right
  | .multiply, left, right => left * right

/-- Rounds toward zero and keeps the sign. -/
def truncated (value : Float) : Float := if value < 0.0 then value.ceil else value.floor

/-- The magnitude of the first number with the sign of the second. -/
def withSignOf (magnitude sign : Float) : Float :=
  Float.ofBits ((magnitude.toBits &&& 0x7fffffffffffffff) ||| (sign.toBits &&& 0x8000000000000000))

/-- The remainder of a division with a quotient rounded toward zero. -/
def remainder (dividend divisor : Float) : Float :=
  match Decimal.shape dividend, Decimal.shape divisor with
  | .finite negative significand exponent, .finite _ significand' exponent' =>
    if significand' = 0 then 0.0 / 0.0
    else
      let least := min exponent exponent'
      let left := significand * Decimal.twoTo (exponent - least).toNat
      let right := significand' * Decimal.twoTo (exponent' - least).toNat
      let size := Float.ofBits (Decimal.bitsOfDyadic (left % right) least).toUInt64
      if negative then -size else size
  | .finite .., .infinite _ => dividend
  | _, _ => 0.0 / 0.0

/-- The greater number; a NaN gives way to the other argument. -/
def greater (left right : Float) : Float :=
  if right.isNaN then left else if left > right then left else right

/-- The lesser number; a NaN gives way to the other argument. -/
def lesser (left right : Float) : Float :=
  if right.isNaN then left else if left < right then left else right

/-- A host function of one argument. -/
def unary (function : Float → Float) (arguments : List Float) : Float :=
  function (arguments.getD 0 0.0)

/-- A host function of two arguments. -/
def binary (function : Float → Float → Float) (arguments : List Float) : Float :=
  function (arguments.getD 0 0.0) (arguments.getD 1 0.0)

/-- The functions of the mathematical library. -/
def mathematicalFunction? (name : String) : Option (List Float → Float) :=
  match name with
  | "sin" => some (unary Float.sin)
  | "cos" => some (unary Float.cos)
  | "tan" => some (unary Float.tan)
  | "asin" => some (unary Float.asin)
  | "acos" => some (unary Float.acos)
  | "atan" => some (unary Float.atan)
  | "sinh" => some (unary Float.sinh)
  | "cosh" => some (unary Float.cosh)
  | "tanh" => some (unary Float.tanh)
  | "exp" => some (unary Float.exp)
  | "exp2" => some (unary Float.exp2)
  | "log" => some (unary Float.log)
  | "log2" => some (unary Float.log2)
  | "log10" => some (unary Float.log10)
  | "sqrt" => some (unary Float.sqrt)
  | "cbrt" => some (unary Float.cbrt)
  | "floor" => some (unary Float.floor)
  | "ceil" => some (unary Float.ceil)
  | "round" => some (unary Float.round)
  | "trunc" => some (unary truncated)
  | "fabs" => some (unary Float.abs)
  | "atan2" => some (binary Float.atan2)
  | "pow" => some (binary Float.pow)
  | "fmod" => some (binary remainder)
  | "fmax" => some (binary greater)
  | "fmin" => some (binary lesser)
  | "copysign" => some (binary withSignOf)
  | _ => none

/-- Doubles and the mathematical library. The depth is one that programs are run with; a machine
with more or less room is `doubles.within` another depth. -/
def doubles : Platform where
  arithmetic := doubleArithmetic
  below := lessOrUnordered
  hostFunction? := mathematicalFunction?
  depth := 2000

end Platform

end Reckon
