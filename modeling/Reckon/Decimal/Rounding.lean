import Reckon.Decimal.Powers

/-!
# Fractions on a decimal grid

Scaling of a positive fraction by powers of ten, its decimal order of magnitude,
and rounding to the nearest integer with a half going to the even neighbour.
-/

namespace Reckon.Decimal

/-- The fraction divided by a power of ten. -/
def scaled (numerator denominator : Nat) (power : Int) : Nat × Nat :=
  if power < 0 then (numerator * tenTo (-power).toNat, denominator)
  else (numerator, denominator * tenTo power.toNat)

/-- The nearest integer to a fraction; a half goes to the even neighbour. -/
def roundHalfEven (numerator denominator : Nat) : Nat :=
  let below := numerator / denominator
  let twice := 2 * (numerator % denominator)
  if twice < denominator then below
  else if denominator < twice then below + 1
  else if below % 2 = 0 then below else below + 1

/-- Rounding moves a fraction by at most half a unit. -/
theorem roundHalfEven_near (numerator denominator : Nat) (positive : 0 < denominator) :
    2 * numerator ≤ (2 * roundHalfEven numerator denominator + 1) * denominator ∧
      2 * (roundHalfEven numerator denominator * denominator) ≤ 2 * numerator + denominator := by
  have split := Nat.div_add_mod numerator denominator
  have small := Nat.mod_lt numerator positive
  simp only [roundHalfEven]
  generalize numerator / denominator = below at *
  generalize numerator % denominator = excess at *
  subst split
  have distribute : (2 * below + 1) * denominator = 2 * (denominator * below) + denominator := by
    rw [Nat.add_mul, Nat.mul_assoc, Nat.mul_comm below, Nat.one_mul]
  have distributeNext : (2 * (below + 1) + 1) * denominator =
      2 * (denominator * below) + 3 * denominator := by
    rw [Nat.add_mul, Nat.mul_add, Nat.add_mul, Nat.mul_assoc, Nat.mul_comm below]
    omega
  have next : (below + 1) * denominator = denominator * below + denominator := by
    rw [Nat.add_mul, Nat.one_mul, Nat.mul_comm]
  have same : below * denominator = denominator * below := Nat.mul_comm ..
  split
  · constructor <;> omega
  · split
    · constructor <;> omega
    · split <;> constructor <;> omega

/-- The number of decimal digits of a natural number, one for zero. -/
def decimalLength (value : Nat) : Nat := (Nat.toDigits 10 value).length

/-- The power of ten of the first digit of a positive fraction: the greatest one
that does not exceed it. -/
def magnitude (numerator denominator : Nat) : Int :=
  let estimate : Int := decimalLength numerator - decimalLength denominator
  let (above, below) := scaled numerator denominator estimate
  if below ≤ above then estimate else estimate - 1

end Reckon.Decimal
