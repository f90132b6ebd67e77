import Mathlib.Algebra.Order.Field.Power
import Mathlib.Data.Rat.Cast.Order
import Mathlib.Tactic.FieldSimp
import Mathlib.Tactic.Linarith
import Mathlib.Tactic.NormNum
import Mathlib.Tactic.Positivity
import Mathlib.Tactic.Ring
import Reckon.Decimal.Shortest
import Reckon.Proofs.Decimal.Binary

/-!
# Shortest decimals read back

The fractions and scaled fractions that the search for the shortest decimal computes with stand
for rational numbers, and so do a decimal and a double. Whether a decimal reads back is a
question of where its rational lies: within half a binary place of the double, or a quarter of
one below a power of two. Seventeen digits come closer than that, so the search always ends with
a decimal that reads back; and no rational lies so close to two doubles, so what reads back as
two doubles reads back as one.
-/

namespace Reckon.Decimal

/-- A power of two as a rational. -/
@[simp]
theorem cast_twoTo (exponent : Nat) : (twoTo exponent : ℚ) = 2 ^ exponent :=
  Nat.cast_pow 2 exponent

/-- A power of ten as a rational. -/
@[simp]
theorem cast_tenTo (exponent : Nat) : (tenTo exponent : ℚ) = 10 ^ exponent :=
  Nat.cast_pow 10 exponent

/-! ## Fractions as rationals -/

/-- The rational of a fraction. -/
def quotient (fraction : Nat × Nat) : ℚ := fraction.1 / fraction.2

/-- The rational of a finite magnitude. -/
def dyadic (significand : Nat) (exponent : Int) : ℚ := significand * 2 ^ exponent

/-- The rational of a decimal. -/
def Numeral.value (numeral : Numeral) : ℚ := numeral.digits * 10 ^ numeral.power

/-- The fraction of a double is worth its significand at its exponent. -/
theorem quotient_fraction (significand : Nat) (exponent : Int) :
    quotient (fraction significand exponent) = dyadic significand exponent := by
  unfold fraction quotient dyadic
  split
  case isTrue negative =>
    have size : exponent = -((-exponent).toNat : Int) := by omega
    rw [cast_twoTo, div_eq_mul_inv, ← zpow_natCast, ← zpow_neg, ← size]
  case isFalse positive =>
    have size : exponent = (exponent.toNat : Int) := by omega
    rw [Nat.cast_mul, cast_twoTo, ← zpow_natCast, ← size, Nat.cast_one, div_one]

/-- The fraction of zero is zero. -/
theorem fraction_zero (exponent : Int) : (fraction 0 exponent).1 = 0 := by
  unfold fraction
  split
  · rfl
  · exact Nat.zero_mul _

/-- The fraction of a number above zero is above zero. -/
theorem numerator_positive {significand : Nat} (some : 0 < significand) (exponent : Int) :
    0 < (fraction significand exponent).1 := by
  unfold fraction
  split
  · exact some
  · exact Nat.mul_pos some (twoTo_pos _)

/-- A scaled fraction is worth the fraction, divided by the power of ten. -/
theorem quotient_scaled (numerator denominator : Nat) (power : Int) :
    quotient (scaled numerator denominator power) =
      quotient (numerator, denominator) / 10 ^ power := by
  unfold scaled quotient
  split
  case isTrue negative =>
    have size : power = -((-power).toNat : Int) := by omega
    rw [Nat.cast_mul, cast_tenTo, size, zpow_neg, div_inv_eq_mul, zpow_natCast, ← size]
    ring
  case isFalse positive =>
    have size : power = (power.toNat : Int) := by omega
    rw [Nat.cast_mul, cast_tenTo, ← zpow_natCast, ← size, div_div]

/-- A scaled fraction still has a denominator. -/
theorem scaled_positive (numerator : Nat) {denominator : Nat} (positive : 0 < denominator)
    (power : Int) : 0 < (scaled numerator denominator power).2 := by
  unfold scaled
  split
  · exact positive
  · exact Nat.mul_pos positive (tenTo_pos _)

/-! ## Rounding intervals -/

/-- The rational rounds to the double: in quarters of the last binary place it lies between the
ends of the interval, or on one of them if they belong to it. -/
def RoundsTo (value : ℚ) (significand : Nat) (exponent : Int) : Prop :=
  let interval := roundingInterval significand exponent
  let quarters := value / 2 ^ (exponent - 2)
  if interval.closed then interval.lower ≤ quarters ∧ quarters ≤ interval.upper
  else interval.lower < quarters ∧ quarters < interval.upper

/-- A decimal reads back exactly if its rational rounds to the double. -/
theorem readsBack_iff (numeral : Numeral) (significand : Nat) (exponent : Int) :
    numeral.readsBack significand exponent = true ↔
      RoundsTo numeral.value significand exponent := by
  have decimal := quotient_scaled numeral.digits 1 (-numeral.power)
  have quarter := quotient_fraction 1 (-(exponent - 2))
  have positive := scaled_positive numeral.digits Nat.one_pos (-numeral.power)
  have positiveToo := fraction_positive 1 (-(exponent - 2))
  unfold Numeral.readsBack RoundsTo RoundingInterval.holds
  dsimp only
  generalize scaled numeral.digits 1 (-numeral.power) = decimals at decimal positive ⊢
  generalize fraction 1 (-(exponent - 2)) = quarters at quarter positiveToo ⊢
  generalize roundingInterval significand exponent = interval
  obtain ⟨above, below⟩ := decimals
  obtain ⟨aboveToo, belowToo⟩ := quarters
  dsimp only at positive positiveToo ⊢
  have denominator : (0 : ℚ) < ((below * belowToo : Nat) : ℚ) := by
    exact_mod_cast Nat.mul_pos positive positiveToo
  have value : numeral.value / 2 ^ (exponent - 2) =
      ((above * aboveToo : Nat) : ℚ) / ((below * belowToo : Nat) : ℚ) :=
    calc numeral.value / 2 ^ (exponent - 2)
      _ = quotient (above, below) * quotient (aboveToo, belowToo) := by
        rw [decimal, quarter]
        simp only [quotient, dyadic, Numeral.value, zpow_neg, Nat.cast_one, div_one, div_inv_eq_mul,
          one_mul, div_eq_mul_inv (_ * _)]
      _ = ((above * aboveToo : Nat) : ℚ) / ((below * belowToo : Nat) : ℚ) := by
        simp only [quotient, Nat.cast_mul, div_mul_div_comm]
  rw [value]
  cases interval.closed with
  | true =>
    simp only [if_true, Bool.and_eq_true, decide_eq_true_eq]
    rw [le_div_iff₀ denominator, div_le_iff₀ denominator]
    norm_cast
  | false =>
    simp only [Bool.false_eq_true, if_false, Bool.and_eq_true, decide_eq_true_eq]
    rw [lt_div_iff₀ denominator, div_lt_iff₀ denominator]
    norm_cast

/-- What rounds to two doubles with one exponent at least as great as the other does not leave a
gap between their intervals, and not even a common end if one of them is open. -/
theorem RoundsTo.overlap {value : ℚ} {significand significandToo : Nat} {exponent : Int}
    {distance : Nat} (rounds : RoundsTo value significand exponent)
    (roundsToo : RoundsTo value significandToo (exponent + distance)) :
    let lower := (roundingInterval significandToo (exponent + distance)).lower * twoTo distance
    lower ≤ 4 * significand + 2 ∧
      (significand % 2 = 1 ∨ significandToo % 2 = 1 → lower < 4 * significand + 2) := by
  have step : (0 : ℚ) < 2 ^ distance := by positivity
  have unit :
      value / 2 ^ (exponent + distance - 2) = value / 2 ^ (exponent - 2) / 2 ^ distance := by
    rw [div_div, ← zpow_natCast, ← zpow_add₀ two_ne_zero]
    congr 2
    ring
  unfold RoundsTo at rounds roundsToo
  dsimp only at rounds roundsToo ⊢
  rw [unit] at roundsToo
  generalize value / 2 ^ (exponent - 2) = quarters at rounds roundsToo
  have upper : (roundingInterval significand exponent).upper = 4 * significand + 2 := rfl
  have closed : (roundingInterval significand exponent).closed = (significand % 2 == 0) := rfl
  have closedToo : (roundingInterval significandToo (exponent + distance)).closed =
      (significandToo % 2 == 0) := rfl
  rw [upper, closed] at rounds
  rw [closedToo] at roundsToo
  generalize (roundingInterval significandToo (exponent + distance)).lower = lower at roundsToo ⊢
  have below : (lower : ℚ) ≤ quarters / 2 ^ distance := by
    split at roundsToo
    · exact roundsToo.1
    · exact roundsToo.1.le
  have above : quarters ≤ ((4 * significand + 2 : Nat) : ℚ) := by
    split at rounds
    · exact rounds.2
    · exact rounds.2.le
  rw [le_div_iff₀ step] at below
  constructor
  · exact_mod_cast below.trans above
  · rintro (odd | odd)
    · rw [if_neg (by simp [odd])] at rounds
      exact_mod_cast below.trans_lt rounds.2
    · rw [if_neg (by simp [odd])] at roundsToo
      exact_mod_cast ((lt_div_iff₀ step).mp roundsToo.1).trans_le above

/-- What rounds to two doubles rounds to no greater one besides. -/
theorem RoundsTo.not_greater {value : ℚ} {significand significandToo : Nat} {exponent : Int}
    {distance : Nat} (canonical : Canonical significand exponent)
    (canonicalToo : Canonical significandToo (exponent + distance))
    (rounds : RoundsTo value significand exponent)
    (roundsToo : RoundsTo value significandToo (exponent + distance)) :
    distance = 0 ∧ significandToo ≤ significand := by
  obtain ⟨meets, strict⟩ := rounds.overlap roundsToo
  have short := canonical.short
  have lower : (roundingInterval significandToo (exponent + distance)).lower =
      if significandToo = twoTo 52 && exponent + distance ≠ -1074 then 4 * significandToo - 1
      else 4 * significandToo - 2 := rfl
  rw [twoTo_53] at short
  rw [twoTo_52] at lower
  cases distance with
  | zero =>
    rw [show twoTo 0 = 1 from rfl, Nat.mul_one] at meets strict
    refine ⟨rfl, ?_⟩
    split at lower <;> omega
  | succ further =>
    -- The greater exponent belongs to a full significand, and a place of it is two places at least.
    have least := canonical.least
    have full := canonicalToo.full (by omega)
    have double : twoTo (further + 1) = 2 * twoTo further := by
      simp only [twoTo, Nat.pow_eq, Nat.pow_succ, Nat.mul_comm]
    have grows := Nat.mul_le_mul_left
      (2 * (roundingInterval significandToo (exponent + ↑(further + 1))).lower) (twoTo_pos further)
    rw [double, ← Nat.mul_assoc, Nat.mul_comm _ 2] at meets strict
    rw [twoTo_52] at full
    have deep : exponent + ((further + 1 : Nat) : Int) ≠ -1074 := by omega
    simp only [deep, ne_eq, not_false_eq_true, decide_true, Bool.and_true,
      decide_eq_true_eq] at lower
    split at lower <;> omega

/-- Nothing rounds to two doubles. -/
theorem RoundsTo.unique {value : ℚ} {significand significandToo : Nat}
    {exponent exponentToo : Int} (canonical : Canonical significand exponent)
    (canonicalToo : Canonical significandToo exponentToo)
    (rounds : RoundsTo value significand exponent)
    (roundsToo : RoundsTo value significandToo exponentToo) :
    significand = significandToo ∧ exponent = exponentToo := by
  -- Without loss of generality the exponents are in order.
  wlog order : exponent ≤ exponentToo generalizing significand significandToo exponent exponentToo
  · obtain ⟨same, sameToo⟩ := this canonicalToo canonical roundsToo rounds (by omega)
    exact ⟨same.symm, sameToo.symm⟩
  obtain ⟨distance, rfl⟩ := Int.le.dest order
  obtain ⟨rfl, notGreater⟩ := rounds.not_greater canonical canonicalToo roundsToo
  have none : exponent + ((0 : Nat) : Int) = exponent := Int.add_zero exponent
  rw [none] at canonicalToo roundsToo ⊢
  rw [← none] at canonical rounds
  obtain ⟨_, notLess⟩ := roundsToo.not_greater canonicalToo canonical rounds
  exact ⟨Nat.le_antisymm notLess notGreater, rfl⟩

/-- A double rounds to itself. -/
theorem roundsTo_dyadic (significand : Nat) (exponent : Int) :
    RoundsTo (dyadic significand exponent) significand exponent := by
  have quarters : dyadic significand exponent / 2 ^ (exponent - 2) = (4 * significand : Nat) := by
    rw [dyadic, zpow_sub₀ two_ne_zero]
    field_simp
    push_cast
    ring
  unfold RoundsTo
  dsimp only
  rw [quarters]
  norm_cast
  unfold roundingInterval
  dsimp only
  split
  · constructor
    · split <;> omega
    · omega
  · next odd =>
    have some : significand ≠ 0 := by
      rintro rfl
      exact odd rfl
    constructor
    · split <;> omega
    · omega

/-- Finite magnitudes that are equal as rationals are the same. -/
theorem dyadic_unique {significand significandToo : Nat} {exponent exponentToo : Int}
    (canonical : Canonical significand exponent)
    (canonicalToo : Canonical significandToo exponentToo)
    (same : dyadic significand exponent = dyadic significandToo exponentToo) :
    significand = significandToo ∧ exponent = exponentToo :=
  RoundsTo.unique canonical canonicalToo (roundsTo_dyadic significand exponent)
    (same ▸ roundsTo_dyadic significandToo exponentToo)

/-! ## Seventeen digits -/

/-- A number of a given decimal length is at least the power of ten of its first digit. -/
theorem tenTo_le_of_decimalLength {value : Nat} (positive : 0 < value) :
    (10 : ℚ) ^ ((decimalLength value : Int) - 1) ≤ value := by
  have some : 0 < decimalLength value := Nat.length_toDigits_pos
  obtain ⟨places, length⟩ : ∃ places, decimalLength value = places + 1 :=
    Nat.exists_eq_add_one.mpr some
  have least : 10 ^ places ≤ value := by
    cases places with
    | zero => exact positive
    | succ places =>
      by_contra small
      have short := (Nat.length_toDigits_le_iff (by decide) (Nat.succ_pos places)).mpr
        (Nat.lt_of_not_le small)
      unfold decimalLength at length
      omega
  rw [length, Nat.cast_add, Nat.cast_one, add_sub_cancel_right, zpow_natCast]
  exact_mod_cast least

/-- A number is below the next power of ten. -/
theorem lt_tenTo_decimalLength (value : Nat) : (value : ℚ) < 10 ^ (decimalLength value : Int) := by
  have below : value < 10 ^ decimalLength value :=
    (Nat.length_toDigits_le_iff (by decide) Nat.length_toDigits_pos).mp (Nat.le_refl _)
  rw [zpow_natCast]
  exact_mod_cast below

/-- A positive fraction is at least the power of ten that its magnitude says. -/
theorem tenTo_magnitude_le {numerator denominator : Nat} (some : 0 < numerator)
    (positive : 0 < denominator) :
    (10 : ℚ) ^ magnitude numerator denominator ≤ quotient (numerator, denominator) := by
  have scale := quotient_scaled numerator denominator
    (decimalLength numerator - decimalLength denominator)
  have scalePositive := scaled_positive numerator positive
    (decimalLength numerator - decimalLength denominator)
  unfold magnitude
  dsimp only
  generalize hestimate : (decimalLength numerator : Int) - decimalLength denominator = estimate
    at scale scalePositive ⊢
  have unit : (0 : ℚ) < 10 ^ estimate := by positivity
  split
  case isTrue reaches =>
    have one : (1 : ℚ) ≤ quotient (scaled numerator denominator estimate) := by
      rw [quotient, one_le_div (by exact_mod_cast scalePositive)]
      exact_mod_cast reaches
    rw [scale, one_le_div unit] at one
    exact one
  case isFalse =>
    have least := tenTo_le_of_decimalLength some
    have greatest := lt_tenTo_decimalLength denominator
    have below : (0 : ℚ) < denominator := by exact_mod_cast positive
    have size : estimate - 1 + decimalLength denominator = decimalLength numerator - 1 := by omega
    rw [quotient, le_div_iff₀ below]
    calc (10 : ℚ) ^ (estimate - 1) * denominator
      _ ≤ 10 ^ (estimate - 1) * 10 ^ (decimalLength denominator : Int) := by gcongr
      _ = 10 ^ ((decimalLength numerator : Int) - 1) := by
        rw [← zpow_add₀ (by norm_num), size]
      _ ≤ numerator := least

/-- Rounding moves a fraction by at most a half. -/
theorem abs_roundHalfEven_sub (numerator : Nat) {denominator : Nat} (positive : 0 < denominator) :
    |(roundHalfEven numerator denominator : ℚ) - quotient (numerator, denominator)| ≤ 1 / 2 := by
  obtain ⟨above, below⟩ := roundHalfEven_near numerator denominator positive
  generalize roundHalfEven numerator denominator = rounded at above below ⊢
  have unit : (0 : ℚ) < denominator := by exact_mod_cast positive
  have aboveToo : (2 * numerator : ℚ) ≤ (2 * rounded + 1) * denominator := by exact_mod_cast above
  have belowToo : (2 * (rounded * denominator) : ℚ) ≤ 2 * numerator + denominator := by
    exact_mod_cast below
  have whole : quotient (numerator, denominator) * denominator = numerator :=
    div_mul_cancel₀ _ unit.ne'
  rw [← whole] at aboveToo belowToo
  rw [abs_le]
  constructor <;> nlinarith

/-- A rational that differs from a double by no more than half a unit of the seventeenth digit
rounds to the double. -/
theorem roundsTo_of_near {value : ℚ} {significand : Nat} {exponent power : Int}
    (canonical : Canonical significand exponent)
    (first : (10 : ℚ) ^ power * 10 ^ 16 ≤ dyadic significand exponent)
    (near : |value - dyadic significand exponent| ≤ 10 ^ power / 2) :
    RoundsTo value significand exponent := by
  have quarter : (0 : ℚ) < 2 ^ (exponent - 2) := by positivity
  have whole : dyadic significand exponent = 4 * significand * 2 ^ (exponent - 2) := by
    rw [dyadic, zpow_sub₀ two_ne_zero]
    ring
  rw [whole] at first near
  obtain ⟨below, above⟩ := abs_le.mp near
  have short : (significand : ℚ) ≤ 9007199254740991 := by
    have short := canonical.short
    rw [twoTo_53] at short
    exact_mod_cast (by omega : significand ≤ 9007199254740991)
  have size := mul_le_mul_of_nonneg_right short quarter.le
  have upper : value / 2 ^ (exponent - 2) < (roundingInterval significand exponent).upper := by
    rw [div_lt_iff₀ quarter]
    push_cast [roundingInterval]
    linarith
  have lower : (roundingInterval significand exponent).lower < value / 2 ^ (exponent - 2) := by
    rw [lt_div_iff₀ quarter]
    have digit : (0 : ℚ) < 10 ^ power := by positivity
    have some : 0 < significand := by
      rcases Nat.eq_zero_or_pos significand with rfl | some
      · simp at first
        linarith
      · exact some
    unfold roundingInterval
    dsimp only
    split
    case isTrue boundary =>
      -- Below a power of two only a quarter of a place is left, but its significand is small.
      rw [Bool.and_eq_true, decide_eq_true_eq, twoTo_52] at boundary
      rw [boundary.1] at below first ⊢
      norm_num at below first ⊢
      linarith
    case isFalse =>
      rw [Nat.cast_sub (by omega)]
      push_cast
      linarith
  unfold RoundsTo
  dsimp only
  split
  · exact ⟨lower.le, upper.le⟩
  · exact ⟨lower, upper⟩

/-! ## The search -/

/-- The decimal next to a double on the grid of a power of ten. -/
def nearest (significand : Nat) (exponent power : Int) : Numeral :=
  let (numerator, denominator) := fraction significand exponent
  let (above, below) := scaled numerator denominator power
  ⟨roundHalfEven above below, power⟩

/-- It differs from the double by no more than half a unit of the grid. -/
theorem abs_nearest_sub (significand : Nat) (exponent power : Int) :
    |(nearest significand exponent power).value - dyadic significand exponent| ≤
      10 ^ power / 2 := by
  have unit : (0 : ℚ) < 10 ^ power := by positivity
  have whole := quotient_fraction significand exponent
  have positive := fraction_positive significand exponent
  dsimp only [nearest]
  generalize fraction significand exponent = parts at whole positive ⊢
  obtain ⟨numerator, denominator⟩ := parts
  have scale := quotient_scaled numerator denominator power
  have scalePositive := scaled_positive numerator positive power
  generalize scaled numerator denominator power = grid at scale scalePositive ⊢
  obtain ⟨above, below⟩ := grid
  have half := abs_roundHalfEven_sub above scalePositive
  have shift : dyadic significand exponent = quotient (above, below) * 10 ^ power := by
    rw [scale, whole, div_mul_cancel₀ _ unit.ne']
  rw [shift, Numeral.value, ← sub_mul, abs_mul, abs_of_pos unit, div_eq_mul_one_div,
    mul_comm (10 ^ power : ℚ)]
  exact mul_le_mul_of_nonneg_right half unit.le

/-- A decimal that is found on a grid reads back as the double. -/
theorem readsBack_of_onGrid? {significand : Nat} {exponent power : Int} {numeral : Numeral}
    (found : onGrid? significand exponent power = some numeral) :
    numeral.readsBack significand exponent = true := by
  unfold onGrid? at found
  dsimp only at found
  obtain ⟨reads, rfl⟩ | ⟨_, rest⟩ := (ite_eq_iff.mp found).imp_left (And.imp_right Option.some.inj)
  · exact reads
  obtain ⟨reads, rfl⟩ | ⟨_, none⟩ := (ite_eq_iff.mp rest).imp_left (And.imp_right Option.some.inj)
  · exact reads
  · cases none

/-- The search ends with a decimal that reads back if the last grid has one. -/
theorem readsBack_firstHit {significand : Nat} {exponent power : Int} {remaining : Nat}
    (last : (nearest significand exponent (power - remaining)).readsBack significand exponent) :
    (firstHit significand exponent power remaining).readsBack significand exponent = true := by
  induction remaining generalizing power with
  | zero =>
    rw [Nat.cast_zero, sub_zero] at last
    exact last
  | succ remaining inductionHypothesis =>
    rw [firstHit]
    split
    · next found => exact readsBack_of_onGrid? found
    · apply inductionHypothesis
      rw [sub_sub, add_comm, ← Nat.cast_succ]
      exact last

/-- Dropping zeros at the end keeps the value. -/
theorem value_trimmed (limit : Nat) (numeral : Numeral) :
    (Numeral.trimmed limit numeral).value = numeral.value := by
  induction limit generalizing numeral with
  | zero => rfl
  | succ limit inductionHypothesis =>
    rw [Numeral.trimmed]
    split
    case isTrue zero =>
      rw [inductionHypothesis]
      rw [Bool.and_eq_true, decide_eq_true_eq, decide_eq_true_eq] at zero
      have whole : numeral.digits = numeral.digits / 10 * 10 := by omega
      have wholeCast : (numeral.digits : ℚ) = (numeral.digits / 10 : Nat) * 10 := by
        exact_mod_cast whole
      rw [Numeral.value, Numeral.value, wholeCast, zpow_add_one₀ (by norm_num)]
      ring
    case isFalse => rfl

/-- **The shortest decimal of a finite double rounds to the double.** -/
theorem roundsTo_shortest {significand : Nat} {exponent : Int}
    (canonical : Canonical significand exponent) :
    RoundsTo (shortest significand exponent).value significand exponent := by
  unfold shortest
  split
  case isTrue zero =>
    subst zero
    simp [RoundsTo, roundingInterval, Numeral.value, twoTo_52]
  case isFalse some =>
    have whole := quotient_fraction significand exponent
    have positive := fraction_positive significand exponent
    dsimp only
    have numerator := numerator_positive (Nat.pos_of_ne_zero some) exponent
    have first := tenTo_magnitude_le numerator positive
    generalize magnitude (fraction significand exponent).1 (fraction significand exponent).2 = power
      at first ⊢
    rw [value_trimmed, ← readsBack_iff]
    apply readsBack_firstHit
    rw [readsBack_iff]
    refine roundsTo_of_near canonical ?_ (abs_nearest_sub significand exponent _)
    rw [← whole, ← zpow_natCast, ← zpow_add₀ (by norm_num), sub_add_cancel]
    exact first

/-- The shortest decimals of two doubles have one value only if the doubles are one. -/
theorem shortest_unique {significand significandToo : Nat} {exponent exponentToo : Int}
    (canonical : Canonical significand exponent)
    (canonicalToo : Canonical significandToo exponentToo)
    (same : (shortest significand exponent).value = (shortest significandToo exponentToo).value) :
    significand = significandToo ∧ exponent = exponentToo :=
  RoundsTo.unique canonical canonicalToo (roundsTo_shortest canonical)
    (same ▸ roundsTo_shortest canonicalToo)

end Reckon.Decimal
