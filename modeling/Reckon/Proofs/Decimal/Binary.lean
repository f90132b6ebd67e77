import Mathlib.Logic.Basic
import Reckon.Decimal.Binary
import Reckon.Proofs.Numerals

/-!
# What the bits of a double say

The bits of a double are taken apart by quotients and remainders, and the operations of doubles
take them apart as bit vectors. Both come to the same shape. The significand of a finite double
has all of its 53 binary digits unless the exponent is the least, so two finite doubles have the
same shape only if they are the same double, and compare as equal exactly if they differ in
nothing but the sign of a zero.
-/

namespace Reckon.Decimal

open Float.Model (UnpackedFloat)
open Float.Model.UnpackedFloat (Sign unpackExponent unpackMantissa unpackSign)

/-- The weight of the exponent in the bits of a double. -/
theorem twoTo_52 : twoTo 52 = 4503599627370496 := rfl

/-- One more than the greatest significand of a double. -/
theorem twoTo_53 : twoTo 53 = 9007199254740992 := rfl

/-! ## The two ways to take a double apart -/

/-- Whether a sign is that of a negative number. -/
def isNegative : Sign → Bool
  | .negative => true
  | .positive => false

/-- What an unpacked double stands for. A zero has the least exponent. -/
def shapeOfUnpacked : UnpackedFloat → Shape
  | .notANumber => .notANumber
  | .infinity sign => .infinite (isNegative sign)
  | .zero sign => .finite (isNegative sign) 0 (-1074)
  | .finite sign mantissa exponent _ => .finite (isNegative sign) mantissa exponent

/-- The exponent of a double stands in the eleven bits above its significand. -/
theorem toNat_unpackExponent (bits : BitVec 64) :
    (@unpackExponent .binary64 bits).toNat = bits.toNat / twoTo 52 % twoTo 11 := by
  simp [unpackExponent, twoTo, Nat.shiftRight_eq_div_pow]

/-- The significand of a double stands in the lowest bits. -/
theorem toNat_unpackMantissa (bits : BitVec 64) :
    (@unpackMantissa .binary64 bits).toNat = bits.toNat % twoTo 52 := by
  simp [unpackMantissa, twoTo]

/-- The sign of a double is the highest bit. -/
theorem isNegative_unpackSign (bits : BitVec 64) :
    isNegative (.ofBitVec (@unpackSign .binary64 bits)) =
      (bits.toNat / twoTo 63 % 2 == 1) := by
  have sign : (@unpackSign .binary64 bits).toNat = bits.toNat / twoTo 63 % 2 := by
    simp [unpackSign_eq, twoTo, Nat.shiftRight_eq_div_pow]
  rw [← sign]
  generalize @unpackSign .binary64 bits = mark
  revert mark
  decide

/-- What is read off the bits of a double is what its unpacked form stands for. -/
theorem shapeOfBits_toNat (bits : BitVec 64) :
    shapeOfBits bits.toNat = shapeOfUnpacked (.unpack .binary64 bits) := by
  have greatest : (@unpackExponent .binary64 bits).toNat = 2047 ↔
      @unpackExponent .binary64 bits = -1#11 := BitVec.toNat_inj (y := -1#11)
  have least : (@unpackExponent .binary64 bits).toNat = 0 ↔
      @unpackExponent .binary64 bits = 0#11 := BitVec.toNat_inj (y := 0#11)
  have none : (@unpackMantissa .binary64 bits).toNat = 0 ↔
      @unpackMantissa .binary64 bits = 0#52 := BitVec.toNat_inj (y := 0#52)
  have leading : (1#1 ++ @unpackMantissa .binary64 bits).toNat =
      twoTo 52 + (@unpackMantissa .binary64 bits).toNat := by
    rw [BitVec.toNat_append, ← Nat.shiftLeft_add_eq_or_of_lt (BitVec.isLt _)]
    rfl
  simp only [shapeOfBits, ← isNegative_unpackSign, ← toNat_unpackExponent, ← toNat_unpackMantissa,
    greatest, least, none, ← leading]
  unfold UnpackedFloat.unpack
  dsimp only
  by_cases last : @unpackExponent .binary64 bits = -1#11
  · rw [if_pos last, if_pos last, apply_ite shapeOfUnpacked]
    rfl
  rw [if_neg last, if_neg last]
  by_cases first : @unpackExponent .binary64 bits = 0#11
  · rw [if_pos first, if_pos first]
    by_cases zero : @unpackMantissa .binary64 bits = 0#52
    · rw [dif_pos zero, none.mpr zero]
      rfl
    · rw [dif_neg zero, least.mpr first]
      rfl
  · rw [if_neg first, if_neg first]
    rfl

/-- The shape of a double is that of the double unpacked. -/
theorem shape_eq (value : Float) : shape value = shapeOfUnpacked value.toModel.unpack :=
  shapeOfBits_toNat value.toBits.toBitVec

/-! ## Finite doubles -/

/-- The significand and the exponent of a finite double: only with the least exponent may
leading binary digits be missing. -/
structure Canonical (significand : Nat) (exponent : Int) : Prop where
  least : -1074 ≤ exponent
  short : significand < twoTo 53
  full : -1074 < exponent → twoTo 52 ≤ significand

/-- A significand and an exponent that are read off bits are canonical. -/
theorem canonical_of_shapeOfBits {bits significand : Nat} {negative : Bool} {exponent : Int}
    (finite : shapeOfBits bits = .finite negative significand exponent) :
    Canonical significand exponent := by
  simp only [shapeOfBits, show twoTo 11 = 2048 from rfl] at finite
  have within : bits % twoTo 52 < twoTo 52 := Nat.mod_lt _ (twoTo_pos 52)
  rw [twoTo_52] at within finite
  split at finite
  · split at finite <;> cases finite
  split at finite
  · cases finite
    constructor
    · exact Int.le_refl _
    · rw [twoTo_53]
      omega
    · intro greater
      omega
  · cases finite
    constructor
    · omega
    · rw [twoTo_53]
      omega
    · intro _
      rw [twoTo_52]
      omega

/-- The significand and the exponent of a double are canonical. -/
theorem canonical_of_shape {value : Float} {negative : Bool} {significand : Nat} {exponent : Int}
    (finite : shape value = .finite negative significand exponent) :
    Canonical significand exponent := canonical_of_shapeOfBits finite

/-- The bits of a finite double, put together again. -/
theorem eq_of_shapeOfBits {bits significand : Nat} {negative : Bool} {exponent : Int}
    (bound : bits < twoTo 64)
    (finite : shapeOfBits bits = .finite negative significand exponent) :
    (significand < twoTo 52 ∧ bits = negative.toNat * twoTo 63 + significand) ∨
      (twoTo 52 ≤ significand ∧
        bits + twoTo 52 =
          negative.toNat * twoTo 63 + (exponent + 1075).toNat * twoTo 52 + significand) := by
  have top : bits / twoTo 63 % 2 = (bits / twoTo 63 % 2 == 1).toNat := by
    rcases Nat.mod_two_eq_zero_or_one (bits / twoTo 63) with zero | one
    · rw [zero]
      rfl
    · rw [one]
      rfl
  simp only [shapeOfBits, show twoTo 11 = 2048 from rfl] at finite
  rw [show twoTo 63 = 9223372036854775808 from rfl] at top finite ⊢
  rw [show twoTo 64 = 18446744073709551616 from rfl] at bound
  rw [twoTo_52] at finite ⊢
  split at finite
  · split at finite <;> cases finite
  split at finite
  · cases finite
    refine .inl ⟨?_, ?_⟩ <;> omega
  · cases finite
    refine .inr ⟨?_, ?_⟩ <;> omega

/-- A finite double is known by its shape. -/
theorem eq_of_shape {value other : Float} {negative : Bool} {significand : Nat} {exponent : Int}
    (finite : shape value = .finite negative significand exponent)
    (same : shape other = .finite negative significand exponent) : value = other := by
  have bits : value.toBits = other.toBits := by
    have left := eq_of_shapeOfBits value.toBits.toNat_lt finite
    have right := eq_of_shapeOfBits other.toBits.toNat_lt same
    apply UInt64.toNat_inj.mp
    omega
  rcases value with ⟨⟨bits, valid⟩⟩
  rcases other with ⟨⟨bitsToo, validToo⟩⟩
  cases bits
  rfl

/-! ## Comparing -/

/-- Finite numbers in canonical form compare equal exactly if they have the same parts. -/
theorem compare_finite_eq_iff {sign signToo : Sign} {size sizeToo : Nat}
    {exponent exponentToo : Int} {positive : 0 < size} {positiveToo : 0 < sizeToo} :
    (UnpackedFloat.finite sign size exponent positive).compare
        (.finite signToo sizeToo exponentToo positiveToo) = some .eq ↔
      size = sizeToo ∧ exponent = exponentToo ∧ isNegative sign = isNegative signToo := by
  have order : (compare exponent exponentToo).then (compare size sizeToo) = .eq ↔
      size = sizeToo ∧ exponent = exponentToo := by
    rw [Ordering.then_eq_eq, Std.compare_eq_iff_eq, Std.compare_eq_iff_eq, and_comm]
  cases sign with
  | positive =>
    cases signToo with
    | positive =>
      change some ((compare exponent exponentToo).then (compare size sizeToo)) = some .eq ↔ _
      simp [order]
    | negative => exact iff_of_false (by nofun) (by nofun)
  | negative =>
    cases signToo with
    | positive => exact iff_of_false (by nofun) (by nofun)
    | negative =>
      change some ((compare exponent exponentToo).then (compare size sizeToo)).swap = some .eq ↔ _
      simp [order]

/-- Finite doubles compare as equal if they have the same significand and exponent, and the same
sign unless they are zero. -/
theorem beq_iff {value other : Float} {negative negativeToo : Bool} {size sizeToo : Nat}
    {exponent exponentToo : Int} (finite : shape value = .finite negative size exponent)
    (finiteToo : shape other = .finite negativeToo sizeToo exponentToo) :
    (value == other) = true ↔
      size = sizeToo ∧ exponent = exponentToo ∧ (negative = negativeToo ∨ size = 0) := by
  rw [shape_eq] at finite finiteToo
  change (value.toModel.unpack.compare other.toModel.unpack == some .eq) = true ↔ _
  generalize value.toModel.unpack = left at finite ⊢
  generalize other.toModel.unpack = right at finiteToo ⊢
  rw [beq_iff_eq]
  cases left with
  | notANumber => cases finite
  | infinity => cases finite
  | zero sign =>
    cases finite
    cases right with
    | notANumber => cases finiteToo
    | infinity => cases finiteToo
    | zero signToo =>
      cases finiteToo
      exact iff_of_true rfl ⟨rfl, rfl, .inr rfl⟩
    | finite signToo mantissa exponent positive =>
      cases finiteToo
      refine iff_of_false ?_ fun same => Nat.ne_of_lt positive same.1
      cases signToo <;> nofun
  | finite sign mantissa exponent positive =>
    cases finite
    cases right with
    | notANumber => cases finiteToo
    | infinity => cases finiteToo
    | zero signToo =>
      cases finiteToo
      refine iff_of_false ?_ fun same => Nat.ne_of_gt positive same.1
      cases sign <;> nofun
    | finite signToo mantissaToo exponentToo positiveToo =>
      cases finiteToo
      rw [compare_finite_eq_iff, or_iff_left (Nat.ne_of_gt positive)]

/-- A double is finite exactly if it has a significand and an exponent. -/
theorem isFinite_iff {value : Float} :
    value.isFinite = true ↔ ∃ negative significand exponent,
      shape value = .finite negative significand exponent := by
  rw [shape_eq]
  change value.toModel.unpack.isFinite = true ↔ _
  cases value.toModel.unpack with
  | notANumber => exact iff_of_false (by nofun) (by nofun)
  | infinity => exact iff_of_false (by nofun) (by nofun)
  | zero => exact iff_of_true rfl ⟨_, _, _, rfl⟩
  | finite => exact iff_of_true rfl ⟨_, _, _, rfl⟩

/-- A double is not negative exactly if zero is at most the unpacked one. -/
theorem zero_le_iff {value : Float} :
    0 ≤ value ↔ UnpackedFloat.le (.zero .positive) value.toModel.unpack = true := by
  have zero : (0 : Float).toModel.unpack = .zero .positive := rfl
  rw [← zero]
  exact decide_eq_true_iff

/-- A finite double that is not below zero has no sign unless it is zero. -/
theorem nonneg_iff {value : Float} {negative : Bool} {significand : Nat} {exponent : Int}
    (finite : shape value = .finite negative significand exponent) :
    0 ≤ value ↔ negative = false ∨ significand = 0 := by
  rw [shape_eq] at finite
  rw [zero_le_iff]
  generalize value.toModel.unpack = unpacked at finite ⊢
  cases unpacked with
  | notANumber => cases finite
  | infinity => cases finite
  | zero sign =>
    cases finite
    exact iff_of_true rfl (.inr rfl)
  | finite sign mantissa exponent positive =>
    cases finite
    cases sign with
    | positive => exact iff_of_true rfl (.inl rfl)
    | negative =>
      refine iff_of_false (by nofun) ?_
      rintro (negative | none)
      · cases negative
      · omega

end Reckon.Decimal
