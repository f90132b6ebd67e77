import Mathlib.Data.Nat.Cast.Field
import Reckon.Node.Notation
import Reckon.Proofs.Decimal.Notation

/-!
# Numbers in the prefix form

A number that is whole and short is written as an integer, any other in the plain notation. An
integer has neither point nor exponent and the plain notation has one of them, so the two never
meet, and either tells different numbers apart. The two zeros, which are equal, are both written
as the integer.
-/

namespace Reckon

open Decimal

/-- Finite and not below zero. -/
structure IsMagnitude (value : Float) : Prop where
  finite : value.isFinite = true
  notNegative : 0 ≤ value

/-- Whole numbers below the bound are integers. -/
theorem whole_of_smallInteger? {value : Float} {negative : Bool} {significand : Nat}
    {exponent integer : Int} (finite : shape value = .finite negative significand exponent)
    (unsigned : negative = false ∨ significand = 0) (found : smallInteger? value = some integer) :
    ∃ size : Nat, integer = size ∧ (size : ℚ) = dyadic significand exponent := by
  have whole := quotient_fraction significand exponent
  have positive := fraction_positive significand exponent
  have zero : significand = 0 → (fraction significand exponent).1 = 0 := by
    rintro rfl
    exact fraction_zero exponent
  unfold smallInteger? at found
  rw [finite] at found
  dsimp only at found
  generalize fraction significand exponent = parts at whole positive zero found
  obtain ⟨numerator, denominator⟩ := parts
  split at found
  case isFalse => cases found
  case isTrue exact' =>
    simp only [Bool.and_eq_true, decide_eq_true_eq] at exact'
    have quotientWhole : ((numerator / denominator : Nat) : ℚ) = dyadic significand exponent := by
      rw [← whole, quotient, Nat.cast_div (Nat.dvd_of_mod_eq_zero exact'.1)]
      exact_mod_cast positive.ne'
    refine ⟨numerator / denominator, ?_, quotientWhole⟩
    rw [← Option.some.inj found]
    rcases unsigned with rfl | none
    · rfl
    · obtain rfl := zero none
      simp

/-- A number that is no short whole number is not zero. -/
theorem pos_of_smallInteger? {value : Float} {negative : Bool} {significand : Nat} {exponent : Int}
    (finite : shape value = .finite negative significand exponent)
    (missing : smallInteger? value = none) : 0 < significand := by
  rcases Nat.eq_zero_or_pos significand with rfl | some
  · have below := Nat.mul_pos (fraction_positive 0 exponent) (tenTo_pos 16)
    unfold smallInteger? at missing
    rw [finite] at missing
    simp [fraction_zero, below] at missing
  · exact some

/-- A finite number that is not negative is written as the whole number that it is, or in the
plain notation without a sign. -/
theorem numberText_cases {value : Float} {negative : Bool} {significand : Nat} {exponent : Int}
    (finite : shape value = .finite negative significand exponent)
    (unsigned : negative = false ∨ significand = 0) :
    (∃ size : Nat, (size : ℚ) = dyadic significand exponent ∧
      (numberText value).toList = digitText size) ∨
    (0 < significand ∧ (numberText value).toList = plainMagnitude significand exponent) := by
  unfold numberText
  cases found : smallInteger? value with
  | some integer =>
    obtain ⟨size, rfl, whole⟩ := whole_of_smallInteger? finite unsigned found
    refine .inl ⟨size, whole, ?_⟩
    change (toString size).toList = digitText size
    rw [Nat.toString_eq_ofList_toDigits, String.toList_ofList]
    rfl
  | none =>
    have some := pos_of_smallInteger? finite found
    have positive : negative = false := unsigned.resolve_right some.ne'
    refine .inr ⟨some, ?_⟩
    dsimp only
    rw [toList_plain finite, positive]
    rfl

/-- Either zero is written as the integer. -/
theorem numberText_zero {value : Float} {negative : Bool} {exponent : Int}
    (finite : shape value = .finite negative 0 exponent) :
    (numberText value).toList = digitText 0 := by
  rcases numberText_cases finite (.inr rfl) with ⟨size, whole, digits⟩ | ⟨some, _⟩
  · simp only [dyadic, Nat.cast_zero, zero_mul, Nat.cast_eq_zero] at whole
    rw [digits, whole]
  · exact (Nat.lt_irrefl 0 some).elim

/-- Numbers with the same prefix form are of the same size. -/
theorem numberText_unique {value other : Float} {negative negativeToo : Bool}
    {significand significandToo : Nat} {exponent exponentToo : Int}
    (finite : shape value = .finite negative significand exponent)
    (finiteToo : shape other = .finite negativeToo significandToo exponentToo)
    (unsigned : negative = false ∨ significand = 0)
    (unsignedToo : negativeToo = false ∨ significandToo = 0)
    (same : (numberText value).toList = (numberText other).toList) :
    significand = significandToo ∧ exponent = exponentToo := by
  have canonical := canonical_of_shape finite
  have canonicalToo := canonical_of_shape finiteToo
  have writtenToo := numberText_cases finiteToo unsignedToo
  rcases numberText_cases finite unsigned with ⟨size, whole, digits⟩ | ⟨_, plain⟩
  · rcases writtenToo with ⟨sizeToo, wholeToo, digitsToo⟩ | ⟨_, plainToo⟩
    · apply dyadic_unique canonical canonicalToo
      rw [digits, digitsToo] at same
      rw [← whole, ← wholeToo, ← digitsValue_digitText size, same, digitsValue_digitText]
    · rw [digits, plainToo] at same
      have decimal := isDecimal_plainMagnitude significandToo exponentToo
      exact (decimal.marked (same ▸ allDigits_digitText size)).elim
  · rcases writtenToo with ⟨sizeToo, wholeToo, digitsToo⟩ | ⟨_, plainToo⟩
    · rw [plain, digitsToo] at same
      have decimal := isDecimal_plainMagnitude significand exponent
      exact (decimal.marked (same ▸ allDigits_digitText sizeToo)).elim
    · rw [plain, plainToo] at same
      exact plainMagnitude_unique canonical canonicalToo same

/-- **Numbers have the same prefix form exactly if they are equal.** -/
theorem numberText_eq_iff {value other : Float} (magnitude : IsMagnitude value)
    (magnitudeToo : IsMagnitude other) :
    numberText value = numberText other ↔ (value == other) = true := by
  obtain ⟨negative, significand, exponent, form⟩ := isFinite_iff.mp magnitude.finite
  obtain ⟨negativeToo, significandToo, exponentToo, formToo⟩ := isFinite_iff.mp magnitudeToo.finite
  have unsigned := (nonneg_iff form).mp magnitude.notNegative
  have unsignedToo := (nonneg_iff formToo).mp magnitudeToo.notNegative
  rw [beq_iff form formToo, ← String.toList_inj]
  constructor
  · intro same
    obtain ⟨rfl, rfl⟩ := numberText_unique form formToo unsigned unsignedToo same
    refine ⟨rfl, rfl, ?_⟩
    rcases unsigned with rfl | zero
    · exact unsignedToo.imp_left Eq.symm
    · exact .inr zero
  · rintro ⟨rfl, rfl, rfl | rfl⟩
    · rw [eq_of_shape form formToo]
    · rw [numberText_zero form, numberText_zero formToo]

/-- A number is written as a digit and other parts of a decimal. -/
theorem numberText_parts {value : Float} (magnitude : IsMagnitude value) :
    ∃ c rest, (numberText value).toList = c :: rest ∧ c.isDigit = true ∧
      ∀ part ∈ (numberText value).toList, isDecimalPart part = true := by
  obtain ⟨negative, significand, exponent, form⟩ := isFinite_iff.mp magnitude.finite
  rcases numberText_cases form ((nonneg_iff form).mp magnitude.notNegative) with
    ⟨size, _, digits⟩ | ⟨_, plain⟩
  · have all := allDigits_digitText size
    rw [digits]
    cases text : digitText size with
    | nil => exact (Nat.toDigits_ne_nil text).elim
    | cons c rest =>
      rw [text] at all
      exact ⟨c, rest, rfl, all c List.mem_cons_self, isDecimalPart_of_allDigits all⟩
  · have decimal := isDecimal_plainMagnitude significand exponent
    obtain ⟨c, rest, first, digit⟩ := decimal.first
    rw [plain]
    exact ⟨c, rest, first, digit, decimal.parts⟩

end Reckon
