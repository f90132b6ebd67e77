import Mathlib.Data.List.TakeWhile
import Reckon.Decimal.Notation
import Reckon.Proofs.Decimal.Shortest
import Reckon.Proofs.Numerals

/-!
# The plain notation tells doubles apart

A decimal text stands for a rational: its digits without the point, times the power of ten that
the point and the exponent say. The plain notation of a double stands for the shortest decimal
of the double, which reads back as no other double; and a sign stands in front exactly if the
double is negative. So finite doubles with the same plain notation are the same.
-/

namespace Reckon.Decimal

/-- A number is written in digits. -/
theorem allDigits_digitText (value : Nat) : AllDigits (digitText value) := fun _ member =>
  Nat.isDigit_of_mem_toDigits (by decide) (by decide) member

/-- The digits of a number are worth the number. -/
@[simp]
theorem digitsValue_digitText (value : Nat) : digitsValue (digitText value) = value := by
  rw [digitsValue_eq_ofDigitChars (allDigits_digitText value)]
  exact Nat.ofDigitChars_toDigits (by decide) (by decide)

/-! ## Reading a decimal text -/

/-- The power of ten that an exponent says. -/
def exponentValue : List Char → Int
  | 'e' :: '-' :: digits => -digitsValue digits
  | 'e' :: _ :: digits => digitsValue digits
  | _ => 0

/-- The rational that a decimal text without a sign stands for: digits, with a point among them or
not, and an exponent or none. -/
def textValue (text : List Char) : ℚ :=
  let front := text.takeWhile (· != 'e')
  let whole := front.takeWhile (· != '.')
  let places := (front.dropWhile (· != '.')).drop 1
  digitsValue (whole ++ places) *
    10 ^ (exponentValue (text.dropWhile (· != 'e')) - (places.length : Int))

/-- No digit is the point or the mark of an exponent. -/
theorem ne_of_isDigit {c mark : Char} (digit : c.isDigit = true) (other : mark.isDigit = false) :
    (c != mark) = true := by
  rw [bne_iff_ne]
  rintro rfl
  rw [digit] at other
  cases other

/-- An exponent or none. -/
def IsTail (tail : List Char) : Prop := ∀ c, tail.head? = some c → c = 'e'

/-- Nothing is a tail of a decimal. -/
theorem isTail_nil : IsTail [] := nofun

/-- An exponent is a tail of a decimal. -/
theorem isTail_exponentText (power : Int) : IsTail (exponentText power) := by
  rintro c first
  cases first
  rfl

/-- A tail begins where the text in front of it ends. -/
theorem split_tail {front tail : List Char} (unmarked : ∀ c ∈ front, (c != 'e') = true)
    (isTail : IsTail tail) :
    (front ++ tail).takeWhile (· != 'e') = front ∧ (front ++ tail).dropWhile (· != 'e') = tail := by
  rw [List.takeWhile_append_of_pos unmarked, List.dropWhile_append_of_pos unmarked]
  cases tail with
  | nil => exact ⟨List.append_nil front, rfl⟩
  | cons c rest =>
    cases isTail c rfl
    exact ⟨List.append_nil front, rfl⟩

/-- Digits with a tail are worth the digits, scaled by the exponent. -/
theorem textValue_whole {whole tail : List Char} (digits : AllDigits whole)
    (isTail : IsTail tail) :
    textValue (whole ++ tail) = digitsValue whole * 10 ^ exponentValue tail := by
  obtain ⟨front, last⟩ := split_tail (fun c member => ne_of_isDigit (digits c member) rfl) isTail
  have noPoint : ∀ c ∈ whole, (c != '.') = true := fun c member =>
    ne_of_isDigit (digits c member) rfl
  rw [textValue, front, last, List.takeWhile_eq_self_iff.mpr noPoint,
    List.dropWhile_eq_nil_iff.mpr noPoint]
  simp

/-- Digits around a point are worth all of the digits, scaled down by one power of ten for each
place. -/
theorem textValue_pointed {whole places tail : List Char} (digits : AllDigits whole)
    (digitsToo : AllDigits places) (isTail : IsTail tail) :
    textValue (whole ++ '.' :: places ++ tail) =
      digitsValue (whole ++ places) * 10 ^ (exponentValue tail - (places.length : Int)) := by
  have unmarked : ∀ c ∈ whole ++ '.' :: places, (c != 'e') = true := by
    rw [List.forall_mem_append, List.forall_mem_cons]
    exact ⟨fun c member => ne_of_isDigit (digits c member) rfl, rfl,
      fun c member => ne_of_isDigit (digitsToo c member) rfl⟩
  obtain ⟨front, last⟩ := split_tail unmarked isTail
  have noPoint : ∀ c ∈ whole, (c != '.') = true := fun c member =>
    ne_of_isDigit (digits c member) rfl
  rw [textValue, front, last, List.takeWhile_append_of_pos noPoint,
    List.dropWhile_append_of_pos noPoint]
  simp

/-- An exponent that is written says the power. -/
theorem exponentValue_exponentText (power : Int) : exponentValue (exponentText power) = power := by
  have size : digitsValue (padded 2 (digitText power.natAbs)) = power.natAbs := by
    rw [padded, digitsValue_append, digitsValue_zeros, digitsValue_digitText, Nat.zero_mul,
      Nat.zero_add]
  unfold exponentText
  split
  · rw [exponentValue, size]
    omega
  · rw [exponentValue, size]
    · omega
    · decide

/-! ## The values of the two ways to write digits -/

/-- Without an exponent the places behind the point count alone. -/
theorem textValue_places {whole places : List Char} (digits : AllDigits whole)
    (digitsToo : AllDigits places) :
    textValue (whole ++ '.' :: places) =
      digitsValue (whole ++ places) * 10 ^ (-(places.length : Int)) := by
  have value := textValue_pointed digits digitsToo isTail_nil
  rw [List.append_nil, show exponentValue [] = 0 from rfl, zero_sub] at value
  exact value

/-- Digits written around their point are worth the digits at that position. -/
theorem textValue_positional {digits : List Char} (all : AllDigits digits) (position : Int) :
    textValue (positional digits position) =
      digitsValue digits * 10 ^ (position - (digits.length : Int)) := by
  unfold positional
  split
  case isTrue small =>
    have value := textValue_places (allDigits_zeros 1)
      ((allDigits_zeros (-position).toNat).append all)
    have size : -(((-position).toNat + digits.length : Nat) : Int) = position - digits.length := by
      omega
    rw [← List.append_assoc, List.replicate_append_replicate, digitsValue_zeros_append,
      List.length_append, List.length_replicate, size] at value
    exact value
  case isFalse =>
    dsimp only
    split
    case isTrue few =>
      have value := textValue_places
        (all.append (allDigits_zeros (position.toNat - digits.length))) (allDigits_zeros 1)
      have size : ((position.toNat - digits.length + 1 : Nat) : Int) + -1 =
          position - digits.length := by
        omega
      rw [List.append_assoc digits _ (List.replicate 1 '0'), List.replicate_append_replicate,
        digitsValue_append_zeros,
        List.length_replicate, Nat.cast_mul, Nat.cast_pow, mul_assoc, Nat.cast_one, Nat.cast_ofNat,
        ← zpow_natCast, ← zpow_add₀ (by norm_num), size] at value
      exact value
    case isFalse many =>
      have front : AllDigits (digits.take position.toNat) := fun c member =>
        all c (List.mem_of_mem_take member)
      have back : AllDigits (digits.drop position.toNat) := fun c member =>
        all c (List.mem_of_mem_drop member)
      have value := textValue_places front back
      have size : -((digits.length - position.toNat : Nat) : Int) = position - digits.length := by
        omega
      rw [List.take_append_drop, List.length_drop, size] at value
      exact value

/-- Digits written with one in front of the point are worth the digits at that power. -/
theorem textValue_scientificDigits {digits : List Char} (all : AllDigits digits)
    (some : digits ≠ []) (power : Int) :
    textValue (scientificDigits digits power) =
      digitsValue digits * 10 ^ (power - (digits.length : Int) + 1) := by
  match digits, some with
  | [first], _ =>
    rw [scientificDigits, ← List.singleton_append,
      textValue_whole all (isTail_exponentText power), exponentValue_exponentText]
    simp
  | first :: second :: rest, _ =>
    have isFirst : AllDigits [first] := List.forall_mem_singleton.mpr (all first (by simp))
    have areLater : AllDigits (second :: rest) := fun c member =>
      all c (List.mem_cons_of_mem _ member)
    have value := textValue_pointed isFirst areLater (isTail_exponentText power)
    rw [List.singleton_append, List.singleton_append, exponentValue_exponentText] at value
    have size : power - ((second :: rest).length : Int) =
        power - ((first :: second :: rest).length : Int) + 1 := by
      rw [List.length_cons (a := first)]
      omega
    rw [← size, ← value]
    rfl

/-- The plain notation of a magnitude has the value of its shortest decimal. -/
theorem textValue_plainMagnitude (significand : Nat) (exponent : Int) :
    textValue (plainMagnitude significand exponent) = (shortest significand exponent).value := by
  have digits := allDigits_digitText (shortest significand exponent).digits
  have some : digitText (shortest significand exponent).digits ≠ [] := Nat.toDigits_ne_nil
  unfold plainMagnitude Numeral.value
  dsimp only
  split
  · rw [textValue_positional digits, digitsValue_digitText, add_sub_cancel_right]
  · rw [textValue_scientificDigits digits some, digitsValue_digitText]
    congr 2
    ring

/-- Magnitudes with the same plain notation are the same. -/
theorem plainMagnitude_unique {significand significandToo : Nat} {exponent exponentToo : Int}
    (canonical : Canonical significand exponent)
    (canonicalToo : Canonical significandToo exponentToo)
    (same : plainMagnitude significand exponent = plainMagnitude significandToo exponentToo) :
    significand = significandToo ∧ exponent = exponentToo := by
  apply shortest_unique canonical canonicalToo
  rw [← textValue_plainMagnitude, ← textValue_plainMagnitude, same]

/-! ## The characters of the plain notation -/

/-- A digit, a point, or what belongs to an exponent. -/
def isDecimalPart (c : Char) : Bool :=
  c.isDigit || c = '.' || c = 'e' || c = '+' || c = '-'

/-- A digit belongs to a decimal. -/
theorem isDecimalPart_of_isDigit {c : Char} (digit : c.isDigit = true) :
    isDecimalPart c = true := by
  simp [isDecimalPart, digit]

/-- The text of a decimal, with a point or an exponent: it begins with a digit. -/
structure IsDecimal (text : List Char) : Prop where
  first : ∃ c rest, text = c :: rest ∧ c.isDigit = true
  parts : ∀ c ∈ text, isDecimalPart c = true
  marked : ¬ AllDigits text

/-- A digit, and behind it other characters of a decimal, not only digits. -/
theorem isDecimal_of_cons {c : Char} {rest : List Char} (digit : c.isDigit = true)
    (parts : ∀ part ∈ rest, isDecimalPart part = true)
    (marked : ∃ part ∈ rest, part.isDigit = false) : IsDecimal (c :: rest) where
  first := ⟨c, rest, rfl, digit⟩
  parts := List.forall_mem_cons.mpr ⟨isDecimalPart_of_isDigit digit, parts⟩
  marked all := by
    obtain ⟨part, member, other⟩ := marked
    rw [all part (List.mem_cons_of_mem c member)] at other
    cases other

/-- Digits belong to a decimal. -/
theorem isDecimalPart_of_allDigits {digits : List Char} (all : AllDigits digits) :
    ∀ c ∈ digits, isDecimalPart c = true := fun c member =>
  isDecimalPart_of_isDigit (all c member)

/-- Digits, a point and places are a decimal. -/
theorem isDecimal_pointed {whole places : List Char} (all : AllDigits whole) (some : whole ≠ [])
    (allPlaces : ∀ c ∈ places, isDecimalPart c = true) : IsDecimal (whole ++ '.' :: places) := by
  cases whole with
  | nil => exact (some rfl).elim
  | cons c rest =>
    obtain ⟨digit, others⟩ := List.forall_mem_cons.mp all
    have point : '.' ∈ rest ++ '.' :: places := List.mem_append_right _ List.mem_cons_self
    refine isDecimal_of_cons digit ?_ ⟨'.', point, rfl⟩
    refine List.forall_mem_append.mpr ⟨isDecimalPart_of_allDigits others, ?_⟩
    exact List.forall_mem_cons.mpr ⟨rfl, allPlaces⟩

/-- Digits written around their point are a decimal. -/
theorem isDecimal_positional {digits : List Char} (all : AllDigits digits) (some : digits ≠ [])
    (position : Int) : IsDecimal (positional digits position) := by
  unfold positional
  split
  · exact isDecimal_pointed (allDigits_zeros 1) (by simp)
      (isDecimalPart_of_allDigits ((allDigits_zeros _).append all))
  · dsimp only
    split
    · exact isDecimal_pointed (all.append (allDigits_zeros _)) (by simp [some])
        (isDecimalPart_of_allDigits (allDigits_zeros 1))
    · refine isDecimal_pointed (fun c member => all c (List.mem_of_mem_take member)) ?_
        (fun c member => isDecimalPart_of_isDigit (all c (List.mem_of_mem_drop member)))
      rw [ne_eq, List.take_eq_nil_iff]
      rintro (none | none)
      · omega
      · exact some none

/-- An exponent is written with what belongs to a decimal. -/
theorem isDecimalPart_exponentText (power : Int) :
    ∀ c ∈ exponentText power, isDecimalPart c = true := by
  unfold exponentText padded
  rw [List.forall_mem_cons, List.forall_mem_cons]
  refine ⟨rfl, by split <;> rfl, ?_⟩
  exact isDecimalPart_of_allDigits ((allDigits_zeros _).append (allDigits_digitText _))

/-- Digits written with one in front of the point are a decimal. -/
theorem isDecimal_scientificDigits {digits : List Char} (all : AllDigits digits)
    (some : digits ≠ []) (power : Int) : IsDecimal (scientificDigits digits power) := by
  have marked : 'e' ∈ exponentText power := List.mem_cons_self
  match digits, some with
  | [first], _ =>
    exact isDecimal_of_cons (all first (by simp)) (isDecimalPart_exponentText power)
      ⟨'e', marked, rfl⟩
  | first :: second :: rest, _ =>
    obtain ⟨digit, others⟩ := List.forall_mem_cons.mp all
    refine isDecimal_of_cons digit ?_ ⟨'.', List.mem_cons_self, rfl⟩
    refine List.forall_mem_append.mpr ⟨?_, isDecimalPart_exponentText power⟩
    exact List.forall_mem_cons.mpr ⟨rfl, isDecimalPart_of_allDigits others⟩

/-- The plain notation of a magnitude begins with a digit, and has a point or an exponent. -/
theorem isDecimal_plainMagnitude (significand : Nat) (exponent : Int) :
    IsDecimal (plainMagnitude significand exponent) := by
  have digits := allDigits_digitText (shortest significand exponent).digits
  have some : digitText (shortest significand exponent).digits ≠ [] := Nat.toDigits_ne_nil
  unfold plainMagnitude
  dsimp only
  split
  · exact isDecimal_positional digits some _
  · exact isDecimal_scientificDigits digits some _

/-! ## Doubles -/

/-- The plain notation of a finite double. -/
theorem toList_plain {value : Float} {negative : Bool} {significand : Nat} {exponent : Int}
    (finite : shape value = .finite negative significand exponent) :
    (plain value).toList =
      (if negative then ['-'] else []) ++ plainMagnitude significand exponent := by
  rw [plain, signed, finite]
  exact String.toList_ofList

end Reckon.Decimal
