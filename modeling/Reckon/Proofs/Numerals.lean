import Mathlib.Data.List.Basic
import Mathlib.Tactic.Ring
import Reckon.Number

/-!
# The values of numbers

A row of digits writes a natural number, ten times as great for each digit that is put behind it.
A double may be no number at all, and then it differs from itself. What a number lexeme stands
for is never such a double, and never has a sign: it is zero or a quotient of two whole numbers,
rounded, and rounding gives zero, a finite double or an infinite one with the sign of what is
rounded.
-/

namespace Reckon

/-! ## Rows of digits -/

/-- ASCII digits and nothing else. -/
def AllDigits (text : List Char) : Prop := ∀ c ∈ text, c.isDigit = true

/-- The front digits count as many tens as there are digits behind them. -/
theorem digitsValue_append (front back : List Char) :
    digitsValue (front ++ back) = digitsValue front * 10 ^ back.length + digitsValue back := by
  have further (total : Nat) : back.foldl (fun total c =>
      10 * total + (Text.decimalDigit? c).getD 0) total =
        total * 10 ^ back.length + digitsValue back := by
    unfold digitsValue
    induction back generalizing total with
    | nil => simp
    | cons c rest inductionHypothesis =>
      rw [List.foldl_cons, List.foldl_cons, inductionHypothesis,
        inductionHypothesis (10 * 0 + _), List.length_cons, Nat.pow_succ]
      ring
  rw [digitsValue, List.foldl_append]
  exact further _

/-- Zeros have no value. -/
theorem digitsValue_zeros (count : Nat) : digitsValue (List.replicate count '0') = 0 := by
  have zero : (Text.decimalDigit? '0').getD 0 = 0 := by decide
  induction count with
  | zero => rfl
  | succ count inductionHypothesis =>
    rw [List.replicate_succ', digitsValue_append, inductionHypothesis, Nat.zero_mul, Nat.zero_add]
    exact zero

/-- Zeros behind digits multiply their value. -/
theorem digitsValue_append_zeros (digits : List Char) (count : Nat) :
    digitsValue (digits ++ List.replicate count '0') = digitsValue digits * 10 ^ count := by
  rw [digitsValue_append, digitsValue_zeros, List.length_replicate, Nat.add_zero]

/-- Zeros in front of digits do not count. -/
theorem digitsValue_zeros_append (count : Nat) (digits : List Char) :
    digitsValue (List.replicate count '0' ++ digits) = digitsValue digits := by
  rw [digitsValue_append, digitsValue_zeros, Nat.zero_mul, Nat.zero_add]

/-- Zeros are digits. -/
theorem allDigits_zeros (count : Nat) : AllDigits (List.replicate count '0') := fun c member => by
  rw [List.eq_of_mem_replicate member]
  rfl

/-- Digits behind digits are digits. -/
theorem AllDigits.append {front back : List Char} (digits : AllDigits front)
    (digitsToo : AllDigits back) : AllDigits (front ++ back) :=
  List.forall_mem_append.mpr ⟨digits, digitsToo⟩

/-- The value of digits is the one that the core library computes. -/
theorem digitsValue_eq_ofDigitChars {digits : List Char} (all : AllDigits digits) :
    digitsValue digits = Nat.ofDigitChars 10 digits 0 := by
  rw [Nat.ofDigitChars_eq_foldl]
  refine List.foldl_ext _ _ _ fun total c member => ?_
  rw [Text.decimalDigit?_of_isDigit (all c member), Option.getD_some]

/-! ## Doubles that are numbers -/

open Float.Model
open Float.Model.UnpackedFloat (packComponents roundWithAccuracy Sign)

/-- The double is a number, finite or infinite. -/
def IsNumber (value : Float) : Prop := value.toModel.unpack ≠ .notANumber

/-- A number is the same as itself. -/
theorem IsNumber.beq_self {value : Float} (number : IsNumber value) : (value == value) = true := by
  have equal : value.toModel.unpack.compare value.toModel.unpack = some .eq := by
    unfold IsNumber at number
    generalize value.toModel.unpack = unpacked at number
    cases unpacked with
    | notANumber => exact (number rfl).elim
    | infinity sign => cases sign <;> rfl
    | zero sign => rfl
    | finite sign mantissa exponent positive =>
      have same : (compare exponent exponent).then (compare mantissa mantissa) = .eq := by
        rw [Std.compare_self, Std.compare_self]
        rfl
      cases sign with
      | positive => exact congrArg some same
      | negative => exact congrArg (fun order => some order.swap) same
  change (value.toModel.unpack.compare value.toModel.unpack == some .eq) = true
  rw [equal]
  rfl

/-- Zero, finite or infinite, and with the sign of a positive number. -/
def isUnsigned : UnpackedFloat → Bool
  | .infinity .positive | .zero .positive | .finite .positive .. => true
  | _ => false

/-- What has no sign is a number. -/
theorem isNumber_of_isUnsigned {value : Float} (unsigned : isUnsigned value.toModel.unpack = true) :
    IsNumber value := by
  intro undefined
  rw [undefined] at unsigned
  cases unsigned

/-- A choice has no sign if neither choice has one. -/
theorem isUnsigned_dite {holds : Prop} [Decidable holds] {first : holds → UnpackedFloat}
    {second : ¬holds → UnpackedFloat} (left : ∀ known, isUnsigned (first known) = true)
    (right : ∀ known, isUnsigned (second known) = true) :
    isUnsigned (dite holds first second) = true := by
  by_cases which : holds
  · rw [dif_pos which]
    exact left which
  · rw [dif_neg which]
    exact right which

/-- A choice between numbers without a sign has no sign. -/
theorem isUnsigned_ite {holds : Prop} [Decidable holds] {first second : UnpackedFloat}
    (left : holds → isUnsigned first = true) (right : ¬holds → isUnsigned second = true) :
    isUnsigned (ite holds first second) = true :=
  iteInduction (motive := fun unpacked => isUnsigned unpacked = true) left right

/-! ## Storing a double -/

/-- The sign is the first bit. -/
theorem unpackSign_eq {spec : Format} (bits : BitVec spec.numBits) :
    UnpackedFloat.unpackSign bits =
      (bits.extractLsb (spec.mantissaBitsWithoutImplicit + spec.exponentBits)
        (spec.mantissaBitsWithoutImplicit + spec.exponentBits)).cast (by omega) := rfl

/-- The sign bit of packed parts is the sign that was packed. -/
theorem unpackSign_positive {spec : Format} (exponent : BitVec spec.exponentBits)
    (mantissa : BitVec spec.mantissaBitsWithoutImplicit) :
    UnpackedFloat.unpackSign (packComponents spec .positive exponent mantissa) = 0#1 := by
  apply BitVec.eq_of_getElem_eq
  intro place first
  have behind : ¬ spec.mantissaBitsWithoutImplicit + spec.exponentBits + place <
      spec.mantissaBitsWithoutImplicit := by omega
  have behindToo : ¬ spec.mantissaBitsWithoutImplicit + spec.exponentBits + place -
      spec.mantissaBitsWithoutImplicit < spec.exponentBits := by omega
  simp [unpackSign_eq, packComponents, BitVec.getLsbD_append, Sign.toBitVec, behind, behindToo]

/-- Only the greatest exponent is that of no number, and only if there is a mantissa. -/
theorem isUnsigned_packComponents {spec : Format} {exponent : BitVec spec.exponentBits}
    {mantissa : BitVec spec.mantissaBitsWithoutImplicit}
    (proper : exponent = -1#_ → mantissa = 0#_) :
    isUnsigned (.unpack spec (packComponents spec .positive exponent mantissa)) = true := by
  unfold UnpackedFloat.unpack
  dsimp only
  rw [unpackSign_positive]
  refine isUnsigned_ite (fun last => ?_) fun _ => ?_
  · rw [UnpackedFloat.unpackExponent_packComponents] at last
    rw [if_pos (UnpackedFloat.unpackMantissa_packComponents.trans (proper last))]
    rfl
  · exact isUnsigned_ite (fun _ => isUnsigned_dite (fun _ => rfl) fun _ => rfl) fun _ => rfl

/-- Without a sign it is stored and stays without one. -/
theorem isUnsigned_pack {unpacked : UnpackedFloat} (unsigned : isUnsigned unpacked = true) :
    isUnsigned (.unpack .binary64 (UnpackedFloat.pack .binary64 unpacked)) = true := by
  cases unpacked with
  | notANumber => cases unsigned
  | infinity sign =>
    cases sign with
    | negative => cases unsigned
    | positive => exact isUnsigned_packComponents fun _ => rfl
  | zero sign =>
    cases sign with
    | negative => cases unsigned
    | positive => exact isUnsigned_packComponents fun _ => rfl
  | finite sign mantissa exponent positive =>
    cases sign with
    | negative => cases unsigned
    | positive =>
      unfold UnpackedFloat.pack
      dsimp only
      generalize (exponent + _ + _).toNat = biased
      split
      case isTrue => exact isUnsigned_packComponents fun _ => rfl
      case isFalse short =>
        split
        · refine isUnsigned_packComponents fun last => ?_
          have size := congrArg BitVec.toNat last
          simp at size short
          omega
        · refine isUnsigned_packComponents fun last => ?_
          have size := congrArg BitVec.toNat last
          simp at size

/-! ## Rounding and dividing -/

/-- Rounding brings no sign in. -/
theorem isUnsigned_roundWithAccuracy (spec : Format) (mantissa : Nat) (exponent : Int)
    (accuracy : UnpackedFloat.Accuracy) :
    isUnsigned (roundWithAccuracy spec .positive mantissa exponent accuracy) = true :=
  isUnsigned_dite (fun _ => rfl) fun _ => rfl

/-- Shifting a significand into the format brings no sign in. -/
theorem isUnsigned_normalize (spec : Format) (mantissa : Nat) (exponent : Int) :
    isUnsigned (.normalize spec mantissa exponent .positive) = true := by
  unfold UnpackedFloat.normalize
  split
  · next below =>
    rw [Int.compare_eq_lt] at below
    omega
  · rfl
  · exact isUnsigned_roundWithAccuracy _ _ _ _

/-- Neither zero nor infinite nor no number. -/
def isProper : UnpackedFloat → Bool
  | .finite .. => true
  | _ => false

/-- What has no sign, divided by a finite number without a sign other than zero, has no sign. -/
theorem isUnsigned_div (spec : Format) {dividend divisor : UnpackedFloat}
    (unsigned : isUnsigned dividend = true) (unsignedToo : isUnsigned divisor = true)
    (proper : isProper divisor = true) : isUnsigned (.div spec dividend divisor) = true := by
  cases divisor with
  | finite sign mantissa exponent positive =>
    cases sign with
    | negative => cases unsignedToo
    | positive =>
      cases dividend with
      | notANumber => cases unsigned
      | infinity sign =>
        cases sign with
        | negative => cases unsigned
        | positive => rfl
      | zero sign =>
        cases sign with
        | negative => cases unsigned
        | positive => rfl
      | finite sign mantissa exponent positive =>
        cases sign with
        | negative => cases unsigned
        | positive => exact isUnsigned_roundWithAccuracy _ _ _ _
  | _ => cases proper

/-- A decimal fraction without a sign becomes a binary one without a sign. -/
theorem isUnsigned_ofScientific (spec : Format) (mantissa : Nat) (exponent : Int) :
    isUnsigned (.ofScientific spec mantissa exponent) = true := by
  refine isUnsigned_dite (fun _ => rfl) fun _ => ?_
  refine isUnsigned_ite (fun _ => rfl) fun _ => isUnsigned_ite (fun _ => rfl) fun _ => ?_
  refine isUnsigned_ite (fun _ => ?_) fun _ => ?_
  · exact isUnsigned_roundWithAccuracy _ _ _ _
  · exact isUnsigned_div _ rfl rfl rfl

/-! ## Numbers -/

/-- The tabled powers of ten are finite, positive and not zero. -/
theorem isProper_powerOfTen : ∀ power ∈ Float.exactlyRepresentablePowersOfTen.toList,
    isUnsigned power.toModel.unpack = true ∧ isProper power.toModel.unpack = true := by
  decide +kernel

/-- A double from a decimal significand and a power of ten below one has no sign. -/
theorem isUnsigned_decimal (mantissa exponent : Nat) :
    isUnsigned (Float.ofScientific mantissa true exponent).toModel.unpack = true := by
  unfold Float.ofScientific
  split
  case isTrue small =>
    have size : Float.exactlyRepresentablePowersOfTen.size = 23 := rfl
    have below : exponent < Float.exactlyRepresentablePowersOfTen.size := by omega
    obtain ⟨unsigned, proper⟩ := isProper_powerOfTen _ (Array.getElem_mem_toList below)
    have whole : isUnsigned mantissa.toUInt64.toFloat.toModel.unpack = true :=
      isUnsigned_pack (isUnsigned_normalize _ _ _)
    exact isUnsigned_pack (isUnsigned_div _ whole unsigned proper)
  case isFalse => exact isUnsigned_pack (isUnsigned_ofScientific _ _ _)

/-- **The value of a number lexeme is a number without a sign.** -/
theorem isUnsigned_lexemeValue (lexeme : String) :
    isUnsigned (lexemeValue lexeme).toModel.unpack = true := by
  unfold lexemeValue
  split
  · exact isUnsigned_decimal _ _
  · exact isUnsigned_decimal _ _

/-- The value of a lexeme is a number, and it is not negative. -/
theorem isNumber_lexemeValue (lexeme : String) : IsNumber (lexemeValue lexeme) :=
  isNumber_of_isUnsigned (isUnsigned_lexemeValue lexeme)

end Reckon
