import Mathlib.Data.List.TakeWhile
import Reckon.Proofs.Decimal.Binary
import Reckon.Proofs.Numerals
import Reckon.Proofs.Token.Segmentation

/-!
# What number lexemes are worth

A number lexeme is any run of digits and points. A number has one of three forms: digits, digits
with a point behind them and perhaps more digits, or a point with digits behind it. What is
converted is the longest front part of a lexeme in one of these forms, and no number reaches past
a second point. Only the empty lexeme and a point that no digit follows begin with no number, and
they are worth zero. What a number token is worth is a number, finite or infinite, and is not
negative.
-/

namespace Reckon

/-! ## The forms of a number -/

/-- Digits, digits and a point with or without digits behind it, or a point and digits. -/
inductive IsNumeral : List Char → Prop
  | whole {digits : List Char} (some : digits ≠ []) (all : AllDigits digits) : IsNumeral digits
  | pointed {digits places : List Char} (some : digits ≠ []) (all : AllDigits digits)
      (allPlaces : AllDigits places) : IsNumeral (digits ++ '.' :: places)
  | fraction {places : List Char} (some : places ≠ []) (all : AllDigits places) :
      IsNumeral ('.' :: places)

/-- Digits around a point are a number if there are any. -/
theorem isNumeral_around {digits places : List Char} (all : AllDigits digits)
    (allPlaces : AllDigits places) (some : ¬(digits = [] ∧ places = [])) :
    IsNumeral (digits ++ '.' :: places) := by
  by_cases none : digits = []
  · subst none
    exact .fraction (fun noneToo => some ⟨rfl, noneToo⟩) allPlaces
  · exact .pointed none all allPlaces

/-- There is no point among digits. -/
theorem AllDigits.count_point {digits : List Char} (all : AllDigits digits) :
    digits.count '.' = 0 :=
  List.count_eq_zero.mpr fun member => absurd (all '.' member) (by decide)

/-- Nothing is left, or a point is next. -/
def PointNext (behind : List Char) : Prop := ∀ c, behind.head? = some c → c = '.'

/-- Nothing is left behind the end. -/
theorem pointNext_nil : PointNext [] := nofun

/-- A point is next in front of anything. -/
theorem pointNext_point (more : List Char) : PointNext ('.' :: more) := by
  rintro _ ⟨⟩
  rfl

namespace IsNumeral

variable {numeral : List Char}

/-- A number has one point at most. -/
theorem count_point_le (isNumeral : IsNumeral numeral) : numeral.count '.' ≤ 1 := by
  cases isNumeral with
  | whole _ all => simp [all.count_point]
  | pointed _ all allPlaces => simp [all.count_point, allPlaces.count_point]
  | fraction _ all => simp [all.count_point]

/-- A number begins with a digit, or with a point and a digit. -/
theorem begins (isNumeral : IsNumeral numeral) :
    ∃ digit rest, digit.isDigit = true ∧
      (numeral = digit :: rest ∨ numeral = '.' :: digit :: rest) := by
  cases isNumeral with
  | whole some all =>
    obtain ⟨digit, rest, rfl⟩ := List.exists_cons_of_ne_nil some
    exact ⟨digit, rest, all digit List.mem_cons_self, .inl rfl⟩
  | @pointed _ places some all _ =>
    obtain ⟨digit, rest, rfl⟩ := List.exists_cons_of_ne_nil some
    exact ⟨digit, rest ++ '.' :: places, all digit List.mem_cons_self, .inl rfl⟩
  | fraction some all =>
    obtain ⟨digit, rest, rfl⟩ := List.exists_cons_of_ne_nil some
    exact ⟨digit, rest, all digit List.mem_cons_self, .inr rfl⟩

/-- No number reaches past a second point. -/
theorem prefix_iff (isNumeral : IsNumeral numeral) {front behind : List Char}
    (point : front.count '.' = 1) (ends : PointNext behind) :
    numeral <+: front ++ behind ↔ numeral <+: front := by
  refine ⟨fun inFront => ?_, fun inFront => inFront.trans (List.prefix_append front behind)⟩
  cases behind with
  | nil => rwa [List.append_nil] at inFront
  | cons c more =>
    obtain rfl := ends c rfl
    have few := isNumeral.count_point_le
    have points : (front ++ ['.']).count '.' = 2 := by simp [point]
    have second : front ++ ['.'] <+: front ++ '.' :: more := ⟨more, by simp⟩
    rcases List.prefix_or_prefix_of_prefix inFront second with short | long
    · rcases List.prefix_concat_iff.mp short with rfl | short
      · omega
      · exact short
    · have atLeast := long.sublist.count_le '.'
      omega

end IsNumeral

/-! ## The longest number in front -/

/-- The longest front part of a text that has the form of a number. -/
structure LongestNumeral (text numeral : List Char) : Prop where
  inFront : numeral <+: text
  isNumeral : IsNumeral numeral
  longest : ∀ other, other <+: text → IsNumeral other → other.length ≤ numeral.length

/-- No front part of the text has the form of a number. -/
def NoNumeral (text : List Char) : Prop := ∀ numeral, numeral <+: text → ¬IsNumeral numeral

/-- A text has one longest number in front. -/
theorem LongestNumeral.unique {text numeral other : List Char}
    (longest : LongestNumeral text numeral) (longestToo : LongestNumeral text other) :
    numeral = other := by
  have atMost := longestToo.longest numeral longest.inFront longest.isNumeral
  have atLeast := longest.longest other longestToo.inFront longestToo.isNumeral
  exact (List.prefix_of_prefix_length_le longest.inFront longestToo.inFront atMost).eq_of_length
    (Nat.le_antisymm atMost atLeast)

/-- A number is the longest in front of itself. -/
theorem IsNumeral.longestNumeral {numeral : List Char} (isNumeral : IsNumeral numeral) :
    LongestNumeral numeral numeral :=
  ⟨List.prefix_rfl, isNumeral, fun _ inFront _ => inFront.length_le⟩

/-- What a second point and the characters behind it would add does not count. -/
theorem LongestNumeral.append {front behind numeral : List Char}
    (longest : LongestNumeral front numeral) (point : front.count '.' = 1)
    (ends : PointNext behind) : LongestNumeral (front ++ behind) numeral where
  inFront := longest.inFront.trans (List.prefix_append front behind)
  isNumeral := longest.isNumeral
  longest other inFront isNumeral :=
    longest.longest other ((isNumeral.prefix_iff point ends).mp inFront) isNumeral

/-- In an empty text no number is in front. -/
theorem noNumeral_nil : NoNumeral [] := by
  intro numeral inFront isNumeral
  obtain ⟨digit, rest, _, rfl | rfl⟩ := isNumeral.begins <;> simp at inFront

/-- A point that no digit follows begins no number. -/
theorem noNumeral_point {rest : List Char}
    (noDigit : ∀ c, rest.head? = some c → c.isDigit = false) : NoNumeral ('.' :: rest) := by
  intro numeral inFront isNumeral
  obtain ⟨digit, behind, isDigit, rfl | rfl⟩ := isNumeral.begins
  · obtain ⟨rfl, _⟩ := List.cons_prefix_cons.mp inFront
    exact absurd isDigit (by decide)
  · obtain ⟨more, rfl⟩ := (List.cons_prefix_cons.mp inFront).2
    rw [noDigit digit rfl] at isDigit
    cases isDigit

/-- **Without a number in front** is a run of digits and points only if it is empty or begins with a
point that no digit follows. -/
theorem noNumeral_iff {text : List Char} (parts : ∀ c ∈ text, isNumberPart c = true) :
    NoNumeral text ↔
      text = [] ∨ ∃ rest, text = '.' :: rest ∧ ∀ c, rest.head? = some c → c.isDigit = false := by
  constructor
  · intro noNumeral
    cases text with
    | nil => exact .inl rfl
    | cons c rest =>
      have part := parts c List.mem_cons_self
      simp only [isNumberPart, Bool.or_eq_true, decide_eq_true_eq] at part
      rcases part with digit | rfl
      · refine absurd (.whole (List.cons_ne_nil c []) ?_) (noNumeral [c] ⟨rest, rfl⟩)
        exact List.forall_mem_singleton.mpr digit
      · refine .inr ⟨rest, rfl, fun c first => ?_⟩
        obtain ⟨more, rfl⟩ := List.head?_eq_some_iff.mp first
        rw [← Bool.not_eq_true]
        intro digit
        refine noNumeral ['.', c] ⟨more, rfl⟩ (.fraction (List.cons_ne_nil c []) ?_)
        exact List.forall_mem_singleton.mpr digit
  · rintro (rfl | ⟨rest, rfl, noDigit⟩)
    · exact noNumeral_nil
    · exact noNumeral_point noDigit

/-! ## The front part that is converted -/

/-- A run of digits and points is digits, and behind them nothing or a point. -/
theorem exists_digits {text : List Char} (parts : ∀ c ∈ text, isNumberPart c = true) :
    ∃ digits behind, AllDigits digits ∧ PointNext behind ∧ text = digits ++ behind := by
  induction text with
  | nil => exact ⟨[], [], nofun, pointNext_nil, rfl⟩
  | cons c rest inductionHypothesis =>
    obtain ⟨part, later⟩ := List.forall_mem_cons.mp parts
    simp only [isNumberPart, Bool.or_eq_true, decide_eq_true_eq] at part
    rcases part with digit | rfl
    · obtain ⟨digits, behind, all, ends, rfl⟩ := inductionHypothesis later
      exact ⟨c :: digits, behind, List.forall_mem_cons.mpr ⟨digit, all⟩, ends, rfl⟩
    · exact ⟨[], '.' :: rest, nofun, pointNext_point rest, rfl⟩

/-- A run of digits and points is digits alone, or digits around its first point, and behind them
nothing or a second point. -/
theorem allDigits_or_point {text : List Char} (parts : ∀ c ∈ text, isNumberPart c = true) :
    AllDigits text ∨ ∃ digits places behind, AllDigits digits ∧ AllDigits places ∧
      PointNext behind ∧ text = digits ++ '.' :: (places ++ behind) := by
  obtain ⟨digits, behind, all, ends, rfl⟩ := exists_digits parts
  cases behind with
  | nil =>
    rw [List.append_nil]
    exact .inl all
  | cons c rest =>
    obtain rfl := ends c rfl
    have later := (List.forall_mem_cons.mp (List.forall_mem_append.mp parts).2).2
    obtain ⟨places, behind, allPlaces, endsToo, rfl⟩ := exists_digits later
    exact .inr ⟨digits, places, behind, all, allPlaces, endsToo, rfl⟩

/-- ASCII digits are digits of numerals. -/
theorem isNumeralDigit_of_allDigits {digits : List Char} (all : AllDigits digits) :
    ∀ c ∈ digits, isNumeralDigit c = true := fun c member => by
  rw [isNumeralDigit, Text.decimalDigit?_of_isDigit (all c member), Option.isSome_some]

/-- Digits alone are the front part that is converted. -/
theorem numberFront?_digits {digits : List Char} (all : AllDigits digits) :
    numberFront? digits = if digits = [] then none else some digits := by
  have numeralDigits := isNumeralDigit_of_allDigits all
  simp [numberFront?, List.takeWhile_eq_self_iff.mpr numeralDigits,
    List.dropWhile_eq_nil_iff.mpr numeralDigits]

/-- Of digits around a point and what comes behind, the front part up to there is converted, unless
there are no digits. -/
theorem numberFront?_point {digits places behind : List Char} (all : AllDigits digits)
    (allPlaces : AllDigits places) (ends : PointNext behind) :
    numberFront? (digits ++ '.' :: (places ++ behind)) =
      if digits = [] ∧ places = [] then none else some (digits ++ '.' :: places) := by
  have noDigit : isNumeralDigit '.' = false := by decide
  have numeralDigits := isNumeralDigit_of_allDigits all
  have front : (digits ++ '.' :: (places ++ behind)).takeWhile isNumeralDigit = digits :=
    takeWhile_append_apart (List.all_eq_true.mpr numeralDigits) (by simp [noDigit])
  have rest : (digits ++ '.' :: (places ++ behind)).dropWhile isNumeralDigit =
      '.' :: (places ++ behind) := by
    rw [List.dropWhile_append_of_pos numeralDigits,
      List.dropWhile_cons_of_neg (by simp [noDigit])]
  have fraction : (places ++ behind).takeWhile isNumeralDigit = places := by
    refine takeWhile_append_apart (List.all_eq_true.mpr (isNumeralDigit_of_allDigits allPlaces)) ?_
    intro c first
    rw [ends c first, noDigit]
  simp [numberFront?, front, rest, fraction]

/-- The longest number in front is found, and nothing if no number is in front. -/
theorem numberFront?_spec {text : List Char} (parts : ∀ c ∈ text, isNumberPart c = true) :
    (∃ numeral, numberFront? text = some numeral ∧ LongestNumeral text numeral) ∨
      numberFront? text = none ∧ NoNumeral text := by
  rcases allDigits_or_point parts with all | ⟨digits, places, behind, all, allPlaces, ends, rfl⟩
  · rw [numberFront?_digits all]
    by_cases none : text = []
    · rw [if_pos none, none]
      exact .inr ⟨rfl, noNumeral_nil⟩
    · rw [if_neg none]
      exact .inl ⟨text, rfl, (IsNumeral.whole none all).longestNumeral⟩
  · rw [numberFront?_point all allPlaces ends]
    by_cases none : digits = [] ∧ places = []
    · rw [if_pos none]
      obtain ⟨rfl, rfl⟩ := none
      refine .inr ⟨rfl, noNumeral_point fun c first => ?_⟩
      rw [ends c first]
      rfl
    · rw [if_neg none]
      have point : (digits ++ '.' :: places).count '.' = 1 := by
        simp [all.count_point, allPlaces.count_point]
      have longest := (isNumeral_around all allPlaces none).longestNumeral.append point ends
      rw [List.append_assoc] at longest
      exact .inl ⟨_, rfl, longest⟩

/-- What is converted of digits and points is the longest number in front. -/
theorem numberFront?_eq_some_iff {text numeral : List Char}
    (parts : ∀ c ∈ text, isNumberPart c = true) :
    numberFront? text = some numeral ↔ LongestNumeral text numeral := by
  rcases numberFront?_spec parts with ⟨found, same, longest⟩ | ⟨same, noNumeral⟩
  · rw [same, Option.some.injEq]
    exact ⟨fun equal => equal ▸ longest, longest.unique⟩
  · rw [same]
    exact ⟨nofun, fun longest => absurd longest.isNumeral (noNumeral _ longest.inFront)⟩

/-- Nothing of digits and points can be converted exactly if no number is in front. -/
theorem numberFront?_eq_none_iff {text : List Char} (parts : ∀ c ∈ text, isNumberPart c = true) :
    numberFront? text = none ↔ NoNumeral text := by
  rcases numberFront?_spec parts with ⟨found, same, longest⟩ | ⟨same, noNumeral⟩
  · rw [same]
    exact ⟨nofun, fun noNumeral => absurd longest.isNumeral (noNumeral found longest.inFront)⟩
  · exact ⟨fun _ => noNumeral, fun _ => same⟩

/-! ## Values -/

/-- The longest number in front is what is converted. -/
theorem lexemeValue_eq_numeralValue {lexeme : String} {numeral : List Char}
    (parts : ∀ c ∈ lexeme.toList, isNumberPart c = true)
    (longest : LongestNumeral lexeme.toList numeral) :
    lexemeValue lexeme = numeralValue numeral := by
  rw [lexemeValue, (numberFront?_eq_some_iff parts).mpr longest]

/-- Without a number in front nothing is converted. -/
theorem lexemeValue_eq_zero {lexeme : String}
    (parts : ∀ c ∈ lexeme.toList, isNumberPart c = true) (noNumeral : NoNumeral lexeme.toList) :
    lexemeValue lexeme = 0.0 := by
  rw [lexemeValue, (numberFront?_eq_none_iff parts).mpr noNumeral]

/-- The value depends on nothing from the second point on. -/
theorem lexemeValue_secondPoint {lexeme : String} {front more : List Char}
    (parts : ∀ c ∈ lexeme.toList, isNumberPart c = true)
    (split : lexeme.toList = front ++ '.' :: more) (point : front.count '.' = 1) :
    lexemeValue lexeme = lexemeValue (String.ofList front) := by
  rw [split] at parts
  have frontParts := (List.forall_mem_append.mp parts).1
  have ends := pointNext_point more
  have same : numberFront? (front ++ '.' :: more) = numberFront? front := by
    rcases numberFront?_spec frontParts with ⟨numeral, found, longest⟩ | ⟨found, noNumeral⟩
    · rw [found, numberFront?_eq_some_iff parts]
      exact longest.append point ends
    · rw [found, numberFront?_eq_none_iff parts]
      intro numeral inFront isNumeral
      exact noNumeral numeral ((isNumeral.prefix_iff point ends).mp inFront) isNumeral
  rw [lexemeValue, lexemeValue, String.toList_ofList, split, same]

/-- What has no sign is finite or infinite, and not below zero. -/
theorem bounds_of_isUnsigned {value : Float} (unsigned : isUnsigned value.toModel.unpack = true) :
    value.isNaN = false ∧ 0 ≤ value ∧ (value.isFinite = true ∨ value.isInf = true) := by
  rw [Decimal.zero_le_iff]
  change value.toModel.unpack.isNaN = false ∧ _ ∧
    (value.toModel.unpack.isFinite = true ∨ value.toModel.unpack.isInf = true)
  generalize value.toModel.unpack = unpacked at unsigned ⊢
  cases unpacked with
  | notANumber => cases unsigned
  | infinity sign =>
    cases sign with
    | negative => cases unsigned
    | positive => exact ⟨rfl, rfl, .inr rfl⟩
  | zero sign => exact ⟨rfl, rfl, .inl rfl⟩
  | finite sign =>
    cases sign with
    | negative => cases unsigned
    | positive => exact ⟨rfl, rfl, .inl rfl⟩

/-- The lexeme of a number consists of digits and points. -/
theorem IsLexeme.parts_of_number {lexeme behind : List Char}
    (isLexeme : IsLexeme .number lexeme behind) : ∀ c ∈ lexeme, isNumberPart c = true := by
  generalize same : TokenKind.number = kind at isLexeme
  cases isLexeme with
  | word => exact absurd same.symm (TokenKind.ofWord_ne _).2.1
  | number parts _ => exact List.all_eq_true.mp parts
  | symbol => cases same

/-- A token of the kind of numbers is written with digits and points. -/
theorem parts_of_number {file source : String} {token : Token}
    (member : token ∈ tokenize file source) (number : token.kind = .number) :
    ∀ c ∈ token.lexeme.toList, isNumberPart c = true := by
  obtain ⟨words, split, segmentation⟩ := (tokenize_eq_iff file source _).mp rfl
  rw [split, List.mem_append, List.mem_singleton] at member
  rcases member with word | rfl
  · have whole := (segmentation.stretches token word).whole
    rw [number] at whole
    exact whole.parts_of_number
  · cases number

/-- **A number lexeme is worth the longest number in front of it.** In a run of digits and points
the longest front part of one of the three forms is converted, and nothing exactly if there is
none, which is if the run is empty or begins with a point that no digit follows; then the value is
zero. Nothing from the second point on changes the value. The lexeme of each number token is such a
run, and its value is a number, finite or infinite, and not negative. -/
theorem lexeme_worth_longest_number :
    (∀ lexeme : String, (∀ c ∈ lexeme.toList, isNumberPart c = true) →
      (∀ numeral, numberFront? lexeme.toList = some numeral ↔
        LongestNumeral lexeme.toList numeral) ∧
      (∀ numeral, LongestNumeral lexeme.toList numeral →
        lexemeValue lexeme = numeralValue numeral) ∧
      (numberFront? lexeme.toList = none ↔ NoNumeral lexeme.toList) ∧
      (NoNumeral lexeme.toList ↔ lexeme = "" ∨
        ∃ rest, lexeme.toList = '.' :: rest ∧ ∀ c, rest.head? = some c → c.isDigit = false) ∧
      (NoNumeral lexeme.toList → lexemeValue lexeme = 0.0) ∧
      (∀ front more, lexeme.toList = front ++ '.' :: more → front.count '.' = 1 →
        lexemeValue lexeme = lexemeValue (String.ofList front))) ∧
    ∀ (file source : String) (token : Token), token ∈ tokenize file source →
      token.kind = .number →
        (∀ c ∈ token.lexeme.toList, isNumberPart c = true) ∧
        ∃ value, token.value = .number value ∧ value.isNaN = false ∧ 0 ≤ value ∧
          (value.isFinite = true ∨ value.isInf = true) := by
  constructor
  · intro lexeme parts
    refine ⟨fun numeral => numberFront?_eq_some_iff parts,
      fun numeral => lexemeValue_eq_numeralValue parts, numberFront?_eq_none_iff parts, ?_,
      lexemeValue_eq_zero parts, fun front more => lexemeValue_secondPoint parts⟩
    rw [noNumeral_iff parts, String.toList_eq_nil_iff]
  · intro file source token member number
    refine ⟨parts_of_number member number, lexemeValue token.lexeme, ?_, ?_⟩
    · rw [Token.value, number]
    · exact bounds_of_isUnsigned (isUnsigned_lexemeValue token.lexeme)

/-- In `3.4.5` the number is `3.4`, and `..7` is worth zero. -/
theorem lexeme_worth_longest_number_points :
    lexemeValue "3.4.5" = lexemeValue "3.4" ∧ lexemeValue "..7" = 0.0 ∧
      numberFront? ['.', '.', '7'] = none ∧
      LongestNumeral ['3', '.', '4', '.', '5'] ['3', '.', '4'] ∧
      lexemeValue "3.4.5" = numeralValue ['3', '.', '4'] ∧
      ∃ token ∈ tokenize "input" "3.4.5", ∃ value, token.value = .number value ∧
        value.isNaN = false ∧ 0 ≤ value ∧ (value.isFinite = true ∨ value.isInf = true) := by
  obtain ⟨lexemes, tokens⟩ := lexeme_worth_longest_number
  obtain ⟨found, converted, _, _, _, secondPoint⟩ :=
    lexemes "3.4.5" (List.all_eq_true.mp (by decide))
  obtain ⟨_, _, nothing, _, fallback, _⟩ := lexemes "..7" (List.all_eq_true.mp (by decide))
  have longest : LongestNumeral ['3', '.', '4', '.', '5'] ['3', '.', '4'] :=
    (found ['3', '.', '4']).mp (by decide)
  have none : numberFront? ['.', '.', '7'] = none := by decide
  have first : (Cursor.start "input" "3.4.5".toList).nextToken ∈ tokenize "input" "3.4.5" :=
    List.mem_cons_self
  exact ⟨secondPoint ['3', '.', '4'] ['5'] (by decide) (by decide), fallback (nothing.mp none),
    none, longest, converted _ longest, _, first, (tokens "input" "3.4.5" _ first (by decide)).2⟩

end Reckon
