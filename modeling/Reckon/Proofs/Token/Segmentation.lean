import Mathlib.Data.List.Chain
import Reckon.Proofs.Token.Places
import Reckon.Proofs.Token.Spacing

/-!
# The segmentation of a text

The tokens of a text are a segmentation of it: each is a stretch of the text with its place, the
stretches follow one another, and what is before, between and behind them is blank or comment.
A word and a number reach as far as they can. The text has no other segmentation, so these
properties say all there is to say about the tokens.
-/

namespace Reckon

/-! ## Gaps -/

/-- A gap in front of the characters behind it: blanks and comments. A comment runs from its mark
to the end of the line or of the text. -/
inductive IsGap : List Char → List Char → Prop
  | nothing (behind : List Char) : IsGap [] behind
  | blank {c : Char} {gap behind : List Char} (blank : Text.isBlank c = true)
      (more : IsGap gap behind) : IsGap (c :: gap) behind
  | comment {content gap behind : List Char} (inside : ∀ c ∈ content, isLineEnd c = false)
      (ends : ∀ next, (gap ++ behind).head? = some next → isLineEnd next = true)
      (more : IsGap gap behind) : IsGap ('#' :: content ++ gap) behind

/-- What ends a line is blank. -/
theorem isBlank_of_isLineEnd {c : Char} (ending : isLineEnd c = true) : Text.isBlank c = true := by
  simp only [isLineEnd, Bool.or_eq_true, decide_eq_true_eq] at ending
  rcases ending with rfl | rfl <;> decide

/-- A comment has ended in front of the end of a line and of the text. -/
theorem gapLength_of_ends {text : List Char}
    (ends : ∀ next, text.head? = some next → isLineEnd next = true) :
    gapLength true text = gapLength false text := by
  cases text with
  | nil => rfl
  | cons c rest => simp [gapLength, ends c rfl, isBlank_of_isLineEnd (ends c rfl)]

/-- The characters of a comment belong to the gap. -/
theorem gapLength_comment {content : List Char} (inside : ∀ c ∈ content, isLineEnd c = false)
    (behind : List Char) :
    gapLength true (content ++ behind) = content.length + gapLength true behind := by
  induction content with
  | nil => simp
  | cons c rest inductionHypothesis =>
    obtain ⟨goesOn, insideRest⟩ := List.forall_mem_cons.mp inside
    simp only [List.cons_append, gapLength, goesOn, Bool.not_false,
      inductionHypothesis insideRest, List.length_cons]
    omega

/-- A gap is skipped whole, and no further than the next gap goes. -/
theorem IsGap.gapLength_append {gap behind : List Char} (isGap : IsGap gap behind)
    (noGap : gapLength false behind = 0) : gapLength false (gap ++ behind) = gap.length := by
  induction isGap with
  | nothing behind => exact noGap
  | blank blank _ inductionHypothesis =>
    simp [gapLength, blank, inductionHypothesis noGap]
  | @comment content gap behind inside ends _ inductionHypothesis =>
    have noBlank : Text.isBlank '#' = false := by decide
    simp only [List.cons_append, List.append_assoc, gapLength, noBlank, gapLength_comment inside,
      gapLength_of_ends ends, inductionHypothesis noGap, List.length_cons, List.length_append]
    simp

/-- What is skipped is a gap, after the rest of a comment if it begins inside one. -/
theorem isGap_take (inside : Bool) (text : List Char) :
    let gap := text.take (gapLength inside text)
    let behind := text.drop (gapLength inside text)
    if inside then
      ∃ content later, gap = content ++ later ∧ (∀ c ∈ content, isLineEnd c = false) ∧
        (∀ next, (later ++ behind).head? = some next → isLineEnd next = true) ∧ IsGap later behind
    else IsGap gap behind := by
  induction text generalizing inside with
  | nil =>
    cases inside with
    | true => exact ⟨[], [], rfl, nofun, nofun, .nothing _⟩
    | false => exact .nothing _
  | cons c rest inductionHypothesis =>
    cases inside with
    | true =>
      simp only [gapLength, List.take_succ_cons, List.drop_succ_cons]
      cases ending : isLineEnd c with
      | true =>
        have later := inductionHypothesis false
        refine ⟨[], _, rfl, nofun, ?_, .blank (isBlank_of_isLineEnd ending) later⟩
        intro next first
        cases first
        exact ending
      | false =>
        obtain ⟨content, later, split, goesOn, ends, more⟩ := inductionHypothesis true
        simp only [Bool.not_false, split]
        exact ⟨c :: content, later, rfl, List.forall_mem_cons.mpr ⟨ending, goesOn⟩, ends, more⟩
    | false =>
      simp only [gapLength]
      by_cases blank : Text.isBlank c = true
      · simp only [if_pos blank]
        exact .blank blank (inductionHypothesis false)
      · by_cases mark : c = '#'
        · obtain ⟨content, later, split, goesOn, ends, more⟩ := inductionHypothesis true
          simp only [if_neg blank, if_pos mark, List.take_succ_cons, List.drop_succ_cons, split]
          exact mark ▸ .comment goesOn ends more
        · simp only [if_neg blank, if_neg mark]
          exact .nothing _

/-- Behind a gap there is none. -/
theorem gapLength_drop (inside : Bool) (text : List Char) :
    gapLength false (text.drop (gapLength inside text)) = 0 := by
  induction text generalizing inside with
  | nil => simp [gapLength]
  | cons c rest inductionHypothesis =>
    cases inside with
    | true => exact inductionHypothesis _
    | false =>
      simp only [gapLength]
      by_cases blank : Text.isBlank c = true
      · simp only [if_pos blank, List.drop_succ_cons]
        exact inductionHypothesis false
      · by_cases mark : c = '#'
        · simp only [if_neg blank, if_pos mark, List.drop_succ_cons]
          exact inductionHypothesis true
        · simp [gapLength, blank, mark]

/-! ## Lexemes -/

/-- A run of characters is as long as it can be. -/
theorem takeWhile_drop_apart (test : Char → Bool) (text : List Char) (next : Char)
    (first : (text.drop (text.takeWhile test).length).head? = some next) : test next = false := by
  induction text with
  | nil => cases first
  | cons c rest inductionHypothesis =>
    cases passes : test c with
    | true => exact inductionHypothesis (by simpa [passes] using first)
    | false =>
      have same : c = next := by simpa [passes] using first
      exact same ▸ passes

/-- The lexeme in front of a text, where no gap is, in front of what is behind it. -/
theorem isLexeme_lexemeInFront {text : List Char} (some : text ≠ [])
    (noGap : gapLength false text = 0) :
    IsLexeme (lexemeInFront text).1 (lexemeInFront text).2
      (text.drop (lexemeInFront text).2.length) := by
  cases text with
  | nil => exact (some rfl).elim
  | cons c rest =>
    simp only [lexemeInFront]
    by_cases letter : c.isAlpha = true
    · simp only [if_pos letter, List.length_cons, List.drop_succ_cons]
      exact .word letter List.all_takeWhile (takeWhile_drop_apart isWordPart rest)
    · by_cases digit : isNumberPart c = true
      · simp only [if_neg letter, if_pos digit, List.length_cons, List.drop_succ_cons]
        refine .number ?_ (takeWhile_drop_apart isNumberPart rest)
        simp [digit, List.all_takeWhile]
      · simp only [if_neg letter, if_neg digit]
        apply IsLexeme.symbol
        have opens := (gapLength_eq_zero_iff c rest).mp noGap
        simp [isSymbolCharacter, letter, digit, opens]

/-! ## Segmentations -/

/-- The offset of the first character of a token and the offset behind its last one. -/
def Token.span (token : Token) : Nat × Nat :=
  (token.location.offset.toNat, token.location.offset.toNat + token.lexeme.length)

/-- A token is a stretch of a text: its place is that of the first character, its lexeme is what
stands there, and that is a lexeme of its kind in front of what is behind it. -/
structure Token.IsStretch (token : Token) (file : String) (source : List Char) : Prop where
  inside : 0 ≤ token.location.offset
  place : token.location = placeIn file source token.location.offset
  same : token.lexeme.toList = source.extract token.span.1 token.span.2
  whole : IsLexeme token.kind token.lexeme.toList (source.drop token.span.2)

/-- Nothing but a gap is between two spans, of which the first ends before the second begins. -/
def Adjoins (source : List Char) (left right : Nat × Nat) : Prop :=
  left.2 ≤ right.1 ∧ IsGap (source.extract left.2 right.1) (source.drop right.1)

/-- A part of a text and what is behind it are what is left of the text. -/
theorem extract_append_drop (source : List Char) {first last : Nat} (order : first ≤ last) :
    source.extract first last ++ source.drop last = source.drop first := by
  have split := List.take_append_drop (last - first) (source.drop first)
  rwa [List.drop_drop, Nat.add_sub_cancel' order] at split

/-- The text from a stretch on is its lexeme and what is behind it. -/
theorem Token.IsStretch.drop_eq {token : Token} {file : String} {source : List Char}
    (stretch : token.IsStretch file source) :
    source.drop token.span.1 = token.lexeme.toList ++ source.drop token.span.2 := by
  rw [stretch.same]
  exact (extract_append_drop source (Nat.le_add_right ..)).symm

/-- A token begins before the end of the text. -/
theorem Token.IsStretch.lt_length {token : Token} {file : String} {source : List Char}
    (stretch : token.IsStretch file source) : token.span.1 < source.length := by
  have length := congrArg List.length stretch.drop_eq
  have some := List.length_pos_iff.mpr stretch.whole.ne_nil
  rw [List.length_append, List.length_drop] at length
  omega

/-- No gap is in front of the first character of a token. -/
theorem Token.IsStretch.noGap {token : Token} {file : String} {source : List Char}
    (stretch : token.IsStretch file source) :
    gapLength false (source.drop token.span.1) = 0 := by
  rw [stretch.drop_eq, stretch.whole.noGap]

/-- The gap between two spans is what is skipped behind the first. -/
theorem Adjoins.gapLength_eq {source : List Char} {left right : Nat × Nat}
    (adjoins : Adjoins source left right) (inside : right.1 ≤ source.length)
    (noGap : gapLength false (source.drop right.1) = 0) :
    left.2 + gapLength false (source.drop left.2) = right.1 := by
  obtain ⟨order, gap⟩ := adjoins
  have skipped := gap.gapLength_append noGap
  rw [extract_append_drop source order] at skipped
  rw [skipped, List.length_take, List.length_drop]
  omega

/-- A segmentation of a text from an offset on: stretches of the text, and gaps before, between and
behind them. -/
structure IsSegmentation (file : String) (source : List Char) (offset : Nat)
    (tokens : List Token) : Prop where
  stretches : ∀ token ∈ tokens, token.IsStretch file source
  gaps : List.IsChain (Adjoins source)
    ((offset, offset) :: (tokens.map Token.span ++ [(source.length, source.length)]))

/-- What adjoins a span goes by its end. -/
theorem isChain_adjoins_iff {source : List Char} {spans : List (Nat × Nat)} (span : Nat × Nat) :
    List.IsChain (Adjoins source) (span :: spans) ↔
      List.IsChain (Adjoins source) ((span.2, span.2) :: spans) := by
  have same (next : Nat × Nat) : Adjoins source span next ↔ Adjoins source (span.2, span.2) next :=
    Iff.rfl
  constructor
  · exact List.IsChain.imp_head fun {next} => (same next).mp
  · exact List.IsChain.imp_head fun {next} => (same next).mpr

/-- Without tokens, the rest of the text is a gap. -/
theorem isSegmentation_nil_iff {file : String} {source : List Char} {offset : Nat} :
    IsSegmentation file source offset [] ↔
      Adjoins source (offset, offset) (source.length, source.length) :=
  ⟨fun segmentation => List.isChain_pair.mp segmentation.gaps,
    fun adjoins => ⟨nofun, List.isChain_pair.mpr adjoins⟩⟩

/-- A segmentation goes on from the end of its first stretch. -/
theorem isSegmentation_cons_iff {file : String} {source : List Char} {offset : Nat} {token : Token}
    {tokens : List Token} :
    IsSegmentation file source offset (token :: tokens) ↔
      Adjoins source (offset, offset) token.span ∧ token.IsStretch file source ∧
        IsSegmentation file source token.span.2 tokens := by
  constructor
  · intro segmentation
    obtain ⟨stretch, stretches⟩ := List.forall_mem_cons.mp segmentation.stretches
    obtain ⟨adjoins, gaps⟩ := List.isChain_cons_cons.mp segmentation.gaps
    exact ⟨adjoins, stretch, stretches, (isChain_adjoins_iff token.span).mp gaps⟩
  · rintro ⟨adjoins, stretch, stretches, gaps⟩
    refine ⟨List.forall_mem_cons.mpr ⟨stretch, stretches⟩, ?_⟩
    exact List.isChain_cons_cons.mpr ⟨adjoins, (isChain_adjoins_iff token.span).mpr gaps⟩

/-- The end of input, at the last character of the text. -/
def endToken (file : String) (source : List Char) : Token :=
  { kind := .endOfInput, lexeme := "", location := placeIn file source ((source.length : Int) - 1) }

namespace Cursor

variable (file : String) (source : List Char)

/-- The cursor on the character with this offset. -/
def standing (offset : Nat) : Cursor := (start file source).skip (offset + 1)

/-- A cursor on an offset has the rest of the text in front of it. -/
theorem rest_standing (offset : Nat) : (standing file source offset).rest = source.drop offset :=
  rest_skip_start ..

/-- A cursor on a character says the place of the character. -/
theorem location_standing {offset : Nat} (inside : offset < source.length) :
    (standing file source offset).location = placeIn file source offset := by
  rw [standing, location_skip_start, Nat.min_eq_left inside]
  congr 1
  omega

/-- A cursor at the end says the place of the end. -/
theorem location_standing_length :
    (standing file source source.length).location = (endToken file source).location := by
  rw [standing, location_skip_start, Nat.min_eq_right (Nat.le_succ _)]
  rfl

/-- The gap in front leads from one character to another. -/
theorem pastGap_standing (offset : Nat) :
    (standing file source offset).pastGap =
      standing file source (offset + gapLength false (source.drop offset)) := by
  rw [pastGap, rest_standing, standing, standing, ← skip_add, Nat.add_right_comm]

/-- The blank before the text is passed without notice. -/
theorem tokens_start : (start file source).tokens = (standing file source 0).tokens := by
  have blank : Text.isBlank ' ' = true := by decide
  have front : gapLength false (start file source).rest = 1 + gapLength false source := by
    rw [start, gapLength, if_pos blank, Nat.add_comm]
  have gap : (start file source).pastGap = (standing file source 0).pastGap := by
    rw [pastGap, pastGap, rest_standing, front, skip_add]
    rfl
  have next : (start file source).nextToken = (standing file source 0).nextToken := by
    rw [nextToken, nextToken, gap]
  have past : (start file source).pastToken = (standing file source 0).pastToken := by
    rw [pastToken, pastToken, gap]
  rw [tokens_eq, tokens_eq (standing file source 0), next, past]

variable {file source}

/-- Where nothing but a gap is left the end of input is the only token. -/
theorem tokens_standing_of_gap {offset : Nat} (within : offset ≤ source.length)
    (gap : gapLength false (source.drop offset) = source.length - offset) :
    (standing file source offset).tokens = [endToken file source] := by
  have past : (standing file source offset).pastGap = standing file source source.length := by
    rw [pastGap_standing, gap, Nat.add_sub_cancel' within]
  have next : (standing file source offset).nextToken = endToken file source := by
    rw [nextToken, past, location_standing_length, rest_standing, List.drop_length]
    rfl
  rw [tokens_eq, next]
  exact if_pos rfl

/-- Where a lexeme begins behind the gap it is the next token, and reading goes on behind it. -/
theorem tokens_standing_of_lexeme {offset first last : Nat} {kind : TokenKind} {lexeme : List Char}
    (gap : offset + gapLength false (source.drop offset) = first)
    (taken : first + lexeme.length = last) (whole : IsLexeme kind lexeme (source.drop last))
    (same : source.drop first = lexeme ++ source.drop last) :
    (standing file source offset).tokens =
      { kind, lexeme := String.ofList lexeme, location := placeIn file source first } ::
        (standing file source last).tokens := by
  have past : (standing file source offset).pastGap = standing file source first :=
    gap ▸ pastGap_standing file source offset
  have inside : first < source.length := by
    have length := congrArg List.length same
    have some := List.length_pos_iff.mpr whole.ne_nil
    rw [List.length_drop, List.length_append] at length
    omega
  have front : lexemeInFront (standing file source first).rest = (kind, lexeme) := by
    rw [rest_standing, same, whole.front]
  have next : (standing file source offset).nextToken =
      { kind, lexeme := String.ofList lexeme, location := placeIn file source first } := by
    rw [nextToken, past, front, location_standing file source inside]
  have later : (standing file source offset).pastToken = standing file source last := by
    rw [pastToken, past, front, standing, standing, ← skip_add, ← taken, Nat.add_right_comm]
  rw [tokens_eq, next, if_neg whole.kind_ne, later]

/-- If anything is behind the gap, the next token is a stretch of the text that adjoins the gap, and
reading goes on behind it. -/
theorem exists_stretch (file : String) (source : List Char) {offset : Nat}
    (more : offset + gapLength false (source.drop offset) < source.length) :
    ∃ token : Token, Adjoins source (offset, offset) token.span ∧ token.IsStretch file source ∧
      (standing file source offset).tokens = token :: (standing file source token.span.2).tokens ∧
      offset < token.span.2 ∧ token.span.2 ≤ source.length := by
  let first := offset + gapLength false (source.drop offset)
  let front := lexemeInFront (source.drop first)
  let last := first + front.2.length
  have gap : IsGap (source.extract offset first) (source.drop first) := by
    have skipped := isGap_take false (source.drop offset)
    rw [List.drop_drop] at skipped
    simpa [first] using skipped
  have noGap : gapLength false (source.drop first) = 0 := by
    have behind := gapLength_drop false (source.drop offset)
    rwa [List.drop_drop] at behind
  have whole : IsLexeme front.1 front.2 (source.drop last) := by
    have lexeme := isLexeme_lexemeInFront (mt List.drop_eq_nil_iff.mp (by omega)) noGap
    rwa [List.drop_drop] at lexeme
  have same : source.drop first = front.2 ++ source.drop last := by
    have split := lexemeInFront_append_drop (source.drop first)
    rw [List.drop_drop] at split
    exact split.symm
  have length := congrArg List.length same
  rw [List.length_append, List.length_drop, List.length_drop] at length
  have some := List.length_pos_iff.mpr whole.ne_nil
  let token : Token :=
    { kind := front.1, lexeme := String.ofList front.2, location := placeIn file source first }
  have span : token.span = (first, last) := by
    simp [Token.span, token, placeIn, last]
  refine ⟨token, ?_, ?_, ?_⟩
  · rw [span]
    exact ⟨Nat.le_add_right .., gap⟩
  · refine ⟨Int.natCast_nonneg _, rfl, ?_, ?_⟩
    · have cut : source.extract first last = (source.drop first).take front.2.length := by
        simp [last]
      rw [span, String.toList_ofList, cut, same, List.take_left]
    · rw [span, String.toList_ofList]
      exact whole
  · rw [span, tokens_standing_of_lexeme rfl rfl whole same]
    refine ⟨rfl, ?_, ?_⟩ <;> omega

/-- The tokens that are read from an offset on are a segmentation of the text from there, with the
end of input behind it. -/
theorem exists_segmentation (file : String) (source : List Char) {offset : Nat}
    (within : offset ≤ source.length) :
    ∃ tokens, (standing file source offset).tokens = tokens ++ [endToken file source] ∧
      IsSegmentation file source offset tokens := by
  -- Each stretch ends further on, so fewer characters are left behind it.
  generalize size : source.length - offset = length
  induction length using Nat.strongRecOn generalizing offset with
  | _ length inductionHypothesis =>
    have fits : gapLength false (source.drop offset) ≤ source.length - offset :=
      List.length_drop ▸ gapLength_le false (source.drop offset)
    by_cases more : offset + gapLength false (source.drop offset) < source.length
    · obtain ⟨token, adjoins, stretch, read, shorter, taken⟩ := exists_stretch file source more
      obtain ⟨tokens, later, segmentation⟩ := inductionHypothesis _ (by omega) taken rfl
      refine ⟨token :: tokens, ?_, isSegmentation_cons_iff.mpr ⟨adjoins, stretch, segmentation⟩⟩
      rw [read, later]
      rfl
    · have filled : gapLength false (source.drop offset) = source.length - offset := by omega
      have gap := isGap_take false (source.drop offset)
      rw [filled, List.drop_drop, Nat.add_sub_cancel' within] at gap
      exact ⟨[], tokens_standing_of_gap within filled, isSegmentation_nil_iff.mpr ⟨within, gap⟩⟩

/-- A segmentation is read back from where it begins. -/
theorem tokens_of_segmentation {offset : Nat} {tokens : List Token}
    (segmentation : IsSegmentation file source offset tokens) :
    (standing file source offset).tokens = tokens ++ [endToken file source] := by
  induction tokens generalizing offset with
  | nil =>
    have last := isSegmentation_nil_iff.mp segmentation
    have filled := last.gapLength_eq (Nat.le_refl _) (by rw [List.drop_length, gapLength])
    exact tokens_standing_of_gap last.1 (Nat.eq_sub_of_add_eq' filled)
  | cons token tokens inductionHypothesis =>
    obtain ⟨adjoins, stretch, later⟩ := isSegmentation_cons_iff.mp segmentation
    have first := adjoins.gapLength_eq (Nat.le_of_lt stretch.lt_length) stretch.noGap
    have place : placeIn file source token.span.1 = token.location := by
      rw [stretch.place, Token.span, Int.toNat_of_nonneg stretch.inside]
    rw [tokens_standing_of_lexeme first rfl stretch.whole stretch.drop_eq, place,
      String.ofList_toList]
    exact congrArg (token :: ·) (inductionHypothesis later)

end Cursor

/-- **The tokens of a text** are its one segmentation, with the end of input behind it. -/
theorem tokenize_eq_iff (file source : String) (tokens : List Token) :
    tokenize file source = tokens ↔
      ∃ words, tokens = words ++ [endToken file source.toList] ∧
        IsSegmentation file source.toList 0 words := by
  rw [tokenize, Cursor.tokens_start]
  constructor
  · rintro rfl
    exact Cursor.exists_segmentation file source.toList (Nat.zero_le _)
  · rintro ⟨words, rfl, segmentation⟩
    exact Cursor.tokens_of_segmentation segmentation

end Reckon
