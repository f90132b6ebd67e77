import Reckon.Proofs.Token.Places

/-!
# Tokens depend on what has been read

A token is told by its characters and the one behind them. So two texts that begin alike have
the same token at the same place if reading it in the first text does not go beyond what they
have in common, and if that is not because the first text ends there.
-/

namespace Reckon

/-! ## Gaps and lexemes -/

/-- How many characters there are up to the end of the next token. -/
def tokenLength (text : List Char) : Nat :=
  gapLength false text + (lexemeInFront (text.drop (gapLength false text))).2.length

section

variable {front : List Char} {c : Char} {back : List Char}

/-- What ends a gap is looked at, and nothing behind it. -/
theorem gapLength_congr {inside : Bool}
    (ends : gapLength inside (front ++ c :: back) ≤ front.length) (other : List Char) :
    gapLength inside (front ++ c :: other) = gapLength inside (front ++ c :: back) := by
  induction front generalizing inside with
  | nil =>
    cases inside with
    | true => cases ends
    | false =>
      have opens := (gapLength_eq_zero_iff c back).mp (Nat.le_zero.mp ends)
      rw [List.nil_append, List.nil_append, (gapLength_eq_zero_iff c other).mpr opens,
        (gapLength_eq_zero_iff c back).mpr opens]
  | cons first rest inductionHypothesis =>
    cases inside with
    | true =>
      have later := inductionHypothesis (Nat.le_of_succ_le_succ ends)
      exact congrArg (· + 1) later
    | false =>
      simp only [List.cons_append, gapLength] at ends ⊢
      by_cases blank : Text.isBlank first = true
      · rw [if_pos blank] at ends
        rw [if_pos blank, if_pos blank, inductionHypothesis (Nat.le_of_succ_le_succ ends)]
      · by_cases mark : first = '#'
        · rw [if_neg blank, if_pos mark] at ends
          rw [if_neg blank, if_pos mark, if_neg blank, if_pos mark,
            inductionHypothesis (Nat.le_of_succ_le_succ ends)]
        · rw [if_neg blank, if_neg mark, if_neg blank, if_neg mark]

/-- What ends a run is looked at, and nothing behind it. -/
theorem takeWhile_congr {test : Char → Bool}
    (ends : ((front ++ c :: back).takeWhile test).length ≤ front.length) (other : List Char) :
    (front ++ c :: other).takeWhile test = (front ++ c :: back).takeWhile test := by
  induction front with
  | nil =>
    cases passes : test c with
    | true => simp [passes] at ends
    | false => simp [passes]
  | cons first rest inductionHypothesis =>
    cases passes : test first with
    | true =>
      simp only [List.cons_append, List.takeWhile_cons, passes, if_true] at ends ⊢
      rw [inductionHypothesis (Nat.le_of_succ_le_succ ends)]
    | false => simp [passes]

/-- What ends a lexeme is looked at, and nothing behind it. -/
theorem lexemeInFront_congr
    (ends : (lexemeInFront (front ++ c :: back)).2.length ≤ front.length) (other : List Char) :
    lexemeInFront (front ++ c :: other) = lexemeInFront (front ++ c :: back) := by
  cases front with
  | nil =>
    have none := List.length_eq_zero_iff.mp (Nat.le_zero.mp ends)
    cases (lexemeInFront_eq_nil_iff _).mp none
  | cons first rest =>
    simp only [List.cons_append, lexemeInFront] at ends ⊢
    by_cases letter : first.isAlpha = true
    · simp only [if_pos letter] at ends ⊢
      rw [takeWhile_congr (Nat.le_of_succ_le_succ ends)]
    · by_cases digit : isNumberPart first = true
      · simp only [if_neg letter, if_pos digit] at ends ⊢
        rw [takeWhile_congr (Nat.le_of_succ_le_succ ends)]
      · rw [if_neg letter, if_neg digit, if_neg letter, if_neg digit]

/-- What is behind a token and the next character does not change the token. -/
theorem tokenLength_congr (whole : front.length = tokenLength (front ++ c :: back))
    (other : List Char) :
    gapLength false (front ++ c :: other) = gapLength false (front ++ c :: back) ∧
      lexemeInFront ((front ++ c :: other).drop (gapLength false (front ++ c :: back))) =
        lexemeInFront ((front ++ c :: back).drop (gapLength false (front ++ c :: back))) := by
  unfold tokenLength at whole
  refine ⟨gapLength_congr (by omega) other, ?_⟩
  generalize gapLength false (front ++ c :: back) = gap at whole
  have within : gap ≤ front.length := by omega
  rw [List.drop_append_of_le_length within] at whole
  rw [List.drop_append_of_le_length within, List.drop_append_of_le_length within]
  apply lexemeInFront_congr
  rw [List.length_drop]
  omega

end

/-- A stretch that two texts have in common, and the character behind it. -/
theorem exists_common {left right : List Char} {size : Nat}
    (agree : left.take size = right.take size) (first length : Nat) (short : first + length < size)
    (inside : first + length < left.length) :
    ∃ front c back backToo, left.drop first = front ++ c :: back ∧
      right.drop first = front ++ c :: backToo ∧ front.length = length := by
  let last := first + length
  have split (text : List Char) {c : Char} (found : text[last]? = some c) :
      text.drop first = (text.take last).drop first ++ c :: text.drop (last + 1) := by
    obtain ⟨within, rfl⟩ := List.getElem?_eq_some_iff.mp found
    have whole := List.take_append_drop (last - first) (text.drop first)
    rw [List.drop_drop, Nat.add_sub_cancel' (Nat.le_add_right ..)] at whole
    rw [← List.drop_eq_getElem_cons within, List.drop_take, whole]
  have here : left[last]? = some left[last] := List.getElem?_eq_getElem inside
  have there : right[last]? = some left[last] := by
    rw [← here, ← List.getElem?_take_of_lt short, ← agree, List.getElem?_take_of_lt short]
  have front : right.take last = left.take last := by
    have both := congrArg (List.take last) agree
    rw [List.take_take, List.take_take, Nat.min_eq_left (Nat.le_of_lt short)] at both
    exact both.symm
  refine ⟨_, _, _, _, split left here, front ▸ split right there, ?_⟩
  rw [List.length_drop, List.length_take_of_le (Nat.le_of_lt inside)]
  exact Nat.add_sub_cancel_left ..

/-- The place of a character depends on the text in front of it only. -/
theorem placeIn_congr {source other : List Char} {offset : Int}
    (agree : source.take offset.toNat = other.take offset.toNat) (file : String) :
    placeIn file source offset = placeIn file other offset := by
  rw [placeIn, placeIn, agree]

namespace Cursor

/-- Going past a token is skipping its characters and those of the gap in front of it. -/
theorem pastToken_eq (cursor : Cursor) :
    cursor.pastToken = cursor.skip (tokenLength cursor.rest) := by
  rw [pastToken, rest_pastGap, pastGap, tokenLength, skip_add]

/-- Cursors that have skipped equally many characters of two texts. -/
def Alongside (file : String) (source other : List Char) (cursor cursorToo : Cursor) : Prop :=
  ∃ count, cursor = (start file source).skip count ∧ cursorToo = (start file other).skip count

/-- The next token and the character behind it are among the first characters of a text, and there
is a character behind it. -/
structure Within (limit : Nat) (cursor : Cursor) : Prop where
  more : cursor.pastToken.rest ≠ []
  read : cursor.pastToken.charactersRead ≤ limit

/-- Skipping does not take back what has been read. -/
theorem charactersRead_le_skip (count : Nat) (cursor : Cursor) :
    cursor.charactersRead ≤ (cursor.skip count).charactersRead := by
  induction count generalizing cursor with
  | zero => exact Int.le_refl _
  | succ count inductionHypothesis =>
    refine Int.le_trans ?_ (inductionHypothesis cursor.step)
    unfold step
    split
    · exact Int.le_refl _
    · exact Int.le_refl _
    · simp only [charactersRead]
      omega

/-- A token is among the first characters of a text if a later one is. -/
theorem within_of_pastToken {limit : Nat} {cursor : Cursor}
    (within : cursor.pastToken.Within limit) : cursor.Within limit := by
  obtain ⟨more, read⟩ := within
  rw [pastToken_eq cursor.pastToken] at more read
  constructor
  · intro none
    rw [skip_rest, none, List.drop_nil] at more
    exact more rfl
  · exact Int.le_trans (charactersRead_le_skip ..) read

/-- At the beginning of two texts cursors are side by side. -/
theorem alongside_start (file : String) (source other : List Char) :
    Alongside file source other (start file source) (start file other) := ⟨0, rfl, rfl⟩

/-- Places among the first characters are the same in texts that begin alike. -/
theorem location_skip_congr {source other : List Char} {limit count : Nat}
    (agree : source.take limit = other.take limit) (read : count ≤ limit)
    (inside : count ≤ source.length) (insideToo : count ≤ other.length) (file : String) :
    ((start file source).skip count).location = ((start file other).skip count).location := by
  rw [location_skip_start, location_skip_start, Nat.min_eq_left inside, Nat.min_eq_left insideToo]
  apply placeIn_congr
  have both := congrArg (List.take ((count : Int) - 1).toNat) agree
  rwa [List.take_take, List.take_take, Nat.min_eq_left (by omega)] at both

/-- **A token depends on what has been read.** -/
theorem Alongside.nextToken {file : String} {source other : List Char} {limit : Nat}
    (agree : source.take limit = other.take limit) {cursor cursorToo : Cursor}
    (alongside : Alongside file source other cursor cursorToo) (within : cursor.Within limit) :
    cursorToo.nextToken = cursor.nextToken ∧
      Alongside file source other cursor.pastToken cursorToo.pastToken := by
  obtain ⟨count, rfl, rfl⟩ := alongside
  obtain ⟨more, read⟩ := within
  have rest := rest_skip_start file source count
  have restToo := rest_skip_start file other count
  rw [pastToken_eq, rest, ← skip_add] at more read
  rw [rest_skip_start] at more
  rw [charactersRead_skip_start] at read
  have some := mt List.drop_eq_nil_iff.mpr more
  rw [List.length_cons] at some
  have agreeToo : (' ' :: source).take (limit + 1) = (' ' :: other).take (limit + 1) := by
    rw [List.take_succ_cons, List.take_succ_cons, agree]
  obtain ⟨front, c, back, backToo, split, splitToo, length⟩ :=
    exists_common agreeToo count (tokenLength ((' ' :: source).drop count)) (by omega)
      (by rw [List.length_cons]; omega)
  have left := congrArg List.length splitToo
  simp only [List.length_drop, List.length_cons, List.length_append] at left
  rw [split] at length rest some read
  rw [splitToo] at restToo
  obtain ⟨gap, lexeme⟩ := tokenLength_congr length backToo
  have short : gapLength false (front ++ c :: back) ≤ front.length :=
    length ▸ Nat.le_add_right ..
  constructor
  · have place : ((start file source).skip count).pastGap.location =
        ((start file other).skip count).pastGap.location := by
      rw [pastGap, pastGap, rest, restToo, gap, ← skip_add, ← skip_add]
      exact location_skip_congr agree (by omega) (by omega) (by omega) file
    rw [Cursor.nextToken, Cursor.nextToken, rest_pastGap, rest_pastGap, rest, restToo, gap, lexeme,
      place]
  · have same : tokenLength (front ++ c :: backToo) = tokenLength (front ++ c :: back) := by
      rw [tokenLength, tokenLength, gap, lexeme]
    rw [pastToken_eq, pastToken_eq, rest, restToo, same, ← skip_add, ← skip_add]
    exact ⟨_, rfl, rfl⟩

end Cursor

end Reckon
