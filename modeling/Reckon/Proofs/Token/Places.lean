import Mathlib.Logic.Function.Iterate
import Reckon.Proofs.Token.Lexemes

/-!
# Where a cursor stands

A cursor counts lines and columns as it goes along, one character late: a line feed begins
a new line with the character behind it. So the place of a character depends on the text in
front of it alone, and every cursor that reading a text comes to has skipped some number of
its characters. What has been read is told by the place: all characters up to the one that
the cursor stands on, and no other.
-/

namespace Reckon

/-- The index of the last line feed of a text, or minus one if there is none. -/
def lastLineFeed (text : List Char) : Int := text.length - 1 - text.reverse.idxOf '\n'

/-- The place of the character with this offset in a text, as its lines and columns are counted:
lines by the line feeds in front of it, and columns from the last of them. -/
def placeIn (file : String) (source : List Char) (offset : Int) : Location :=
  let front := source.take offset.toNat
  { file, line := 1 + front.count '\n', column := offset - lastLineFeed front, offset }

/-- One more character is the last line feed if it is one. -/
theorem lastLineFeed_append_singleton (front : List Char) (c : Char) :
    lastLineFeed (front ++ [c]) =
      if c = '\n' then (front.length : Int) else lastLineFeed front := by
  simp only [lastLineFeed, List.length_append, List.length_singleton, List.reverse_append,
    List.reverse_singleton, List.singleton_append, List.idxOf_cons]
  by_cases feed : c = '\n'
  · simp [feed]
  · simp only [feed, beq_false_of_ne feed, cond_false, if_false]
    omega

/-- The place behind a character, from the place of the character. Before the text there is a
character that is no line feed. -/
theorem placeIn_next (file : String) {source unread : List Char} {passed next : Char} {count : Nat}
    (rest : (' ' :: source).drop count = passed :: next :: unread) :
    let place := placeIn file source ((count : Int) - 1)
    placeIn file source count =
      { file
        line := if passed = '\n' then place.line + 1 else place.line
        column := if passed = '\n' then 1 else place.column + 1
        offset := place.offset + 1 } := by
  cases count with
  | zero =>
    obtain ⟨rfl, _⟩ := List.cons.inj rest
    simp [placeIn, lastLineFeed]
  | succ index =>
    rw [List.drop_succ_cons] at rest
    have inside : index < source.length := by
      have length := congrArg List.length rest
      simp at length
      omega
    rw [List.drop_eq_getElem_cons inside] at rest
    obtain ⟨rfl, _⟩ := List.cons.inj rest
    have front : source.take (index + 1) = source.take index ++ [source[index]] := by
      rw [List.take_add_one, List.getElem?_eq_getElem inside]
      rfl
    have length : (source.take index).length = index := List.length_take_of_le (Nat.le_of_lt inside)
    have before : ((index + 1 : Nat) : Int) - 1 = index := by omega
    simp only [before, placeIn, Int.toNat_natCast, front, lastLineFeed_append_singleton,
      List.count_append, List.count_singleton, length]
    by_cases feed : source[index] = '\n'
    · simp [feed]
      omega
    · simp [feed]
      omega

namespace Cursor

variable (file : String) (source : List Char)

/-- The characters of the text that have not been read. -/
def unread (cursor : Cursor) : List Char := cursor.rest.drop 1

/-- To skip twice is to skip as many characters as both times together. -/
theorem skip_add (first second : Nat) (cursor : Cursor) :
    skip (first + second) cursor = skip second (skip first cursor) := by
  induction first generalizing cursor with
  | zero => rw [Nat.zero_add, skip]
  | succ first inductionHypothesis => rw [Nat.succ_add, skip, skip, inductionHypothesis]

/-- What is left after skipping is the text without what was skipped, and a blank is in front of it
all. -/
theorem rest_skip_start (count : Nat) :
    ((start file source).skip count).rest = (' ' :: source).drop count := skip_rest ..

/-- **The place of a cursor** that has skipped a number of characters: it stands on the last of
these, and on the last of the text if it has skipped more. -/
theorem location_skip_start (count : Nat) :
    ((start file source).skip count).location =
      placeIn file source ((min count source.length : Nat) - 1) := by
  induction count with
  | zero => simp [skip, start, location, placeIn, lastLineFeed]
  | succ count inductionHypothesis =>
    rw [skip_add, skip, skip]
    have rest := rest_skip_start file source count
    have length := congrArg List.length rest
    rw [List.length_drop, List.length_cons] at length
    have named : ((start file source).skip count).file = file := skip_file ..
    generalize (start file source).skip count = cursor at inductionHypothesis rest length named
    unfold step
    split
    case h_1 none =>
      rw [none, List.length_nil] at length
      rw [inductionHypothesis, Nat.min_eq_right (by omega), Nat.min_eq_right (by omega)]
    case h_2 _ last =>
      rw [last, List.length_singleton] at length
      rw [Nat.min_eq_right (by omega)] at inductionHypothesis ⊢
      exact inductionHypothesis
    case h_3 passed next unread more =>
      rw [more, List.length_cons, List.length_cons] at length
      rw [Nat.min_eq_left (by omega)] at inductionHypothesis ⊢
      rw [Int.natCast_succ, Int.add_sub_cancel, placeIn_next file (rest.symm.trans more),
        ← inductionHypothesis]
      simp only [location, named]
      split <;> simp

/-- What has been read by a cursor that has skipped a number of characters. -/
theorem charactersRead_skip_start (count : Nat) :
    ((start file source).skip count).charactersRead = (min count source.length : Nat) := by
  have place := congrArg Location.offset (location_skip_start file source count)
  simp only [location, placeIn] at place
  rw [charactersRead, place]
  omega

/-- What has not been read is the text without what has been skipped. -/
theorem unread_skip_start (count : Nat) :
    ((start file source).skip count).unread = source.drop count := by
  rw [unread, rest_skip_start, List.drop_drop, List.drop_succ_cons]

/-- The cursor after some of the tokens has skipped some number of characters. -/
theorem exists_skip_of_tokens (tokens : Nat) :
    ∃ count, pastToken^[tokens] (start file source) = (start file source).skip count := by
  induction tokens with
  | zero => exact ⟨0, rfl⟩
  | succ tokens inductionHypothesis =>
    obtain ⟨count, reached⟩ := inductionHypothesis
    rw [Function.iterate_succ_apply', reached, pastToken, pastGap, ← skip_add, ← skip_add]
    exact ⟨_, rfl⟩

/-- **One character is read behind a token**, if there is one, and no other; the end of input is
told once all characters have been read. -/
theorem charactersRead_pastToken (count : Nat) :
    let cursor := (start file source).skip count
    cursor.pastToken.charactersRead =
      if cursor.nextToken.kind = .endOfInput then (source.length : Int)
      else min (source.length : Int)
        (cursor.nextToken.location.offset + cursor.nextToken.lexeme.length + 1) := by
  intro cursor
  let behind := count + gapLength false cursor.rest
  have gap : cursor.pastGap = (start file source).skip behind := (skip_add ..).symm
  have offset : cursor.nextToken.location.offset = (min behind source.length : Nat) - 1 := by
    change cursor.pastGap.location.offset = _
    rw [gap, location_skip_start]
    rfl
  have lexeme : cursor.nextToken.lexeme.length =
      (lexemeInFront cursor.pastGap.rest).2.length := String.length_ofList
  have left : cursor.pastGap.rest.length = source.length + 1 - behind := by
    rw [gap, rest_skip_start, List.length_drop, List.length_cons]
  rw [offset, lexeme, pastToken, gap, ← skip_add, charactersRead_skip_start]
  by_cases ends : cursor.nextToken.kind = .endOfInput
  · rw [cursor.kind_nextToken_eq_endOfInput_iff.mp ends, List.length_nil] at left
    rw [if_pos ends]
    omega
  · have some := List.length_pos_iff.mpr (mt cursor.kind_nextToken_eq_endOfInput_iff.mpr ends)
    rw [if_neg ends, ← gap]
    omega

end Cursor

end Reckon
