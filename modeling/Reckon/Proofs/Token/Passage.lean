import Reckon.Token.Scan

/-!
# Going past tokens

Reading goes forward one token at a time. A cursor passes a list of tokens when they
are next one after the other; the end of input is looked at and never passed. What is
passed is the front part of the tokens of the text, and the tokens from the second
cursor on are the rest of them.
-/

namespace Reckon

namespace Cursor

/-- Going past the given tokens leads from the first cursor to the second. -/
inductive Passes : Cursor → List Token → Cursor → Prop
  | nothing (cursor : Cursor) : Passes cursor [] cursor
  | token (cursor : Cursor) {passed : List Token} {after : Cursor}
      (more : cursor.nextToken.kind ≠ .endOfInput) (rest : Passes cursor.pastToken passed after) :
      Passes cursor (cursor.nextToken :: passed) after

/-- Passages are put together by appending what they pass. -/
theorem Passes.append {first second third : Cursor} {front back : List Token}
    (start : Passes first front second) (rest : Passes second back third) :
    Passes first (front ++ back) third := by
  induction start with
  | nothing cursor => exact rest
  | token cursor more _ inductionHypothesis => exact .token cursor more (inductionHypothesis rest)

/-- Any two limits above the number of characters that are left give the same tokens. -/
theorem tokensWithin_congr (limit other : Nat) (cursor : Cursor)
    (enough : cursor.rest.length < limit) (enoughToo : cursor.rest.length < other) :
    tokensWithin limit cursor = tokensWithin other cursor := by
  induction limit generalizing other cursor with
  | zero => omega
  | succ limit inductionHypothesis =>
    cases other with
    | zero => omega
    | succ other =>
      by_cases ends : cursor.nextToken.kind = .endOfInput
      · simp only [tokensWithin, if_pos ends]
      · have shorter := cursor.length_pastToken_lt ends
        simp only [tokensWithin, if_neg ends]
        rw [inductionHypothesis other _ (by omega) (by omega)]

/-- The tokens from a cursor on, one at a time. -/
theorem tokens_eq (cursor : Cursor) :
    cursor.tokens =
      if cursor.nextToken.kind = .endOfInput then [cursor.nextToken]
      else cursor.nextToken :: cursor.pastToken.tokens := by
  rw [tokens, tokensWithin]
  by_cases ends : cursor.nextToken.kind = .endOfInput
  · rw [if_pos ends, if_pos ends]
  · have shorter := cursor.length_pastToken_lt ends
    rw [if_neg ends, if_neg ends, tokens,
      tokensWithin_congr _ (cursor.pastToken.rest.length + 1) _ shorter (by omega)]

/-- The tokens from a cursor on begin with the next one. -/
theorem tokens_eq_cons (cursor : Cursor) : ∃ rest, cursor.tokens = cursor.nextToken :: rest := by
  rw [tokens_eq]
  split
  · exact ⟨[], rfl⟩
  · exact ⟨cursor.pastToken.tokens, rfl⟩

/-- What is passed is the front part of the tokens. -/
theorem Passes.tokens {first last : Cursor} {passed : List Token}
    (passage : Passes first passed last) : first.tokens = passed ++ last.tokens := by
  induction passage with
  | nothing cursor => rfl
  | token cursor more _ inductionHypothesis =>
    rw [tokens_eq, if_neg more, inductionHypothesis, List.cons_append]

end Cursor

end Reckon
