import Reckon.Proofs.Token.Passage

/-!
# Tokens without their places

Reading goes by the kinds and the characters of tokens, not by their places. Without the
places the tokens depend on the characters of the text alone, and a line feed splits them:
no lexeme contains one, and a comment ends there.
-/

namespace Reckon

/-- The kind and the characters of a token. -/
abbrev Lexeme := TokenKind × String

/-- A token without its place. -/
def Token.bare (token : Token) : Lexeme := (token.kind, token.lexeme)

/-- Tokens with the same lexeme are of the same kind. -/
theorem Token.kind_of_bare {token other : Token} (same : token.bare = other.bare) :
    token.kind = other.kind := congrArg Prod.fst same

/-- Tokens with the same lexeme have the same characters. -/
theorem Token.lexeme_of_bare {token other : Token} (same : token.bare = other.bare) :
    token.lexeme = other.lexeme := congrArg Prod.snd same

/-! ## Gaps and lexemes in front of a line feed -/

/-- A gap is part of the text. -/
theorem gapLength_le (inside : Bool) (text : List Char) : gapLength inside text ≤ text.length := by
  induction text generalizing inside with
  | nil => simp [gapLength]
  | cons c rest inductionHypothesis =>
    cases inside with
    | true => exact Nat.succ_le_succ (inductionHypothesis _)
    | false =>
      rw [gapLength]
      split
      · exact Nat.succ_le_succ (inductionHypothesis _)
      · split
        · exact Nat.succ_le_succ (inductionHypothesis _)
        · exact Nat.zero_le _

/-- No gap is in front of a character that is no blank and begins no comment. -/
theorem gapLength_eq_zero_iff (c : Char) (rest : List Char) :
    gapLength false (c :: rest) = 0 ↔ Text.isBlank c = false ∧ c ≠ '#' := by
  rw [gapLength]
  by_cases blank : Text.isBlank c = true
  · simp [blank]
  · by_cases mark : c = '#'
    · rw [if_neg blank, if_pos mark]
      simp [mark]
    · rw [if_neg blank, if_neg mark]
      simp [blank, mark]

/-- A gap that fills the text in front of a line feed runs on behind it, out of any comment. -/
theorem gapLength_append (inside : Bool) (front back : List Char) :
    gapLength inside (front ++ '\n' :: back) =
      if gapLength inside front = front.length then front.length + 1 + gapLength false back
      else gapLength inside front := by
  have blank : Text.isBlank '\n' = true := by decide
  have ending : isLineEnd '\n' = true := by decide
  induction front generalizing inside with
  | nil => cases inside <;> simp [gapLength, blank, ending, Nat.add_comm]
  | cons c rest inductionHypothesis =>
    have further (inside : Bool) :
        gapLength inside (rest ++ '\n' :: back) + 1 =
          if gapLength inside rest + 1 = (c :: rest).length then
            (c :: rest).length + 1 + gapLength false back
          else gapLength inside rest + 1 := by
      rw [inductionHypothesis]
      by_cases filled : gapLength inside rest = rest.length
      · simp only [filled, if_true, List.length_cons]
        omega
      · simp [filled]
    cases inside with
    | true => exact further _
    | false =>
      simp only [List.cons_append, gapLength]
      by_cases space : Text.isBlank c = true
      · simpa only [if_pos space] using further false
      · by_cases mark : c = '#'
        · simpa only [if_neg space, if_pos mark] using further true
        · simp [space, mark]

/-- A run of characters ends at a line feed that does not belong to it. -/
theorem takeWhile_append_lineFeed (test : Char → Bool) (outside : test '\n' = false)
    (front back : List Char) :
    (front ++ '\n' :: back).takeWhile test = front.takeWhile test := by
  induction front with
  | nil => simp [outside]
  | cons c rest inductionHypothesis =>
    cases passes : test c with
    | true => simp [passes, inductionHypothesis]
    | false => simp [passes]

/-- A lexeme ends before a line feed. -/
theorem lexemeInFront_append {front : List Char} (some : front ≠ []) (back : List Char) :
    lexemeInFront (front ++ '\n' :: back) = lexemeInFront front := by
  cases front with
  | nil => exact (some rfl).elim
  | cons c rest =>
    simp only [List.cons_append, lexemeInFront,
      takeWhile_append_lineFeed isWordPart (by decide),
      takeWhile_append_lineFeed isNumberPart (by decide)]

namespace Cursor

/-- The tokens in front of the end of input, without their places. -/
def lexemes (cursor : Cursor) : List Lexeme := (cursor.tokens.map Token.bare).dropLast

/-- The lexemes from a cursor on, one at a time. -/
theorem lexemes_eq (cursor : Cursor) :
    cursor.lexemes =
      if cursor.nextToken.kind = .endOfInput then []
      else cursor.nextToken.bare :: cursor.pastToken.lexemes := by
  rw [lexemes, tokens_eq]
  by_cases ends : cursor.nextToken.kind = .endOfInput
  · simp [ends]
  · obtain ⟨rest, tokens⟩ := cursor.pastToken.tokens_eq_cons
    simp [ends, lexemes, tokens]

/-- No lexemes are left exactly at the end of input. -/
theorem lexemes_eq_nil_iff (cursor : Cursor) :
    cursor.lexemes = [] ↔ cursor.nextToken.kind = .endOfInput := by
  rw [lexemes_eq]
  split <;> simp_all

/-- Without its place, the next token is the lexeme behind the gap. -/
theorem bare_nextToken (cursor : Cursor) :
    cursor.nextToken.bare = ((lexemeInFront cursor.pastGap.rest).1,
      String.ofList (lexemeInFront cursor.pastGap.rest).2) := rfl

/-- Behind a token is what is left after its lexeme. -/
theorem rest_pastToken (cursor : Cursor) :
    cursor.pastToken.rest =
      cursor.pastGap.rest.drop (lexemeInFront cursor.pastGap.rest).2.length := by
  rw [pastToken, skip_rest]

/-- Behind a gap is what is left after it. -/
theorem rest_pastGap (cursor : Cursor) :
    cursor.pastGap.rest = cursor.rest.drop (gapLength false cursor.rest) := by
  rw [pastGap, skip_rest]

/-- Lexemes depend on the text behind the gap alone. -/
theorem lexemes_congr {cursor other : Cursor} (same : cursor.pastGap.rest = other.pastGap.rest) :
    cursor.lexemes = other.lexemes := by
  generalize size : other.rest.length = length
  induction length using Nat.strongRecOn generalizing cursor other with
  | _ length inductionHypothesis =>
    have next : cursor.nextToken.bare = other.nextToken.bare := by
      rw [bare_nextToken, bare_nextToken, same]
    have kind : cursor.nextToken.kind = other.nextToken.kind := Token.kind_of_bare next
    rw [lexemes_eq, lexemes_eq other, kind, next]
    by_cases ends : other.nextToken.kind = .endOfInput
    · rw [if_pos ends, if_pos ends]
    · rw [if_neg ends, if_neg ends, List.cons.injEq]
      refine ⟨rfl, inductionHypothesis _ ?_ ?_ rfl⟩
      · exact size ▸ other.length_pastToken_lt ends
      · have rest : cursor.pastToken.rest = other.pastToken.rest := by
          rw [rest_pastToken, rest_pastToken, same]
        rw [rest_pastGap, rest_pastGap, rest]

/-- A blank in front changes no lexeme. -/
theorem lexemes_of_blank {cursor other : Cursor} {c : Char} (blank : Text.isBlank c = true)
    (front : cursor.rest = c :: other.rest) : cursor.lexemes = other.lexemes := by
  apply lexemes_congr
  rw [rest_pastGap, rest_pastGap, front, gapLength, if_pos blank, List.drop_succ_cons]

/-- **A line feed splits the lexemes**: those in front of it and those behind it are read
independently. -/
theorem lexemes_append {whole before after : Cursor}
    (split : whole.rest = before.rest ++ '\n' :: after.rest) :
    whole.lexemes = before.lexemes ++ after.lexemes := by
  generalize size : before.rest.length = length
  induction length using Nat.strongRecOn generalizing whole before with
  | _ length inductionHypothesis =>
    have gap := gapLength_append false before.rest after.rest
    by_cases filled : gapLength false before.rest = before.rest.length
    · -- Nothing but a gap is left in front of the line feed.
      have left : before.pastGap.rest = [] := by rw [rest_pastGap, filled, List.drop_length]
      have none : before.lexemes = [] :=
        before.lexemes_eq_nil_iff.mpr (before.kind_nextToken_eq_endOfInput_iff.mpr left)
      rw [none, List.nil_append]
      apply lexemes_congr
      rw [if_pos filled] at gap
      rw [rest_pastGap, rest_pastGap, split, gap]
      have past : before.rest.length + 1 + gapLength false after.rest =
          before.rest.length + (gapLength false after.rest + 1) := by omega
      rw [past, List.drop_append, List.drop_of_length_le (by omega)]
      simp
    · rw [if_neg filled] at gap
      have within := gapLength_le false before.rest
      have rest : whole.pastGap.rest = before.pastGap.rest ++ '\n' :: after.rest := by
        rw [rest_pastGap, rest_pastGap, split, gap, List.drop_append_of_le_length within]
      have some : before.pastGap.rest ≠ [] := by
        rw [rest_pastGap]
        intro none
        have long := List.drop_eq_nil_iff.mp none
        omega
      have more : before.nextToken.kind ≠ .endOfInput :=
        fun ends => some (before.kind_nextToken_eq_endOfInput_iff.mp ends)
      have next : whole.nextToken.bare = before.nextToken.bare := by
        rw [bare_nextToken, bare_nextToken, rest, lexemeInFront_append some]
      have kind : whole.nextToken.kind = before.nextToken.kind := Token.kind_of_bare next
      have later : whole.pastToken.rest = before.pastToken.rest ++ '\n' :: after.rest := by
        have front := congrArg List.length (lexemeInFront_append_drop before.pastGap.rest)
        rw [List.length_append] at front
        rw [rest_pastToken, rest_pastToken, rest, lexemeInFront_append some,
          List.drop_append_of_le_length (by omega)]
      rw [lexemes_eq, lexemes_eq before, kind, if_neg more, if_neg more, next, List.cons_append,
        inductionHypothesis _ (size ▸ before.length_pastToken_lt more) later rfl]

/-- A semicolon on a line of its own stands between the lexemes of the texts around it. -/
theorem lexemes_start_append (file fileBefore fileAfter : String) (first second : List Char) :
    (start file (first ++ "\n;\n".toList ++ second)).lexemes =
      (start fileBefore first).lexemes ++ (.symbol, ";") :: (start fileAfter second).lexemes := by
  have blank : Text.isBlank ' ' = true := by decide
  let behind : Cursor := { start "" [] with rest := ';' :: '\n' :: second }
  let mark : Cursor := { start "" [] with rest := [';'] }
  let last : Cursor := { start "" [] with rest := second }
  have outer : (start file (first ++ "\n;\n".toList ++ second)).rest =
      (start fileBefore first).rest ++ '\n' :: behind.rest := by
    simp [start, behind]
  have inner : behind.rest = mark.rest ++ '\n' :: last.rest := rfl
  have alone : mark.lexemes = [(.symbol, ";")] := by decide
  have opened : (start fileAfter second).lexemes = last.lexemes := lexemes_of_blank blank rfl
  rw [lexemes_append outer, lexemes_append inner, alone, opened]
  rfl

end Cursor

end Reckon
