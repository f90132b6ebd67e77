import Reckon.Cursor
import Reckon.Text.Blank
import Reckon.Token

/-!
# From characters to tokens

A gap of blanks and comments, then a lexeme: a word of letters and digits that
starts with a letter, a run of digits and points, or one other character. A
comment runs from its mark to the end of the line or of the text. Reading a token
looks at one character past its lexeme and at no more.
-/

namespace Reckon

open Text

/-- Ends a comment. Both characters are blank. -/
def isLineEnd (c : Char) : Bool := c = '\n' || c = '\r'

/-- Continues a word. -/
def isWordPart (c : Char) : Bool := c.isAlphanum

/-- Starts and continues a number. -/
def isNumberPart (c : Char) : Bool := c.isDigit || c = '.'

/-- The length of the gap in front, told whether it begins inside a comment. -/
def gapLength : Bool → List Char → Nat
  | _, [] => 0
  | true, c :: rest => gapLength (!isLineEnd c) rest + 1
  | false, c :: rest =>
    if isBlank c then gapLength false rest + 1
    else if c = '#' then gapLength true rest + 1
    else 0

/-- The kind and the characters of the lexeme in front, where no gap is. -/
def lexemeInFront : List Char → TokenKind × List Char
  | [] => (.endOfInput, [])
  | c :: rest =>
    if c.isAlpha then
      let word := c :: rest.takeWhile isWordPart
      (.ofWord (String.ofList word), word)
    else if isNumberPart c then (.number, c :: rest.takeWhile isNumberPart)
    else (.symbol, [c])

namespace Cursor

/-- The cursor after the gap in front of the next token. -/
def pastGap (cursor : Cursor) : Cursor := cursor.skip (gapLength false cursor.rest)

/-- The next token. At the end of the text it is the end of input, every time. -/
def nextToken (cursor : Cursor) : Token :=
  let front := lexemeInFront cursor.pastGap.rest
  { kind := front.1, lexeme := String.ofList front.2, location := cursor.pastGap.location }

/-- The cursor after the next token. -/
def pastToken (cursor : Cursor) : Cursor :=
  cursor.pastGap.skip (lexemeInFront cursor.pastGap.rest).2.length

/-- The tokens up to the end of input, at most `limit` of them. -/
def tokensWithin : Nat → Cursor → List Token
  | 0, _ => []
  | limit + 1, cursor =>
    let token := cursor.nextToken
    if token.kind = .endOfInput then [token] else token :: tokensWithin limit cursor.pastToken

/-- All tokens up to and including the end of input. Every other token takes at
least one character, which bounds their number. -/
def tokens (cursor : Cursor) : List Token := tokensWithin (cursor.rest.length + 1) cursor

/-- The cursor after the end of input has been read. -/
def pastTokens (cursor : Cursor) : Cursor := cursor.skip cursor.rest.length

end Cursor

/-- The tokens of a whole text. -/
def tokenize (file : String) (source : String) : List Token :=
  (Cursor.start file source.toList).tokens

/-- Only the empty text has an empty lexeme in front. -/
theorem lexemeInFront_eq_nil_iff (text : List Char) :
    (lexemeInFront text).2 = [] ↔ text = [] := by
  cases text with
  | nil => simp [lexemeInFront]
  | cons c rest =>
    simp only [lexemeInFront]
    split
    · simp
    · split <;> simp

/-- The end of input is met exactly where no character is left. -/
theorem lexemeInFront_endOfInput_iff (text : List Char) :
    (lexemeInFront text).1 = .endOfInput ↔ text = [] := by
  cases text with
  | nil => simp [lexemeInFront]
  | cons c rest =>
    have word (w : String) : TokenKind.ofWord w ≠ .endOfInput := (TokenKind.ofWord_ne w).1
    simp only [lexemeInFront]
    split
    · simp [word]
    · split <;> simp

namespace Cursor

/-- Skipping a gap and a lexeme never adds characters. -/
theorem length_pastToken_le (cursor : Cursor) :
    cursor.pastToken.rest.length ≤ cursor.rest.length := by
  simp only [pastToken, pastGap, skip_rest, List.length_drop]
  omega

/-- The end of input is next exactly if nothing but a gap is left. -/
theorem kind_nextToken_eq_endOfInput_iff (cursor : Cursor) :
    cursor.nextToken.kind = .endOfInput ↔ cursor.pastGap.rest = [] :=
  lexemeInFront_endOfInput_iff cursor.pastGap.rest

/-- Any other token takes at least one character. -/
theorem length_pastToken_lt (cursor : Cursor) (more : cursor.nextToken.kind ≠ .endOfInput) :
    cursor.pastToken.rest.length < cursor.rest.length := by
  have left : cursor.pastGap.rest ≠ [] := fun none =>
    more ((kind_nextToken_eq_endOfInput_iff cursor).mpr none)
  have lexeme : (lexemeInFront cursor.pastGap.rest).2 ≠ [] := fun none =>
    left ((lexemeInFront_eq_nil_iff _).mp none)
  have some : 0 < (lexemeInFront cursor.pastGap.rest).2.length := List.length_pos_iff.mpr lexeme
  have shrunk : cursor.pastGap.rest.length ≤ cursor.rest.length := by
    simp only [pastGap, skip_rest, List.length_drop]
    omega
  have front : 0 < cursor.pastGap.rest.length := List.length_pos_iff.mpr left
  simp only [pastToken, skip_rest, List.length_drop]
  omega

end Cursor

/-- A lexeme is the front part of the text that it is read from. -/
theorem lexemeInFront_append_drop (text : List Char) :
    (lexemeInFront text).2 ++ text.drop (lexemeInFront text).2.length = text := by
  cases text with
  | nil => rfl
  | cons c rest =>
    have run (test : Char → Bool) :
        rest.takeWhile test ++ rest.drop (rest.takeWhile test).length = rest := by
      rw [← List.prefix_iff_eq_append]
      exact List.takeWhile_prefix test
    simp only [lexemeInFront]
    split
    · simp [run]
    · split <;> simp [run]

end Reckon
