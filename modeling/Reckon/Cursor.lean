import Reckon.Location

/-!
# A cursor with one character of lookahead

The cursor stands on the character that was read last; the characters after it
have not been looked at. It starts on a blank of its own before the text, at line
one, column zero and offset minus one, so that nothing is read before it is
needed. Once the text is used up there is no character to stand on, and the
position stays at the last character of the text.
-/

namespace Reckon

/-- A position in a text: the character stood on, followed by the unread ones. -/
structure Cursor where
  file : String
  rest : List Char
  line : Nat
  column : Nat
  offset : Int
  deriving DecidableEq, Repr

namespace Cursor

/-- The cursor before the first character. -/
def start (file : String) (source : List Char) : Cursor :=
  { file, rest := ' ' :: source, line := 1, column := 0, offset := -1 }

/-- The place of the character stood on. -/
def location (cursor : Cursor) : Location :=
  { file := cursor.file, line := cursor.line, column := cursor.column, offset := cursor.offset }

/-- How many characters of the text have been read. -/
def charactersRead (cursor : Cursor) : Int := cursor.offset + 1

/-- Reads one more character. After a line feed the next character is the first
of a new line; reading past the end leaves the position alone. -/
def step (cursor : Cursor) : Cursor :=
  match cursor.rest with
  | [] => cursor
  | [_] => { cursor with rest := [] }
  | passed :: next :: unread =>
    { cursor with
      rest := next :: unread
      line := if passed = '\n' then cursor.line + 1 else cursor.line
      column := if passed = '\n' then 1 else cursor.column + 1
      offset := cursor.offset + 1 }

/-- Reads a number of characters. -/
def skip : Nat → Cursor → Cursor
  | 0, cursor => cursor
  | count + 1, cursor => skip count cursor.step

/-- A step drops the character stood on. -/
theorem step_rest (cursor : Cursor) : cursor.step.rest = cursor.rest.drop 1 := by
  unfold step
  split <;> simp_all

/-- Skipping drops as many characters. -/
theorem skip_rest (count : Nat) (cursor : Cursor) :
    (skip count cursor).rest = cursor.rest.drop count := by
  induction count generalizing cursor with
  | zero => rfl
  | succ count inductionHypothesis =>
    rw [skip, inductionHypothesis, step_rest, List.drop_drop, Nat.add_comm]

/-- The name of the text never changes. -/
theorem skip_file (count : Nat) (cursor : Cursor) : (skip count cursor).file = cursor.file := by
  induction count generalizing cursor with
  | zero => rfl
  | succ count inductionHypothesis =>
    rw [skip, inductionHypothesis]
    unfold step
    split <;> rfl

end Cursor

end Reckon
