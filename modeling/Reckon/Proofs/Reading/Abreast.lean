import Reckon.Proofs.Likeness.Trees
import Reckon.Proofs.Reading.Grammar
import Reckon.Proofs.Token.Lexemes

/-!
# Reading two texts abreast

One text has the lexemes of another and goes on, with a semicolon, where the other ends.
To every reader the semicolon is as good as the end of input: neither begins or continues
anything, and no reader goes past either. So both texts are read alike, whatever is wrong
with them, and the readers stop abreast. If nothing follows, these are two texts with the
same lexemes.
-/

namespace Reckon

/-! ## Tokens abreast -/

/-- Nothing, or a semicolon and anything. -/
def Separated (behind : List Lexeme) : Prop :=
  ∀ lexeme, behind.head? = some lexeme → lexeme = (.symbol, ";")

/-- The token is the end of input or a semicolon. -/
def Token.EndsUnit (token : Token) : Prop :=
  token.kind = .endOfInput ∨ token.isSymbol ';' = true

/-- The same lexeme, or an end of a unit where the other text ends. -/
def Token.Abreast (left right : Token) : Prop :=
  left.bare = right.bare ∨ left.EndsUnit ∧ right.kind = .endOfInput

/-- The first text has the lexemes of the second and goes on with those behind. -/
def Cursor.Abreast (behind : List Lexeme) (cursor other : Cursor) : Prop :=
  cursor.lexemes = other.lexemes ++ behind

/-- Tokens with the same lexeme are the same symbols. -/
theorem Token.isSymbol_of_bare {left right : Token} (same : left.bare = right.bare)
    (character : Char) : left.isSymbol character = right.isSymbol character := by
  rw [isSymbol, isSymbol, kind_of_bare same, lexeme_of_bare same]

/-- The end of input is no symbol. -/
theorem Token.isSymbol_endOfInput {token : Token} (ends : token.kind = .endOfInput)
    (character : Char) : token.isSymbol character = false := by
  simp [isSymbol, ends]

/-- Tokens with the same lexeme have the same precedence. -/
theorem Operators.precedence_of_bare (operators : Operators) {left right : Token}
    (same : left.bare = right.bare) : operators.precedence left = operators.precedence right := by
  rw [precedence, precedence, Token.kind_of_bare same, Token.lexeme_of_bare same]

namespace Token.EndsUnit

variable {token : Token}

/-- What ends a unit is of no kind but that of symbols or of the end. -/
theorem kind_ne (ends : token.EndsUnit) {kind : TokenKind} (more : kind ≠ .endOfInput)
    (word : kind ≠ .symbol) : token.kind ≠ kind := by
  rintro rfl
  cases ends with
  | inl ends => exact more ends
  | inr separator => exact word (Reader.kind_of_isSymbol separator)

/-- What ends a unit is no symbol but the semicolon. -/
theorem isSymbol_eq_false (ends : token.EndsUnit) {character : Char} (other : character ≠ ';') :
    token.isSymbol character = false := by
  cases ends with
  | inl ends => exact isSymbol_endOfInput ends character
  | inr separator => exact not_isSymbol character separator other.symm

/-- No table has a precedence for the end of a unit. -/
theorem precedence_eq (ends : token.EndsUnit) {operators : Operators}
    (registered : operators.Registered) : operators.precedence token = -1 := by
  cases ends with
  | inl ends => exact operators.precedence_of_kind_ne token (by simp [ends])
  | inr separator => exact registered.precedence_of_isReserved separator (by decide)

end Token.EndsUnit

namespace Token.Abreast

variable {left right : Token}

/-- Tokens that are abreast are of the same kind, where ends and symbols are left aside. -/
theorem kind_eq_iff (abreast : left.Abreast right) {kind : TokenKind} (more : kind ≠ .endOfInput)
    (word : kind ≠ .symbol) : left.kind = kind ↔ right.kind = kind := by
  cases abreast with
  | inl same => rw [kind_of_bare same]
  | inr ends =>
    have leftNot := ends.1.kind_ne more word
    simp [leftNot, ends.2, more.symm]

/-- Tokens that are abreast are the same symbols, where the semicolon is left aside. -/
theorem isSymbol_eq (abreast : left.Abreast right) {character : Char} (other : character ≠ ';') :
    left.isSymbol character = right.isSymbol character := by
  cases abreast with
  | inl same => exact isSymbol_of_bare same character
  | inr ends => rw [ends.1.isSymbol_eq_false other, isSymbol_endOfInput ends.2]

/-- Tokens that are abreast have the same precedence, since the semicolon has none. -/
theorem precedence_eq (abreast : left.Abreast right) {operators : Operators}
    (registered : operators.Registered) :
    operators.precedence left = operators.precedence right := by
  cases abreast with
  | inl same => exact operators.precedence_of_bare same
  | inr ends =>
    have rightEnds : right.EndsUnit := .inl ends.2
    rw [ends.1.precedence_eq registered, rightEnds.precedence_eq registered]

end Token.Abreast

namespace Cursor.Abreast

variable {behind : List Lexeme} {cursor other : Cursor}

/-- Where the second text goes on, so does the first, with the same lexeme. -/
theorem bare_nextToken (abreast : cursor.Abreast behind other)
    (more : other.nextToken.kind ≠ .endOfInput) :
    cursor.nextToken.bare = other.nextToken.bare ∧
      cursor.pastToken.Abreast behind other.pastToken := by
  rw [Cursor.Abreast, lexemes_eq other, if_neg more, lexemes_eq, List.cons_append] at abreast
  by_cases ends : cursor.nextToken.kind = .endOfInput
  · rw [if_pos ends] at abreast
    cases abreast
  · rw [if_neg ends] at abreast
    exact List.cons.inj abreast

/-- Where the second text ends, what is behind is left of the first. -/
theorem lexemes_eq_behind (abreast : cursor.Abreast behind other)
    (ends : other.nextToken.kind = .endOfInput) : cursor.lexemes = behind := by
  rwa [Cursor.Abreast, other.lexemes_eq_nil_iff.mpr ends] at abreast

/-- The next tokens are abreast. -/
theorem nextToken (abreast : cursor.Abreast behind other) (separated : Separated behind) :
    cursor.nextToken.Abreast other.nextToken := by
  by_cases more : other.nextToken.kind = .endOfInput
  · have left := abreast.lexemes_eq_behind more
    rw [lexemes_eq] at left
    by_cases ends : cursor.nextToken.kind = .endOfInput
    · exact .inr ⟨.inl ends, more⟩
    · rw [if_neg ends] at left
      have mark : cursor.nextToken.bare = (.symbol, ";") := separated _ (by simp [← left])
      simp only [Token.bare, Prod.mk.injEq] at mark
      exact .inr ⟨.inr (by simp [Token.isSymbol, mark]), more⟩
  · exact .inl (abreast.bare_nextToken more).1

end Cursor.Abreast

/-! ## Readers abreast -/

/-- Both outcomes are results that are alike or errors with the same expectation, and the readers
stopped abreast. -/
inductive Outcome.Abreast {α β : Type} (behind : List Lexeme) (alike : α → β → Prop) :
    Outcome α → Outcome β → Prop
  | parsed {value : α} {valueToo : β} {after afterToo : Cursor} (same : alike value valueToo)
      (abreast : after.Abreast behind afterToo) :
      Abreast behind alike (.parsed value after) (.parsed valueToo afterToo)
  | failed {error errorToo : SyntaxError} {stopped stoppedToo : Cursor}
      (expected : error.expected = errorToo.expected)
      (abreast : stopped.Abreast behind stoppedToo) :
      Abreast behind alike (.failed error stopped) (.failed errorToo stoppedToo)

namespace Reader

variable {α β γ δ : Type} {behind : List Lexeme} {alike : α → β → Prop} {last : γ → δ → Prop}
  {cursor other : Cursor}

/-- What the readers answer at the cursors is abreast. -/
def Abreast (behind : List Lexeme) (alike : α → β → Prop) (left : Reader α) (right : Reader β)
    (cursor other : Cursor) : Prop :=
  ∀ outcome outcomeToo, left cursor = some outcome → right other = some outcomeToo →
    outcome.Abreast behind alike outcomeToo

/-- A reader without levels answers nothing that could be ahead. -/
theorem abreast_exhausted (right : Reader β) :
    Abreast behind alike exhausted right cursor other := by
  intro outcome outcomeToo answer
  cases answer

/-- The same holds if the other reader is without levels. -/
theorem abreast_exhausted_right (left : Reader α) :
    Abreast behind alike left exhausted cursor other := by
  intro outcome outcomeToo _ answer
  cases answer

/-- Values that are alike are given abreast. -/
theorem abreast_pure {value : α} {valueToo : β} (same : alike value valueToo)
    (abreast : cursor.Abreast behind other) :
    Abreast behind alike (pure value) (pure valueToo) cursor other := by
  intro outcome outcomeToo answer answerToo
  cases answer
  cases answerToo
  exact .parsed same abreast

/-- Refusals for the same reason are abreast. -/
theorem abreast_refuse (expected : Expectation) (abreast : cursor.Abreast behind other) :
    Abreast behind alike (refuse expected) (refuse expected) cursor other := by
  intro outcome outcomeToo answer answerToo
  cases answer
  cases answerToo
  exact .failed rfl abreast

/-- Readers that go on after others are abreast if they are after all results that are alike. -/
theorem Abreast.bind {left : Reader α} {right : Reader β} {next : α → Reader γ}
    {nextToo : β → Reader δ} (start : Abreast behind alike left right cursor other)
    (continues : ∀ value valueToo after afterToo, alike value valueToo →
      after.Abreast behind afterToo →
      Abreast behind last (next value) (nextToo valueToo) after afterToo) :
    Abreast behind last (left >>= next) (right >>= nextToo) cursor other := by
  intro outcome outcomeToo answer answerToo
  rw [bind_apply] at answer answerToo
  cases reached : left cursor with
  | none =>
    rw [reached] at answer
    cases answer
  | some found =>
    cases reachedToo : right other with
    | none =>
      rw [reachedToo] at answerToo
      cases answerToo
    | some foundToo =>
      rw [reached] at answer
      rw [reachedToo] at answerToo
      cases start found foundToo reached reachedToo with
      | parsed same abreast => exact continues _ _ _ _ same abreast _ _ answer answerToo
      | failed expected abreast =>
        cases answer
        cases answerToo
        exact .failed expected abreast

/-- Looking at the next tokens changes nothing. -/
theorem abreast_peek {next : Token → Reader γ} {nextToo : Token → Reader δ}
    (continues :
      Abreast behind last (next cursor.nextToken) (nextToo other.nextToken) cursor other) :
    Abreast behind last (peek >>= next) (peek >>= nextToo) cursor other := continues

/-- Both go past the next tokens if the second text goes on. -/
theorem abreast_advance {next : Unit → Reader γ} {nextToo : Unit → Reader δ}
    (abreast : cursor.Abreast behind other) (more : other.nextToken.kind ≠ .endOfInput)
    (continues : cursor.pastToken.Abreast behind other.pastToken →
      Abreast behind last (next ()) (nextToo ()) cursor.pastToken other.pastToken) :
    Abreast behind last (advance >>= next) (advance >>= nextToo) cursor other :=
  continues (abreast.bare_nextToken more).2

/-- A symbol other than the semicolon is there in both texts or in neither. -/
theorem abreast_symbol {character : Char} {expected : Expectation} {next : Unit → Reader γ}
    {nextToo : Unit → Reader δ} (separated : Separated behind)
    (abreast : cursor.Abreast behind other) (differs : character ≠ ';')
    (continues : ∀ after afterToo, after.Abreast behind afterToo →
      Abreast behind last (next ()) (nextToo ()) after afterToo) :
    Abreast behind last (symbol character expected >>= next) (symbol character expected >>= nextToo)
      cursor other := by
  have start : Abreast behind (fun _ _ => True) (symbol character expected)
      (symbol character expected) cursor other := by
    intro outcome outcomeToo answer answerToo
    rw [symbol_apply] at answer answerToo
    rw [(abreast.nextToken separated).isSymbol_eq differs] at answer
    by_cases there : other.nextToken.isSymbol character = true
    · rw [if_pos there] at answer answerToo
      cases answer
      cases answerToo
      have more : other.nextToken.kind ≠ .endOfInput := by simp [kind_of_isSymbol there]
      exact .parsed trivial (abreast.bare_nextToken more).2
    · rw [if_neg there] at answer answerToo
      cases answer
      cases answerToo
      exact .failed rfl abreast
  exact start.bind fun _ _ after afterToo _ abreast => continues after afterToo abreast

end Reader

end Reckon
