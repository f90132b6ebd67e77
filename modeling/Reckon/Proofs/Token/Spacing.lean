import Reckon.Operators
import Reckon.Proofs.Token.Lexemes

/-!
# Lexemes that are written down

An identifier, a keyword, a number or a symbol stands in front of a text if it is the lexeme
that is read there. A symbol does wherever it is written. A word and a number do unless what
follows them would continue them, which a blank and a semicolon never do, so lexemes that are
written with blanks between them are read one after the other.
-/

namespace Reckon

/-- An ASCII letter, ASCII letters and digits behind it, and no keyword. -/
def isIdentifier (name : String) : Bool :=
  match name.toList with
  | [] => false
  | c :: rest => c.isAlpha && rest.all isWordPart && name != "def" && name != "extern"

/-- ASCII digits, one at least, with one point among them at most. -/
def isNumeral (lexeme : String) : Bool :=
  lexeme.toList.all isNumberPart && lexeme.toList.any Char.isDigit &&
    lexeme.toList.count '.' ≤ 1

/-- Starts no word, no number, no comment and no gap. -/
def isSymbolCharacter (c : Char) : Bool :=
  !(c.isAlpha || isNumberPart c || Text.isBlank c || c = '#')

/-- Operators are symbols. -/
theorem isSymbolCharacter_of_isOperatorCharacter {c : Char}
    (usable : isOperatorCharacter c = true) : isSymbolCharacter c = true := by
  simp only [isOperatorCharacter, Bool.not_or, Bool.and_eq_true, Bool.not_eq_true'] at usable
  obtain ⟨⟨noWord, noBlank⟩, notReserved⟩ := usable
  have noAlphanum : c.isAlphanum = false := by
    simp only [Text.isAlphanumeric, Bool.or_eq_false_iff] at noWord
    exact noWord.1
  simp only [Char.isAlphanum, Bool.or_eq_false_iff] at noAlphanum
  simp only [isReserved, Bool.or_eq_false_iff, decide_eq_false_iff_not] at notReserved
  simp [isSymbolCharacter, isNumberPart, noAlphanum, noBlank, notReserved]

/-- The codes of ASCII letters. -/
theorem code_of_isAlpha {c : Char} (letter : c.isAlpha = true) :
    65 ≤ c.toNat ∧ c.toNat ≤ 90 ∨ 97 ≤ c.toNat ∧ c.toNat ≤ 122 := by
  change (decide (65 ≤ c.val ∧ c.val ≤ 90) ||
    decide (97 ≤ c.val) && decide (c.val ≤ 122)) = true at letter
  simp only [Bool.or_eq_true, Bool.and_eq_true, decide_eq_true_eq, UInt32.le_iff_toNat_le]
    at letter
  exact letter

/-- The codes of ASCII digits and the point lie below those of letters. -/
theorem code_of_isNumberPart {c : Char} (part : isNumberPart c = true) :
    46 ≤ c.toNat ∧ c.toNat ≤ 57 := by
  simp only [isNumberPart, Bool.or_eq_true, decide_eq_true_eq] at part
  rcases part with digit | rfl
  · simp only [Char.isDigit, Bool.and_eq_true, decide_eq_true_eq, UInt32.le_iff_toNat_le,
      ge_iff_le] at digit
    have codes : 48 ≤ c.toNat ∧ c.toNat ≤ 57 := digit
    omega
  · decide

/-- Printing characters of ASCII are no blanks. -/
theorem not_isBlank {c : Char} (low : 0x21 ≤ c.toNat) (high : c.toNat ≤ 0x7e) :
    Text.isBlank c = false := by
  simp [Text.isBlank]
  omega

/-- A run of characters ends where nothing continues it. -/
theorem takeWhile_append_apart {test : Char → Bool} {run behind : List Char}
    (passes : run.all test = true) (ends : ∀ c, behind.head? = some c → test c = false) :
    (run ++ behind).takeWhile test = run := by
  rw [List.takeWhile_append_of_pos (List.all_eq_true.mp passes)]
  cases behind with
  | nil => simp
  | cons c rest => simp [ends c rfl]

/-! ## Kinds of lexemes -/

/-- The lexemes of each kind in front of the characters behind them. A word starts with a letter and
goes on with letters and digits, a number consists of digits and points, and what is behind either
does not continue it. A symbol is any character that starts no word, number, gap or comment. -/
inductive IsLexeme : TokenKind → List Char → List Char → Prop
  | word {c : Char} {rest behind : List Char} (letter : c.isAlpha = true)
      (parts : rest.all isWordPart = true)
      (ends : ∀ next, behind.head? = some next → isWordPart next = false) :
      IsLexeme (.ofWord (String.ofList (c :: rest))) (c :: rest) behind
  | number {c : Char} {rest behind : List Char} (parts : (c :: rest).all isNumberPart = true)
      (ends : ∀ next, behind.head? = some next → isNumberPart next = false) :
      IsLexeme .number (c :: rest) behind
  | symbol {c : Char} {behind : List Char} (symbol : isSymbolCharacter c = true) :
      IsLexeme .symbol [c] behind

namespace IsLexeme

variable {kind : TokenKind} {lexeme behind : List Char}

/-- A lexeme has characters. -/
theorem ne_nil (isLexeme : IsLexeme kind lexeme behind) : lexeme ≠ [] := by
  cases isLexeme <;> exact List.cons_ne_nil _ _

/-- A lexeme is not the end of input. -/
theorem kind_ne (isLexeme : IsLexeme kind lexeme behind) : kind ≠ .endOfInput := by
  cases isLexeme with
  | word => exact (TokenKind.ofWord_ne _).1
  | number => nofun
  | symbol => nofun

/-- A number starts with no letter. -/
theorem isAlpha_of_isNumberPart {c : Char} (part : isNumberPart c = true) : c.isAlpha = false := by
  cases letter : c.isAlpha with
  | false => rfl
  | true =>
    have codes := code_of_isNumberPart part
    have letterCodes := code_of_isAlpha letter
    omega

/-- No gap is in front of a lexeme. -/
theorem noGap (isLexeme : IsLexeme kind lexeme behind) :
    gapLength false (lexeme ++ behind) = 0 := by
  cases isLexeme with
  | @word c rest _ letter _ _ =>
    have codes := code_of_isAlpha letter
    have noBlank : Text.isBlank c = false := not_isBlank (by omega) (by omega)
    have noComment : c ≠ '#' := by
      rintro rfl
      cases letter
    simp [gapLength, noBlank, noComment]
  | @number c rest _ parts _ =>
    simp only [List.all_cons, Bool.and_eq_true] at parts
    have codes := code_of_isNumberPart parts.1
    have noBlank : Text.isBlank c = false := not_isBlank (by omega) (by omega)
    have noComment : c ≠ '#' := by
      rintro rfl
      cases parts.1
    simp [gapLength, noBlank, noComment]
  | symbol symbol =>
    simp only [isSymbolCharacter, Bool.not_or, Bool.and_eq_true, Bool.not_eq_true',
      decide_eq_false_iff_not] at symbol
    simp [gapLength, symbol]

/-- A lexeme is read in front of what is behind it. -/
theorem front (isLexeme : IsLexeme kind lexeme behind) :
    lexemeInFront (lexeme ++ behind) = (kind, lexeme) := by
  cases isLexeme with
  | word letter parts ends =>
    simp only [List.cons_append, lexemeInFront, if_pos letter, takeWhile_append_apart parts ends]
  | number parts ends =>
    simp only [List.all_cons, Bool.and_eq_true] at parts
    simp [lexemeInFront, isAlpha_of_isNumberPart parts.1, parts.1,
      takeWhile_append_apart parts.2 ends]
  | symbol symbol =>
    simp only [isSymbolCharacter, Bool.not_or, Bool.and_eq_true, Bool.not_eq_true',
      decide_eq_false_iff_not] at symbol
    simp [lexemeInFront, symbol]

end IsLexeme

namespace Lexeme

/-- The lexeme is what is read at the front of the characters it is written with and those
behind them. -/
structure Stands (lexeme : Lexeme) (behind : List Char) : Prop where
  noGap : gapLength false (lexeme.2.toList ++ behind) = 0
  front : lexemeInFront (lexeme.2.toList ++ behind) = (lexeme.1, lexeme.2.toList)
  more : lexeme.1 ≠ .endOfInput

/-- Nothing that would continue a word or a number. -/
def Apart (behind : List Char) : Prop :=
  ∀ c, behind.head? = some c → isWordPart c = false ∧ isNumberPart c = false

/-- The lexeme stands in front of whatever does not continue it. -/
def Solid (lexeme : Lexeme) : Prop := ∀ behind, Apart behind → lexeme.Stands behind

/-- At the end nothing continues a word or a number. -/
theorem apart_nil : Apart [] := nofun

/-- A character of neither words nor numbers continues none. -/
theorem apart_cons {c : Char} (noWord : isWordPart c = false) (noNumber : isNumberPart c = false)
    (rest : List Char) : Apart (c :: rest) := by
  intro first same
  cases same
  exact ⟨noWord, noNumber⟩

/-- Lexemes stand in front of what is behind them. -/
theorem stands_of_isLexeme {kind : TokenKind} {lexeme : String} {behind : List Char}
    (isLexeme : IsLexeme kind lexeme.toList behind) : Stands (kind, lexeme) behind :=
  ⟨isLexeme.noGap, isLexeme.front, isLexeme.kind_ne⟩

/-- A symbol stands in front of anything. -/
theorem stands_symbol {c : Char} (symbol : isSymbolCharacter c = true) (behind : List Char) :
    Stands (.symbol, c.toString) behind := by
  apply stands_of_isLexeme
  rw [Char.toString, String.toList_singleton]
  exact .symbol symbol

/-- A symbol stands in front of anything. -/
theorem solid_symbol {c : Char} (symbol : isSymbolCharacter c = true) :
    Solid (.symbol, c.toString) := fun behind _ => stands_symbol symbol behind

/-- A word of letters and digits is solid, whatever its kind. -/
theorem solid_word {word : String} {c : Char} {rest : List Char} (whole : word.toList = c :: rest)
    (letter : c.isAlpha = true) (parts : rest.all isWordPart = true) :
    Solid (.ofWord word, word) := by
  intro behind apart
  apply stands_of_isLexeme
  have same : String.ofList (c :: rest) = word := by rw [← whole, String.ofList_toList]
  rw [whole, ← same]
  exact .word letter parts fun next first => (apart next first).1

/-- The keyword of definitions stands in front of what does not continue a word. -/
theorem solid_define : Solid (.define, "def") := by
  have spelled : "def".toList = ['d', 'e', 'f'] := rfl
  exact solid_word spelled (by decide) (by decide)

/-- So does the keyword of declarations. -/
theorem solid_declare : Solid (.declare, "extern") := by
  have spelled : "extern".toList = ['e', 'x', 't', 'e', 'r', 'n'] := rfl
  exact solid_word spelled (by decide) (by decide)

/-- Identifiers are solid. -/
theorem solid_identifier {name : String} (identifier : isIdentifier name = true) :
    Solid (.identifier, name) := by
  unfold isIdentifier at identifier
  cases whole : name.toList with
  | nil =>
    rw [whole] at identifier
    cases identifier
  | cons c rest =>
    rw [whole] at identifier
    simp only [Bool.and_eq_true, bne_iff_ne] at identifier
    obtain ⟨⟨⟨letter, parts⟩, noDefinition⟩, noDeclaration⟩ := identifier
    have kind : TokenKind.ofWord name = .identifier := by
      rw [TokenKind.ofWord, if_neg noDefinition, if_neg noDeclaration]
    exact kind ▸ solid_word whole letter parts

/-- Numbers are solid. -/
theorem solid_numeral {lexeme : String} (numeral : isNumeral lexeme = true) :
    Solid (.number, lexeme) := by
  simp only [isNumeral, Bool.and_eq_true] at numeral
  obtain ⟨⟨parts, digits⟩, _⟩ := numeral
  intro behind apart
  apply stands_of_isLexeme
  cases whole : lexeme.toList with
  | nil =>
    rw [whole] at digits
    cases digits
  | cons c rest => exact .number (whole ▸ parts) fun next first => (apart next first).2

end Lexeme

namespace Cursor

variable {cursor other : Cursor}

/-- Nothing is read where nothing is left. -/
theorem lexemes_of_nil (ends : cursor.rest = []) : cursor.lexemes = [] := by
  rw [lexemes_eq_nil_iff, kind_nextToken_eq_endOfInput_iff, rest_pastGap, ends, List.drop_nil]

/-- A lexeme that stands in front is read first. -/
theorem lexemes_of_stands {lexeme : Lexeme} (stands : lexeme.Stands other.rest)
    (front : cursor.rest = lexeme.2.toList ++ other.rest) :
    cursor.lexemes = lexeme :: other.lexemes := by
  have gap : cursor.pastGap.rest = lexeme.2.toList ++ other.rest := by
    rw [rest_pastGap, front, stands.noGap, List.drop_zero]
  have next : cursor.nextToken.bare = lexeme := by
    rw [bare_nextToken, gap, stands.front, String.ofList_toList]
  have more : cursor.nextToken.kind ≠ .endOfInput := by
    have kind : cursor.nextToken.kind = lexeme.1 := congrArg Prod.fst next
    exact kind ▸ stands.more
  have past : cursor.pastToken.rest = other.rest := by
    rw [rest_pastToken, gap, stands.front, List.drop_left]
  rw [lexemes_eq, if_neg more, next]
  congr 1
  apply lexemes_congr
  rw [rest_pastGap, rest_pastGap, past]

/-- **Lexemes with a blank between any two of them are read one after the other.** -/
theorem lexemes_of_spaced {words : List Lexeme} (solid : ∀ word ∈ words, word.Solid)
    (apart : Lexeme.Apart other.rest)
    (front : cursor.rest = (" ".intercalate (words.map Prod.snd)).toList ++ other.rest) :
    cursor.lexemes = words ++ other.lexemes := by
  rw [String.toList_intercalate] at front
  induction words generalizing cursor with
  | nil =>
    apply lexemes_congr
    rw [rest_pastGap, rest_pastGap]
    simp at front
    rw [front]
  | cons word words inductionHypothesis =>
    obtain ⟨solidWord, solidWords⟩ := List.forall_mem_cons.mp solid
    cases words with
    | nil =>
      simp at front
      exact lexemes_of_stands (solidWord _ apart) front
    | cons second words =>
      let later : Cursor := { cursor with
        rest := " ".toList.intercalate (((second :: words).map Prod.snd).map String.toList) ++
          other.rest }
      let gap : Cursor := { cursor with rest := ' ' :: later.rest }
      have laterLexemes : later.lexemes = second :: words ++ other.lexemes :=
        inductionHypothesis solidWords rfl
      have blank : gap.lexemes = later.lexemes := lexemes_of_blank (by decide) rfl
      have gapApart : Lexeme.Apart gap.rest := Lexeme.apart_cons (by decide) (by decide) _
      have split : cursor.rest = word.2.toList ++ gap.rest := by
        simp [front, gap, later]
      rw [lexemes_of_stands (solidWord _ gapApart) split, blank, laterLexemes]
      rfl

end Cursor

end Reckon
