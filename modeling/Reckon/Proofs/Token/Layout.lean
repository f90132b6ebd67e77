import Reckon.Proofs.Token.Segmentation

/-!
# Layout

The lexemes of a text can be written down with other gaps: any blanks and comments in front of
each, and behind the last of them also a comment that does not end. Two words or numbers need some
gap between them; a symbol keeps its neighbours apart by itself. What is read of the new text are
the same lexemes.
-/

namespace Reckon

/-! ## Gaps that end -/

/-- Blanks and comments, each comment with the end of its line. -/
inductive IsClosedGap : List Char → Prop
  | nothing : IsClosedGap []
  | blank {c : Char} {gap : List Char} (blank : Text.isBlank c = true) (more : IsClosedGap gap) :
      IsClosedGap (c :: gap)
  | comment {content gap : List Char} {ending : Char} (inside : ∀ c ∈ content, isLineEnd c = false)
      (ends : isLineEnd ending = true) (more : IsClosedGap gap) :
      IsClosedGap ('#' :: content ++ ending :: gap)

/-- What has ended is a gap whatever is behind it. -/
theorem IsClosedGap.isGap {gap : List Char} (closed : IsClosedGap gap) (behind : List Char) :
    IsGap gap behind := by
  induction closed with
  | nothing => exact .nothing behind
  | blank blank _ inductionHypothesis => exact .blank blank inductionHypothesis
  | comment inside ends _ inductionHypothesis =>
    refine .comment inside ?_ (.blank (isBlank_of_isLineEnd ends) inductionHypothesis)
    intro next first
    cases first
    exact ends

/-- A character of a word or a number is printed in ASCII. -/
theorem code_of_part {c : Char} (part : isWordPart c = true ∨ isNumberPart c = true) :
    46 ≤ c.toNat ∧ c.toNat ≤ 122 := by
  rcases part with word | number
  · simp only [isWordPart, Char.isAlphanum, Bool.or_eq_true] at word
    rcases word with letter | digit
    · have codes := code_of_isAlpha letter
      omega
    · have codes := code_of_isNumberPart (c := c) (by simp [isNumberPart, digit])
      omega
  · have codes := code_of_isNumberPart number
    omega

/-- What begins a gap continues no word and no number. -/
theorem IsGap.apart {c : Char} {gap behind : List Char} (isGap : IsGap (c :: gap) behind)
    (later : List Char) : Lexeme.Apart (c :: later) := by
  have noPart : ¬ (isWordPart c = true ∨ isNumberPart c = true) := by
    intro part
    have codes := code_of_part part
    cases isGap with
    | blank blank _ =>
      have noBlank : Text.isBlank c = false := not_isBlank (by omega) (by omega)
      rw [noBlank] at blank
      cases blank
    | comment => exact absurd codes (by decide)
  rw [not_or, Bool.not_eq_true, Bool.not_eq_true] at noPart
  exact Lexeme.apart_cons noPart.1 noPart.2 later

/-! ## Lexemes with gaps -/

/-- A lexeme of the kind of symbols is a single character that starts nothing else. -/
theorem IsLexeme.exists_symbol {kind : TokenKind} {lexeme behind : List Char}
    (isLexeme : IsLexeme kind lexeme behind) (isSymbol : kind = .symbol) :
    ∃ c, lexeme = [c] ∧ isSymbolCharacter c = true := by
  cases isLexeme with
  | word => exact ((TokenKind.ofWord_ne _).2.2 isSymbol).elim
  | number => cases isSymbol
  | symbol symbol => exact ⟨_, rfl, symbol⟩

/-- A symbol continues no word and no number. -/
theorem apart_of_isSymbolCharacter {c : Char} (symbol : isSymbolCharacter c = true)
    (later : List Char) : Lexeme.Apart (c :: later) := by
  simp only [isSymbolCharacter, isNumberPart, Bool.not_or, Bool.and_eq_true, Bool.not_eq_true']
    at symbol
  apply Lexeme.apart_cons
  · simp [isWordPart, Char.isAlphanum, symbol]
  · simp [isNumberPart, symbol]

namespace Lexeme

/-- A word or a number, as opposed to a symbol. -/
def IsRun (lexeme : Lexeme) : Prop := lexeme.1 ≠ .symbol

/-- The lexeme is one of its kind in front of some text. -/
def Proper (lexeme : Lexeme) : Prop := ∃ behind, IsLexeme lexeme.1 lexeme.2.toList behind

/-- A symbol is a lexeme in front of anything, and a run in front of what does not continue it. -/
theorem Proper.isLexeme {lexeme : Lexeme} (proper : lexeme.Proper) {behind : List Char}
    (apart : lexeme.IsRun → Apart behind) : IsLexeme lexeme.1 lexeme.2.toList behind := by
  obtain ⟨kind, word⟩ := lexeme
  obtain ⟨other, isLexeme⟩ := proper
  simp only at isLexeme ⊢
  generalize word.toList = characters at isLexeme
  cases isLexeme with
  | word letter parts _ =>
    have ends := apart (TokenKind.ofWord_ne _).2.2
    exact .word letter parts fun next first => (ends next first).1
  | number parts _ =>
    exact .number parts fun next first => (apart nofun next first).2
  | symbol symbol => exact .symbol symbol

end Lexeme

/-- The text of the lexemes with a gap in front of each and one behind the last. -/
def laidOut : (Nat → List Char) → List Lexeme → List Char
  | gaps, [] => gaps 0
  | gaps, word :: rest =>
    gaps 0 ++ (word.2.toList ++ laidOut (fun number => gaps (number + 1)) rest)

/-- Gaps that lexemes can be written down with: each has ended where a lexeme follows, and it is not
empty between two words or numbers. -/
structure IsLayout (gaps : Nat → List Char) (words : List Lexeme) : Prop where
  closed (number : Nat) (inside : number < words.length) : IsClosedGap (gaps number)
  last : IsGap (gaps words.length) []
  parted (number : Nat) {left right : Lexeme} (first : words[number]? = some left)
    (second : words[number + 1]? = some right) (run : left.IsRun) (runToo : right.IsRun) :
    gaps (number + 1) ≠ []

namespace IsLayout

variable {gaps : Nat → List Char} {word : Lexeme} {words : List Lexeme}

/-- Behind the first word, the gaps lay out the others. -/
theorem tail (layout : IsLayout gaps (word :: words)) :
    IsLayout (fun number => gaps (number + 1)) words where
  closed number inside := layout.closed (number + 1) (Nat.succ_lt_succ inside)
  last := layout.last
  parted number _ _ first second := layout.parted (number + 1) first second

/-- Some text begins with a gap in front of what is behind it. -/
theorem exists_gap (layout : IsLayout gaps words) :
    ∃ behind, laidOut gaps words = gaps 0 ++ behind ∧ IsGap (gaps 0) behind := by
  cases words with
  | nil => exact ⟨[], (List.append_nil _).symm, layout.last⟩
  | cons word words => exact ⟨_, rfl, (layout.closed 0 (Nat.succ_pos _)).isGap _⟩

/-- A word or a number is not continued by what is laid out behind it. -/
theorem apart_of_isRun (layout : IsLayout gaps (word :: words)) (run : word.IsRun)
    (proper : ∀ word ∈ words, word.Proper) :
    Lexeme.Apart (laidOut (fun number => gaps (number + 1)) words) := by
  obtain ⟨behind, same, isGap⟩ := layout.tail.exists_gap
  cases gap : gaps 1 with
  | cons c later =>
    rw [same, gap]
    exact (gap ▸ isGap).apart _
  | nil =>
    -- Without a gap there is a symbol, or nothing at all.
    cases words with
    | nil =>
      change Lexeme.Apart (gaps 1)
      exact gap ▸ Lexeme.apart_nil
    | cons next words =>
      have isSymbol : next.1 = .symbol :=
        Decidable.not_not.mp fun runToo => layout.parted 0 rfl rfl run runToo gap
      obtain ⟨_, isLexeme⟩ := proper next List.mem_cons_self
      obtain ⟨c, single, symbol⟩ := isLexeme.exists_symbol isSymbol
      change Lexeme.Apart (gaps 1 ++ (next.2.toList ++ _))
      rw [gap, List.nil_append, single]
      exact apart_of_isSymbolCharacter symbol _

end IsLayout

namespace Cursor

/-- A gap in front changes no lexeme. -/
theorem lexemes_of_gap {cursor other : Cursor} {gap : List Char} (isGap : IsGap gap other.rest)
    (noGap : gapLength false other.rest = 0) (front : cursor.rest = gap ++ other.rest) :
    cursor.lexemes = other.lexemes := by
  apply lexemes_congr
  rw [rest_pastGap, rest_pastGap, front, isGap.gapLength_append noGap, noGap, List.drop_left]
  rfl

/-- **Lexemes that are laid out are read one after the other.** -/
theorem lexemes_laidOut {words : List Lexeme} (proper : ∀ word ∈ words, word.Proper)
    {gaps : Nat → List Char} (layout : IsLayout gaps words) {cursor : Cursor}
    (front : cursor.rest = laidOut gaps words) : cursor.lexemes = words := by
  induction words generalizing gaps cursor with
  | nil =>
    let ending : Cursor := { cursor with rest := [] }
    have whole : cursor.rest = gaps 0 ++ ending.rest := front.trans (List.append_nil _).symm
    rw [lexemes_of_gap layout.last rfl whole, lexemes_of_nil rfl]
  | cons word words inductionHypothesis =>
    obtain ⟨properWord, properLater⟩ := List.forall_mem_cons.mp proper
    let later : Cursor :=
      { cursor with rest := laidOut (fun number => gaps (number + 1)) words }
    let there : Cursor := { cursor with rest := word.2.toList ++ later.rest }
    have isLexeme : IsLexeme word.1 word.2.toList later.rest :=
      properWord.isLexeme fun run => layout.apart_of_isRun run properLater
    have isGap : IsGap (gaps 0) there.rest := (layout.closed 0 (Nat.succ_pos _)).isGap _
    rw [lexemes_of_gap isGap isLexeme.noGap front,
      lexemes_of_stands (Lexeme.stands_of_isLexeme isLexeme) rfl,
      inductionHypothesis properLater layout.tail rfl]

/-- The lexemes of a text are proper, and the end of input is behind them. -/
theorem lexemes_start (file : String) (source : List Char) :
    (start file source).tokens.map Token.bare =
        (start file source).lexemes ++ [(.endOfInput, "")] ∧
      ∀ word ∈ (start file source).lexemes, word.Proper := by
  obtain ⟨tokens, read, segmentation⟩ := exists_segmentation file source (Nat.zero_le _)
  rw [← tokens_start] at read
  have words : (start file source).lexemes = tokens.map Token.bare := by
    rw [lexemes, read, List.map_append, List.map_singleton, List.dropLast_concat]
  refine ⟨?_, ?_⟩
  · rw [words, read, List.map_append]
    rfl
  · intro word among
    rw [words] at among
    obtain ⟨token, member, rfl⟩ := List.mem_map.mp among
    exact ⟨_, (segmentation.stretches token member).whole⟩

/-- **Layout does not matter for lexemes.** -/
theorem lexemes_of_layout (file fileToo : String) (source : List Char) {gaps : Nat → List Char}
    (layout : IsLayout gaps (start file source).lexemes) :
    (start fileToo (laidOut gaps (start file source).lexemes)).lexemes =
      (start file source).lexemes := by
  let text : Cursor := { start fileToo [] with rest := laidOut gaps (start file source).lexemes }
  have opened : (start fileToo (laidOut gaps (start file source).lexemes)).lexemes =
      text.lexemes := lexemes_of_blank (by decide) rfl
  rw [opened]
  exact lexemes_laidOut (lexemes_start file source).2 layout rfl

end Cursor

end Reckon
