import Reckon.Operators
import Reckon.Proofs.Catalog

/-!
# Tables that registration reaches

A table of a session is the standard one with operators registered one after the other.
Its keys are characters that no word, number, blank or punctuation of the grammar uses,
and its precedences are positive.
-/

namespace Reckon

/-- An operator character is neither part of a word nor blank, and none of the characters that have
a meaning of their own. -/
theorem isOperatorCharacter_iff (c : Char) :
    isOperatorCharacter c = true ↔
      Text.isAlphanumeric c = false ∧ Text.isBlank c = false ∧
        c ∉ ['(', ')', ',', ';', '#', '.'] := by
  simp [isOperatorCharacter, isReserved, and_assoc]

namespace Operators

/-- The standard table and what registration makes of it. -/
inductive Registered : Operators → Prop
  | standard : Registered .standard
  | register {operators next : Operators} (operator precedence : Datum)
      (earlier : Registered operators)
      (accepted : operators.register operator precedence = .ok next) : Registered next

/-- Registration files a usable character with a positive precedence. -/
theorem register_eq_ok {operators next : Operators} {operator precedence : Datum}
    (accepted : operators.register operator precedence = .ok next) :
    ∃ character strength, isOperatorCharacter character = true ∧ 0 < strength ∧
      next = operators.put character strength := by
  unfold register at accepted
  cases given : operatorCharacter operator with
  | error error =>
    rw [given] at accepted
    cases accepted
  | ok character =>
    cases wanted : givenPrecedence precedence with
    | error error =>
      rw [given, wanted] at accepted
      cases accepted
    | ok strength =>
      rw [given, wanted] at accepted
      refine ⟨character, strength, ?_, ?_, (Except.ok.inj accepted).symm⟩
      · unfold operatorCharacter at given
        split at given
        · split at given
          · split at given
            case isTrue usable => exact Except.ok.inj given ▸ usable
            case isFalse => cases given
          · cases given
        · cases given
      · unfold givenPrecedence at wanted
        split at wanted
        · split at wanted
          · have positive := Except.ok.inj wanted
            omega
          · cases wanted
        · cases wanted

/-- Every entry of a table is a usable character with a positive precedence. -/
theorem Registered.entry {operators : Operators} (registered : Registered operators)
    {character : Char} {strength : Nat} (found : operators.get? character = some strength) :
    isOperatorCharacter character = true ∧ 0 < strength := by
  induction registered generalizing strength with
  | standard =>
    have usual : ∀ entry ∈ Operators.standard.entries,
        isOperatorCharacter entry.1 = true ∧ 0 < entry.2 := by
      decide +kernel
    exact usual (character, strength) (Catalog.mem_of_find? found)
  | register operator precedence _ accepted inductionHypothesis =>
    obtain ⟨filed, filedStrength, usable, positive, rfl⟩ := register_eq_ok accepted
    rw [Catalog.get?_put] at found
    by_cases same : filed = character
    · rw [if_pos same] at found
      cases found
      exact same ▸ ⟨usable, positive⟩
    · rw [if_neg same] at found
      exact inductionHypothesis found

/-- A token is an operator if it is a symbol of the table. -/
def IsOperator (operators : Operators) (token : Token) : Prop :=
  ∃ character strength, token.isSymbol character = true ∧ operators.get? character = some strength

/-- The precedence of a symbol is that of its character. -/
theorem precedence_of_isSymbol (operators : Operators) {token : Token} {character : Char}
    (symbol : token.isSymbol character = true) :
    operators.precedence token =
      match operators.get? character with
      | some strength => strength
      | none => -1 := by
  simp only [Token.isSymbol, Bool.and_eq_true, beq_iff_eq] at symbol
  have single : token.lexeme.toList = [character] := by
    rw [symbol.2, Char.toString, String.toList_singleton]
  cases found : operators.get? character <;>
    simp only [precedence, if_pos symbol.1, single, found]

/-- Operators are the tokens with a precedence that is not negative. -/
theorem isOperator_iff (operators : Operators) (token : Token) :
    operators.IsOperator token ↔ 0 ≤ operators.precedence token := by
  constructor
  · rintro ⟨character, strength, symbol, found⟩
    rw [precedence_of_isSymbol operators symbol, found]
    exact Int.natCast_nonneg strength
  · intro notNegative
    have kind : token.kind = .symbol := by
      apply Classical.byContradiction
      intro other
      rw [operators.precedence_of_kind_ne token other] at notNegative
      omega
    obtain ⟨character, single⟩ : ∃ character, token.lexeme.toList = [character] := by
      rw [precedence, if_pos kind] at notNegative
      split at notNegative
      case h_1 character single => exact ⟨character, single⟩
      case h_2 => omega
    have symbol : token.isSymbol character = true := by
      have lexeme : token.lexeme = character.toString := by
        rw [← String.ofList_toList (s := token.lexeme), single]
        rfl
      simp [Token.isSymbol, kind, lexeme]
    rw [precedence_of_isSymbol operators symbol] at notNegative
    cases found : operators.get? character with
    | some strength => exact ⟨character, strength, symbol, found⟩
    | none =>
      rw [found] at notNegative
      cases notNegative

/-- A token that is none of the keys is no operator. -/
theorem precedence_of_no_key (operators : Operators) {token : Token}
    (noKey : ∀ character ∈ operators.keys, token.isSymbol character = false) :
    operators.precedence token = -1 := by
  have atLeast := operators.neg_one_le_precedence token
  have negative : ¬ 0 ≤ operators.precedence token := by
    intro notNegative
    obtain ⟨character, strength, symbol, found⟩ := (operators.isOperator_iff token).mpr notNegative
    have key := (operators.get?_isSome_iff character).mp (Option.isSome_of_eq_some found)
    rw [noKey character key] at symbol
    cases symbol
  omega

/-- Punctuation of the grammar is no operator. -/
theorem Registered.precedence_of_isReserved {operators : Operators}
    (registered : Registered operators) {token : Token} {character : Char}
    (symbol : token.isSymbol character = true) (reserved : isReserved character = true) :
    operators.precedence token = -1 := by
  rw [precedence_of_isSymbol operators symbol]
  cases found : operators.get? character with
  | none => rfl
  | some strength =>
    have usable := (registered.entry found).1
    simp [isOperatorCharacter, reserved] at usable

/-! ## Offers -/

/-- The table after an operator and its precedence were offered. A refusal leaves it as it is. -/
def offer (operators : Operators) (call : Datum × Datum) : Operators :=
  match operators.register call.1 call.2 with
  | .ok next => next
  | .error _ => operators

/-- A usable character is taken with any positive precedence. -/
theorem register_text (operators : Operators) {character : Char} {strength : Int}
    (usable : isOperatorCharacter character = true) (positive : 0 < strength) :
    operators.register (.text character.toString) (.integer strength) =
      .ok (operators.put character strength.toNat) := by
  have single : character.toString.toList = [character] := by
    rw [Char.toString, String.toList_singleton]
  have given : operatorCharacter (.text character.toString) = .ok character := by
    simp only [operatorCharacter, single, if_pos usable]
  have wanted : givenPrecedence (.integer strength) = .ok strength.toNat := by
    simp only [givenPrecedence, if_pos positive]
  rw [register, given, wanted]
  rfl

/-- A table that takes an offer in, or refuses it, is a registered table again. -/
theorem Registered.offer {operators : Operators} (registered : Registered operators)
    (call : Datum × Datum) : Registered (operators.offer call) := by
  unfold Operators.offer
  split
  case h_1 next accepted => exact .register call.1 call.2 registered accepted
  case h_2 => exact registered

/-- Whatever is offered, the table stays one that registration reaches. -/
theorem Registered.foldl_offer {operators : Operators} (registered : Registered operators)
    (calls : List (Datum × Datum)) : Registered (calls.foldl Operators.offer operators) := by
  induction calls generalizing operators with
  | nil => exact registered
  | cons call rest inductionHypothesis => exact inductionHypothesis (registered.offer call)

/-- An operator is never removed. -/
theorem Registered.usual {operators : Operators} (registered : Registered operators)
    {character : Char} (usual : character ∈ Operators.standard.keys) :
    character ∈ operators.keys := by
  induction registered with
  | standard => exact usual
  | register operator precedence _ accepted inductionHypothesis =>
    obtain ⟨filed, strength, _, _, rfl⟩ := register_eq_ok accepted
    rw [Catalog.keys_put]
    split
    · exact inductionHypothesis
    · exact List.mem_append_left _ inductionHypothesis

end Operators

end Reckon
