import Reckon.Proofs.Reading.Abreast

/-!
# Trees are read alike

Readers that start abreast give trees that differ in their places only, or errors with the
same expectation, and stop abreast. Their depths may differ, as the texts differ in length.
-/

namespace Reckon

namespace Reader

variable {behind : List Lexeme} {cursor other : Cursor}

/-! ## Expressions -/

/-- The readers of expressions are abreast at the given depths wherever the cursors are. -/
structure ReadsAbreast (operators : Operators) (behind : List Lexeme) (depth deeper : Nat) :
    Prop where
  primary {cursor other : Cursor} (abreast : cursor.Abreast behind other) :
    Abreast behind Node.Alike (primary operators depth) (primary operators deeper) cursor other
  parenthesised {cursor other : Cursor} (abreast : cursor.Abreast behind other)
      (opens : other.nextToken.isSymbol '(' = true) :
    Abreast behind Node.Alike (parenthesised operators depth) (parenthesised operators deeper)
      cursor other
  named {cursor other : Cursor} (abreast : cursor.Abreast behind other)
      (kind : other.nextToken.kind = .identifier) :
    Abreast behind Node.Alike (named operators depth) (named operators deeper) cursor other
  arguments {cursor other : Cursor} (abreast : cursor.Abreast behind other) :
    Abreast behind Node.AllAlike (arguments operators depth) (arguments operators deeper) cursor
      other
  expression {cursor other : Cursor} (abreast : cursor.Abreast behind other) :
    Abreast behind Node.Alike (expression operators depth) (expression operators deeper) cursor
      other
  operation {cursor other : Cursor} (abreast : cursor.Abreast behind other) {least : Int}
      (notNegative : 0 ≤ least) {left leftToo : Node} (alike : left.Alike leftToo) :
    Abreast behind Node.Alike (operation operators depth least left)
      (operation operators deeper least leftToo) cursor other

/-- Numbers are read abreast. -/
theorem number_abreast (abreast : cursor.Abreast behind other)
    (kind : other.nextToken.kind = .number) :
    Abreast behind Node.Alike number number cursor other := by
  have more : other.nextToken.kind ≠ .endOfInput := by simp [kind]
  apply abreast_peek
  apply abreast_advance abreast more
  intro past
  rw [Token.lexeme_of_bare (abreast.bare_nextToken more).1]
  exact abreast_pure (.number _ _ _) past

section

variable {operators : Operators} {depth deeper : Nat}

/-- Operands are read abreast. -/
theorem primary_abreast (separated : Separated behind)
    (below : ReadsAbreast operators behind depth deeper) (abreast : cursor.Abreast behind other) :
    Abreast behind Node.Alike (primary operators (depth + 1)) (primary operators (deeper + 1))
      cursor other := by
  have next := abreast.nextToken separated
  have names : cursor.nextToken.kind = .identifier ↔ other.nextToken.kind = .identifier :=
    next.kind_eq_iff (by decide) (by decide)
  have numbers : cursor.nextToken.kind = .number ↔ other.nextToken.kind = .number :=
    next.kind_eq_iff (by decide) (by decide)
  rw [primary, primary]
  apply abreast_peek
  simp only [names, numbers, next.isSymbol_eq (show '(' ≠ ';' by decide)]
  by_cases name : other.nextToken.kind = .identifier
  · simpa only [if_pos name] using below.named abreast name
  · by_cases digits : other.nextToken.kind = .number
    · simpa only [if_neg name, if_pos digits] using number_abreast abreast digits
    · by_cases opens : other.nextToken.isSymbol '(' = true
      · simpa only [if_neg name, if_neg digits, if_pos opens] using
          below.parenthesised abreast opens
      · simpa only [if_neg name, if_neg digits, if_neg opens] using
          abreast_refuse .expression abreast

/-- Expressions in parentheses are read abreast. -/
theorem parenthesised_abreast (separated : Separated behind)
    (below : ReadsAbreast operators behind depth deeper) (abreast : cursor.Abreast behind other)
    (opens : other.nextToken.isSymbol '(' = true) :
    Abreast behind Node.Alike (parenthesised operators (depth + 1))
      (parenthesised operators (deeper + 1)) cursor other := by
  rw [parenthesised, parenthesised]
  apply abreast_advance abreast (by simp [kind_of_isSymbol opens])
  intro past
  apply (below.expression past).bind
  intro inner innerToo after afterToo alike abreast
  apply abreast_symbol separated abreast (by decide)
  exact fun _ _ past => abreast_pure alike past

/-- What begins with a name is read abreast. -/
theorem named_abreast (separated : Separated behind)
    (below : ReadsAbreast operators behind depth deeper) (abreast : cursor.Abreast behind other)
    (kind : other.nextToken.kind = .identifier) :
    Abreast behind Node.Alike (named operators (depth + 1)) (named operators (deeper + 1))
      cursor other := by
  have more : other.nextToken.kind ≠ .endOfInput := by simp [kind]
  rw [named, named]
  apply abreast_peek
  apply abreast_advance abreast more
  intro past
  apply abreast_peek
  rw [Token.lexeme_of_bare (abreast.bare_nextToken more).1,
    (past.nextToken separated).isSymbol_eq (show '(' ≠ ';' by decide)]
  by_cases opens : other.pastToken.nextToken.isSymbol '(' = true
  · rw [if_pos opens, if_pos opens]
    apply abreast_advance past (by simp [kind_of_isSymbol opens])
    intro inside
    apply abreast_peek
    rw [(inside.nextToken separated).isSymbol_eq (show ')' ≠ ';' by decide)]
    by_cases closes : other.pastToken.pastToken.nextToken.isSymbol ')' = true
    · rw [if_pos closes, if_pos closes]
      apply abreast_advance inside (by simp [kind_of_isSymbol closes])
      exact abreast_pure (Node.AllAlike.call .nil _ _ _)
    · rw [if_neg closes, if_neg closes]
      apply (below.arguments inside).bind
      intro arguments argumentsToo after afterToo alike abreast
      exact abreast_pure (alike.call _ _ _) abreast
  · rw [if_neg opens, if_neg opens]
    exact abreast_pure (.reference _ _ _) past

/-- Arguments are read abreast. -/
theorem arguments_abreast (separated : Separated behind)
    (below : ReadsAbreast operators behind depth deeper) (abreast : cursor.Abreast behind other) :
    Abreast behind Node.AllAlike (arguments operators (depth + 1))
      (arguments operators (deeper + 1)) cursor other := by
  rw [arguments, arguments]
  apply (below.expression abreast).bind
  intro first firstToo after afterToo alike abreast
  apply abreast_peek
  rw [(abreast.nextToken separated).isSymbol_eq (show ')' ≠ ';' by decide)]
  by_cases closes : afterToo.nextToken.isSymbol ')' = true
  · rw [if_pos closes, if_pos closes]
    apply abreast_advance abreast (by simp [kind_of_isSymbol closes])
    exact abreast_pure (.cons alike .nil)
  · rw [if_neg closes, if_neg closes]
    apply abreast_symbol separated abreast (by decide)
    intro next nextToo abreast
    apply (below.arguments abreast).bind
    intro others othersToo _ _ alikeOthers abreast
    exact abreast_pure (.cons alike alikeOthers) abreast

/-- The operand on its own, or with the operators behind it that bind tighter. -/
theorem takes_abreast (below : ReadsAbreast operators behind depth deeper)
    (abreast : cursor.Abreast behind other) {bound : Int} (notNegative : 0 ≤ bound) (next : Int)
    {operand operandToo : Node} (alike : operand.Alike operandToo) :
    Abreast behind Node.Alike
      (if bound < next then operation operators depth (bound + 1) operand else pure operand)
      (if bound < next then operation operators deeper (bound + 1) operandToo else pure operandToo)
      cursor other := by
  split
  · exact below.operation abreast (by omega) alike
  · exact abreast_pure alike abreast

/-- Rows of operators behind an operand are read abreast. -/
theorem operation_abreast (registered : operators.Registered) (separated : Separated behind)
    (below : ReadsAbreast operators behind depth deeper) (abreast : cursor.Abreast behind other)
    {least : Int} (notNegative : 0 ≤ least) {left leftToo : Node} (alike : left.Alike leftToo) :
    Abreast behind Node.Alike (operation operators (depth + 1) least left)
      (operation operators (deeper + 1) least leftToo) cursor other := by
  rw [operation, operation]
  apply abreast_peek
  rw [(abreast.nextToken separated).precedence_eq registered]
  by_cases ends : operators.precedence other.nextToken < least
  · rw [if_pos ends, if_pos ends]
    exact abreast_pure alike abreast
  · rw [if_neg ends, if_neg ends]
    have binds : 0 ≤ operators.precedence other.nextToken := by omega
    -- Only symbols bind, so the text goes on.
    have more : other.nextToken.kind ≠ .endOfInput := by
      intro ends
      have none := operators.precedence_of_kind_ne other.nextToken (by simp [ends])
      omega
    apply abreast_advance abreast more
    intro past
    apply (below.primary past).bind
    intro operand operandToo read readToo alikeOperand abreastRead
    apply abreast_peek
    rw [(abreastRead.nextToken separated).precedence_eq registered,
      Token.lexeme_of_bare (abreast.bare_nextToken more).1]
    apply (takes_abreast below abreastRead binds _ alikeOperand).bind
    intro right rightToo folded foldedToo alikeRight abreastFolded
    exact below.operation abreastFolded notNegative (.binary _ _ _ alike alikeRight)

end

/-- **Expressions are read abreast.** The depths may differ, as the texts differ in length. -/
theorem readsAbreast {operators : Operators} (registered : operators.Registered)
    (separated : Separated behind) (depth deeper : Nat) :
    ReadsAbreast operators behind depth deeper := by
  induction depth generalizing deeper with
  | zero => constructor <;> intros <;> exact abreast_exhausted _
  | succ depth inductionHypothesis =>
    cases deeper with
    | zero => constructor <;> intros <;> exact abreast_exhausted_right _
    | succ deeper =>
      have below := inductionHypothesis deeper
      constructor
      case primary =>
        intro cursor other abreast
        exact primary_abreast separated below abreast
      case parenthesised =>
        intro cursor other abreast opens
        exact parenthesised_abreast separated below abreast opens
      case named =>
        intro cursor other abreast kind
        exact named_abreast separated below abreast kind
      case arguments =>
        intro cursor other abreast
        exact arguments_abreast separated below abreast
      case expression =>
        intro cursor other abreast
        rw [expression, expression]
        apply (below.primary abreast).bind
        intro first firstToo after afterToo alike abreast
        exact below.operation abreast (Int.le_refl 0) alike
      case operation =>
        intro cursor other abreast least notNegative left leftToo alike
        exact operation_abreast registered separated below abreast notNegative alike

/-! ## Units -/

/-- Parameters are read abreast, at whatever depths are enough. -/
theorem parameters_abreast (separated : Separated behind) (depth deeper : Nat)
    (abreast : cursor.Abreast behind other) :
    Abreast behind Eq (parameters depth) (parameters deeper) cursor other := by
  induction depth generalizing deeper cursor other with
  | zero => exact abreast_exhausted _
  | succ depth inductionHypothesis =>
    cases deeper with
    | zero => exact abreast_exhausted_right _
    | succ deeper =>
      have names : cursor.nextToken.kind = .identifier ↔ other.nextToken.kind = .identifier :=
        (abreast.nextToken separated).kind_eq_iff (by decide) (by decide)
      rw [parameters, parameters]
      apply abreast_peek
      simp only [names]
      by_cases name : other.nextToken.kind = .identifier
      · have more : other.nextToken.kind ≠ .endOfInput := by simp [name]
        rw [if_pos name, if_pos name, Token.lexeme_of_bare (abreast.bare_nextToken more).1]
        apply abreast_advance abreast more
        intro past
        apply (inductionHypothesis deeper past).bind
        rintro names _ after afterToo rfl abreast
        exact abreast_pure rfl abreast
      · rw [if_neg name, if_neg name]
        exact abreast_pure rfl abreast

/-- Prototypes are read abreast. -/
theorem prototype_abreast (separated : Separated behind) (depth deeper : Nat)
    (abreast : cursor.Abreast behind other) :
    Abreast behind Prototype.Alike (prototype depth) (prototype deeper) cursor other := by
  have names : cursor.nextToken.kind = .identifier ↔ other.nextToken.kind = .identifier :=
    (abreast.nextToken separated).kind_eq_iff (by decide) (by decide)
  unfold prototype
  apply abreast_peek
  simp only [names]
  by_cases name : other.nextToken.kind = .identifier
  · have more : other.nextToken.kind ≠ .endOfInput := by simp [name]
    rw [if_pos name, if_pos name, Token.lexeme_of_bare (abreast.bare_nextToken more).1]
    apply abreast_advance abreast more
    intro past
    apply abreast_symbol separated past (by decide)
    intro opened openedToo abreast
    apply (parameters_abreast separated depth deeper abreast).bind
    rintro parameters _ listed listedToo rfl abreast
    apply abreast_symbol separated abreast (by decide)
    exact fun _ _ past => abreast_pure ⟨rfl, rfl⟩ past
  · rw [if_neg name, if_neg name]
    exact abreast_refuse .functionName abreast

/-- Definitions are read abreast. -/
theorem definition_abreast {operators : Operators} (registered : operators.Registered)
    (separated : Separated behind) (depth deeper : Nat) (abreast : cursor.Abreast behind other)
    (kind : other.nextToken.kind = .define) :
    Abreast behind Definition.Alike (definition operators depth) (definition operators deeper)
      cursor other := by
  unfold definition
  apply abreast_peek
  apply abreast_advance abreast (by simp [kind])
  intro past
  apply (prototype_abreast separated depth deeper past).bind
  intro header headerToo after afterToo alike abreast
  apply ((readsAbreast registered separated depth deeper).expression abreast).bind
  intro body bodyToo last lastToo alikeBody abreast
  exact abreast_pure ⟨alike, alikeBody⟩ abreast

/-- Declarations are read abreast. -/
theorem declaration_abreast (separated : Separated behind) (depth deeper : Nat)
    (abreast : cursor.Abreast behind other) (kind : other.nextToken.kind = .declare) :
    Abreast behind Prototype.Alike (declaration depth) (declaration deeper) cursor other :=
  abreast_advance abreast (by simp [kind]) fun past =>
    prototype_abreast separated depth deeper past

/-- Bare expressions are read abreast. -/
theorem anonymous_abreast {operators : Operators} (registered : operators.Registered)
    (separated : Separated behind) (depth deeper : Nat) (abreast : cursor.Abreast behind other) :
    Abreast behind Definition.Alike (anonymous operators depth) (anonymous operators deeper)
      cursor other := by
  apply ((readsAbreast registered separated depth deeper).expression abreast).bind
  intro body bodyToo last lastToo alike abreast
  exact abreast_pure (Definition.alike_anonymous alike) abreast

end Reader

/-- What readers without a depth answer is abreast. -/
theorem Reader.Abreast.read {α β : Type} {behind : List Lexeme} {alike : α → β → Prop}
    {left : Reader α} {right : Reader β} {cursor other : Cursor} {bound boundToo : Nat}
    (abreast : Abreast behind alike left right cursor other) (settles : left.Settles cursor bound)
    (settlesToo : right.Settles other boundToo) :
    (cursor.read left settles).Abreast behind alike (other.read right settlesToo) :=
  abreast _ _ (cursor.some_read left settles).symm (other.some_read right settlesToo).symm

/-- Units are formed of what was read. -/
theorem Outcome.Abreast.map {α β γ δ : Type} {behind : List Lexeme} {alike : α → β → Prop}
    {last : γ → δ → Prop} {outcome : Outcome α} {outcomeToo : Outcome β} {form : α → γ}
    {formToo : β → δ} (abreast : outcome.Abreast behind alike outcomeToo)
    (formed : ∀ value valueToo, alike value valueToo → last (form value) (formToo valueToo)) :
    (outcome.map form).Abreast behind last (outcomeToo.map formToo) := by
  cases abreast with
  | parsed same abreast => exact .parsed (formed _ _ same) abreast
  | failed expected abreast => exact .failed expected abreast

/-- **Units are read abreast.** -/
theorem Cursor.Abreast.readUnit {behind : List Lexeme} {operators : Operators}
    {cursor other : Cursor} (registered : operators.Registered) (separated : Separated behind)
    (abreast : cursor.Abreast behind other) :
    (cursor.readUnit operators).Abreast behind ProgramUnit.Alike (other.readUnit operators) := by
  have next := abreast.nextToken separated
  have defines : cursor.nextToken.kind = .define ↔ other.nextToken.kind = .define :=
    next.kind_eq_iff (by decide) (by decide)
  have declares : cursor.nextToken.kind = .declare ↔ other.nextToken.kind = .declare :=
    next.kind_eq_iff (by decide) (by decide)
  unfold Cursor.readUnit
  split
  case h_1 define =>
    rw [defines.mp define]
    have reads := Reader.definition_abreast registered separated cursor.depth other.depth abreast
      (defines.mp define)
    exact (reads.read _ _).map fun _ _ => .definition
  case h_2 declare =>
    rw [declares.mp declare]
    have reads := Reader.declaration_abreast separated cursor.depth other.depth abreast
      (declares.mp declare)
    exact (reads.read _ _).map fun _ _ => .declaration
  case h_3 noDefine noDeclare =>
    have reads := Reader.anonymous_abreast registered separated cursor.depth other.depth abreast
    split
    case h_1 define => exact (noDefine (defines.mpr define)).elim
    case h_2 declare => exact (noDeclare (declares.mpr declare)).elim
    case h_3 => exact (reads.read _ _).map fun _ _ => .expression

end Reckon
