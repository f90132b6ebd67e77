import Reckon.Proofs.Reading.Grammar

/-!
# Words in parts

A reader that looks at one token settles what a word begins with, and reads the rest of
it. For that, the words of the grammar that begin with a given token are taken apart at
that token; rows of operators are also taken apart where the operators stop binding
tightly. What may stand behind a part is what may stand behind the word, or the next
part.
-/

namespace Reckon

namespace Grammar

variable {operators : Operators}

/-! ## What may stand where -/

/-- A closing parenthesis may stand behind an expression. -/
theorem endsRow_of_closing (registered : operators.Registered) {token : Token} {rest : List Token}
    (closes : token.isSymbol ')' = true) : EndsRow operators 0 (token :: rest) := by
  intro first same
  cases same
  refine ⟨not_isSymbol '(' closes (by decide), ?_⟩
  rw [registered.precedence_of_isReserved closes (by decide)]
  decide

/-- A comma may, too. -/
theorem endsRow_of_comma (registered : operators.Registered) {token : Token} {rest : List Token}
    (separates : token.isSymbol ',' = true) : EndsRow operators 0 (token :: rest) := by
  intro first same
  cases same
  refine ⟨not_isSymbol '(' separates (by decide), ?_⟩
  rw [registered.precedence_of_isReserved separates (by decide)]
  decide

/-- An operator is no opening parenthesis. -/
theorem not_opening_of_operator (registered : operators.Registered) {token : Token} {least : Int}
    (notNegative : 0 ≤ least) (binds : least ≤ operators.precedence token) :
    token.isSymbol '(' = false := by
  cases found : token.isSymbol '(' with
  | false => rfl
  | true =>
    have none := registered.precedence_of_isReserved found (by decide)
    omega

/-- Operators may stand behind an operand. -/
theorem endsOperand_of_operations (registered : operators.Registered) {least : Int}
    (notNegative : 0 ≤ least) {word rest : List Token}
    (isWord : OperationsFrom operators least word)
    (ends : EndsRow operators least rest) : EndsOperand (word ++ rest) := by
  intro token first
  cases isWord with
  | none => exact (ends token first).1
  | more binds _ _ =>
    cases first
    exact not_opening_of_operator registered notNegative binds

/-! ## Rows in two parts -/

/-- Operators behind operators are operators. -/
theorem OperationsFrom.append {least : Int} {front back : List Token}
    (isFront : OperationsFrom operators least front)
    (isBack : OperationsFrom operators least back) :
    OperationsFrom operators least (front ++ back) := by
  induction isFront with
  | none => exact isBack
  | more binds isOperand _ inductionHypothesis =>
    rw [List.cons_append, List.append_assoc]
    exact .more binds isOperand inductionHypothesis

/-- Operators of at least one precedence are operators of at least any lesser one. -/
theorem OperationsFrom.weaken {least less : Int} {word : List Token}
    (isWord : OperationsFrom operators least word) (le : less ≤ least) :
    OperationsFrom operators less word := by
  induction isWord with
  | none => exact .none
  | more binds isOperand _ inductionHypothesis =>
    exact .more (Int.le_trans le binds) isOperand inductionHypothesis

variable (operators) in
/-- Rows of at least one precedence whose first operator, if there is one, binds less than
another. -/
def StartsBelow (least bound : Int) : Words := fun word =>
  OperationsFrom operators least word ∧
    ∀ token, word.head? = some token → operators.precedence token < bound

/-- A row falls into its longest front part of operators of a greater precedence, and the rest. -/
theorem operations_split {least bound : Int} (le : least ≤ bound) (word : List Token) :
    OperationsFrom operators least word ↔
      Followed (OperationsFrom operators bound) (StartsBelow operators least bound) word := by
  constructor
  · intro isWord
    induction isWord with
    | none => exact ⟨[], [], rfl, .none, .none, fun _ first => by cases first⟩
    | @more operator operand others binds isOperand areOthers inductionHypothesis =>
      by_cases tight : bound ≤ operators.precedence operator
      · obtain ⟨front, back, rfl, isFront, isBack⟩ := inductionHypothesis
        exact ⟨operator :: (operand ++ front), back, by simp, .more tight isOperand isFront, isBack⟩
      · refine ⟨[], operator :: (operand ++ others), rfl, .none,
          .more binds isOperand areOthers, ?_⟩
        intro token first
        cases first
        omega
  · rintro ⟨front, back, rfl, isFront, isBack, _⟩
    exact (isFront.weaken le).append isBack

/-! ## Words by their first token -/

/-- A word that begins with a number is that number. -/
theorem Primary.of_number {word rest : List Token} {token : Token} (kind : token.kind = .number)
    (isWord : Primary operators word) (first : (word ++ rest).head? = some token) :
    word = [token] := by
  cases isWord with
  | number _ =>
    cases first
    rfl
  | parenthesised opens _ _ =>
    cases first
    cases kind.symm.trans (Reader.kind_of_isSymbol opens)
  | reference kindToo | emptyCall kindToo _ _ | call kindToo _ _ _ =>
    cases first
    cases kind.symm.trans kindToo

/-- An expression and a closing parenthesis. -/
abbrev Enclosed (operators : Operators) : Words := Followed (Expression operators) Closing

/-- Behind an opening parenthesis that an operand begins with stand an expression and a closing
parenthesis. -/
theorem Primary.of_opening {word rest : List Token} {token : Token}
    (opens : token.isSymbol '(' = true) (isWord : Primary operators word)
    (first : (word ++ rest).head? = some token) :
    ∃ later, word = token :: later ∧ Enclosed operators later := by
  cases isWord with
  | parenthesised _ isInner closes =>
    cases first
    exact ⟨_, rfl, _, _, rfl, isInner, _, rfl, closes⟩
  | number kind | reference kind | emptyCall kind _ _ | call kind _ _ _ =>
    cases first
    cases kind.symm.trans (Reader.kind_of_isSymbol opens)

/-- Arguments and a closing parenthesis. -/
abbrev ArgumentsClosed (operators : Operators) : Words := Followed (Arguments operators) Closing

/-- What stands behind the opening parenthesis of a call. -/
def CallRest (operators : Operators) : Words := fun word =>
  Closing word ∨ ArgumentsClosed operators word

/-- What stands behind a name: nothing, or the rest of a call between parentheses. -/
def NamedRest (operators : Operators) : Words := fun word =>
  word = [] ∨ ∃ opening later, word = opening :: later ∧ opening.isSymbol '(' = true ∧
    CallRest operators later

/-- An operand that begins with a name is the name, or a call. -/
theorem primary_iff_of_name {token : Token} (kind : token.kind = .identifier) {word : List Token} :
    (∃ rest, (word ++ rest).head? = some token ∧ Primary operators word) ↔
      ∃ later, word = token :: later ∧ NamedRest operators later := by
  constructor
  · rintro ⟨rest, first, isWord⟩
    cases isWord with
    | number kindToo =>
      cases first
      cases kind.symm.trans kindToo
    | parenthesised opens _ _ =>
      cases first
      cases kind.symm.trans (Reader.kind_of_isSymbol opens)
    | reference _ =>
      cases first
      exact ⟨[], rfl, .inl rfl⟩
    | emptyCall _ opens closes =>
      cases first
      exact ⟨_, rfl, .inr ⟨_, _, rfl, opens, .inl ⟨_, rfl, closes⟩⟩⟩
    | call _ opens areArguments closes =>
      cases first
      exact ⟨_, rfl, .inr ⟨_, _, rfl, opens, .inr ⟨_, _, rfl, areArguments, _, rfl, closes⟩⟩⟩
  · rintro ⟨later, rfl, rfl | ⟨opening, inner, rfl, opens, ⟨closing, rfl, closes⟩ |
      ⟨arguments, last, rfl, areArguments, closing, rfl, closes⟩⟩⟩
    · exact ⟨[], rfl, .reference kind⟩
    · exact ⟨[], rfl, .emptyCall kind opens closes⟩
    · exact ⟨[], rfl, .call kind opens areArguments closes⟩

/-- A comma and the arguments behind it. -/
def MoreArguments (operators : Operators) : Words := fun word =>
  ∃ comma later, word = comma :: later ∧ comma.isSymbol ',' = true ∧ ArgumentsClosed operators later

/-- What stands behind an argument: the end of the arguments, or more of them. -/
def ArgumentsRest (operators : Operators) : Words := fun word =>
  Closing word ∨ MoreArguments operators word

/-- Arguments up to their parenthesis are an expression and what stands behind an argument. -/
theorem argumentsClosed_iff (word : List Token) :
    ArgumentsClosed operators word ↔
      Followed (Expression operators) (ArgumentsRest operators) word := by
  constructor
  · rintro ⟨arguments, last, rfl, areArguments, isLast⟩
    cases areArguments with
    | one isArgument => exact ⟨_, _, rfl, isArgument, .inl isLast⟩
    | more isFirst separates areOthers =>
      exact ⟨_, _, List.append_assoc .., isFirst,
        .inr ⟨_, _, rfl, separates, _, _, rfl, areOthers, isLast⟩⟩
  · rintro ⟨argument, last, rfl, isArgument,
      isLast | ⟨comma, later, rfl, separates, others, closing, rfl, areOthers, isClosing⟩⟩
    · exact ⟨_, _, rfl, .one isArgument, isLast⟩
    · exact ⟨argument ++ comma :: others, closing, by simp, .more isArgument separates areOthers,
        isClosing⟩

end Grammar

end Reckon
