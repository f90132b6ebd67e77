import Reckon.Proofs.Operators
import Reckon.Proofs.Reading.Recognition

/-!
# The grammar

    expression  ::= primary (operator primary)*
    primary     ::= number | '(' expression ')' | identifier
                  | identifier '(' [expression (',' expression)*] ')'
    prototype   ::= identifier '(' identifier* ')'
    definition  ::= 'def' prototype expression
    declaration ::= 'extern' prototype

The words are lists of tokens; an operator is any symbol of the table. Where a word
ends is told by the token behind it: an opening parenthesis continues a name, and an
operator continues an expression.
-/

namespace Reckon

namespace Grammar

variable (operators : Operators)

mutual

/-- The words that operands are read from. -/
inductive Primary : Words
  | number {token : Token} (kind : token.kind = .number) : Primary [token]
  | parenthesised {opening closing : Token} {inner : List Token}
      (opens : opening.isSymbol '(' = true) (isInner : Expression inner)
      (closes : closing.isSymbol ')' = true) : Primary (opening :: (inner ++ [closing]))
  | reference {name : Token} (kind : name.kind = .identifier) : Primary [name]
  | emptyCall {name opening closing : Token} (kind : name.kind = .identifier)
      (opens : opening.isSymbol '(' = true) (closes : closing.isSymbol ')' = true) :
      Primary [name, opening, closing]
  | call {name opening closing : Token} {arguments : List Token} (kind : name.kind = .identifier)
      (opens : opening.isSymbol '(' = true) (areArguments : Arguments arguments)
      (closes : closing.isSymbol ')' = true) : Primary (name :: opening :: (arguments ++ [closing]))

/-- The words that expressions are read from. -/
inductive Expression : Words
  | row {first others : List Token} (isFirst : Primary first) (areOthers : Operations others) :
      Expression (first ++ others)

/-- Operators, each with an operand behind it. -/
inductive Operations : Words
  | none : Operations []
  | more {operator : Token} {operand others : List Token}
      (isOperator : operators.IsOperator operator)
      (isOperand : Primary operand) (areOthers : Operations others) :
      Operations (operator :: (operand ++ others))

/-- One expression or more, with commas between them. -/
inductive Arguments : Words
  | one {argument : List Token} (isArgument : Expression argument) : Arguments argument
  | more {first others : List Token} {comma : Token} (isFirst : Expression first)
      (separates : comma.isSymbol ',' = true) (areOthers : Arguments others) :
      Arguments (first ++ comma :: others)

end

/-- The words that prototypes are read from. -/
inductive Header : Words
  | header {name opening closing : Token} {parameters : List Token}
      (kind : name.kind = .identifier) (opens : opening.isSymbol '(' = true)
      (kinds : ∀ parameter ∈ parameters, parameter.kind = .identifier)
      (closes : closing.isSymbol ')' = true) :
      Header (name :: opening :: (parameters ++ [closing]))

/-- The words that definitions are read from. -/
inductive Definition : Words
  | definition {keyword : Token} {header body : List Token} (kind : keyword.kind = .define)
      (isHeader : Header header) (isBody : Expression operators body) :
      Definition (keyword :: (header ++ body))

/-- The words that declarations are read from. -/
inductive Declaration : Words
  | declaration {keyword : Token} {header : List Token} (kind : keyword.kind = .declare)
      (isHeader : Header header) : Declaration (keyword :: header)

end Grammar

/-- A token is one symbol at most. -/
theorem eq_of_isSymbol {token : Token} {character other : Char}
    (symbol : token.isSymbol character = true) (symbolToo : token.isSymbol other = true) :
    character = other := by
  simp only [Token.isSymbol, Bool.and_eq_true, beq_iff_eq] at symbol symbolToo
  exact String.singleton_inj.mp (symbol.2.symm.trans symbolToo.2)

/-- A symbol is one character and no other. -/
theorem not_isSymbol {token : Token} {character : Char} (other : Char)
    (symbol : token.isSymbol character = true) (differ : character ≠ other) :
    token.isSymbol other = false := by
  cases found : token.isSymbol other with
  | false => rfl
  | true => exact (differ (eq_of_isSymbol symbol found)).elim

namespace Grammar

variable {operators : Operators}

/-- What may stand behind an operand. -/
def EndsOperand : Words := fun rest => ∀ token, rest.head? = some token → token.isSymbol '(' = false

variable (operators) in
/-- What may stand behind a row of operators of at least the given precedence. -/
def EndsRow (least : Int) : Words := fun rest =>
  ∀ token, rest.head? = some token →
    token.isSymbol '(' = false ∧ operators.precedence token < least

/-- A closing parenthesis. -/
def Closing : Words := fun word => ∃ token, word = [token] ∧ token.isSymbol ')' = true

variable (operators) in
/-- Operators of at least the given precedence, each with an operand behind it. -/
inductive OperationsFrom (least : Int) : Words
  | none : OperationsFrom least []
  | more {operator : Token} {operand others : List Token}
      (binds : least ≤ operators.precedence operator) (isOperand : Primary operators operand)
      (areOthers : OperationsFrom least others) :
      OperationsFrom least (operator :: (operand ++ others))

/-- Operators of any precedence are operators of precedence zero at least. -/
theorem operations_iff (word : List Token) :
    Operations operators word ↔ OperationsFrom operators 0 word := by
  constructor
  · intro isWord
    induction isWord using Operations.rec (motive_1 := fun _ _ => True)
      (motive_2 := fun _ _ => True) (motive_4 := fun _ _ => True) with
    | none => exact .none
    | more isOperator isOperand _ _ inductionHypothesis =>
      exact .more ((operators.isOperator_iff _).mp isOperator) isOperand inductionHypothesis
    | _ => trivial
  · intro isWord
    induction isWord with
    | none => exact .none
    | more binds isOperand _ inductionHypothesis =>
      exact .more ((operators.isOperator_iff _).mpr binds) isOperand inductionHypothesis

/-- An expression is an operand with operators behind it. -/
theorem expression_iff (word : List Token) :
    Expression operators word ↔
      Followed (Primary operators) (OperationsFrom operators 0) word := by
  constructor
  · rintro ⟨isFirst, areOthers⟩
    exact ⟨_, _, rfl, isFirst, (operations_iff _).mp areOthers⟩
  · rintro ⟨first, others, rfl, isFirst, areOthers⟩
    exact .row isFirst ((operations_iff _).mpr areOthers)

/-- The token that an operand begins with. -/
theorem Primary.head {word : List Token} (isWord : Primary operators word) :
    ∃ token rest, word = token :: rest ∧
      (token.kind = .number ∨ token.kind = .identifier ∨ token.isSymbol '(' = true) := by
  cases isWord with
  | number kind => exact ⟨_, _, rfl, .inl kind⟩
  | parenthesised opens _ _ => exact ⟨_, _, rfl, .inr (.inr opens)⟩
  | reference kind => exact ⟨_, _, rfl, .inr (.inl kind)⟩
  | emptyCall kind _ _ => exact ⟨_, _, rfl, .inr (.inl kind)⟩
  | call kind _ _ _ => exact ⟨_, _, rfl, .inr (.inl kind)⟩

/-- A token without a place. -/
def unplaced (kind : TokenKind) (lexeme : String) : Token :=
  { kind, lexeme, location := { file := "", line := 1, column := 0, offset := -1 } }

/-- Some word is an operand. -/
theorem primary_inhabited : ∃ word, Primary operators word := ⟨[unplaced .number "0"], .number rfl⟩

/-- Some word is an expression. -/
theorem expression_inhabited : ∃ word, Expression operators word :=
  ⟨[unplaced .number "0"] ++ [], .row (.number rfl) .none⟩

/-- Some word is a closing parenthesis. -/
theorem closing_inhabited : ∃ word, Closing word :=
  ⟨[unplaced .symbol ")"], _, rfl, rfl⟩

end Grammar

end Reckon
