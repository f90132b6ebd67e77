import Reckon.Proofs.Operators
import Reckon.Proofs.Token.Spacing
import Reckon.Reading.Program

/-!
# Writing programs

An expression is written with each operator between its operands. An operand goes between
parentheses if it is an operation that would be taken apart otherwise: to the left of an
operator that binds more tightly than its own, or to the right of one that binds as tightly or
more. Parentheses may stand around any other expression too. There is a blank between two
lexemes of a unit and a semicolon between two units.
-/

namespace Reckon

/-- A symbol of the text. -/
def mark (c : Char) : Lexeme := (.symbol, c.toString)

/-- An expression to be written. Only parentheses that could be left out are part of it. -/
inductive Phrase where
  | numeral (lexeme : String)
  | name (word : String)
  | operation (operator : Char) (left right : Phrase)
  | call (callee : String) (arguments : List Phrase)
  | enclosed (inner : Phrase)

namespace Phrase

mutual

/-- The tree of an expression. Parentheses leave no trace in it. -/
def tree : Phrase → Node
  | numeral lexeme => .number (lexemeValue lexeme) none
  | name word => .reference word none
  | operation operator left right => .binary operator.toString left.tree right.tree none
  | call callee arguments => .call callee (trees arguments) none
  | enclosed inner => inner.tree

/-- The trees of a list of expressions. -/
def trees : List Phrase → List Node
  | [] => []
  | phrase :: rest => phrase.tree :: trees rest

end

/-- The precedence of the operator that an expression has at its top, where it shows. -/
def strength? (operators : Operators) : Phrase → Option Nat
  | operation operator _ _ => operators.get? operator
  | _ => none

/-- Puts parentheses around lexemes. -/
def parenthesised (words : List Lexeme) : List Lexeme := mark '(' :: (words ++ [mark ')'])

/-- Puts parentheses around an operand if they are needed. -/
def asOperand (needed : Bool) (words : List Lexeme) : List Lexeme :=
  if needed then parenthesised words else words

mutual

/-- The lexemes that an expression is written with. -/
def words (operators : Operators) : Phrase → List Lexeme
  | numeral lexeme => [(.number, lexeme)]
  | name word => [(.identifier, word)]
  | operation operator left right =>
    let strength := (operators.get? operator).getD 0
    asOperand ((left.strength? operators).any (· < strength)) (left.words operators) ++
      mark operator ::
        asOperand ((right.strength? operators).any (· ≤ strength)) (right.words operators)
  | call callee arguments =>
    (.identifier, callee) :: parenthesised ([mark ','].intercalate (allWords operators arguments))
  | enclosed inner => parenthesised (inner.words operators)

/-- The lexemes of each of a list of expressions. -/
def allWords (operators : Operators) : List Phrase → List (List Lexeme)
  | [] => []
  | phrase :: rest => phrase.words operators :: allWords operators rest

end

/-- Everything in the expression can be written: names are identifiers, numbers have digits and
one point at most, and operators are those of the table. -/
inductive Fits (operators : Operators) : Phrase → Prop
  | numeral {lexeme : String} (fits : isNumeral lexeme = true) : Fits operators (numeral lexeme)
  | name {word : String} (fits : isIdentifier word = true) : Fits operators (name word)
  | operation {operator : Char} {left right : Phrase} {strength : Nat}
      (found : operators.get? operator = some strength) (fitsLeft : Fits operators left)
      (fitsRight : Fits operators right) : Fits operators (operation operator left right)
  | call {callee : String} {arguments : List Phrase} (fits : isIdentifier callee = true)
      (fitArguments : ∀ argument ∈ arguments, Fits operators argument) :
      Fits operators (call callee arguments)
  | enclosed {inner : Phrase} (fits : Fits operators inner) : Fits operators (enclosed inner)

end Phrase

/-- A unit to be written. -/
inductive Clause where
  | definition (name : String) (parameters : List String) (body : Phrase)
  | declaration (name : String) (parameters : List String)
  | expression (body : Phrase)

namespace Clause

/-- The unit itself. -/
def unit : Clause → ProgramUnit
  | definition name parameters body => .definition
      { prototype := { name, parameters, location := none }, body := body.tree, location := none }
  | declaration name parameters => .declaration { name, parameters, location := none }
  | expression body => .expression (.anonymous body.tree)

/-- The lexemes of a prototype. -/
def header (name : String) (parameters : List String) : List Lexeme :=
  (.identifier, name) :: Phrase.parenthesised (parameters.map fun parameter =>
    (.identifier, parameter))

/-- The lexemes that a unit is written with. -/
def words (operators : Operators) : Clause → List Lexeme
  | definition name parameters body =>
    (.define, "def") :: (header name parameters ++ body.words operators)
  | declaration name parameters => (.declare, "extern") :: header name parameters
  | expression body => body.words operators

/-- The text of a unit. -/
def text (operators : Operators) (clause : Clause) : String :=
  " ".intercalate ((clause.words operators).map Prod.snd)

/-- Everything in the unit can be written. -/
def Fits (operators : Operators) : Clause → Prop
  | definition name parameters body =>
    (∀ word ∈ name :: parameters, isIdentifier word = true) ∧ body.Fits operators
  | declaration name parameters => ∀ word ∈ name :: parameters, isIdentifier word = true
  | expression body => body.Fits operators

/-- The text of a program. -/
def programText (operators : Operators) (clauses : List Clause) : String :=
  ";".intercalate (clauses.map (text operators))

end Clause

namespace Phrase

variable {operators : Operators}

/-- The trees of phrases, one by one. -/
theorem trees_eq_map (phrases : List Phrase) : trees phrases = phrases.map tree := by
  induction phrases with
  | nil => rfl
  | cons phrase rest inductionHypothesis => rw [trees, inductionHypothesis, List.map_cons]

/-- The lexemes of phrases, one by one. -/
theorem allWords_eq_map (phrases : List Phrase) :
    allWords operators phrases = phrases.map (words operators) := by
  induction phrases with
  | nil => rfl
  | cons phrase rest inductionHypothesis => rw [allWords, inductionHypothesis, List.map_cons]

/-- What stands behind a parenthesised row stands behind its closing parenthesis. -/
theorem parenthesised_append (words rest : List Lexeme) :
    parenthesised words ++ rest = mark '(' :: (words ++ mark ')' :: rest) := by
  simp [parenthesised]

end Phrase

/-! ## The lexemes of the text -/

/-- Each of the lexemes is read where it stands between others and blanks. -/
def Legible (words : List Lexeme) : Prop := ∀ word ∈ words, word.Solid

/-- A symbol is a lexeme of its own. -/
theorem solid_mark {c : Char} (symbol : isSymbolCharacter c = true) : (mark c).Solid :=
  Lexeme.solid_symbol symbol

namespace Legible

variable {operators : Operators}

/-- A solid word alone can be read. -/
theorem single {word : Lexeme} (solid : word.Solid) : Legible [word] := by
  intro other member
  exact List.mem_singleton.mp member ▸ solid

/-- A solid word in front leaves what can be read readable. -/
theorem cons {word : Lexeme} {words : List Lexeme} (solid : word.Solid) (legible : Legible words) :
    Legible (word :: words) := List.forall_mem_cons.mpr ⟨solid, legible⟩

/-- Lexemes that can be read can be put behind each other. -/
theorem append {words others : List Lexeme} (legible : Legible words)
    (legibleToo : Legible others) : Legible (words ++ others) :=
  List.forall_mem_append.mpr ⟨legible, legibleToo⟩

/-- Parentheses leave lexemes readable. -/
theorem parenthesised {words : List Lexeme} (legible : Legible words) :
    Legible (Phrase.parenthesised words) :=
  .cons (solid_mark (by decide)) (legible.append (.single (solid_mark (by decide))))

/-- An operand can be read with parentheses and without. -/
theorem asOperand {words : List Lexeme} (legible : Legible words) (needed : Bool) :
    Legible (Phrase.asOperand needed words) := by
  unfold Phrase.asOperand
  split
  · exact legible.parenthesised
  · exact legible

/-- Parts with solid separators between them can be read. -/
theorem separated {separator : Lexeme} (solid : separator.Solid) {parts : List (List Lexeme)}
    (legible : ∀ part ∈ parts, Legible part) : Legible ([separator].intercalate parts) := by
  induction parts with
  | nil => nofun
  | cons part parts inductionHypothesis =>
    obtain ⟨legiblePart, legibleParts⟩ := List.forall_mem_cons.mp legible
    cases parts with
    | nil => rwa [List.intercalate_singleton]
    | cons second parts =>
      rw [List.intercalate_cons_cons]
      exact (legiblePart.append (.single solid)).append (inductionHypothesis legibleParts)

/-- Identifiers can be read one after the other. -/
theorem identifiers {names : List String} (identifiers : ∀ name ∈ names, isIdentifier name = true) :
    Legible (names.map fun name => (.identifier, name)) := by
  intro word member
  obtain ⟨name, listed, rfl⟩ := List.mem_map.mp member
  exact Lexeme.solid_identifier (identifiers name listed)

/-- Expressions are written legibly. -/
theorem phrase (registered : operators.Registered) {phrase : Phrase}
    (fits : phrase.Fits operators) : Legible (phrase.words operators) := by
  induction fits with
  | numeral numeral => exact .single (Lexeme.solid_numeral numeral)
  | name identifier => exact .single (Lexeme.solid_identifier identifier)
  | operation found _ _ legibleLeft legibleRight =>
    have usable := (registered.entry found).1
    rw [Phrase.words]
    refine (legibleLeft.asOperand _).append (.cons ?_ (legibleRight.asOperand _))
    exact solid_mark (isSymbolCharacter_of_isOperatorCharacter usable)
  | call identifier _ legibleArguments =>
    rw [Phrase.words, Phrase.allWords_eq_map]
    refine .cons (Lexeme.solid_identifier identifier) (parenthesised ?_)
    refine separated (solid_mark (by decide)) ?_
    exact List.forall_mem_map.mpr legibleArguments
  | enclosed _ legibleInner =>
    rw [Phrase.words]
    exact legibleInner.parenthesised

/-- A prototype can be read if its names are identifiers. -/
theorem header {name : String} {parameters : List String}
    (fits : ∀ word ∈ name :: parameters, isIdentifier word = true) :
    Legible (Clause.header name parameters) := by
  obtain ⟨isName, areParameters⟩ := List.forall_mem_cons.mp fits
  exact .cons (Lexeme.solid_identifier isName) (parenthesised (identifiers areParameters))

/-- Units are written legibly. -/
theorem clause (registered : operators.Registered) {clause : Clause}
    (fits : clause.Fits operators) : Legible (clause.words operators) := by
  cases clause with
  | definition name parameters body =>
    obtain ⟨fitsHeader, fitsBody⟩ := fits
    exact .cons Lexeme.solid_define ((header fitsHeader).append (phrase registered fitsBody))
  | declaration name parameters => exact .cons Lexeme.solid_declare (header fits)
  | expression body => exact phrase registered fits

end Legible

namespace Clause

variable {operators : Operators}

/-- The lexemes of a program are those of its units with semicolons between them. -/
theorem lexemes_of_rest (registered : operators.Registered) {clauses : List Clause}
    (fit : ∀ clause ∈ clauses, clause.Fits operators) {cursor : Cursor}
    (front : cursor.rest = (programText operators clauses).toList) :
    cursor.lexemes = [mark ';'].intercalate (clauses.map (words operators)) := by
  induction clauses generalizing cursor with
  | nil => exact Cursor.lexemes_of_nil front
  | cons clause clauses inductionHypothesis =>
    obtain ⟨fits, fitLater⟩ := List.forall_mem_cons.mp fit
    have legible := Legible.clause registered fits
    cases clauses with
    | nil =>
      let last : Cursor := { cursor with rest := [] }
      have whole : cursor.rest = (text operators clause).toList ++ last.rest := by
        simp [front, programText, last]
      rw [Cursor.lexemes_of_spaced legible Lexeme.apart_nil whole, Cursor.lexemes_of_nil rfl]
      simp
    | cons second clauses =>
      let later : Cursor :=
        { cursor with rest := (programText operators (second :: clauses)).toList }
      let separator : Cursor := { cursor with rest := ';' :: later.rest }
      have apart : Lexeme.Apart separator.rest := Lexeme.apart_cons (by decide) (by decide) _
      have split : cursor.rest = (text operators clause).toList ++ separator.rest := by
        simp [front, programText, separator, later]
      have stands : (mark ';').Stands later.rest := Lexeme.stands_symbol (by decide) _
      rw [Cursor.lexemes_of_spaced legible apart split, Cursor.lexemes_of_stands stands rfl,
        inductionHypothesis fitLater rfl]
      simp

/-- **The text of a program is read as the lexemes it was written with.** -/
theorem lexemes_programText (registered : operators.Registered) {clauses : List Clause}
    (fit : ∀ clause ∈ clauses, clause.Fits operators) (file : String) :
    (Cursor.start file (programText operators clauses).toList).lexemes =
      [mark ';'].intercalate (clauses.map (words operators)) := by
  let behind : Cursor :=
    { Cursor.start file [] with rest := (programText operators clauses).toList }
  have opened : (Cursor.start file (programText operators clauses).toList).lexemes =
      behind.lexemes := Cursor.lexemes_of_blank (c := ' ') (by decide) rfl
  rw [opened, lexemes_of_rest registered fit rfl]

end Clause

end Reckon
