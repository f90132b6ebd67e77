import Reckon.Proofs.Reading.Abreast
import Reckon.Proofs.Reading.Contract
import Reckon.Proofs.Reading.Writing

/-!
# Reading rows of operators that were written

Written lexemes begin with an operand that is read on its own. What stands behind it are
operators and further operands, and the loop of precedence climbing folds them around the
operand until it has the whole expression, whatever it is asked to do next. Each operator
stands in the loop as it does in the tree: what is written to its left has been folded by
then, because nothing in it binds less, and its right operand is taken before it, because
everything in it binds more.
-/

namespace Reckon

/-! ## The next lexeme -/

namespace Cursor

variable {cursor : Cursor} {lexeme : Lexeme} {rest : List Lexeme}

/-- The first of the lexemes is that of the next token. -/
theorem nextToken_of_lexemes (front : cursor.lexemes = lexeme :: rest) :
    cursor.nextToken.bare = lexeme ∧ cursor.pastToken.lexemes = rest := by
  rw [lexemes_eq] at front
  by_cases ends : cursor.nextToken.kind = .endOfInput
  · rw [if_pos ends] at front
    cases front
  · rw [if_neg ends] at front
    exact List.cons.inj front

end Cursor

/-- A token that is a symbol is no other symbol. -/
theorem Token.isSymbol_of_mark {token : Token} {c : Char} (same : token.bare = mark c)
    (other : Char) : token.isSymbol other = (c == other) := by
  have kind : token.kind = .symbol := congrArg Prod.fst same
  have lexeme : token.lexeme = c.toString := congrArg Prod.snd same
  rw [isSymbol, kind, lexeme]
  by_cases equal : c = other
  · simp [equal]
  · simp [equal]

/-- The precedence of the first of the lexemes as a binary operator. -/
def Operators.ahead (operators : Operators) : List Lexeme → Int
  | [] => -1
  | lexeme :: _ => operators.precedence (Grammar.unplaced lexeme.1 lexeme.2)

namespace Operators

variable {operators : Operators}

/-- The precedence of the next token is that of the lexeme ahead. -/
theorem precedence_nextToken (cursor : Cursor) :
    operators.precedence cursor.nextToken = operators.ahead cursor.lexemes := by
  cases front : cursor.lexemes with
  | nil =>
    have ends := cursor.lexemes_eq_nil_iff.mp front
    exact operators.precedence_of_kind_ne _ (by simp [ends])
  | cons lexeme rest =>
    exact operators.precedence_of_bare (Cursor.nextToken_of_lexemes front).1

/-- An operator of the table is ahead with its precedence. -/
theorem ahead_operator {c : Char} {strength : Nat} (found : operators.get? c = some strength)
    (rest : List Lexeme) : operators.ahead (mark c :: rest) = strength := by
  have symbol : (Grammar.unplaced (mark c).1 (mark c).2).isSymbol c = true := by
    rw [Token.isSymbol_of_mark rfl, beq_self_eq_true]
  rw [ahead, precedence_of_isSymbol operators symbol, found]

/-- A reserved character is ahead with no precedence. -/
theorem ahead_reserved (registered : operators.Registered) {c : Char}
    (reserved : isReserved c = true) (rest : List Lexeme) :
    operators.ahead (mark c :: rest) = -1 := by
  refine registered.precedence_of_isReserved ?_ reserved
  rw [Token.isSymbol_of_mark rfl, beq_self_eq_true]

end Operators

/-- No opening parenthesis comes next, which would make a call of a name. -/
def NoCall (rest : List Lexeme) : Prop := rest.head? ≠ some (mark '(')

/-- A symbol other than an opening parenthesis makes no call. -/
theorem noCall_mark {c : Char} (other : c ≠ '(') (rest : List Lexeme) :
    NoCall (mark c :: rest) := by
  intro same
  have strings : c.toString = "(" := congrArg Prod.snd (Option.some.inj same)
  exact other (String.singleton_inj.mp strings)

/-- An operator is no opening parenthesis. -/
theorem noCall_of_ahead {operators : Operators} (registered : operators.Registered)
    {rest : List Lexeme} (binds : 0 ≤ operators.ahead rest) : NoCall rest := by
  cases rest with
  | nil => nofun
  | cons lexeme rest =>
    intro same
    rw [List.head?_cons, Option.some.injEq] at same
    rw [same, Operators.ahead_reserved registered (by decide)] at binds
    cases binds

namespace NoCall

/-- Where no call comes next, the next token is no opening parenthesis. -/
theorem isSymbol {cursor : Cursor} {rest : List Lexeme} (noCall : NoCall rest)
    (front : cursor.lexemes = rest) : cursor.nextToken.isSymbol '(' = false := by
  cases rest with
  | nil => exact Token.isSymbol_endOfInput (cursor.lexemes_eq_nil_iff.mp front) _
  | cons lexeme rest =>
    have bare := (Cursor.nextToken_of_lexemes front).1
    cases symbol : cursor.nextToken.isSymbol '(' with
    | false => rfl
    | true =>
      simp only [Token.isSymbol, Bool.and_eq_true, beq_iff_eq] at symbol
      have same : lexeme = mark '(' := bare ▸ Prod.ext symbol.1 symbol.2
      exact (noCall (congrArg some same)).elim

end NoCall

/-! ## Reading what was written -/

namespace Reader

variable {α β : Type}

/-- Reading succeeds with what is wanted and leaves the lexemes given. -/
def Gives (wanted : α → Prop) (left : List Lexeme) (outcome : Outcome α) : Prop :=
  ∃ value after, outcome = .parsed value after ∧ wanted value ∧ after.lexemes = left

/-- A value as wanted is given in front of what is left. -/
theorem gives_pure {wanted : α → Prop} {value : α} {cursor : Cursor} {left : List Lexeme}
    (holds : wanted value) (front : cursor.lexemes = left) :
    Ensures (pure value) cursor (Gives wanted left) :=
  ensures_pure ⟨value, cursor, rfl, holds, front⟩

/-- After a reader that succeeds only what follows counts. -/
theorem Ensures.then_of_gives {first : Reader α} {next : α → Reader β} {cursor : Cursor}
    {wanted : α → Prop} {left : List Lexeme} {promise : Outcome β → Prop}
    (start : Ensures first cursor (Gives wanted left))
    (rest : ∀ value after, wanted value → after.lexemes = left →
      Ensures (next value) after promise) : Ensures (first >>= next) cursor promise := by
  refine start.bind ?_ ?_
  · rintro error stopped ⟨value, after, same, _⟩
    cases same
  · rintro value after ⟨_, _, same, holds, front⟩
    cases same
    exact rest value after holds front

/-- A symbol that was written is read. -/
theorem ensures_mark {c : Char} {expected : Expectation} {next : Unit → Reader β} {cursor : Cursor}
    {rest : List Lexeme} {promise : Outcome β → Prop} (front : cursor.lexemes = mark c :: rest)
    (continues : ∀ after, after.lexemes = rest → Ensures (next ()) after promise) :
    Ensures (symbol c expected >>= next) cursor promise := by
  obtain ⟨bare, past⟩ := Cursor.nextToken_of_lexemes front
  apply ensures_symbol
  · exact fun _ => continues _ past
  · intro elsewhere
    rw [Token.isSymbol_of_mark bare, beq_self_eq_true] at elsewhere
    cases elsewhere

/-- The loop ends in front of an operator that binds less than asked for. -/
theorem operation_ends {operators : Operators} {depth : Nat} {least : Int} {left : Node}
    {cursor : Cursor} {rest : List Lexeme} {wanted : Node → Prop} (holds : wanted left)
    (front : cursor.lexemes = rest) (weak : operators.ahead rest < least) :
    Ensures (operation operators depth least left) cursor (Gives wanted rest) := by
  cases depth with
  | zero => exact ensures_exhausted _ _
  | succ depth =>
    rw [operation]
    apply ensures_peek
    rw [Operators.precedence_nextToken, front, if_pos weak]
    exact gives_pure holds front

end Reader

open Reader

/-- How lexemes that a tree was written with are read: those in front as an operand, and those
behind it by the loop, which goes on with the whole tree once they are passed. -/
structure Row (operators : Operators) (level : Option Nat) (tree : Node)
    (front back : List Lexeme) (first : Node) : Prop where
  operand {depth : Nat} {cursor : Cursor} {rest : List Lexeme}
    (lexemes : cursor.lexemes = front ++ rest) (noCall : NoCall rest) :
    Ensures (primary operators depth) cursor (Gives (·.Alike first) rest)
  shape : back = [] ∧ first = tree ∨
    ∃ bound : Nat, level = some bound ∧ ∀ rest, bound ≤ operators.ahead (back ++ rest)
  folds {depth : Nat} {least : Int} {left : Node} {cursor : Cursor} {rest : List Lexeme}
    {promise : Outcome Node → Prop} (lexemes : cursor.lexemes = back ++ rest)
    (alike : left.Alike first) (binds : ∀ bound, level = some bound → least ≤ bound)
    (noCall : NoCall rest) (weak : ∀ bound, level = some bound → operators.ahead rest ≤ bound)
    (continues : ∀ depth folded after, folded.Alike tree → after.lexemes = rest →
      Ensures (operation operators depth least folded) after promise) :
    Ensures (operation operators depth least left) cursor promise

namespace Row

variable {operators : Operators} {level : Option Nat} {tree first : Node}
  {front back : List Lexeme}

/-- What follows a row follows its first operand. -/
theorem noCall (registered : operators.Registered)
    (row : Row operators level tree front back first) {rest : List Lexeme}
    (noCall : NoCall rest) : NoCall (back ++ rest) := by
  rcases row.shape with ⟨rfl, _⟩ | ⟨bound, _, binds⟩
  · exact noCall
  · exact noCall_of_ahead registered (by have := binds rest; omega)

/-- An operand that is no operation is a row on its own. -/
theorem ofOperand {words : List Lexeme}
    (operand : ∀ {depth : Nat} {cursor : Cursor} {rest : List Lexeme},
      cursor.lexemes = words ++ rest → NoCall rest →
        Ensures (primary operators depth) cursor (Gives (·.Alike tree) rest)) :
    Row operators none tree words [] tree where
  operand := operand
  shape := .inl ⟨rfl, rfl⟩
  folds lexemes alike _ _ _ continues := continues _ _ _ alike lexemes

/-- The operand to the right of an operator, with all that binds more tightly. -/
theorem taken (row : Row operators level tree front back first) {strength : Nat}
    (above : ∀ bound, level = some bound → strength < bound) {depth : Nat} {operand : Node}
    {cursor : Cursor} {rest : List Lexeme} (lexemes : cursor.lexemes = back ++ rest)
    (alike : operand.Alike first) (noCall : NoCall rest)
    (weak : operators.ahead rest ≤ strength) :
    Ensures
      (if (strength : Int) < operators.precedence cursor.nextToken then
        operation operators depth (strength + 1) operand
      else pure operand) cursor (Gives (·.Alike tree) rest) := by
  rw [Operators.precedence_nextToken, lexemes]
  rcases row.shape with ⟨rfl, rfl⟩ | ⟨bound, same, binds⟩
  · rw [List.nil_append, if_neg (by omega)]
    exact gives_pure alike lexemes
  · have tight := above bound same
    have next := binds rest
    rw [if_pos (by omega)]
    refine row.folds lexemes alike ?_ noCall ?_ ?_
    · intro other sameToo
      have tightToo := above other sameToo
      omega
    · intro other sameToo
      have tightToo := above other sameToo
      omega
    · intro depth folded after alikeFolded left
      exact operation_ends alikeFolded left (by omega)

/-- Two rows with an operator between them are a row if the operator binds at most as tightly
as the first and less than the second. -/
theorem joined (registered : operators.Registered) {leftLevel rightLevel : Option Nat}
    {left right leftFirst rightFirst : Node}
    {leftFront leftBack rightFront rightBack : List Lexeme} {operator : Char} {strength : Nat}
    (leftRow : Row operators leftLevel left leftFront leftBack leftFirst)
    (rightRow : Row operators rightLevel right rightFront rightBack rightFirst)
    (found : operators.get? operator = some strength)
    (atLeast : ∀ bound, leftLevel = some bound → strength ≤ bound)
    (above : ∀ bound, rightLevel = some bound → strength < bound) :
    Row operators (some strength) (.binary operator.toString left right none) leftFront
      (leftBack ++ mark operator :: (rightFront ++ rightBack)) leftFirst where
  operand := leftRow.operand
  shape := by
    refine .inr ⟨strength, rfl, fun rest => ?_⟩
    rcases leftRow.shape with ⟨rfl, _⟩ | ⟨bound, same, binds⟩
    · exact Int.le_of_eq (Operators.ahead_operator found _).symm
    · have tight := atLeast bound same
      have next := binds (mark operator :: (rightFront ++ rightBack) ++ rest)
      rw [List.append_assoc]
      omega
  folds := by
    intro depth least start cursor rest promise lexemes alike binds noCall weak continues
    have leastBinds := binds strength rfl
    have weaker := weak strength rfl
    rw [List.append_assoc, List.cons_append] at lexemes
    have behind := Operators.ahead_operator found ((rightFront ++ rightBack) ++ rest)
    refine leftRow.folds lexemes alike ?_ (noCall_of_ahead registered (by omega)) ?_ ?_
    · intro bound same
      have tight := atLeast bound same
      omega
    · intro bound same
      have tight := atLeast bound same
      omega
    · intro depth folded after alikeFolded left
      cases depth with
      | zero => exact ensures_exhausted _ _
      | succ depth =>
        obtain ⟨bare, past⟩ := Cursor.nextToken_of_lexemes left
        have precedence : operators.precedence after.nextToken = strength := by
          rw [Operators.precedence_nextToken, left, behind]
        have lexeme : after.nextToken.lexeme = operator.toString := congrArg Prod.snd bare
        rw [operation]
        refine ensures_peek ?_
        rw [precedence, if_neg (by omega), lexeme]
        refine ensures_advance ?_
        rw [List.append_assoc] at past
        refine (rightRow.operand past (rightRow.noCall registered noCall)).then_of_gives ?_
        intro operand read alikeOperand readLexemes
        refine ensures_peek ?_
        refine (rightRow.taken above readLexemes alikeOperand noCall weaker).then_of_gives ?_
        intro rightTree last alikeRight lastLexemes
        exact continues depth _ last (.binary _ _ _ alikeFolded alikeRight) lastLexemes

/-- A row is read as an expression. -/
theorem expression (registered : operators.Registered)
    (row : Row operators level tree front back first) {depth : Nat} {cursor : Cursor}
    {rest : List Lexeme} (lexemes : cursor.lexemes = (front ++ back) ++ rest)
    (noCall : NoCall rest) (ends : operators.ahead rest < 0) :
    Ensures (Reader.expression operators depth) cursor (Gives (·.Alike tree) rest) := by
  cases depth with
  | zero => exact ensures_exhausted _ _
  | succ depth =>
    rw [Reader.expression]
    rw [List.append_assoc] at lexemes
    refine (row.operand lexemes (row.noCall registered noCall)).then_of_gives ?_
    intro operand after alike afterLexemes
    refine row.folds afterLexemes alike (fun bound _ => by omega) noCall
      (fun bound _ => by omega) ?_
    intro depth folded last alikeFolded left
    exact operation_ends alikeFolded left ends

end Row

end Reckon
