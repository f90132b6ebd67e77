import Reckon.Proofs.Reading.Rows

/-!
# Expressions are read as they were written

An expression ends where neither an operator nor an opening parenthesis comes next. Whatever
an expression was written with up to there is read as its tree: numbers, names, calls and
anything in parentheses are operands, and an operator stands between rows that may be its
operands without parentheses.
-/

namespace Reckon

open Reader

/-- Lexemes that are read as a row of operators, wherever they stand. -/
def Reads (operators : Operators) (level : Option Nat) (tree : Node) (words : List Lexeme) : Prop :=
  ∃ front back first, words = front ++ back ∧ Row operators level tree front back first

/-- What comes next goes on with no expression: it is no operator and makes no call. -/
structure Ends (operators : Operators) (rest : List Lexeme) : Prop where
  noCall : NoCall rest
  noOperator : operators.ahead rest < 0

/-- Lexemes that are read as an expression, wherever nothing goes on with it. -/
def ReadsWhole (operators : Operators) (tree : Node) (words : List Lexeme) : Prop :=
  ∀ {depth : Nat} {cursor : Cursor} {rest : List Lexeme}, cursor.lexemes = words ++ rest →
    Ends operators rest → Ensures (expression operators depth) cursor (Gives (·.Alike tree) rest)

/-- Nothing goes on with an expression at the end of input. -/
theorem ends_nil (operators : Operators) : Ends operators [] :=
  ⟨nofun, (by decide : (-1 : Int) < 0)⟩

/-- Punctuation of the grammar ends an expression, unless it opens something. -/
theorem ends_mark {operators : Operators} (registered : operators.Registered) {c : Char}
    (reserved : isReserved c = true) (other : c ≠ '(') (rest : List Lexeme) :
    Ends operators (mark c :: rest) := by
  refine ⟨noCall_mark other rest, ?_⟩
  rw [Operators.ahead_reserved registered reserved]
  decide

/-- Begins an expression. -/
def Lexeme.Opens (lexeme : Lexeme) : Prop :=
  lexeme.1 = .number ∨ lexeme.1 = .identifier ∨ lexeme = mark '('

namespace Lexeme.Opens

variable {lexeme : Lexeme} {token : Token}

/-- No other punctuation begins an expression. -/
theorem isSymbol_eq_false (opens : lexeme.Opens) (bare : token.bare = lexeme) {c : Char}
    (other : c ≠ '(') : token.isSymbol c = false := by
  subst bare
  rcases opens with number | identifier | parenthesis
  · have kind : token.kind = .number := number
    simp [Token.isSymbol, kind]
  · have kind : token.kind = .identifier := identifier
    simp [Token.isSymbol, kind]
  · rw [Token.isSymbol_of_mark parenthesis]
    exact beq_false_of_ne other.symm

/-- Neither keyword begins an expression. -/
theorem kind_ne (opens : lexeme.Opens) (bare : token.bare = lexeme) :
    token.kind ≠ .define ∧ token.kind ≠ .declare := by
  have kind : token.kind = lexeme.1 := congrArg Prod.fst bare
  rw [kind]
  rcases opens with number | identifier | rfl
  · simp [number]
  · simp [identifier]
  · exact ⟨nofun, nofun⟩

end Lexeme.Opens

namespace Phrase

variable {operators : Operators}

/-- The first lexeme of an expression. -/
theorem opens {phrase : Phrase} (fits : phrase.Fits operators) :
    ∃ lexeme rest, phrase.words operators = lexeme :: rest ∧ lexeme.Opens := by
  induction fits with
  | numeral => exact ⟨_, _, rfl, .inl rfl⟩
  | name => exact ⟨_, _, rfl, .inr (.inl rfl)⟩
  | @operation operator left right strength _ _ _ opensLeft _ =>
    obtain ⟨lexeme, rest, whole, isOpening⟩ := opensLeft
    rw [words, asOperand, whole]
    split
    · exact ⟨_, _, rfl, .inr (.inr rfl)⟩
    · exact ⟨_, _, rfl, isOpening⟩
  | call => exact ⟨_, _, rfl, .inr (.inl rfl)⟩
  | enclosed => exact ⟨_, _, rfl, .inr (.inr rfl)⟩

end Phrase

namespace Reads

variable {operators : Operators} {level : Option Nat} {tree : Node} {words : List Lexeme}

/-- What is read as a row of operators is read as an expression where nothing goes on with it. -/
theorem whole (registered : operators.Registered) (reads : Reads operators level tree words) :
    ReadsWhole operators tree words := by
  obtain ⟨front, back, first, rfl, row⟩ := reads
  exact fun lexemes ends => row.expression registered lexemes ends.noCall ends.noOperator

/-- A numeral is read as its number, whatever may stand behind it. -/
theorem numeral (lexeme : String) :
    Reads operators none (.number (lexemeValue lexeme) none) [(.number, lexeme)] := by
  refine ⟨_, [], _, (List.append_nil _).symm, .ofOperand ?_⟩
  intro depth cursor rest lexemes _
  obtain ⟨bare, past⟩ := Cursor.nextToken_of_lexemes lexemes
  have kind : cursor.nextToken.kind = .number := congrArg Prod.fst bare
  have same : cursor.nextToken.lexeme = lexeme := congrArg Prod.snd bare
  cases depth with
  | zero => exact ensures_exhausted _ _
  | succ depth =>
    rw [primary]
    refine ensures_peek ?_
    rw [if_neg (by simp [kind]), if_pos kind]
    refine ensures_peek (ensures_advance (gives_pure ?_ past))
    rw [same]
    exact .number _ _ _

/-- A word is read as a reference where no call is made of it. -/
theorem name (word : String) :
    Reads operators none (.reference word none) [(.identifier, word)] := by
  refine ⟨_, [], _, (List.append_nil _).symm, .ofOperand ?_⟩
  intro depth cursor rest lexemes noCall
  obtain ⟨bare, past⟩ := Cursor.nextToken_of_lexemes lexemes
  have kind : cursor.nextToken.kind = .identifier := congrArg Prod.fst bare
  have same : cursor.nextToken.lexeme = word := congrArg Prod.snd bare
  cases depth with
  | zero => exact ensures_exhausted _ _
  | succ depth =>
    rw [primary]
    refine ensures_peek ?_
    rw [if_pos kind]
    cases depth with
    | zero => exact ensures_exhausted _ _
    | succ depth =>
      rw [named]
      refine ensures_peek (ensures_advance (ensures_peek ?_))
      rw [noCall.isSymbol past, if_neg (by decide), same]
      exact gives_pure (.reference _ _ _) past

/-- Parentheses make an operand of an expression. -/
theorem parenthesised (registered : operators.Registered)
    (reads : ReadsWhole operators tree words) :
    Reads operators none tree (Phrase.parenthesised words) := by
  refine ⟨_, [], _, (List.append_nil _).symm, .ofOperand ?_⟩
  intro depth cursor rest lexemes _
  rw [Phrase.parenthesised_append] at lexemes
  obtain ⟨bare, past⟩ := Cursor.nextToken_of_lexemes lexemes
  have kind : cursor.nextToken.kind = .symbol := congrArg Prod.fst bare
  cases depth with
  | zero => exact ensures_exhausted _ _
  | succ depth =>
    rw [primary]
    refine ensures_peek ?_
    rw [if_neg (by simp [kind]), if_neg (by simp [kind]), Token.isSymbol_of_mark bare,
      if_pos (by decide)]
    cases depth with
    | zero => exact ensures_exhausted _ _
    | succ depth =>
      rw [Reader.parenthesised]
      refine ensures_advance ?_
      have closes := ends_mark registered (c := ')') (by decide) (by decide) rest
      refine (reads past closes).then_of_gives ?_
      intro inner after alike left
      exact ensures_mark left fun last front => gives_pure alike front

/-- Parentheses are put around an operand only if they are needed. -/
theorem asOperand (registered : operators.Registered) (reads : Reads operators level tree words)
    (needed : Bool) : Reads operators (if needed then none else level) tree
      (Phrase.asOperand needed words) := by
  cases needed with
  | true => exact parenthesised registered (reads.whole registered)
  | false => exact reads

/-- An operator between two operands that it may have without parentheses. -/
theorem operation (registered : operators.Registered) {leftLevel rightLevel : Option Nat}
    {left right : Node} {leftWords rightWords : List Lexeme} {operator : Char} {strength : Nat}
    (readsLeft : Reads operators leftLevel left leftWords)
    (readsRight : Reads operators rightLevel right rightWords)
    (found : operators.get? operator = some strength)
    (atLeast : ∀ bound, leftLevel = some bound → strength ≤ bound)
    (above : ∀ bound, rightLevel = some bound → strength < bound) :
    Reads operators (some strength) (.binary operator.toString left right none)
      (leftWords ++ mark operator :: rightWords) := by
  obtain ⟨leftFront, leftBack, leftFirst, rfl, leftRow⟩ := readsLeft
  obtain ⟨rightFront, rightBack, rightFirst, rfl, rightRow⟩ := readsRight
  exact ⟨_, _, _, List.append_assoc _ _ _, leftRow.joined registered rightRow found atLeast above⟩

/-! ## Calls -/

/-- Arguments with commas between them are read up to the closing parenthesis. -/
theorem arguments (registered : operators.Registered) {phrases : List Phrase}
    (some : phrases ≠ [])
    (reads : ∀ phrase ∈ phrases, ReadsWhole operators phrase.tree (phrase.words operators))
    {depth : Nat} {cursor : Cursor} {rest : List Lexeme}
    (lexemes : cursor.lexemes =
      [mark ','].intercalate (phrases.map (Phrase.words operators)) ++ mark ')' :: rest) :
    Ensures (Reader.arguments operators depth) cursor
      (Gives (Node.AllAlike · (phrases.map Phrase.tree)) rest) := by
  induction phrases generalizing depth cursor with
  | nil => exact (some rfl).elim
  | cons phrase phrases inductionHypothesis =>
    obtain ⟨readsFirst, readsLater⟩ := List.forall_mem_cons.mp reads
    cases depth with
    | zero => exact ensures_exhausted _ _
    | succ depth =>
      rw [Reader.arguments]
      cases phrases with
      | nil =>
        have closes := ends_mark registered (c := ')') (by decide) (by decide) rest
        rw [List.map_singleton, List.intercalate_singleton] at lexemes
        refine (readsFirst lexemes closes).then_of_gives ?_
        intro first after alike left
        obtain ⟨bare, past⟩ := Cursor.nextToken_of_lexemes left
        refine ensures_peek ?_
        rw [Token.isSymbol_of_mark bare, if_pos (by decide)]
        exact ensures_advance (gives_pure (.cons alike .nil) past)
      | cons second phrases =>
        rw [List.map_cons, List.map_cons, List.intercalate_cons_cons, List.append_assoc,
          List.append_assoc] at lexemes
        have separates := ends_mark registered (c := ',') (by decide) (by decide)
          ([mark ','].intercalate ((second :: phrases).map (Phrase.words operators)) ++
            mark ')' :: rest)
        refine (readsFirst lexemes separates).then_of_gives ?_
        intro first after alike left
        obtain ⟨bare, past⟩ := Cursor.nextToken_of_lexemes left
        refine ensures_peek ?_
        rw [Token.isSymbol_of_mark bare, if_neg (by decide)]
        refine ensures_mark left fun next front => ?_
        have later : Ensures (Reader.arguments operators depth) next (Gives _ rest) :=
          inductionHypothesis (List.cons_ne_nil _ _) readsLater front
        refine later.then_of_gives ?_
        intro others last alikeOthers left
        exact gives_pure (.cons alike alikeOthers) left

/-- The first of some lists comes first, whatever separates them. -/
theorem intercalate_cons {α : Type} (separator first : List α) (others : List (List α)) :
    ∃ back, separator.intercalate (first :: others) = first ++ back := by
  cases others with
  | nil => exact ⟨[], by simp⟩
  | cons second others =>
    exact ⟨_, by rw [List.intercalate_cons_cons, List.append_assoc]⟩

/-- A call is an operand. -/
theorem call (registered : operators.Registered) (callee : String) {phrases : List Phrase}
    (opens : ∀ phrase ∈ phrases,
      ∃ lexeme rest, phrase.words operators = lexeme :: rest ∧ lexeme.Opens)
    (reads : ∀ phrase ∈ phrases, ReadsWhole operators phrase.tree (phrase.words operators)) :
    Reads operators none (.call callee (phrases.map Phrase.tree) none)
      ((.identifier, callee) ::
        Phrase.parenthesised ([mark ','].intercalate (phrases.map (Phrase.words operators)))) := by
  refine ⟨_, [], _, (List.append_nil _).symm, .ofOperand ?_⟩
  intro depth cursor rest lexemes _
  rw [List.cons_append, Phrase.parenthesised_append] at lexemes
  obtain ⟨bare, past⟩ := Cursor.nextToken_of_lexemes lexemes
  have kind : cursor.nextToken.kind = .identifier := congrArg Prod.fst bare
  have same : cursor.nextToken.lexeme = callee := congrArg Prod.snd bare
  obtain ⟨opening, inside⟩ := Cursor.nextToken_of_lexemes past
  cases depth with
  | zero => exact ensures_exhausted _ _
  | succ depth =>
    rw [primary]
    refine ensures_peek ?_
    rw [if_pos kind]
    cases depth with
    | zero => exact ensures_exhausted _ _
    | succ depth =>
      rw [named]
      refine ensures_peek (ensures_advance (ensures_peek ?_))
      rw [Token.isSymbol_of_mark opening, if_pos (by decide), same]
      refine ensures_advance (ensures_peek ?_)
      cases phrases with
      | nil =>
        obtain ⟨closing, last⟩ := Cursor.nextToken_of_lexemes inside
        rw [Token.isSymbol_of_mark closing, if_pos (by decide)]
        exact ensures_advance (gives_pure (Node.AllAlike.call .nil _ _ _) last)
      | cons phrase phrases =>
        have argument : cursor.pastToken.pastToken.nextToken.isSymbol ')' = false := by
          obtain ⟨lexeme, others, whole, isOpening⟩ := opens phrase List.mem_cons_self
          obtain ⟨back, front⟩ := intercalate_cons [mark ','] (phrase.words operators)
            (phrases.map (Phrase.words operators))
          rw [List.map_cons, front, whole, List.cons_append] at inside
          exact isOpening.isSymbol_eq_false (Cursor.nextToken_of_lexemes inside).1 (by decide)
        rw [argument, if_neg (by decide)]
        refine (arguments registered (List.cons_ne_nil _ _) reads inside).then_of_gives ?_
        intro nodes last alike left
        exact gives_pure (alike.call _ _ _) left

end Reads

namespace Phrase

variable {operators : Operators}

/-- An operand is written without parentheses only if its operator does not need them. -/
theorem not_needed {level : Option Nat} {needs : Nat → Bool} {bound : Nat}
    (shows : (if level.any needs then none else level) = some bound) : needs bound = false := by
  cases level with
  | none => simp at shows
  | some strength =>
    cases needed : needs strength with
    | true => simp [needed] at shows
    | false =>
      simp only [Option.any_some, needed] at shows
      exact Option.some.inj shows ▸ needed

/-- **An expression is read as it was written.** -/
theorem reads (registered : operators.Registered) {phrase : Phrase}
    (fits : phrase.Fits operators) :
    Reads operators (phrase.strength? operators) phrase.tree (phrase.words operators) := by
  induction fits with
  | numeral => exact .numeral _
  | name => exact .name _
  | @operation operator left right strength found _ _ readsLeft readsRight =>
    rw [strength?, words, found]
    refine (readsLeft.asOperand registered _).operation registered
      (readsRight.asOperand registered _) found ?_ ?_
    · intro bound shows
      exact Nat.le_of_not_lt (of_decide_eq_false (not_needed shows))
    · intro bound shows
      exact Nat.lt_of_not_le (of_decide_eq_false (not_needed shows))
  | @call callee arguments _ fitArguments readsArguments =>
    rw [tree, trees_eq_map, words, allWords_eq_map]
    refine .call registered _ (fun phrase among => opens (fitArguments phrase among)) ?_
    exact fun phrase among => (readsArguments phrase among).whole registered
  | enclosed _ readsInner =>
    rw [words]
    exact .parenthesised registered (readsInner.whole registered)

/-- What a phrase is written with is read as its tree. -/
theorem readsWhole (registered : operators.Registered) {phrase : Phrase}
    (fits : phrase.Fits operators) :
    ReadsWhole operators phrase.tree (phrase.words operators) :=
  (reads registered fits).whole registered

end Phrase

end Reckon
