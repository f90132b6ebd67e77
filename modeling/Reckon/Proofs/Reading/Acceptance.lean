import Mathlib.Tactic.ByContra
import Reckon.Proofs.Reading.WordParts

/-!
# Readers recognize the grammar

Every reader passes the longest front part of the tokens that begins a word of its
language. The readers of expressions call one another, so their promises are proved
together, by induction on the depth; precedences only matter where a row of operators is
handed over to the operand in the middle of it, and both parts of the row are
recognized one after the other.
-/

namespace Reckon

namespace Recognizes

variable {α β : Type} {words closes : Words}

/-- Forming a result changes nothing about what is read. -/
theorem formed {cursor : Cursor} {reader : Reader α} {form : α → β}
    (recognized : Reader.Ensures reader cursor (Recognizes words closes cursor)) :
    Reader.Ensures (reader >>= fun value => Pure.pure (form value)) cursor
      (Recognizes words closes cursor) := by
  refine Reader.Ensures.bind recognized (fun _ _ failed => failed) ?_
  intro value after parsed
  exact Reader.ensures_pure parsed

/-- The next token is the last one of the word. -/
theorem last {cursor : Cursor} {value : α} (more : cursor.nextToken.kind ≠ .endOfInput)
    (into : words [cursor.nextToken])
    (back : ∀ word rest, words word → closes rest →
      (word ++ rest).head? = some cursor.nextToken → word = [cursor.nextToken]) :
    Reader.Ensures (Reader.advance >>= fun _ => Pure.pure value) cursor
      (Recognizes words closes cursor) := by
  refine advance (fun word => word = []) more (pure rfl fun _ _ isWord _ _ => isWord) ?_ ?_
  · rintro word rfl
    exact into
  · intro word rest isWord isClosed first
    exact ⟨[], back word rest isWord isClosed first, rfl⟩

end Recognizes

namespace Grammar

variable {operators : Operators}

/-- A token with a precedence is not the end of input. -/
theorem more_of_binds {token : Token} {least : Int} (notNegative : 0 ≤ least)
    (binds : least ≤ operators.precedence token) : token.kind ≠ .endOfInput := by
  obtain ⟨character, _, symbol, _⟩ := (operators.isOperator_iff token).mpr (by omega)
  rw [Reader.kind_of_isSymbol symbol]
  decide

/-- A symbol is not the end of input. -/
theorem more_of_isSymbol {token : Token} {character : Char}
    (symbol : token.isSymbol character = true) : token.kind ≠ .endOfInput := by
  rw [Reader.kind_of_isSymbol symbol]
  decide

/-- A closing parenthesis is read as the end of what it closes. -/
theorem closing_recognized {α : Type} {cursor : Cursor} {expected : Expectation} {value : α}
    {closes : Words} : Reader.Ensures (Reader.symbol ')' expected >>= fun _ => pure value) cursor
      (Recognizes Closing closes cursor) := by
  refine Recognizes.symbol (fun word => word = []) ?_ ?_ ?_ closing_inhabited
  · intro _
    exact Recognizes.pure rfl fun _ _ isWord _ _ => isWord
  · rintro token word symbol rfl
    exact ⟨token, rfl, symbol⟩
  · rintro word ⟨token, rfl, symbol⟩
    exact ⟨token, [], rfl, symbol, rfl⟩

/-- The readers of expressions recognize their languages at the given depth. -/
structure Recognized (operators : Operators) (depth : Nat) : Prop where
  primary (cursor : Cursor) : Reader.Ensures (.primary operators depth) cursor
    (Recognizes (Primary operators) EndsOperand cursor)
  parenthesised (cursor : Cursor) (opens : cursor.nextToken.isSymbol '(' = true) :
    Reader.Ensures (.parenthesised operators depth) cursor
      (Recognizes (Primary operators) EndsOperand cursor)
  named (cursor : Cursor) (kind : cursor.nextToken.kind = .identifier) :
    Reader.Ensures (.named operators depth) cursor
      (Recognizes (Primary operators) EndsOperand cursor)
  arguments (cursor : Cursor) : Reader.Ensures (.arguments operators depth) cursor
    (Recognizes (ArgumentsClosed operators) EndsOperand cursor)
  expression (cursor : Cursor) : Reader.Ensures (.expression operators depth) cursor
    (Recognizes (Expression operators) (EndsRow operators 0) cursor)
  operation (cursor : Cursor) (least : Int) (left : Node) (notNegative : 0 ≤ least) :
    Reader.Ensures (.operation operators depth least left) cursor
      (Recognizes (OperationsFrom operators least) (EndsRow operators least) cursor)

/-- A number, a name or an opening parenthesis begins an operand, and nothing else does. -/
theorem primary_recognized {depth : Nat} (below : Recognized operators depth) (cursor : Cursor) :
    Reader.Ensures (.primary operators (depth + 1)) cursor
      (Recognizes (Primary operators) EndsOperand cursor) := by
  rw [Reader.primary]
  apply Reader.ensures_peek
  by_cases isName : cursor.nextToken.kind = .identifier
  · rw [if_pos isName]
    exact below.named cursor isName
  by_cases isNumber : cursor.nextToken.kind = .number
  · rw [if_neg isName, if_pos isNumber]
    refine Reader.ensures_peek (Recognizes.last (by rw [isNumber]; decide) (.number isNumber) ?_)
    intro word rest isWord _ first
    exact isWord.of_number isNumber first
  by_cases opens : cursor.nextToken.isSymbol '(' = true
  · rw [if_neg isName, if_neg isNumber, if_pos opens]
    exact below.parenthesised cursor opens
  · rw [if_neg isName, if_neg isNumber, if_neg opens]
    apply Recognizes.refuse primary_inhabited
    intro word rest isWord _ next
    obtain ⟨token, later, rfl, begins⟩ := isWord.head
    have same : token = cursor.nextToken := next token rfl
    subst same
    rcases begins with kind | kind | opening
    · exact isNumber kind
    · exact isName kind
    · exact opens opening

/-- An expression and its closing parenthesis stand behind the opening one. -/
theorem parenthesised_recognized (registered : operators.Registered) {depth : Nat}
    (below : Recognized operators depth) (cursor : Cursor)
    (opens : cursor.nextToken.isSymbol '(' = true) :
    Reader.Ensures (.parenthesised operators (depth + 1)) cursor
      (Recognizes (Primary operators) EndsOperand cursor) := by
  rw [Reader.parenthesised]
  apply Recognizes.advance (Enclosed operators) (more_of_isSymbol opens)
  · refine Recognizes.bind (below.expression _) ?_ closing_inhabited ?_
    · rintro word rest ⟨closing, rfl, closes⟩ _
      exact endsRow_of_closing registered closes
    · intro inner after passed _
      exact closing_recognized
  · rintro word ⟨inner, last, rfl, isInner, closing, rfl, closes⟩
    exact .parenthesised opens isInner closes
  · intro word rest isWord _ first
    exact isWord.of_opening opens first

/-- What follows the opening parenthesis of a call begins no closing parenthesis if it begins an
argument. -/
theorem not_closing_of_argumentsClosed {word rest : List Token} {token : Token}
    (isWord : ArgumentsClosed operators word) (first : (word ++ rest).head? = some token) :
    token.isSymbol ')' = false := by
  obtain ⟨argument, last, rfl, ⟨isFirst, _⟩, _⟩ := (argumentsClosed_iff _).mp isWord
  obtain ⟨_, later, rfl, begins⟩ := isFirst.head
  cases first
  cases closes : token.isSymbol ')' with
  | false => rfl
  | true =>
    rcases begins with kind | kind | opens
    · cases kind.symm.trans (Reader.kind_of_isSymbol closes)
    · cases kind.symm.trans (Reader.kind_of_isSymbol closes)
    · cases eq_of_isSymbol opens closes

/-- A call without arguments ends at once, and any other has arguments. -/
theorem callRest_recognized {depth : Nat} (below : Recognized operators depth) (name : Token)
    (cursor : Cursor) :
    Reader.Ensures (do
      let first ← Reader.peek
      if first.isSymbol ')' then
        Reader.advance
        return Node.call name.lexeme [] (some name.location)
      else
        let arguments ← Reader.arguments operators depth
        return .call name.lexeme arguments (some name.location)) cursor
      (Recognizes (CallRest operators) EndsOperand cursor) := by
  apply Reader.ensures_peek
  by_cases closes : cursor.nextToken.isSymbol ')' = true
  · rw [if_pos closes]
    refine Recognizes.last (more_of_isSymbol closes) (.inl ⟨_, rfl, closes⟩) ?_
    intro word rest isWord _ first
    rcases isWord with ⟨closing, rfl, _⟩ | areArguments
    · cases first
      rfl
    · rw [not_closing_of_argumentsClosed areArguments first] at closes
      cases closes
  · rw [if_neg closes]
    refine (Recognizes.formed (below.arguments cursor)).imp fun outcome recognized => ?_
    refine recognized.transfer (fun word isWord _ => .inr isWord) ?_
      (closing_inhabited.imp fun word isClosing => .inl isClosing)
    intro word rest isWord _ next
    rcases isWord with ⟨closing, rfl, isClosing⟩ | areArguments
    · have same : closing = cursor.nextToken := next closing rfl
      rw [same] at isClosing
      exact (closes isClosing).elim
    · exact areArguments

/-- A name is a reference unless an opening parenthesis follows. -/
theorem named_recognized {depth : Nat} (below : Recognized operators depth) (cursor : Cursor)
    (kind : cursor.nextToken.kind = .identifier) :
    Reader.Ensures (.named operators (depth + 1)) cursor
      (Recognizes (Primary operators) EndsOperand cursor) := by
  rw [Reader.named]
  apply Reader.ensures_peek
  apply Recognizes.advance (NamedRest operators) (by rw [kind]; decide)
  · apply Reader.ensures_peek
    by_cases opens : cursor.pastToken.nextToken.isSymbol '(' = true
    · rw [if_pos opens]
      refine Recognizes.advance (CallRest operators) (more_of_isSymbol opens)
        (callRest_recognized below _ _) ?_ ?_
      · intro word isWord
        exact .inr ⟨_, word, rfl, opens, isWord⟩
      · intro word rest isWord ends first
        rcases isWord with rfl | ⟨opening, later, rfl, _, isLater⟩
        · rw [ends _ first] at opens
          cases opens
        · cases first
          exact ⟨later, rfl, isLater⟩
    · rw [if_neg opens]
      apply Recognizes.pure (.inl rfl)
      intro word rest isWord _ next
      rcases isWord with rfl | ⟨opening, later, rfl, isOpening, _⟩
      · rfl
      · have same : opening = cursor.pastToken.nextToken := next opening rfl
        rw [same] at isOpening
        exact (opens isOpening).elim
  · intro word isWord
    obtain ⟨_, _, isPrimary⟩ := (primary_iff_of_name kind).mpr ⟨word, rfl, isWord⟩
    exact isPrimary
  · intro word rest isWord _ first
    exact (primary_iff_of_name kind).mp ⟨rest, first, isWord⟩

/-- Behind an argument the list ends, or goes on behind a comma. -/
theorem argumentsRest_recognized {depth : Nat} (below : Recognized operators depth)
    (argument : Node) (cursor : Cursor) :
    Reader.Ensures (do
      let next ← Reader.peek
      if next.isSymbol ')' then
        Reader.advance
        return [argument]
      else
        Reader.symbol ',' .argumentSeparator
        let others ← Reader.arguments operators depth
        return argument :: others) cursor
      (Recognizes (ArgumentsRest operators) EndsOperand cursor) := by
  apply Reader.ensures_peek
  by_cases closes : cursor.nextToken.isSymbol ')' = true
  · rw [if_pos closes]
    refine Recognizes.last (more_of_isSymbol closes) (.inl ⟨_, rfl, closes⟩) ?_
    rintro word rest (⟨closing, rfl, _⟩ | ⟨comma, later, rfl, separates, _⟩) _ first
    · cases first
      rfl
    · cases first
      cases eq_of_isSymbol closes separates
  · rw [if_neg closes]
    obtain ⟨first, isFirst⟩ : ∃ word, Expression operators word := expression_inhabited
    obtain ⟨last, isLast⟩ := closing_inhabited
    have someArguments : ArgumentsClosed operators (first ++ last) :=
      ⟨first, last, rfl, .one isFirst, isLast⟩
    have commaFirst : Reader.Ensures (do
        Reader.symbol ',' .argumentSeparator
        let others ← Reader.arguments operators depth
        return argument :: others) cursor
        (Recognizes (MoreArguments operators) EndsOperand cursor) := by
      refine Recognizes.symbol (ArgumentsClosed operators) ?_ ?_ ?_
        ⟨unplaced .symbol "," :: (first ++ last), _, _, rfl, rfl, someArguments⟩
      · intro _
        exact Recognizes.formed (below.arguments _)
      · intro token word separates isWord
        exact ⟨token, word, rfl, separates, isWord⟩
      · rintro word ⟨comma, later, rfl, separates, isLater⟩
        exact ⟨comma, later, rfl, separates, isLater⟩
    refine commaFirst.imp fun outcome recognized => ?_
    refine recognized.transfer (fun word isWord _ => .inr isWord) ?_ ⟨last, .inl isLast⟩
    rintro word rest (⟨closing, rfl, isClosing⟩ | areMore) _ next
    · have same : closing = cursor.nextToken := next closing rfl
      rw [same] at isClosing
      exact (closes isClosing).elim
    · exact areMore

/-- Arguments are expressions, each with what may follow it. -/
theorem arguments_recognized (registered : operators.Registered) {depth : Nat}
    (below : Recognized operators depth) (cursor : Cursor) :
    Reader.Ensures (.arguments operators (depth + 1)) cursor
      (Recognizes (ArgumentsClosed operators) EndsOperand cursor) := by
  rw [Reader.arguments]
  have inTurn : Reader.Ensures (do
      let first ← Reader.expression operators depth
      let next ← Reader.peek
      if next.isSymbol ')' then
        Reader.advance
        return [first]
      else
        Reader.symbol ',' .argumentSeparator
        let others ← Reader.arguments operators depth
        return first :: others) cursor
      (Recognizes (Followed (Expression operators) (ArgumentsRest operators)) EndsOperand
        cursor) := by
    refine Recognizes.bind (below.expression cursor) ?_
      (closing_inhabited.imp fun word isClosing => .inl isClosing) ?_
    · rintro word rest (⟨closing, rfl, closes⟩ | ⟨comma, later, rfl, separates, _⟩) _
      · exact endsRow_of_closing registered closes
      · exact endsRow_of_comma registered separates
    · intro argument after passed _
      exact argumentsRest_recognized below argument after
  refine inTurn.imp fun outcome recognized => ?_
  obtain ⟨first, isFirst⟩ : ∃ word, Expression operators word := expression_inhabited
  obtain ⟨last, isLast⟩ := closing_inhabited
  refine recognized.transfer (fun word isWord _ => (argumentsClosed_iff word).mpr isWord)
    (fun word _ isWord _ _ => (argumentsClosed_iff word).mp isWord) ?_
  exact ⟨_, first, last, rfl, .one isFirst, isLast⟩

/-- An operand and the operators behind it make an expression. -/
theorem expression_recognized (registered : operators.Registered) {depth : Nat}
    (below : Recognized operators depth) (cursor : Cursor) :
    Reader.Ensures (.expression operators (depth + 1)) cursor
      (Recognizes (Expression operators) (EndsRow operators 0) cursor) := by
  rw [Reader.expression]
  have inTurn : Reader.Ensures
      (Reader.primary operators depth >>= Reader.operation operators depth 0) cursor
      (Recognizes (Followed (Primary operators) (OperationsFrom operators 0)) (EndsRow operators 0)
        cursor) :=
    Recognizes.bind (below.primary cursor)
      (fun word rest isWord ends => endsOperand_of_operations registered (by decide) isWord ends)
      ⟨[], .none⟩ (fun first after _ _ => below.operation after 0 first (by decide))
  refine inTurn.imp fun outcome recognized => ?_
  exact recognized.transfer (fun word isWord _ => (expression_iff word).mpr isWord)
    (fun word _ isWord _ _ => (expression_iff word).mp isWord) expression_inhabited

/-- Behind a row that was read as far as possible stands no operator that would continue it. -/
theorem precedence_lt_of_accepts {least : Int} {passed : List Token} {next : Token}
    (accepts : Accepts (OperationsFrom operators least) (EndsRow operators least) passed next) :
    operators.precedence next < least := by
  obtain ⟨isWord, only⟩ := accepts
  by_contra binds
  obtain ⟨operand, isOperand⟩ : ∃ word, Primary operators word := primary_inhabited
  have longer : OperationsFrom operators least (passed ++ next :: (operand ++ [])) :=
    isWord.append (.more (by omega) isOperand .none)
  have same := only _ [] (next :: (operand ++ [])) longer (by intro _ first; cases first)
    (ahead_cons _ _) (List.append_nil _)
  have length := congrArg List.length same
  simp at length

/-- The operators behind an operand that bind tighter than the one in front of it are taken
first, and the others after them. -/
theorem takes_recognized (registered : operators.Registered) {depth : Nat}
    (below : Recognized operators depth) {least bound : Int} (notNegative : 0 ≤ least)
    (le : least ≤ bound) (operand : Node) (form : Node → Node) (cursor : Cursor) :
    Reader.Ensures (do
      let right ←
        (if bound < operators.precedence cursor.nextToken then
          Reader.operation operators depth (bound + 1) operand
        else pure operand)
      Reader.operation operators depth least (form right)) cursor
      (Recognizes (OperationsFrom operators least) (EndsRow operators least) cursor) := by
  have tight : Reader.Ensures
      (if bound < operators.precedence cursor.nextToken then
        Reader.operation operators depth (bound + 1) operand
      else pure operand) cursor
      (Recognizes (OperationsFrom operators (bound + 1)) (EndsRow operators (bound + 1))
        cursor) := by
    by_cases binds : bound < operators.precedence cursor.nextToken
    · rw [if_pos binds]
      exact below.operation cursor (bound + 1) operand (by omega)
    · rw [if_neg binds]
      apply Recognizes.pure .none
      intro word rest isWord _ next
      cases isWord with
      | none => rfl
      | more binds _ _ =>
        rw [next _ rfl] at binds
        omega
  have closed (word rest : List Token) (starts : StartsBelow operators least (bound + 1) word)
      (ends : EndsRow operators least rest) : EndsRow operators (bound + 1) (word ++ rest) := by
    obtain ⟨isWord, below⟩ := starts
    intro token first
    refine ⟨endsOperand_of_operations registered notNegative isWord ends token first, ?_⟩
    cases isWord with
    | none =>
      have weak := (ends token first).2
      omega
    | more _ _ _ => exact below token first
  have continues (right : Node) (after : Cursor) (passed : List Token)
      (accepts : Accepts (OperationsFrom operators (bound + 1)) (EndsRow operators (bound + 1))
        passed after.nextToken) :
      Reader.Ensures (Reader.operation operators depth least (form right)) after
        (Recognizes (StartsBelow operators least (bound + 1)) (EndsRow operators least) after) := by
    have weak := precedence_lt_of_accepts accepts
    refine (below.operation after least (form right) notNegative).imp fun outcome recognized => ?_
    refine recognized.transfer ?_ (fun word _ isWord _ _ => isWord.1)
      ⟨[], .none, by intro _ first; cases first⟩
    intro word isWord next
    refine ⟨isWord, ?_⟩
    intro token first
    rw [next token first]
    exact weak
  have inTurn := Recognizes.bind tight closed ⟨[], .none, by intro _ first; cases first⟩ continues
  refine inTurn.imp fun outcome recognized => ?_
  exact recognized.transfer (fun word isWord _ => (operations_split (by omega) word).mpr isWord)
    (fun word _ isWord _ _ => (operations_split (by omega) word).mp isWord) ⟨[], .none⟩

/-- A row goes on while the next token is an operator that binds tightly enough. -/
theorem operation_recognized (registered : operators.Registered) {depth : Nat}
    (below : Recognized operators depth) (cursor : Cursor) (least : Int) (left : Node)
    (notNegative : 0 ≤ least) :
    Reader.Ensures (.operation operators (depth + 1) least left) cursor
      (Recognizes (OperationsFrom operators least) (EndsRow operators least) cursor) := by
  rw [Reader.operation]
  apply Reader.ensures_peek
  by_cases weak : operators.precedence cursor.nextToken < least
  · rw [if_pos weak]
    apply Recognizes.pure .none
    intro word rest isWord _ next
    cases isWord with
    | none => rfl
    | more binds _ _ =>
      rw [next _ rfl] at binds
      omega
  · rw [if_neg weak]
    refine Recognizes.advance (Followed (Primary operators) (OperationsFrom operators least))
      (more_of_binds notNegative (show least ≤ operators.precedence cursor.nextToken by omega))
      ?_ ?_ ?_
    · refine Recognizes.bind (below.primary _)
        (fun word rest isWord ends => endsOperand_of_operations registered notNegative isWord ends)
        ⟨[], .none⟩ ?_
      intro operand read _ _
      apply Reader.ensures_peek
      exact takes_recognized registered below notNegative (by omega) operand
        (fun right =>
          .binary cursor.nextToken.lexeme left right (some cursor.nextToken.location)) read
    · rintro word ⟨operand, others, rfl, isOperand, areOthers⟩
      exact .more (by omega) isOperand areOthers
    · intro word rest isWord ends first
      cases isWord with
      | none =>
        have weak := (ends _ first).2
        omega
      | more _ isOperand areOthers =>
        cases first
        exact ⟨_, rfl, _, _, rfl, isOperand, areOthers⟩

/-- At every depth the readers of expressions recognize their languages. -/
theorem recognized (registered : operators.Registered) (depth : Nat) :
    Recognized operators depth := by
  induction depth with
  | zero =>
    constructor <;> intros <;> exact Reader.ensures_exhausted _ _
  | succ depth below =>
    constructor
    case primary => exact primary_recognized below
    case parenthesised => exact parenthesised_recognized registered below
    case named => exact named_recognized below
    case arguments => exact arguments_recognized registered below
    case expression => exact expression_recognized registered below
    case operation => exact operation_recognized registered below

end Grammar

end Reckon
