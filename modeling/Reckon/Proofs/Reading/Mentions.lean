import Reckon.Proofs.Operators
import Reckon.Proofs.Reading.Contract
import Reckon.Proofs.Token.Passage

/-!
# Parts of a tree and the tokens that they were read from

Reading an expression passes each of its tokens once. Apart from parentheses and commas every
token becomes a part of the tree: a number, a name, an operator or the function of a call. The
parts in the order in which they are written mention the same as the tokens do, at the same
places. An operand that is taken over by a tighter operator changes its place in the tree, and
never its place in that order.
-/

namespace Reckon

/-- What a token or a part of a tree stands for, and where it is written. -/
structure Mention where
  kind : TokenKind
  value : TokenValue
  location : Option Location

/-- What a token mentions. -/
def Token.mention (token : Token) : Mention := ⟨token.kind, token.value, some token.location⟩

/-- Whether a token only groups or separates what stands beside it. -/
def Token.isPunctuation (token : Token) : Bool :=
  token.isSymbol '(' || token.isSymbol ')' || token.isSymbol ','

/-- The tokens that are more than punctuation. -/
def bearing (tokens : List Token) : List Token := tokens.filter fun token => !token.isPunctuation

namespace Node

/-- What a tree mentions by itself. A unit that stands where an expression belongs mentions
nothing. -/
def mention? : Node → Option Mention
  | .number value location => some ⟨.number, .number value, location⟩
  | .reference name location => some ⟨.identifier, .text name, location⟩
  | .binary operator _ _ location => some ⟨.symbol, .text operator, location⟩
  | .call callee _ location => some ⟨.identifier, .text callee, location⟩
  | .prototype _ | .definition .. => none

mutual

/-- A tree and the trees in it, in the order in which they are written: an operation between its
operands, a call before its arguments. -/
def parts : Node → List Node
  | .number value location => [.number value location]
  | .reference name location => [.reference name location]
  | .binary operator left right location =>
    left.parts ++ .binary operator left right location :: right.parts
  | .call callee arguments location => .call callee arguments location :: partsOfAll arguments
  | .prototype header => [.prototype header]
  | .definition header body location => [.definition header body location]

/-- The parts of trees, one tree after the other. -/
def partsOfAll : List Node → List Node
  | [] => []
  | tree :: rest => tree.parts ++ partsOfAll rest

end

/-- The parts of an argument are among those of all arguments. -/
theorem mem_partsOfAll {part argument : Node} {arguments : List Node}
    (among : argument ∈ arguments) (inside : part ∈ argument.parts) :
    part ∈ partsOfAll arguments := by
  induction arguments with
  | nil => cases among
  | cons first rest inductionHypothesis =>
    rw [partsOfAll, List.mem_append]
    rcases List.mem_cons.mp among with rfl | later
    · exact .inl inside
    · exact .inr (inductionHypothesis later)

end Node

/-! ## Passages and the parts they are read into -/

/-- Between the cursors stand punctuation and what the parts mention, in their order. -/
def Cursor.Spends (first : Cursor) (parts : List Node) (last : Cursor) : Prop :=
  ∃ passed, first.Passes passed last ∧
    parts.map Node.mention? = (bearing passed).map fun token => some token.mention

namespace Cursor

/-- What was spent from one cursor to the next and on from there was spent in all. -/
theorem Spends.append {first middle last : Cursor} {parts more : List Node}
    (start : first.Spends parts middle) (rest : middle.Spends more last) :
    first.Spends (parts ++ more) last := by
  obtain ⟨passed, passage, same⟩ := start
  obtain ⟨later, passageToo, sameToo⟩ := rest
  refine ⟨passed ++ later, passage.append passageToo, ?_⟩
  rw [bearing, List.filter_append, List.map_append, List.map_append, same, sameToo]
  rfl

/-- A token of its own is spent on a part that mentions the same. -/
theorem spends_token {cursor : Cursor} {part : Node}
    (bears : cursor.nextToken.isPunctuation = false)
    (more : cursor.nextToken.kind ≠ .endOfInput)
    (mentions : part.mention? = some cursor.nextToken.mention) :
    cursor.Spends [part] cursor.pastToken := by
  refine ⟨[cursor.nextToken], .token cursor more (.nothing _), ?_⟩
  simp [bearing, bears, mentions]

/-- Punctuation is spent on nothing. -/
theorem spends_punctuation {cursor : Cursor} (punctuation : cursor.nextToken.isPunctuation = true)
    (more : cursor.nextToken.kind ≠ .endOfInput) : cursor.Spends [] cursor.pastToken := by
  refine ⟨[cursor.nextToken], .token cursor more (.nothing _), ?_⟩
  simp [bearing, punctuation]

end Cursor

/-- Only symbols are punctuation. -/
theorem Token.not_isPunctuation_of_kind {token : Token} (kind : token.kind ≠ .symbol) :
    token.isPunctuation = false := by
  simp [isPunctuation, isSymbol, kind]

/-- Operators of a table are no punctuation. -/
theorem Operators.Registered.not_isPunctuation {operators : Operators}
    (registered : operators.Registered) {token : Token}
    (isOperator : 0 ≤ operators.precedence token) : token.isPunctuation = false := by
  have apart (character : Char) (reserved : isReserved character = true) :
      token.isSymbol character = false := by
    cases found : token.isSymbol character with
    | false => rfl
    | true =>
      rw [registered.precedence_of_isReserved found reserved] at isOperator
      cases isOperator
  simp [Token.isPunctuation, apart '(' rfl, apart ')' rfl, apart ',' rfl]

/-! ## Readers -/

namespace Reader

variable {α β : Type} {operators : Operators}

/-- What was read since the start is made of the tokens since then. -/
def Accounts (start : Cursor) (parts : α → List Node) : Outcome α → Prop
  | .parsed value after => start.Spends (parts value) after
  | .failed _ _ => True

/-- A value of which all parts have been spent accounts for what was read. -/
theorem accounts_pure {start cursor : Cursor} {parts : α → List Node} {value : α}
    (spends : start.Spends (parts value) cursor) :
    Ensures (pure value) cursor (Accounts start parts) := ensures_pure spends

/-- What a second reader reads is accounted for together with what the first one has read. -/
theorem accounts_bind {start startToo cursor : Cursor} {first : Reader α} {next : α → Reader β}
    {parts : α → List Node} {partsToo : β → List Node}
    (kept : Ensures first cursor (Accounts start parts))
    (continues : ∀ value after, start.Spends (parts value) after →
      Ensures (next value) after (Accounts startToo partsToo)) :
    Ensures (first >>= next) cursor (Accounts startToo partsToo) :=
  kept.bind (fun _ _ _ => trivial) continues

/-- A symbol of the punctuation is passed. -/
theorem accounts_symbol {start cursor : Cursor} {character : Char} {expected : Expectation}
    {next : Unit → Reader α} {parts : α → List Node}
    (continues : cursor.nextToken.isSymbol character = true →
      Ensures (next ()) cursor.pastToken (Accounts start parts)) :
    Ensures (symbol character expected >>= next) cursor (Accounts start parts) :=
  ensures_symbol continues fun _ => trivial

/-- Parentheses and commas are spent without mentioning anything. -/
theorem spends_symbol {cursor : Cursor} {character : Char}
    (among : character = '(' ∨ character = ')' ∨ character = ',')
    (there : cursor.nextToken.isSymbol character = true) : cursor.Spends [] cursor.pastToken := by
  apply Cursor.spends_punctuation
  · rcases among with rfl | rfl | rfl <;> simp [Token.isPunctuation, there]
  · rw [kind_of_isSymbol there]
    decide

/-- The readers of expressions account for every token that they pass, at the given depth. An
operation also accounts for those of the operand in front of it. -/
structure AccountsAt (operators : Operators) (depth : Nat) : Prop where
  primary (cursor : Cursor) : Ensures (primary operators depth) cursor (Accounts cursor Node.parts)
  parenthesised (cursor : Cursor) (opens : cursor.nextToken.isSymbol '(' = true) :
    Ensures (parenthesised operators depth) cursor (Accounts cursor Node.parts)
  named (cursor : Cursor) (kind : cursor.nextToken.kind = .identifier) :
    Ensures (named operators depth) cursor (Accounts cursor Node.parts)
  arguments (cursor : Cursor) :
    Ensures (arguments operators depth) cursor (Accounts cursor Node.partsOfAll)
  expression (cursor : Cursor) :
    Ensures (expression operators depth) cursor (Accounts cursor Node.parts)
  operation {start cursor : Cursor} {least : Int} {left : Node} (notNegative : 0 ≤ least)
      (spent : start.Spends left.parts cursor) :
    Ensures (operation operators depth least left) cursor (Accounts start Node.parts)

section

variable {depth : Nat}

/-- The token of a number is the number. -/
theorem number_accounts (cursor : Cursor) (kind : cursor.nextToken.kind = .number) :
    Ensures number cursor (Accounts cursor Node.parts) := by
  unfold number
  refine ensures_peek (ensures_advance (accounts_pure (cursor.spends_token ?_ ?_ ?_)))
  · exact Token.not_isPunctuation_of_kind (by simp [kind])
  · simp [kind]
  · simp [Node.mention?, Token.mention, Token.value, kind]

/-- A name, or a name with its arguments, accounts for its tokens. -/
theorem named_accounts (below : AccountsAt operators depth) (cursor : Cursor)
    (kind : cursor.nextToken.kind = .identifier) :
    Ensures (named operators (depth + 1)) cursor (Accounts cursor Node.parts) := by
  -- The name is spent before it is known whether it is a reference or a call.
  have spends {part : Node}
      (mentions : part.mention? =
        some ⟨.identifier, .text cursor.nextToken.lexeme, some cursor.nextToken.location⟩) :
      cursor.Spends [part] cursor.pastToken := by
    refine cursor.spends_token (Token.not_isPunctuation_of_kind (by simp [kind]))
      (by simp [kind]) ?_
    rw [mentions]
    simp [Token.mention, Token.value, kind]
  rw [named]
  refine ensures_peek (ensures_advance (ensures_peek ?_))
  by_cases opens : cursor.pastToken.nextToken.isSymbol '(' = true
  · rw [if_pos opens]
    refine ensures_advance (ensures_peek ?_)
    have opened := spends_symbol (.inl rfl) opens
    by_cases closes : cursor.pastToken.pastToken.nextToken.isSymbol ')' = true
    · rw [if_pos closes]
      refine ensures_advance (accounts_pure ?_)
      exact ((spends rfl).append opened).append (spends_symbol (.inr (.inl rfl)) closes)
    · rw [if_neg closes]
      apply accounts_bind (below.arguments _)
      intro arguments after spent
      exact accounts_pure (((spends rfl).append opened).append spent)
  · rw [if_neg opens]
    exact accounts_pure (spends rfl)

/-- Arguments account for their tokens, commas included. -/
theorem arguments_accounts (below : AccountsAt operators depth) (cursor : Cursor) :
    Ensures (arguments operators (depth + 1)) cursor (Accounts cursor Node.partsOfAll) := by
  rw [arguments]
  refine accounts_bind (below.expression cursor) fun first after spent => ensures_peek ?_
  by_cases closes : after.nextToken.isSymbol ')' = true
  · rw [if_pos closes]
    exact ensures_advance (accounts_pure (spent.append (spends_symbol (.inr (.inl rfl)) closes)))
  · rw [if_neg closes]
    apply accounts_symbol
    intro separates
    apply accounts_bind (below.arguments _)
    intro others last spentToo
    apply accounts_pure
    have separated := spends_symbol (.inr (.inr rfl)) separates
    exact spent.append (separated.append spentToo)

/-- Operators and their operands account for their tokens, and for those of the operand in front. -/
theorem operation_accounts (registered : operators.Registered) (below : AccountsAt operators depth)
    {start cursor : Cursor} {least : Int} {left : Node} (notNegative : 0 ≤ least)
    (spent : start.Spends left.parts cursor) :
    Ensures (operation operators (depth + 1) least left) cursor (Accounts start Node.parts) := by
  rw [operation]
  apply ensures_peek
  by_cases looser : operators.precedence cursor.nextToken < least
  · rw [if_pos looser]
    exact accounts_pure spent
  rw [if_neg looser]
  have isOperator : 0 ≤ operators.precedence cursor.nextToken := by omega
  have kind : cursor.nextToken.kind = .symbol := by
    apply Decidable.byContradiction
    intro other
    rw [operators.precedence_of_kind_ne _ other] at isOperator
    cases isOperator
  refine ensures_advance (accounts_bind (below.primary _) fun operand read spentOperand => ?_)
  have takesOperand : Ensures
      (if operators.precedence cursor.nextToken < operators.precedence read.nextToken then
        operation operators depth (operators.precedence cursor.nextToken + 1) operand
      else pure operand) read (Accounts cursor.pastToken Node.parts) := by
    split
    · exact below.operation (by omega) spentOperand
    · exact accounts_pure spentOperand
  refine ensures_peek (accounts_bind takesOperand fun right folded spentRight => ?_)
  apply below.operation notNegative
  rw [Node.parts, ← List.singleton_append]
  refine spent.append ((cursor.spends_token ?_ ?_ ?_).append spentRight)
  · exact registered.not_isPunctuation isOperator
  · simp [kind]
  · simp [Node.mention?, Token.mention, Token.value, kind]

end

/-- **The readers of expressions account for their tokens.** -/
theorem accountsAt (registered : operators.Registered) (depth : Nat) :
    AccountsAt operators depth := by
  induction depth with
  | zero => constructor <;> intros <;> exact ensures_exhausted _ _
  | succ depth below =>
    constructor
    case primary =>
      intro cursor
      rw [primary]
      apply ensures_peek
      by_cases name : cursor.nextToken.kind = .identifier
      · rw [if_pos name]
        exact below.named cursor name
      · rw [if_neg name]
        by_cases digits : cursor.nextToken.kind = .number
        · rw [if_pos digits]
          exact number_accounts cursor digits
        · rw [if_neg digits]
          by_cases opens : cursor.nextToken.isSymbol '(' = true
          · rw [if_pos opens]
            exact below.parenthesised cursor opens
          · rw [if_neg opens]
            exact ensures_refuse trivial
    case parenthesised =>
      intro cursor opens
      rw [parenthesised]
      refine ensures_advance (accounts_bind (below.expression _) fun inner after spent => ?_)
      apply accounts_symbol
      intro closes
      have whole := ((spends_symbol (.inl rfl) opens).append spent).append
        (spends_symbol (.inr (.inl rfl)) closes)
      rw [List.nil_append, List.append_nil] at whole
      exact accounts_pure whole
    case named => exact named_accounts below
    case arguments => exact arguments_accounts below
    case expression =>
      intro cursor
      rw [expression]
      exact accounts_bind (below.primary cursor) fun first after spent =>
        below.operation (by decide) spent
    case operation => exact operation_accounts registered below

end Reader

/-- Reading an expression spends every token that it passes on a part of the tree, or on
punctuation. -/
theorem Cursor.readExpression_spends {operators : Operators} (registered : operators.Registered)
    {cursor after : Cursor} {tree : Node}
    (parsed : cursor.readExpression operators = .parsed tree after) :
    cursor.Spends tree.parts after := by
  have accounts : Reader.Accounts cursor Node.parts (cursor.readExpression operators) :=
    read_ensures ((Reader.accountsAt registered cursor.depth).expression cursor)
  rw [parsed] at accounts
  exact accounts

end Reckon
