import Reckon.Reading.Unit

/-!
# Readers always answer

Each reader is given a depth computed from the characters that are left. The
readers here have no depth argument and no way of ending without an answer: four
levels per remaining character, and four more, are enough for all of them.
-/

namespace Reckon

namespace Reader

variable {α β : Type}

/-- The reader answers at the cursor, and a result leaves fewer than `bound` characters. -/
def Settles (reader : Reader α) (cursor : Cursor) (bound : Nat) : Prop :=
  ∃ outcome, reader cursor = some outcome ∧
    ∀ value after, outcome = .parsed value after → after.rest.length < bound

/-- A reader that keeps within a bound keeps within every larger one. -/
theorem Settles.weaken {reader : Reader α} {cursor : Cursor} {bound larger : Nat}
    (settles : Settles reader cursor bound) (le : bound ≤ larger) :
    Settles reader cursor larger := by
  obtain ⟨outcome, answer, short⟩ := settles
  exact ⟨outcome, answer, fun value after parsed =>
    Nat.lt_of_lt_of_le (short value after parsed) le⟩

/-- A value takes nothing, so all that was left is left. -/
theorem settles_pure (value : α) (cursor : Cursor) :
    Settles (pure value) cursor (cursor.rest.length + 1) :=
  ⟨_, pure_apply value cursor, fun _ _ parsed => by cases parsed; exact Nat.lt_succ_self _⟩

/-- Going past a token leaves what is behind the token. -/
theorem settles_advance (cursor : Cursor) :
    Settles advance cursor (cursor.pastToken.rest.length + 1) :=
  ⟨_, advance_apply cursor, fun _ _ parsed => by cases parsed; exact Nat.lt_succ_self _⟩

/-- A refusal gives no result, so it keeps within any bound. -/
theorem settles_refuse (expected : Expectation) (cursor : Cursor) (bound : Nat) :
    Settles (refuse expected : Reader α) cursor bound :=
  ⟨_, refuse_apply expected cursor, fun _ _ parsed => by cases parsed⟩

/-- The token of a symbol is of the kind of symbols. -/
theorem kind_of_isSymbol {token : Token} {character : Char}
    (symbol : token.isSymbol character = true) : token.kind = .symbol := by
  simp only [Token.isSymbol, Bool.and_eq_true, beq_iff_eq] at symbol
  exact symbol.1

/-- A symbol has a character, so less is left behind it. -/
theorem length_lt_of_isSymbol {cursor : Cursor} {character : Char}
    (symbol : cursor.nextToken.isSymbol character = true) :
    cursor.pastToken.rest.length < cursor.rest.length :=
  cursor.length_pastToken_lt (by simp [kind_of_isSymbol symbol])

/-- A symbol that is read takes at least its character. -/
theorem settles_symbol (character : Char) (expected : Expectation) (cursor : Cursor) :
    Settles (symbol character expected) cursor cursor.rest.length := by
  by_cases there : cursor.nextToken.isSymbol character = true
  · refine ⟨_, by rw [symbol_apply, if_pos there], fun _ _ parsed => ?_⟩
    cases parsed
    exact length_lt_of_isSymbol there
  · refine ⟨_, by rw [symbol_apply, if_neg there], fun _ _ parsed => ?_⟩
    cases parsed

/-- A reader that goes on after another settles if both do. -/
theorem Settles.bind {first : Reader α} {next : α → Reader β} {cursor : Cursor} {middle bound : Nat}
    (settles : Settles first cursor middle)
    (continues : ∀ value after, after.rest.length < middle → Settles (next value) after bound) :
    Settles (first >>= next) cursor bound := by
  obtain ⟨outcome, answer, short⟩ := settles
  cases outcome with
  | failed error stopped =>
    exact ⟨.failed error stopped, by rw [bind_apply, answer], fun _ _ parsed => by cases parsed⟩
  | parsed value after =>
    obtain ⟨last, lastAnswer, lastShort⟩ := continues value after (short value after rfl)
    exact ⟨last, by rw [bind_apply, answer]; exact lastAnswer, lastShort⟩

/-- Looking at the next token changes nothing. -/
theorem Settles.peek_bind {next : Token → Reader β} {cursor : Cursor} {bound : Nat}
    (continues : Settles (next cursor.nextToken) cursor bound) :
    Settles (peek >>= next) cursor bound := continues

/-- A last step that only forms the result. -/
theorem Settles.bind_pure {first : Reader α} {form : α → β} {cursor : Cursor} {bound : Nat}
    (settles : Settles first cursor bound) :
    Settles (first >>= fun value => pure (form value)) cursor bound :=
  settles.bind fun value after short => (settles_pure (form value) after).weaken short

/-- A number that is read takes at least one character. -/
theorem settles_number (cursor : Cursor) (kind : cursor.nextToken.kind = .number) :
    Settles number cursor cursor.rest.length := by
  have shorter := cursor.length_pastToken_lt (by simp [kind])
  exact .peek_bind ((settles_advance cursor).bind_pure.weaken shorter)

/-- Depths that suffice for the readers of expressions. -/
structure Enough (operators : Operators) (depth : Nat) : Prop where
  primary (cursor : Cursor) (enough : 4 * cursor.rest.length + 1 ≤ depth) :
    Settles (primary operators depth) cursor cursor.rest.length
  parenthesised (cursor : Cursor) (enough : 4 * cursor.pastToken.rest.length + 3 ≤ depth) :
    Settles (parenthesised operators depth) cursor cursor.pastToken.rest.length
  named (cursor : Cursor) (enough : 4 * cursor.pastToken.rest.length + 4 ≤ depth) :
    Settles (named operators depth) cursor (cursor.pastToken.rest.length + 1)
  arguments (cursor : Cursor) (enough : 4 * cursor.rest.length + 3 ≤ depth) :
    Settles (arguments operators depth) cursor cursor.rest.length
  expression (cursor : Cursor) (enough : 4 * cursor.rest.length + 2 ≤ depth) :
    Settles (expression operators depth) cursor cursor.rest.length
  operation (cursor : Cursor) (least : Int) (left : Node)
    (enough : 4 * cursor.rest.length + 2 ≤ depth) :
    Settles (operation operators depth least left) cursor (cursor.rest.length + 1)

/-- Each reader passes on one level less, and reads a token before it comes back to
itself, so four levels for every character last. -/
theorem enough (operators : Operators) (depth : Nat) : Enough operators depth := by
  induction depth with
  | zero => constructor <;> intros <;> omega
  | succ depth below =>
    constructor
    case primary =>
      intro cursor enough
      rw [Reader.primary]
      refine .peek_bind ?_
      split
      · rename_i kind
        have shorter := cursor.length_pastToken_lt (by simp [kind])
        exact (below.named cursor (by omega)).weaken (by omega)
      · split
        · rename_i kind
          exact settles_number cursor kind
        · split
          · rename_i opening
            have shorter := length_lt_of_isSymbol opening
            exact (below.parenthesised cursor (by omega)).weaken (by omega)
          · exact settles_refuse ..
    case parenthesised =>
      intro cursor enough
      rw [Reader.parenthesised]
      refine (settles_advance cursor).bind fun _ after afterLt => ?_
      refine (below.expression after (by omega)).bind fun _ inner innerLt => ?_
      exact (settles_symbol ')' .closingParenthesis inner).bind_pure.weaken (by omega)
    case named =>
      intro cursor enough
      rw [Reader.named]
      refine .peek_bind ((settles_advance cursor).bind fun _ after afterLt => .peek_bind ?_)
      split
      · rename_i opening
        have shorter := length_lt_of_isSymbol opening
        refine (settles_advance after).bind fun _ inside insideLt => .peek_bind ?_
        split
        · have less := inside.length_pastToken_le
          exact (settles_advance inside).bind_pure.weaken (by omega)
        · exact (below.arguments inside (by omega)).bind_pure.weaken (by omega)
      · exact (settles_pure _ after).weaken (by omega)
    case arguments =>
      intro cursor enough
      rw [Reader.arguments]
      refine (below.expression cursor (by omega)).bind fun _ after afterLt => .peek_bind ?_
      split
      · have less := after.length_pastToken_le
        exact (settles_advance after).bind_pure.weaken (by omega)
      · refine (settles_symbol ',' .argumentSeparator after).bind fun _ next nextLt => ?_
        exact (below.arguments next (by omega)).bind_pure.weaken (by omega)
    case expression =>
      intro cursor enough
      rw [Reader.expression]
      refine (below.primary cursor (by omega)).bind fun _ after afterLt => ?_
      exact (below.operation after 0 _ (by omega)).weaken (by omega)
    case operation =>
      intro cursor least left enough
      have less := cursor.length_pastToken_le
      rw [Reader.operation]
      refine .peek_bind ?_
      split
      · exact settles_pure _ cursor
      · refine (settles_advance cursor).bind fun _ after afterLt => ?_
        refine (below.primary after (by omega)).bind fun operand read readLt => .peek_bind ?_
        have takesOperand : Settles
            (if operators.precedence cursor.nextToken < operators.precedence read.nextToken then
              operation operators depth (operators.precedence cursor.nextToken + 1) operand
            else pure operand) read (read.rest.length + 1) := by
          split
          · exact below.operation read _ _ (by omega)
          · exact settles_pure _ read
        refine takesOperand.bind fun right folded foldedLt => ?_
        exact (below.operation folded least _ (by omega)).weaken (by omega)

/-- A row of operators of at least the given precedence, starting at its first operand. -/
def row (operators : Operators) (least : Int) (depth : Nat) : Reader Node := do
  let first ← primary operators depth
  operation operators depth least first

/-- A row of operands needs four levels for each character that is left, and one more. -/
theorem settles_row (operators : Operators) (least : Int) (cursor : Cursor) (depth : Nat)
    (deep : 4 * cursor.rest.length + 1 ≤ depth) :
    Settles (row operators least depth) cursor cursor.rest.length := by
  refine ((enough operators depth).primary cursor deep).bind fun _ after afterLt => ?_
  exact ((enough operators depth).operation after least _ (by omega)).weaken (by omega)

/-- The names of parameters need a level each, and one for what ends them. -/
theorem settles_parameters (depth : Nat) (cursor : Cursor) (deep : cursor.rest.length < depth) :
    Settles (parameters depth) cursor (cursor.rest.length + 1) := by
  induction depth generalizing cursor with
  | zero => omega
  | succ depth inductionHypothesis =>
    rw [parameters]
    refine .peek_bind ?_
    split
    · rename_i kind
      have shorter := cursor.length_pastToken_lt (by simp [kind])
      refine (settles_advance cursor).bind fun _ after afterLt => ?_
      exact (inductionHypothesis after (by omega)).bind_pure.weaken (by omega)
    · exact settles_pure _ cursor

/-- A prototype needs no more levels than its parameters. -/
theorem settles_prototype (depth : Nat) (cursor : Cursor) (deep : cursor.rest.length < depth) :
    Settles (prototype depth) cursor cursor.rest.length := by
  unfold prototype
  refine .peek_bind ?_
  split
  · rename_i kind
    have shorter := cursor.length_pastToken_lt (by simp [kind])
    refine (settles_advance cursor).bind fun _ named namedLt => ?_
    refine (settles_symbol '(' .parameterList named).bind fun _ opened openedLt => ?_
    refine (settles_parameters depth opened (by omega)).bind fun _ listed listedLt => ?_
    exact (settles_symbol ')' .parameterListEnd listed).bind_pure.weaken (by omega)
  · exact settles_refuse ..

/-- A declaration needs no more levels than its prototype. -/
theorem settles_declaration (depth : Nat) (cursor : Cursor) (deep : cursor.rest.length < depth) :
    Settles (declaration depth) cursor (cursor.rest.length + 1) := by
  have less := cursor.length_pastToken_le
  refine (settles_advance cursor).bind fun _ after afterLt => ?_
  exact (settles_prototype depth after (by omega)).weaken (by omega)

/-- A definition needs the levels of its body and one more. -/
theorem settles_definition (operators : Operators) (depth : Nat) (cursor : Cursor)
    (deep : 4 * cursor.rest.length + 2 ≤ depth) :
    Settles (definition operators depth) cursor (cursor.rest.length + 1) := by
  have less := cursor.length_pastToken_le
  refine .peek_bind ((settles_advance cursor).bind fun _ after afterLt => ?_)
  refine (settles_prototype depth after (by omega)).bind fun _ declared declaredLt => ?_
  exact ((enough operators depth).expression declared (by omega)).bind_pure.weaken (by omega)

/-- A bare expression needs the levels of its body and one more. -/
theorem settles_anonymous (operators : Operators) (depth : Nat) (cursor : Cursor)
    (deep : 4 * cursor.rest.length + 2 ≤ depth) :
    Settles (anonymous operators depth) cursor cursor.rest.length :=
  ((enough operators depth).expression cursor deep).bind_pure

end Reader

namespace Cursor

/-- A depth that every reader can live with. -/
def depth (cursor : Cursor) : Nat := 4 * cursor.rest.length + 4

/-- The answer of a reader that is known to answer at this cursor. -/
def read {α : Type} {bound : Nat} (cursor : Cursor) (reader : Reader α)
    (settles : reader.Settles cursor bound) : Outcome α :=
  (reader cursor).get (by
    obtain ⟨outcome, answer, _⟩ := settles
    simp [answer])

/-- The answer is the reader's. -/
theorem some_read {α : Type} {bound : Nat} (cursor : Cursor) (reader : Reader α)
    (settles : reader.Settles cursor bound) :
    some (cursor.read reader settles) = reader cursor := Option.some_get _

/-- Reads an expression. -/
def readExpression (operators : Operators) (cursor : Cursor) : Outcome Node :=
  cursor.read (.expression operators cursor.depth)
    ((Reader.enough operators _).expression cursor (by unfold depth; omega))

/-- Reads an operand. -/
def readPrimary (operators : Operators) (cursor : Cursor) : Outcome Node :=
  cursor.read (.primary operators cursor.depth)
    ((Reader.enough operators _).primary cursor (by unfold depth; omega))

/-- Reads a parenthesised expression; what the opening parenthesis is, is not checked. -/
def readParenthesised (operators : Operators) (cursor : Cursor) : Outcome Node :=
  cursor.read (.parenthesised operators cursor.depth)
    ((Reader.enough operators _).parenthesised cursor (by
      have less := cursor.length_pastToken_le
      unfold depth; omega))

/-- Reads a reference or a call; what the name is, is not checked. -/
def readNamed (operators : Operators) (cursor : Cursor) : Outcome Node :=
  cursor.read (.named operators cursor.depth)
    ((Reader.enough operators _).named cursor (by
      have less := cursor.length_pastToken_le
      unfold depth; omega))

/-- Reads a number; that the next token is one is not checked. -/
def readNumber (cursor : Cursor) : Outcome Node :=
  cursor.read .number (.peek_bind (Reader.settles_advance cursor).bind_pure)

/-- Reads an operand and the operators after it that have at least the given precedence. -/
def readRow (operators : Operators) (least : Int) (cursor : Cursor) : Outcome Node :=
  cursor.read (.row operators least cursor.depth)
    (Reader.settles_row operators least cursor _ (by unfold depth; omega))

/-- Reads a prototype. -/
def readPrototype (cursor : Cursor) : Outcome Prototype :=
  cursor.read (.prototype cursor.depth)
    (Reader.settles_prototype _ cursor (by unfold depth; omega))

/-- Reads a definition; that the next token is the keyword is not checked. -/
def readDefinition (operators : Operators) (cursor : Cursor) : Outcome Definition :=
  cursor.read (.definition operators cursor.depth)
    (Reader.settles_definition operators _ cursor (by unfold depth; omega))

/-- Reads a declaration; that the next token is the keyword is not checked. -/
def readDeclaration (cursor : Cursor) : Outcome Prototype :=
  cursor.read (.declaration cursor.depth)
    (Reader.settles_declaration _ cursor (by unfold depth; omega))

/-- Reads a bare expression as the definition of the anonymous function. -/
def readAnonymous (operators : Operators) (cursor : Cursor) : Outcome Definition :=
  cursor.read (.anonymous operators cursor.depth)
    (Reader.settles_anonymous operators _ cursor (by unfold depth; omega))

end Cursor

end Reckon
