import Reckon.Proofs.Reading.Mentions
import Reckon.Proofs.Reading.RoundTrip
import Reckon.Proofs.Reading.Spelling
import Reckon.Proofs.Token.Layout

/-!
# Layout does not matter

A text and another layout of it have the same lexemes, so every reader comes to results that
differ in their places only, or to errors with the same expectation. Places do not count when
trees are compared, and the numbers in trees that were read are the same as themselves. So the
results are the same, and the errors have the same code.
-/

namespace Reckon

/-! ## Trees that are read alike -/

/-- No number in the tree differs from itself. -/
def Node.Numeric (tree : Node) : Prop :=
  ∀ value location, Node.number value location ∈ tree.parts → IsNumber value

/-- What is spent on tokens is numeric, as the tokens of numbers are. -/
theorem Cursor.Spends.numeric {first last : Cursor} {tree : Node}
    (spends : first.Spends tree.parts last) : tree.Numeric := by
  obtain ⟨passed, _, same⟩ := spends
  intro value location among
  have mention := List.mem_map_of_mem (f := Node.mention?) among
  rw [same] at mention
  obtain ⟨token, _, mentions⟩ := List.mem_map.mp mention
  obtain ⟨kind, told, _⟩ := Mention.mk.inj (Option.some.inj mentions)
  rw [Token.value, kind] at told
  cases told
  exact isNumber_lexemeValue token.lexeme

/-- Numeric trees that are alike are the same. -/
theorem Node.Alike.same {left right : Node} (alike : left.Alike right) (numeric : left.Numeric) :
    left.same right = true := by
  induction alike with
  | number value location other =>
    exact (numeric value location (List.mem_singleton_self _)).beq_self
  | reference name location other => exact beq_self_eq_true name
  | @binary operator left right _ _ location other _ _ inLeft inRight =>
    have numericLeft : left.Numeric := fun value location inside =>
      numeric value location (List.mem_append_left _ inside)
    have numericRight : right.Numeric := fun value location inside =>
      numeric value location (List.mem_append_right _ (List.mem_cons_of_mem _ inside))
    simp only [Node.same, inLeft numericLeft, inRight numericRight, beq_self_eq_true, Bool.and_self]
  | @call callee arguments argumentsToo location other length _ inArguments =>
    have each : List.Forall₂ (fun tree other => tree.same other = true) arguments
        argumentsToo := by
      refine List.forall₂_iff_zip.mpr ⟨length, fun {argument argumentToo} member => ?_⟩
      refine inArguments _ member fun value location inside => ?_
      exact numeric value location
        (List.mem_cons_of_mem _ (mem_partsOfAll (List.of_mem_zip member).1 inside))
    simp only [Node.same, Node.allSame_iff.mpr each, beq_self_eq_true, Bool.and_self]

/-- Definitions that are alike compare equal if no number in them differs from itself. -/
theorem Definition.Alike.same {left right : Definition} (alike : left.Alike right)
    (numeric : left.body.Numeric) : left.node.same right.node = true :=
  Bool.and_eq_true_iff.mpr ⟨alike.prototype.same, alike.body.same numeric⟩

/-- The body of the unit, if it has one, is numeric. -/
def ProgramUnit.Numeric : ProgramUnit → Prop
  | .definition function | .expression function => function.body.Numeric
  | .declaration _ => True

/-- Units that are alike compare equal if no number in them differs from itself. -/
theorem ProgramUnit.Alike.same {left right : ProgramUnit} (alike : left.Alike right)
    (numeric : left.Numeric) : left.node.same right.node = true := by
  cases alike with
  | definition alike | expression alike => exact Definition.Alike.same alike numeric
  | declaration alike => exact Prototype.Alike.same alike

/-! ## Readers yield numeric trees -/

namespace Reader

variable {operators : Operators}

/-- No number in an expression that is read differs from itself. -/
theorem expression_numeric (registered : operators.Registered) (depth : Nat) (cursor : Cursor) :
    Ensures (expression operators depth) cursor (Yields Node.Numeric) := by
  refine ((accountsAt registered depth).expression cursor).imp fun outcome accounts => ?_
  cases outcome with
  | parsed tree after => exact Cursor.Spends.numeric accounts
  | failed error stopped => trivial

/-- No number in a bare expression that is read differs from itself. -/
theorem anonymous_numeric (registered : operators.Registered) (depth : Nat) (cursor : Cursor) :
    Ensures (anonymous operators depth) cursor (Yields fun function => function.body.Numeric) :=
  yields_bind (expression_numeric registered depth cursor) fun _ _ numeric => ensures_pure numeric

/-- No number in a definition that is read differs from itself. -/
theorem definition_numeric (registered : operators.Registered) (depth : Nat) (cursor : Cursor) :
    Ensures (definition operators depth) cursor (Yields fun function => function.body.Numeric) := by
  have any : Ensures (prototype depth) cursor.pastToken (Yields fun _ => True) := by
    intro outcome _
    cases outcome <;> trivial
  refine ensures_peek (ensures_advance (yields_bind any fun header after _ => ?_))
  exact yields_bind (expression_numeric registered depth after) fun _ _ numeric =>
    ensures_pure numeric

end Reader

/-- No number in a unit that is read differs from itself. -/
theorem Cursor.readUnit_numeric {operators : Operators} (registered : operators.Registered)
    {cursor after : Cursor} {unit : ProgramUnit}
    (reads : cursor.readUnit operators = .parsed unit after) : unit.Numeric := by
  unfold readUnit at reads
  split at reads
  · obtain ⟨function, read, rfl⟩ := Outcome.map_eq_parsed reads
    exact read_yields (fun function : Definition => function.body.Numeric)
      (Reader.definition_numeric registered _ cursor) read
  · obtain ⟨header, _, rfl⟩ := Outcome.map_eq_parsed reads
    trivial
  · obtain ⟨function, read, rfl⟩ := Outcome.map_eq_parsed reads
    exact read_yields (fun function : Definition => function.body.Numeric)
      (Reader.anonymous_numeric registered _ cursor) read

/-- The units that a text is read as are numeric. -/
theorem Cursor.items_numeric {operators : Operators} (registered : operators.Registered)
    (cursor : Cursor) : ∀ unit, .ok unit ∈ cursor.items operators → unit.Numeric := by
  unfold items
  generalize cursor.rest.length + 1 = limit
  induction limit generalizing cursor with
  | zero => exact nofun
  | succ limit inductionHypothesis =>
    intro unit among
    rw [itemsWithin] at among
    split at among
    · cases among
    · split at among
      · exact inductionHypothesis _ unit among
      · rcases List.mem_cons.mp among with first | later
        · cases reads : cursor.readUnit operators with
          | parsed read after =>
            rw [reads] at first
            cases first
            exact readUnit_numeric registered reads
          | failed error stopped =>
            rw [reads] at first
            cases first
        · exact inductionHypothesis _ unit later

/-! ## What readers come to -/

/-- Results that are the same, or errors with the same code. -/
inductive Outcome.Same {α : Type} (same : α → α → Bool) : Outcome α → Outcome α → Prop
  | parsed {value other : α} {after last : Cursor} (equal : same value other = true) :
      Same same (.parsed value after) (.parsed other last)
  | failed {error other : SyntaxError} {stopped last : Cursor}
      (code : error.expected.code = other.expected.code) :
      Same same (.failed error stopped) (.failed other last)

/-- Units that are the same, or errors with the same code. -/
inductive Item.Same : Item → Item → Prop
  | unit {left right : ProgramUnit} (equal : left.node.same right.node = true) :
      Same (.ok left) (.ok right)
  | error {left right : SyntaxError} (code : left.expected.code = right.expected.code) :
      Same (.error left) (.error right)

/-- Results that are abreast are the same if likeness makes them so. -/
theorem Outcome.Abreast.same {α : Type} {behind : List Lexeme} {alike : α → α → Prop}
    {same : α → α → Bool} {wanted : α → Prop} {outcome other : Outcome α}
    (abreast : outcome.Abreast behind alike other) (yields : Reader.Yields wanted outcome)
    (implies : ∀ value other, wanted value → alike value other → same value other = true) :
    Outcome.Same same outcome other := by
  cases abreast with
  | parsed likeness _ => exact .parsed (implies _ _ yields likeness)
  | failed expected _ => exact .failed (congrArg Expectation.code expected)

/-- Every way to read from the cursors comes to the same. -/
structure Cursor.ReadsSame (operators : Operators) (left right : Cursor) : Prop where
  expression : Outcome.Same Node.same (left.readExpression operators)
    (right.readExpression operators)
  prototype : Outcome.Same Prototype.same left.readPrototype right.readPrototype
  definition : Outcome.Same (fun function other => function.node.same other.node)
    (left.readDefinition operators) (right.readDefinition operators)
  declaration : Outcome.Same Prototype.same left.readDeclaration right.readDeclaration
  anonymous : Outcome.Same (fun function other => function.node.same other.node)
    (left.readAnonymous operators) (right.readAnonymous operators)
  items : List.Forall₂ Item.Same (left.items operators) (right.items operators)

/-- Readers that go past the next tokens are abreast if they are behind them. -/
theorem Reader.abreast_pastToken {γ δ : Type} {last : γ → δ → Prop} {cursor other : Cursor}
    {next : Unit → Reader γ} {nextToo : Unit → Reader δ}
    (continues : Abreast [] last (next ()) (nextToo ()) cursor.pastToken other.pastToken) :
    Abreast [] last (advance >>= next) (advance >>= nextToo) cursor other := continues

namespace Cursor

variable {operators : Operators} {cursor other : Cursor}

/-- Texts with the same lexemes have them behind the next token as well, also at their ends. -/
theorem Abreast.pastToken (abreast : cursor.Abreast [] other) :
    cursor.pastToken.Abreast [] other.pastToken := by
  have still {cursor : Cursor} (ends : cursor.nextToken.kind = .endOfInput) :
      cursor.pastToken.lexemes = [] := by
    apply lexemes_of_nil
    rw [rest_pastToken, cursor.kind_nextToken_eq_endOfInput_iff.mp ends, List.drop_nil]
  by_cases ends : other.nextToken.kind = .endOfInput
  · have endsToo := cursor.lexemes_eq_nil_iff.mp (abreast.lexemes_eq_behind ends)
    rw [Cursor.Abreast, still ends, still endsToo, List.append_nil]
  · exact (abreast.bare_nextToken ends).2

/-- **Texts with the same lexemes are read the same.** -/
theorem readsSame (registered : operators.Registered) (same : cursor.lexemes = other.lexemes) :
    cursor.ReadsSame operators other := by
  have abreast : cursor.Abreast [] other := same.trans (List.append_nil _).symm
  have separated : Separated [] := nofun
  have bodies (cursor other : Cursor) (depth deeper : Nat) (abreast : cursor.Abreast [] other) :
      Reader.Abreast [] Node.Alike (.expression operators depth) (.expression operators deeper)
        cursor other :=
    (Reader.readsAbreast registered separated depth deeper).expression abreast
  have headers (cursor other : Cursor) (depth deeper : Nat) (abreast : cursor.Abreast [] other) :
      Reader.Abreast [] Prototype.Alike (.prototype depth) (.prototype deeper) cursor other :=
    Reader.prototype_abreast separated depth deeper abreast
  have definitions : Reader.Abreast [] Definition.Alike (.definition operators cursor.depth)
      (.definition operators other.depth) cursor other := by
    apply Reader.abreast_peek
    apply Reader.abreast_pastToken
    apply (headers _ _ cursor.depth other.depth abreast.pastToken).bind
    intro header headerToo after afterToo alike abreast
    apply (bodies _ _ cursor.depth other.depth abreast).bind
    intro body bodyToo last lastToo alikeBody abreast
    exact Reader.abreast_pure ⟨alike, alikeBody⟩ abreast
  have any {α : Type} (outcome : Outcome α) : Reader.Yields (fun _ => True) outcome := by
    cases outcome <;> trivial
  constructor
  case expression =>
    refine ((bodies cursor other cursor.depth other.depth abreast).read _ _).same
      (read_ensures (Reader.expression_numeric registered _ cursor)) ?_
    exact fun tree _ numeric alike => alike.same numeric
  case prototype =>
    refine ((headers cursor other cursor.depth other.depth abreast).read _ _).same (any _) ?_
    exact fun _ _ _ alike => alike.same
  case definition =>
    refine (definitions.read _ _).same
      (read_ensures (Reader.definition_numeric registered _ cursor)) ?_
    exact fun _ _ numeric alike => alike.same numeric
  case declaration =>
    have declarations : Reader.Abreast [] Prototype.Alike (.declaration cursor.depth)
        (.declaration other.depth) cursor other :=
      Reader.abreast_pastToken (headers _ _ _ _ abreast.pastToken)
    exact (declarations.read _ _).same (any _) fun _ _ _ alike => alike.same
  case anonymous =>
    refine ((Reader.anonymous_abreast registered separated _ _ abreast).read _ _).same
      (read_ensures (Reader.anonymous_numeric registered _ cursor)) ?_
    exact fun _ _ numeric alike => alike.same numeric
  case items =>
    have numeric := cursor.items_numeric registered
    have alike := items_congr registered same
    generalize cursor.items operators = items at alike numeric
    generalize other.items operators = itemsToo at alike
    induction alike with
    | nil => exact .nil
    | @cons item itemToo rest restToo first _ inductionHypothesis =>
      refine .cons ?_ (inductionHypothesis fun unit among =>
        numeric unit (List.mem_cons_of_mem item among))
      cases first with
      | unit alike => exact .unit (alike.same (numeric _ List.mem_cons_self))
      | error expected => exact .error (congrArg Expectation.code expected)

end Cursor

/-- A token without its place: its kind, its characters and what it stands for. -/
def Token.told (token : Token) : TokenKind × String × TokenValue :=
  (token.kind, token.lexeme, token.value)

/-- What a token stands for follows from its kind and its characters. -/
theorem map_told_congr {tokens others : List Token}
    (same : tokens.map Token.bare = others.map Token.bare) :
    tokens.map Token.told = others.map Token.told := by
  let tell (lexeme : Lexeme) : TokenKind × String × TokenValue :=
    (⟨lexeme.1, lexeme.2, placeIn "" [] 0⟩ : Token).told
  have told (token : Token) : token.told = tell token.bare := rfl
  have whole (tokens : List Token) : tokens.map Token.told = (tokens.map Token.bare).map tell := by
    rw [List.map_map]
    exact List.map_congr_left fun token _ => told token
  rw [whole, whole, same]

/-- **Layout does not matter.** Whatever gaps the lexemes of a text are written down with, in front
of them, between them and behind them: the new text has tokens of the same kinds, with the same
characters and values, and every way to read from its beginning comes to the same results, or to
errors with the same code. -/
theorem layout_changes_places_only (file fileToo source : String) {gaps : Nat → List Char}
    (layout : IsLayout gaps (Cursor.start file source.toList).lexemes) :
    let other := String.ofList (laidOut gaps (Cursor.start file source.toList).lexemes)
    (tokenize fileToo other).map Token.told = (tokenize file source).map Token.told ∧
      ∀ operators : Operators, operators.Registered →
        (Cursor.start fileToo other.toList).ReadsSame operators
          (Cursor.start file source.toList) := by
  intro other
  have same : (Cursor.start fileToo other.toList).lexemes =
      (Cursor.start file source.toList).lexemes := by
    rw [String.toList_ofList]
    exact Cursor.lexemes_of_layout file fileToo source.toList layout
  constructor
  · apply map_told_congr
    rw [tokenize, tokenize, (Cursor.lexemes_start fileToo other.toList).1,
      (Cursor.lexemes_start file source.toList).1, same]
  · exact fun operators registered => Cursor.readsSame registered same

/-- A number and a word that touch are parted by a comment, and a comment without an end follows. -/
theorem layout_changes_places_only_touching :
    let gaps (number : Nat) := (["", "#a\n", "#"].getD number "").toList
    let words := (Cursor.start "" "1x".toList).lexemes
    IsLayout gaps words ∧ String.ofList (laidOut gaps words) = "1#a\nx#" ∧
      (tokenize "" (String.ofList (laidOut gaps words))).map Token.told =
        (tokenize "" "1x").map Token.told ∧
      ∀ operators : Operators, operators.Registered →
        (Cursor.start "" (String.ofList (laidOut gaps words)).toList).ReadsSame operators
          (Cursor.start "" "1x".toList) := by
  intro gaps words
  have read : words = [(.number, "1"), (.identifier, "x")] := by decide +kernel
  have layout : IsLayout gaps words := by
    rw [read]
    constructor
    case closed =>
      intro number inside
      obtain rfl | rfl := Nat.le_one_iff_eq_zero_or_eq_one.mp (Nat.le_of_lt_succ inside)
      · exact .nothing
      · have inside : ∀ c ∈ ['a'], isLineEnd c = false := by simp [isLineEnd]
        exact .comment inside (by decide) .nothing
    case last =>
      refine .comment (List.forall_mem_nil _) ?_ (.nothing [])
      intro next first
      cases first
    case parted =>
      intro number left right first second _ _
      cases number with
      | zero => decide
      | succ number => cases second
  have text : String.ofList (laidOut gaps words) = "1#a\nx#" := by
    rw [read]
    decide
  exact ⟨layout, text, layout_changes_places_only "" "" "1x" layout⟩

end Reckon
