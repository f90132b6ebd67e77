import Reckon.Reading.Totality

/-!
# Contracts of readers

What a reader promises about its answer is proved step by step along its text: looking
at a token, going past it, refusing it, and going on with another reader. A promise
about all readers of expressions is then one induction on the depth.

More depth never changes an answer. An answer at any depth is therefore the answer of
the reader without a depth.
-/

namespace Reckon

namespace Reader

variable {α β : Type}

/-- Every answer of the reader at the cursor is as promised. -/
def Ensures (reader : Reader α) (cursor : Cursor) (promise : Outcome α → Prop) : Prop :=
  ∀ outcome, reader cursor = some outcome → promise outcome

/-- A reader without levels keeps every promise. -/
theorem ensures_exhausted (cursor : Cursor) (promise : Outcome α → Prop) :
    Ensures exhausted cursor promise := by
  intro outcome answer
  cases answer

/-- A value that is given keeps a promise about it and the cursor. -/
theorem ensures_pure {value : α} {cursor : Cursor} {promise : Outcome α → Prop}
    (holds : promise (.parsed value cursor)) : Ensures (pure value) cursor promise := by
  intro outcome answer
  rw [pure_apply, Option.some.injEq] at answer
  exact answer ▸ holds

/-- A refusal keeps a promise about it and the cursor. -/
theorem ensures_refuse {expected : Expectation} {cursor : Cursor} {promise : Outcome α → Prop}
    (holds : promise (.failed ⟨expected, cursor.nextToken⟩ cursor)) :
    Ensures (refuse expected) cursor promise := by
  intro outcome answer
  rw [refuse_apply, Option.some.injEq] at answer
  exact answer ▸ holds

/-- Looking at the next token changes nothing. -/
theorem ensures_peek {next : Token → Reader β} {cursor : Cursor} {promise : Outcome β → Prop}
    (continues : Ensures (next cursor.nextToken) cursor promise) :
    Ensures (peek >>= next) cursor promise := continues

/-- Reading goes on past the next token. -/
theorem ensures_advance {next : Unit → Reader β} {cursor : Cursor} {promise : Outcome β → Prop}
    (continues : Ensures (next ()) cursor.pastToken promise) :
    Ensures (advance >>= next) cursor promise := continues

/-- A reader that goes on after another keeps a promise if it does after every result, and if
the errors of the first keep it. -/
theorem Ensures.bind {first : Reader α} {next : α → Reader β} {cursor : Cursor}
    {middle : Outcome α → Prop} {promise : Outcome β → Prop} (kept : Ensures first cursor middle)
    (fails : ∀ error stopped, middle (.failed error stopped) → promise (.failed error stopped))
    (continues : ∀ value after, middle (.parsed value after) → Ensures (next value) after promise) :
    Ensures (first >>= next) cursor promise := by
  intro outcome answer
  rw [bind_apply] at answer
  cases reached : first cursor with
  | none =>
    rw [reached] at answer
    cases answer
  | some found =>
    have holds := kept found reached
    rw [reached] at answer
    cases found with
    | failed error stopped =>
      rw [← Option.some.inj answer]
      exact fails error stopped holds
    | parsed value after => exact continues value after holds outcome answer

/-- A symbol is passed if it is there and refused if it is not. -/
theorem ensures_symbol {character : Char} {expected : Expectation} {next : Unit → Reader β}
    {cursor : Cursor} {promise : Outcome β → Prop}
    (there : cursor.nextToken.isSymbol character = true →
      Ensures (next ()) cursor.pastToken promise)
    (elsewhere : cursor.nextToken.isSymbol character = false →
      promise (.failed ⟨expected, cursor.nextToken⟩ cursor)) :
    Ensures (symbol character expected >>= next) cursor promise := by
  intro outcome answer
  rw [bind_apply, symbol_apply] at answer
  cases found : cursor.nextToken.isSymbol character with
  | true =>
    rw [found] at answer
    exact there found outcome answer
  | false =>
    rw [found] at answer
    have same := Option.some.inj answer
    exact same ▸ elsewhere found

/-- A promise that is kept implies weaker ones. -/
theorem Ensures.imp {reader : Reader α} {cursor : Cursor} {promise weaker : Outcome α → Prop}
    (kept : Ensures reader cursor promise) (implies : ∀ outcome, promise outcome → weaker outcome) :
    Ensures reader cursor weaker :=
  fun outcome answer => implies outcome (kept outcome answer)

/-- What the second reader answers, the first answers too. -/
def Extends (reader shallower : Reader α) : Prop :=
  ∀ cursor outcome, shallower cursor = some outcome → reader cursor = some outcome

/-- A reader extends itself. -/
theorem extends_refl (reader : Reader α) : Extends reader reader := fun _ _ answer => answer

/-- Going on with more answers extends going on. -/
theorem Extends.bind {first shallower : Reader α} {next shallowerNext : α → Reader β}
    (start : Extends first shallower) (rest : ∀ value, Extends (next value) (shallowerNext value)) :
    Extends (first >>= next) (shallower >>= shallowerNext) := by
  intro cursor outcome answer
  rw [bind_apply] at answer ⊢
  cases reached : shallower cursor with
  | none =>
    rw [reached] at answer
    cases answer
  | some found =>
    rw [reached] at answer
    rw [start cursor found reached]
    cases found with
    | failed error stopped => exact answer
    | parsed value after => exact rest value after outcome answer

/-- A choice between readers with more answers extends the choice. -/
theorem extends_ite {condition : Prop} [Decidable condition] {first second : Reader α}
    {shallower shallowerSecond : Reader α} (holds : Extends first shallower)
    (fails : Extends second shallowerSecond) :
    Extends (if condition then first else second)
      (if condition then shallower else shallowerSecond) := by
  split
  · exact holds
  · exact fails

/-- One more level changes no answer. -/
structure Deepens (operators : Operators) (depth : Nat) : Prop where
  primary : Extends (primary operators (depth + 1)) (primary operators depth)
  parenthesised : Extends (parenthesised operators (depth + 1)) (parenthesised operators depth)
  named : Extends (named operators (depth + 1)) (named operators depth)
  arguments : Extends (arguments operators (depth + 1)) (arguments operators depth)
  expression : Extends (expression operators (depth + 1)) (expression operators depth)
  operation (least : Int) (left : Node) :
    Extends (operation operators (depth + 1) least left) (operation operators depth least left)

/-- At every depth one more level changes no answer about expressions. -/
theorem deepens (operators : Operators) (depth : Nat) : Deepens operators depth := by
  induction depth with
  | zero =>
    constructor
    case operation => intro least left cursor outcome answer; cases answer
    all_goals intro cursor outcome answer; cases answer
  | succ depth below =>
    constructor
    case primary =>
      refine (extends_refl peek).bind fun token => extends_ite below.named ?_
      exact extends_ite (extends_refl _) (extends_ite below.parenthesised (extends_refl _))
    case parenthesised =>
      refine (extends_refl advance).bind fun _ => below.expression.bind fun _ => ?_
      exact extends_refl _
    case named =>
      refine (extends_refl peek).bind fun _ => (extends_refl advance).bind fun _ => ?_
      refine (extends_refl peek).bind fun _ => extends_ite ?_ (extends_refl _)
      refine (extends_refl advance).bind fun _ => (extends_refl peek).bind fun _ => ?_
      exact extends_ite (extends_refl _) (below.arguments.bind fun _ => extends_refl _)
    case arguments =>
      refine below.expression.bind fun _ => (extends_refl peek).bind fun _ => ?_
      refine extends_ite (extends_refl _) ((extends_refl _).bind fun _ => ?_)
      exact below.arguments.bind fun _ => extends_refl _
    case expression => exact below.primary.bind fun _ => below.operation 0 _
    case operation =>
      intro least left
      refine (extends_refl peek).bind fun _ => extends_ite (extends_refl _) ?_
      refine (extends_refl advance).bind fun _ => below.primary.bind fun _ => ?_
      apply (extends_refl peek).bind
      intro _
      exact (extends_ite (below.operation _ _) (extends_refl _)).bind fun _ => below.operation _ _

/-- Any greater depth changes no answer. -/
theorem extends_of_le {family : Nat → Reader α}
    (step : ∀ depth, Extends (family (depth + 1)) (family depth)) {depth deeper : Nat}
    (le : depth ≤ deeper) : Extends (family deeper) (family depth) := by
  induction le with
  | refl => exact extends_refl _
  | step _ inductionHypothesis =>
    exact fun cursor outcome answer =>
      step _ cursor outcome (inductionHypothesis cursor outcome answer)

/-- A reader answers alike at any two depths at which it answers. -/
theorem answers_agree {family : Nat → Reader α}
    (step : ∀ depth, Extends (family (depth + 1)) (family depth)) {depth other : Nat}
    {cursor : Cursor} {outcome otherOutcome : Outcome α}
    (answer : family depth cursor = some outcome)
    (otherAnswer : family other cursor = some otherOutcome) : outcome = otherOutcome := by
  have atMost := extends_of_le step (Nat.le_max_left depth other) cursor outcome answer
  have atMostToo :=
    extends_of_le step (Nat.le_max_right depth other) cursor otherOutcome otherAnswer
  exact Option.some.inj (atMost.symm.trans atMostToo)

end Reader

/-- A result of a changed outcome was made of a result with the same cursor. -/
theorem Outcome.map_eq_parsed {α γ : Type} {form : α → γ} {outcome : Outcome α} {result : γ}
    {after : Cursor} (mapped : outcome.map form = .parsed result after) :
    ∃ value, outcome = .parsed value after ∧ form value = result := by
  cases outcome with
  | parsed value _ =>
    cases mapped
    exact ⟨value, rfl, rfl⟩
  | failed => cases mapped

namespace Cursor

/-- An operand read at any depth is the operand that is read there. -/
theorem readPrimary_eq {operators : Operators} {depth : Nat} {cursor : Cursor}
    {outcome : Outcome Node} (answer : Reader.primary operators depth cursor = some outcome) :
    cursor.readPrimary operators = outcome :=
  Reader.answers_agree (fun depth => (Reader.deepens operators depth).primary)
    (some_read ..).symm answer

/-- A promise of a reader at the depth it is given is one of the reader without a depth. -/
theorem read_ensures {α : Type} {bound : Nat} {cursor : Cursor} {reader : Reader α}
    {settles : reader.Settles cursor bound} {promise : Outcome α → Prop}
    (kept : reader.Ensures cursor promise) : promise (cursor.read reader settles) :=
  kept _ (some_read cursor reader settles).symm

end Cursor

end Reckon
