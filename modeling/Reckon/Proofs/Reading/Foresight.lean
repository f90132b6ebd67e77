import Reckon.Proofs.Reading.Contract
import Reckon.Proofs.Token.Lookahead
import Reckon.Reading.Program

/-!
# Units depend on what has been read

A reader decides by the next token only and goes forward only. So if the token that it stops
in front of is among the first characters of a text, it comes to the same in every text that
begins with these characters.
-/

namespace Reckon

open Cursor

namespace Reader

/-! ## Depths -/

/-- One more level changes no answer about parameters. -/
theorem parameters_extends (depth : Nat) : Extends (parameters (depth + 1)) (parameters depth) := by
  induction depth with
  | zero =>
    intro cursor outcome answer
    cases answer
  | succ depth inductionHypothesis =>
    refine (extends_refl peek).bind fun _ => extends_ite ?_ (extends_refl _)
    refine (extends_refl advance).bind fun _ => inductionHypothesis.bind fun _ => ?_
    exact extends_refl _

/-- One more level changes no answer about a prototype. -/
theorem prototype_extends (depth : Nat) : Extends (prototype (depth + 1)) (prototype depth) := by
  refine (extends_refl peek).bind fun _ => extends_ite ?_ (extends_refl _)
  refine (extends_refl advance).bind fun _ => (extends_refl _).bind fun _ => ?_
  refine (parameters_extends depth).bind fun _ => ?_
  exact (extends_refl _).bind fun _ => extends_refl _

/-- One more level changes no answer about a declaration. -/
theorem declaration_extends (depth : Nat) :
    Extends (declaration (depth + 1)) (declaration depth) :=
  (extends_refl advance).bind fun _ => prototype_extends depth

/-- One more level changes no answer about a definition. -/
theorem definition_extends (operators : Operators) (depth : Nat) :
    Extends (definition operators (depth + 1)) (definition operators depth) := by
  refine (extends_refl peek).bind fun _ => (extends_refl advance).bind fun _ => ?_
  refine (prototype_extends depth).bind fun _ => ?_
  exact (deepens operators depth).expression.bind fun _ => extends_refl _

/-- One more level changes no answer about a bare expression. -/
theorem anonymous_extends (operators : Operators) (depth : Nat) :
    Extends (anonymous operators (depth + 1)) (anonymous operators depth) :=
  (deepens operators depth).expression.bind fun _ => extends_refl _

/-! ## Texts that begin alike -/

variable {file : String} {source other : List Char} {limit : Nat} {α β : Type}

/-- A reader that comes to the same in texts that begin alike, if the token that it stops in front
of is among their first characters. If that is so, it began in front of such a token, too. -/
structure Foresees (file : String) (source other : List Char) (limit : Nat)
    (reader : Reader α) : Prop where
  within {cursor : Cursor} {outcome : Outcome α} (answer : reader cursor = some outcome)
    (there : outcome.cursor.Within limit) : cursor.Within limit
  same {cursor cursorToo : Cursor} {outcome outcomeToo : Outcome α}
    (alongside : Alongside file source other cursor cursorToo)
    (answer : reader cursor = some outcome) (answerToo : reader cursorToo = some outcomeToo)
    (there : outcome.cursor.Within limit) :
    outcomeToo.result = outcome.result ∧
      Alongside file source other outcome.cursor outcomeToo.cursor

/-- A reader without levels answers nothing, so there is nothing to foresee. -/
theorem foresees_exhausted : Foresees file source other limit (exhausted : Reader α) :=
  ⟨nofun, fun _ => nofun⟩

/-- A value is given whatever the text is. -/
theorem foresees_pure (value : α) : Foresees file source other limit (pure value) := by
  constructor
  · intro cursor outcome answer there
    cases answer
    exact there
  · intro cursor cursorToo outcome outcomeToo alongside answer answerToo _
    cases answer
    cases answerToo
    exact ⟨rfl, alongside⟩

/-- Where a second reader has read enough, the one in front of it has, too. -/
theorem exists_within_of_bind {first : Reader α} {next : α → Reader β}
    (rest : ∀ value, Foresees file source other limit (next value)) {cursor : Cursor}
    {outcome : Outcome β} (answer : (first >>= next) cursor = some outcome)
    (there : outcome.cursor.Within limit) :
    ∃ reached, first cursor = some reached ∧ reached.cursor.Within limit := by
  rw [bind_apply] at answer
  cases reached : first cursor with
  | none =>
    rw [reached] at answer
    cases answer
  | some found =>
    rw [reached] at answer
    refine ⟨found, rfl, ?_⟩
    cases found with
    | failed error stopped =>
      cases answer
      exact there
    | parsed value after => exact (rest value).within answer there

/-- One after the other, as the second goes on where the first stopped. -/
theorem Foresees.bind {first : Reader α} {next : α → Reader β}
    (start : Foresees file source other limit first)
    (rest : ∀ value, Foresees file source other limit (next value)) :
    Foresees file source other limit (first >>= next) := by
  constructor
  · intro cursor outcome answer there
    obtain ⟨reached, found, within⟩ := exists_within_of_bind rest answer there
    exact start.within found within
  · intro cursor cursorToo outcome outcomeToo alongside answer answerToo there
    obtain ⟨reached, found, within⟩ := exists_within_of_bind rest answer there
    rw [bind_apply] at answer answerToo
    rw [found] at answer
    cases foundToo : first cursorToo with
    | none =>
      rw [foundToo] at answerToo
      cases answerToo
    | some reachedToo =>
      rw [foundToo] at answerToo
      obtain ⟨result, along⟩ := start.same alongside found foundToo within
      cases reached with
      | failed error stopped =>
        cases reachedToo with
        | failed errorToo stoppedToo =>
          cases result
          cases answer
          cases answerToo
          exact ⟨rfl, along⟩
        | parsed => cases result
      | parsed value after =>
        cases reachedToo with
        | failed => cases result
        | parsed valueToo afterToo =>
          cases result
          exact (rest value).same along answer answerToo there

/-- A choice that does not depend on the text foresees what both of its readers do. -/
theorem foresees_ite {condition : Prop} [Decidable condition] {first second : Reader α}
    (holds : Foresees file source other limit first)
    (fails : Foresees file source other limit second) :
    Foresees file source other limit (if condition then first else second) := by
  split
  · exact holds
  · exact fails

section

variable (agree : source.take limit = other.take limit)
include agree

/-- To peek is to stop in front of the token that has been seen. -/
theorem foresees_peek : Foresees file source other limit peek := by
  constructor
  · intro cursor outcome answer there
    cases answer
    exact there
  · intro cursor cursorToo outcome outcomeToo alongside answer answerToo there
    cases answer
    cases answerToo
    exact ⟨congrArg Except.ok (alongside.nextToken agree there).1, alongside⟩

/-- To advance is to stop in front of the token behind, which is further on. -/
theorem foresees_advance : Foresees file source other limit advance := by
  constructor
  · intro cursor outcome answer there
    cases answer
    exact within_of_pastToken there
  · intro cursor cursorToo outcome outcomeToo alongside answer answerToo there
    cases answer
    cases answerToo
    exact ⟨rfl, (alongside.nextToken agree (within_of_pastToken there)).2⟩

/-- A refusal is about the token that it stops in front of. -/
theorem foresees_refuse (expected : Expectation) :
    Foresees file source other limit (refuse expected : Reader α) := by
  constructor
  · intro cursor outcome answer there
    cases answer
    exact there
  · intro cursor cursorToo outcome outcomeToo alongside answer answerToo there
    cases answer
    cases answerToo
    have token := (alongside.nextToken agree there).1
    exact ⟨by rw [Outcome.result, Outcome.result, token], alongside⟩

/-- Whether a symbol comes next is told by the next token. -/
theorem foresees_symbol (character : Char) (expected : Expectation) :
    Foresees file source other limit (symbol character expected) :=
  (foresees_peek agree).bind fun _ =>
    foresees_ite (foresees_advance agree) (foresees_refuse agree expected)

/-- What a number stands for is told by its token. -/
theorem foresees_number : Foresees file source other limit number :=
  (foresees_peek agree).bind fun _ => (foresees_advance agree).bind fun _ => foresees_pure _

end

/-! ## Expressions -/

/-- All readers of expressions come to the same in texts that begin alike. -/
structure AllForesee (file : String) (source other : List Char) (limit : Nat)
    (operators : Operators) (depth : Nat) : Prop where
  primary : Foresees file source other limit (primary operators depth)
  parenthesised : Foresees file source other limit (parenthesised operators depth)
  named : Foresees file source other limit (named operators depth)
  arguments : Foresees file source other limit (arguments operators depth)
  expression : Foresees file source other limit (expression operators depth)
  operation (least : Int) (left : Node) :
    Foresees file source other limit (operation operators depth least left)

section

variable (agree : source.take limit = other.take limit)
include agree

/-- All readers of expressions look no further than the token that they stop in front of. -/
theorem allForesee (operators : Operators) (depth : Nat) :
    AllForesee file source other limit operators depth := by
  have peeks : Foresees file source other limit peek := foresees_peek agree
  have advances : Foresees file source other limit advance := foresees_advance agree
  induction depth with
  | zero =>
    constructor
    case operation => exact fun _ _ => foresees_exhausted
    all_goals exact foresees_exhausted
  | succ depth below =>
    constructor
    case primary =>
      refine peeks.bind fun _ => foresees_ite below.named ?_
      refine foresees_ite (foresees_number agree) ?_
      exact foresees_ite below.parenthesised (foresees_refuse agree _)
    case parenthesised =>
      refine advances.bind fun _ => below.expression.bind fun _ => ?_
      exact (foresees_symbol agree _ _).bind fun _ => foresees_pure _
    case named =>
      refine peeks.bind fun _ => advances.bind fun _ => peeks.bind fun _ => ?_
      refine foresees_ite ?_ (foresees_pure _)
      refine advances.bind fun _ => peeks.bind fun _ => ?_
      refine foresees_ite (advances.bind fun _ => foresees_pure _) ?_
      exact below.arguments.bind fun _ => foresees_pure _
    case arguments =>
      refine below.expression.bind fun _ => peeks.bind fun _ => ?_
      refine foresees_ite (advances.bind fun _ => foresees_pure _) ?_
      refine (foresees_symbol agree _ _).bind fun _ => ?_
      exact below.arguments.bind fun _ => foresees_pure _
    case expression => exact below.primary.bind fun _ => below.operation 0 _
    case operation =>
      intro least left
      refine peeks.bind fun _ => foresees_ite (foresees_pure _) ?_
      refine advances.bind fun _ => below.primary.bind fun _ => ?_
      apply peeks.bind
      intro _
      refine (foresees_ite (below.operation _ _) (foresees_pure _)).bind fun _ => ?_
      exact below.operation _ _

/-! ## Units -/

/-- The reader of parameters looks no further than the token that it stops in front of. -/
theorem parameters_foresees (depth : Nat) :
    Foresees file source other limit (parameters depth) := by
  induction depth with
  | zero => exact foresees_exhausted
  | succ depth inductionHypothesis =>
    refine (foresees_peek agree).bind fun _ => foresees_ite ?_ (foresees_pure _)
    refine (foresees_advance agree).bind fun _ => inductionHypothesis.bind fun _ => ?_
    exact foresees_pure _

/-- The reader of prototypes looks no further. -/
theorem prototype_foresees (depth : Nat) :
    Foresees file source other limit (prototype depth) := by
  refine (foresees_peek agree).bind fun _ => foresees_ite ?_ (foresees_refuse agree _)
  refine (foresees_advance agree).bind fun _ => (foresees_symbol agree _ _).bind fun _ => ?_
  refine (parameters_foresees agree depth).bind fun _ => ?_
  exact (foresees_symbol agree _ _).bind fun _ => foresees_pure _

/-- The reader of declarations looks no further. -/
theorem declaration_foresees (depth : Nat) :
    Foresees file source other limit (declaration depth) :=
  (foresees_advance agree).bind fun _ => prototype_foresees agree depth

/-- The reader of definitions looks no further. -/
theorem definition_foresees (operators : Operators) (depth : Nat) :
    Foresees file source other limit (definition operators depth) := by
  refine (foresees_peek agree).bind fun _ => (foresees_advance agree).bind fun _ => ?_
  refine (prototype_foresees agree depth).bind fun _ => ?_
  exact (allForesee agree operators depth).expression.bind fun _ => foresees_pure _

/-- The reader of bare expressions looks no further. -/
theorem anonymous_foresees (operators : Operators) (depth : Nat) :
    Foresees file source other limit (anonymous operators depth) :=
  (allForesee agree operators depth).expression.bind fun _ => foresees_pure _

end

/-- What readers without a depth answer in texts that begin alike. -/
theorem Foresees.read {family : Nat → Reader α}
    (foresees : ∀ depth, Foresees file source other limit (family depth))
    (step : ∀ depth, Extends (family (depth + 1)) (family depth)) {cursor cursorToo : Cursor}
    {depth depthToo bound boundToo : Nat} (alongside : Alongside file source other cursor cursorToo)
    (settles : (family depth).Settles cursor bound)
    (settlesToo : (family depthToo).Settles cursorToo boundToo)
    (there : (cursor.read (family depth) settles).cursor.Within limit) :
    (cursorToo.read (family depthToo) settlesToo).result =
        (cursor.read (family depth) settles).result ∧
      Alongside file source other (cursor.read (family depth) settles).cursor
        (cursorToo.read (family depthToo) settlesToo).cursor := by
  have answer := extends_of_le step (Nat.le_max_left depth depthToo) cursor _
    (cursor.some_read (family depth) settles).symm
  have answerToo := extends_of_le step (Nat.le_max_right depth depthToo) cursorToo _
    (cursorToo.some_read (family depthToo) settlesToo).symm
  exact (foresees _).same alongside answer answerToo there

end Reader

namespace Outcome

variable {α β : Type}

/-- To make something else of a result moves no cursor. -/
@[simp] theorem cursor_map (form : α → β) (outcome : Outcome α) :
    (outcome.map form).cursor = outcome.cursor := by
  cases outcome <;> rfl

/-- To make something else of a result does so with the result and leaves errors alone. -/
@[simp] theorem result_map (form : α → β) (outcome : Outcome α) :
    (outcome.map form).result = outcome.result.map form := by
  cases outcome <;> rfl

end Outcome

namespace Cursor

variable {file : String} {source other : List Char} {limit : Nat} {operators : Operators}

/-- What has been read at the end of a unit was read at its beginning. -/
theorem readUnit_within (agree : source.take limit = other.take limit) {cursor : Cursor}
    (there : (cursor.readUnit operators).cursor.Within limit) : cursor.Within limit := by
  unfold readUnit at there
  split at there
  · rw [Outcome.cursor_map] at there
    have foresees : Reader.Foresees cursor.file source other limit _ :=
      Reader.definition_foresees agree operators cursor.depth
    exact foresees.within (some_read ..).symm there
  · rw [Outcome.cursor_map] at there
    have foresees : Reader.Foresees cursor.file source other limit _ :=
      Reader.declaration_foresees agree cursor.depth
    exact foresees.within (some_read ..).symm there
  · rw [Outcome.cursor_map] at there
    have foresees : Reader.Foresees cursor.file source other limit _ :=
      Reader.anonymous_foresees agree operators cursor.depth
    exact foresees.within (some_read ..).symm there

/-- **A unit depends on what has been read** when the token behind it is known. -/
theorem Alongside.readUnit (agree : source.take limit = other.take limit)
    {cursor cursorToo : Cursor} (alongside : Alongside file source other cursor cursorToo)
    (there : (cursor.readUnit operators).cursor.Within limit) :
    (cursorToo.readUnit operators).result = (cursor.readUnit operators).result ∧
      Alongside file source other (cursor.readUnit operators).cursor
        (cursorToo.readUnit operators).cursor := by
  have token := (alongside.nextToken agree (readUnit_within agree there)).1
  unfold Cursor.readUnit at there ⊢
  rw [token]
  split at there
  all_goals
    rw [Outcome.cursor_map] at there
    simp only [Outcome.cursor_map, Outcome.result_map]
  case h_1 =>
    obtain ⟨result, along⟩ := Reader.Foresees.read (Reader.definition_foresees agree operators)
      (Reader.definition_extends operators) alongside _ _ there
    exact ⟨congrArg _ result, along⟩
  case h_2 =>
    obtain ⟨result, along⟩ := Reader.Foresees.read (Reader.declaration_foresees agree)
      Reader.declaration_extends alongside _ _ there
    exact ⟨congrArg _ result, along⟩
  case h_3 =>
    obtain ⟨result, along⟩ := Reader.Foresees.read (Reader.anonymous_foresees agree operators)
      (Reader.anonymous_extends operators) alongside _ _ there
    exact ⟨congrArg _ result, along⟩

end Cursor

end Reckon
