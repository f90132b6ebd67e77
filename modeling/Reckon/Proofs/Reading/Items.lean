import Reckon.Proofs.Reading.Likeness
import Reckon.Proofs.Reading.Units

/-!
# What a text is read as

Reading a whole text gives units and syntax errors in turn; semicolons between them are
skipped, and so is the token that an error is about. The operators do not change on the way,
so all of this is settled by the text before anything is done about it.

A semicolon on its own keeps the texts around it apart. If reading runs into it in the middle
of a unit, the error takes the semicolon along, where it would have stayed at the end of
input without it; either way the other text is read from its first token on.
-/

namespace Reckon

/-- What is read at a time: a unit, or an error in its place. -/
abbrev Item := Except SyntaxError ProgramUnit

/-- Units that are alike, or errors with the same expectation. -/
inductive Item.Alike : Item → Item → Prop
  | unit {left right : ProgramUnit} (alike : left.Alike right) : Alike (.ok left) (.ok right)
  | error {left right : SyntaxError} (expected : left.expected = right.expected) :
      Alike (.error left) (.error right)

/-- Items that are alike one by one. -/
abbrev Item.AllAlike : List Item → List Item → Prop := List.Forall₂ Item.Alike

/-- Where reading goes on: behind the result, or behind the token that did not fit. -/
def Outcome.resume {α : Type} : Outcome α → Cursor
  | .parsed _ after => after
  | .failed _ stopped => stopped.pastToken

/-! ## Progress -/

/-- Every token that is passed takes at least one character. -/
theorem Cursor.Passes.length_le {cursor after : Cursor} {passed : List Token}
    (passes : cursor.Passes passed after) :
    after.rest.length + passed.length ≤ cursor.rest.length := by
  induction passes with
  | nothing cursor => simp
  | token cursor more _ inductionHypothesis =>
    have shorter := cursor.length_pastToken_lt more
    simp only [List.length_cons]
    omega

namespace Outcome

variable {α β : Type}

/-- A result leaves fewer characters, and an error no more. -/
def Shortens (cursor : Cursor) : Outcome α → Prop
  | .parsed _ after => after.rest.length < cursor.rest.length
  | .failed _ stopped => stopped.rest.length ≤ cursor.rest.length

/-- A changed result leaves what the result left. -/
theorem Shortens.map {cursor : Cursor} {outcome : Outcome α} (shortens : outcome.Shortens cursor)
    (form : α → β) : (outcome.map form).Shortens cursor := by
  cases outcome <;> exact shortens

/-- What is recognized takes a token at least, if no word is empty. -/
theorem shortens_of_recognizes {words closes : Words} {cursor : Cursor} {outcome : Outcome α}
    (recognized : Recognizes words closes cursor outcome) (some : ¬ words []) :
    outcome.Shortens cursor := by
  obtain ⟨passed, passes, found⟩ := recognized
  have shorter := passes.length_le
  cases outcome with
  | failed error stopped => exact Nat.le_trans (Nat.le_add_right _ _) shorter
  | parsed value after =>
    cases passed with
    | nil => exact (some found.1).elim
    | cons token rest =>
      exact Nat.lt_of_lt_of_le (Nat.lt_add_of_pos_right (Nat.succ_pos _)) shorter

/-- If there is a token at all, reading goes on with fewer characters. -/
theorem Shortens.resume {cursor : Cursor} {outcome : Outcome α} (shortens : outcome.Shortens cursor)
    (more : cursor.nextToken.kind ≠ .endOfInput) :
    outcome.resume.rest.length < cursor.rest.length := by
  cases outcome with
  | parsed value after => exact shortens
  | failed error stopped =>
    by_cases ends : stopped.nextToken.kind = .endOfInput
    · have none : stopped.pastToken.rest = [] := by
        rw [Cursor.rest_pastToken, stopped.kind_nextToken_eq_endOfInput_iff.mp ends, List.drop_nil]
      have some : cursor.rest ≠ [] := by
        intro empty
        apply more
        rw [Cursor.kind_nextToken_eq_endOfInput_iff, Cursor.rest_pastGap, empty, List.drop_nil]
      rw [Outcome.resume, none]
      exact List.length_pos_iff.mpr some
    · exact Nat.lt_of_lt_of_le (stopped.length_pastToken_lt ends) shortens

end Outcome

namespace Grammar

variable {operators : Operators}

/-- No expression is empty. -/
theorem not_expression_nil : ¬ Expression operators [] := by
  intro empty
  obtain ⟨first, others, whole, isFirst, _⟩ := (expression_iff []).mp empty
  obtain ⟨token, rest, rfl, _⟩ := isFirst.head
  cases whole

end Grammar

namespace Cursor

variable {operators : Operators} {cursor : Cursor}

/-- Units are read forward. -/
theorem readUnit_shortens (registered : operators.Registered) (cursor : Cursor) :
    (cursor.readUnit operators).Shortens cursor := by
  unfold readUnit
  split
  case h_1 define =>
    have recognized := Grammar.definition_recognized registered cursor.depth cursor define
    have shortens : (cursor.readDefinition operators).Shortens cursor :=
      Outcome.shortens_of_recognizes (read_ensures recognized) nofun
    exact shortens.map _
  case h_2 declare =>
    have recognized := Grammar.declaration_recognized cursor.depth cursor declare
    have shortens : cursor.readDeclaration.Shortens cursor :=
      Outcome.shortens_of_recognizes (read_ensures recognized) nofun
    exact shortens.map _
  case h_3 =>
    have body : Reader.Ensures (.expression operators cursor.depth) cursor
        (Outcome.Shortens cursor) :=
      ((Grammar.recognized registered cursor.depth).expression cursor).imp fun _ recognized =>
        Outcome.shortens_of_recognizes recognized Grammar.not_expression_nil
    have shortens : (cursor.readAnonymous operators).Shortens cursor :=
      read_ensures (body.bind (fun _ _ shortens => shortens)
        fun _ _ shortens => Reader.ensures_pure shortens)
    exact shortens.map _

/-! ## Items -/

/-- The items that a text is read as, at most `limit` items and separators. -/
def itemsWithin (operators : Operators) : Nat → Cursor → List Item
  | 0, _ => []
  | limit + 1, cursor =>
    if cursor.nextToken.kind = .endOfInput then []
    else if cursor.nextToken.isSymbol ';' then itemsWithin operators limit cursor.pastToken
    else
      let outcome := cursor.readUnit operators
      outcome.result :: itemsWithin operators limit outcome.resume

/-- The items that a text is read as. Each of them takes at least one character. -/
def items (operators : Operators) (cursor : Cursor) : List Item :=
  itemsWithin operators (cursor.rest.length + 1) cursor

/-- Any two limits above the number of characters that are left give the same items. -/
theorem itemsWithin_congr (registered : operators.Registered) (limit other : Nat) (cursor : Cursor)
    (enough : cursor.rest.length < limit) (enoughToo : cursor.rest.length < other) :
    itemsWithin operators limit cursor = itemsWithin operators other cursor := by
  induction limit generalizing other cursor with
  | zero => omega
  | succ limit inductionHypothesis =>
    cases other with
    | zero => omega
    | succ other =>
      by_cases ends : cursor.nextToken.kind = .endOfInput
      · simp only [itemsWithin, if_pos ends]
      · by_cases separator : cursor.nextToken.isSymbol ';' = true
        · have shorter := cursor.length_pastToken_lt ends
          simp only [itemsWithin, if_neg ends, if_pos separator]
          exact inductionHypothesis other _ (by omega) (by omega)
        · have shorter := (readUnit_shortens registered cursor).resume ends
          simp only [itemsWithin, if_neg ends, if_neg separator]
          rw [inductionHypothesis other _ (by omega) (by omega)]

/-- The items from a cursor on, one at a time. -/
theorem items_eq (registered : operators.Registered) (cursor : Cursor) :
    cursor.items operators =
      if cursor.nextToken.kind = .endOfInput then []
      else if cursor.nextToken.isSymbol ';' then cursor.pastToken.items operators
      else (cursor.readUnit operators).result ::
        (cursor.readUnit operators).resume.items operators := by
  rw [items, itemsWithin]
  by_cases ends : cursor.nextToken.kind = .endOfInput
  · rw [if_pos ends, if_pos ends]
  · rw [if_neg ends, if_neg ends]
    by_cases separator : cursor.nextToken.isSymbol ';' = true
    · rw [if_pos separator, if_pos separator]
      exact itemsWithin_congr registered _ _ _ (cursor.length_pastToken_lt ends) (by omega)
    · rw [if_neg separator, if_neg separator]
      have shorter := (readUnit_shortens registered cursor).resume ends
      simp only
      rw [itemsWithin_congr registered _ _ _ shorter (Nat.lt_succ_self _)]
      rfl

/-- At the end of input there are no items. -/
theorem items_eq_nil (registered : operators.Registered)
    (ends : cursor.nextToken.kind = .endOfInput) : cursor.items operators = [] := by
  rw [items_eq registered, if_pos ends]

/-- Nothing is read up to the end of a unit. -/
theorem items_pastToken (registered : operators.Registered) (ends : cursor.nextToken.EndsUnit) :
    cursor.pastToken.items operators = cursor.items operators := by
  cases ends with
  | inl ends =>
    have still : cursor.pastToken.nextToken.kind = .endOfInput := by
      rw [kind_nextToken_eq_endOfInput_iff, rest_pastGap, rest_pastToken,
        cursor.kind_nextToken_eq_endOfInput_iff.mp ends]
      simp
    rw [items_eq_nil registered still, items_eq_nil registered ends]
  | inr separator =>
    rw [items_eq registered cursor, if_neg (by simp [Reader.kind_of_isSymbol separator]),
      if_pos separator]

end Cursor

/-! ## Separate texts -/

/-- Outcomes that are abreast give items that are alike. -/
theorem Outcome.Abreast.result {behind : List Lexeme} {outcome outcomeToo : Outcome ProgramUnit}
    (abreast : outcome.Abreast behind ProgramUnit.Alike outcomeToo) :
    Item.Alike outcome.result outcomeToo.result := by
  cases abreast with
  | parsed same _ => exact .unit same
  | failed expected _ => exact .error expected

namespace Cursor

variable {operators : Operators} {behind : List Lexeme} {more : List Item}

/-- If what is behind is read as the items given, wherever it stands, the longer of two texts that
are abreast is read as the other and these items. -/
theorem Abreast.items (registered : operators.Registered) (separated : Separated behind)
    (reads : ∀ last : Cursor, last.lexemes = behind → Item.AllAlike (last.items operators) more)
    {cursor other : Cursor} (abreast : cursor.Abreast behind other) :
    Item.AllAlike (cursor.items operators) (other.items operators ++ more) := by
  generalize size : other.rest.length = length
  induction length using Nat.strongRecOn generalizing cursor other with
  | _ length inductionHypothesis =>
    subst size
    by_cases ends : other.nextToken.kind = .endOfInput
    · rw [items_eq_nil registered ends]
      exact reads cursor (abreast.lexemes_eq_behind ends)
    · obtain ⟨same, past⟩ := abreast.bare_nextToken ends
      have kind := Token.kind_of_bare same
      rw [items_eq registered other, items_eq registered cursor, Token.isSymbol_of_bare same, kind,
        if_neg ends, if_neg ends]
      by_cases separator : other.nextToken.isSymbol ';' = true
      · rw [if_pos separator, if_pos separator]
        exact inductionHypothesis _ (other.length_pastToken_lt ends) past rfl
      · rw [if_neg separator, if_neg separator, List.cons_append]
        have shorter := (readUnit_shortens registered other).resume ends
        have unit := abreast.readUnit registered separated
        refine .cons unit.result ?_
        generalize cursor.readUnit operators = outcome at unit
        generalize other.readUnit operators = outcomeToo at unit shorter
        cases unit with
        | parsed _ abreast => exact inductionHypothesis _ shorter abreast rfl
        | @failed error errorToo stopped stoppedToo _ abreast =>
          change Item.AllAlike (stopped.pastToken.items operators)
            (stoppedToo.pastToken.items operators ++ more)
          by_cases finished : stoppedToo.nextToken.kind = .endOfInput
          · -- The error may take the semicolon along; nothing else is lost.
            have left := abreast.lexemes_eq_behind finished
            have last : stopped.nextToken.EndsUnit := by
              cases abreast.nextToken separated with
              | inl bare => exact .inl ((Token.kind_of_bare bare).trans finished)
              | inr ends => exact ends.1
            rw [items_pastToken registered (.inl finished), items_eq_nil registered finished,
              items_pastToken registered last]
            exact reads stopped left
          · exact inductionHypothesis _ shorter (abreast.bare_nextToken finished).2 rfl

/-- Texts with the same lexemes are read alike. -/
theorem items_congr (registered : operators.Registered) {cursor other : Cursor}
    (same : cursor.lexemes = other.lexemes) :
    Item.AllAlike (cursor.items operators) (other.items operators) := by
  have abreast : cursor.Abreast [] other := same.trans (List.append_nil _).symm
  have separated : Separated [] := nofun
  have reads (last : Cursor) (none : last.lexemes = []) :
      Item.AllAlike (last.items operators) [] := by
    rw [items_eq_nil registered (last.lexemes_eq_nil_iff.mp none)]
    exact .nil
  simpa using abreast.items registered separated reads

/-- **A semicolon keeps the texts around it apart**: they are read together as each of them is read
on its own, whatever is wrong with the first. -/
theorem items_separated (registered : operators.Registered) {whole former latter : Cursor}
    (split : whole.lexemes = former.lexemes ++ (.symbol, ";") :: latter.lexemes) :
    Item.AllAlike (whole.items operators) (former.items operators ++ latter.items operators) := by
  have abreast : whole.Abreast ((.symbol, ";") :: latter.lexemes) former := split
  have separated : Separated ((.symbol, ";") :: latter.lexemes) := by
    intro lexeme first
    exact (Option.some.inj first).symm
  apply abreast.items registered separated
  intro last front
  have separator : last.nextToken.isSymbol ';' = true ∧
      last.pastToken.lexemes = latter.lexemes := by
    rw [lexemes_eq] at front
    by_cases ends : last.nextToken.kind = .endOfInput
    · rw [if_pos ends] at front
      cases front
    · rw [if_neg ends, List.cons.injEq] at front
      obtain ⟨mark, rest⟩ := front
      simp only [Token.bare, Prod.mk.injEq] at mark
      exact ⟨by simp [Token.isSymbol, mark], rest⟩
  rw [← items_pastToken registered (.inr separator.1)]
  exact items_congr registered separator.2

end Cursor

end Reckon
