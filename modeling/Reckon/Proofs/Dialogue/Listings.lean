import Reckon.Proofs.Dialogue.Outcomes
import Reckon.Proofs.Dialogue.Progress
import Reckon.Proofs.Reading.RoundTrip

/-!
# Listings and runs read the same

A listing and a run come to their units in two loops of their own. Both go on behind what was
read, or behind the token that did not fit, and no back end has a say in that. So a listing
lists the units that a run does something about, and the reports in it are the syntax errors
that the run reports, whatever fails besides.

To say so, both loops are made to tell what they read. Loops that tell do what the others do.
-/

namespace Reckon

/-- The syntax error that stands in the place of a unit. -/
def Item.error? : Item → Option SyntaxError
  | .ok _ => none
  | .error error => some error

/-! ## Listings that tell -/

namespace Listing

/-- Lists what has been read in front of what follows it, and tells of it as a unit. -/
def receivedTelling {α : Type} (wrap : α → ProgramUnit) (line : α → String)
    (following : Cursor → Listing × List Item) : Outcome α → Listing × List Item
  | .parsed value after =>
    let (listing, later) := following after
    (listing.withLine (line value), .ok (wrap value) :: later)
  | .failed error stopped =>
    let (listing, later) := following stopped.pastToken
    (listing.withError error, .error error :: later)

/-- Lists what follows a cursor, at most `limit` units, separators and errors, and tells what has
been listed. -/
def tellWithin (operators : Operators) : Nat → Cursor → Listing × List Item
  | 0, _ => (empty, [])
  | limit + 1, cursor =>
    if cursor.nextToken.kind = .endOfInput then (empty, [])
    else if cursor.nextToken.isSymbol ';' then tellWithin operators limit cursor.pastToken
    else
      match cursor.nextToken.kind with
      | .define =>
        receivedTelling .definition Definition.line (tellWithin operators limit)
          (cursor.readDefinition operators)
      | .declare =>
        receivedTelling .declaration Prototype.declarationLine (tellWithin operators limit)
          cursor.readDeclaration
      | _ =>
        receivedTelling .expression Definition.line (tellWithin operators limit)
          (cursor.readAnonymous operators)

/-- What is told of a unit in a listing is the unit at the cursor. -/
theorem receivedTelling_map {α : Type} (wrap : α → ProgramUnit)
    (following : Cursor → Listing × List Item) (outcome : Outcome α) :
    receivedTelling id ProgramUnit.line following (outcome.map wrap) =
      receivedTelling wrap (fun value => (wrap value).line) following outcome := by
  cases outcome <;> rfl

/-- A listing that tells comes to the unit at its cursor. -/
theorem tellWithin_succ (operators : Operators) (limit : Nat) (cursor : Cursor) :
    tellWithin operators (limit + 1) cursor =
      if cursor.nextToken.kind = .endOfInput then (empty, [])
      else if cursor.nextToken.isSymbol ';' then tellWithin operators limit cursor.pastToken
      else
        receivedTelling id ProgramUnit.line (tellWithin operators limit)
          (cursor.readUnit operators) := by
  rw [Cursor.apply_readUnit (receivedTelling id ProgramUnit.line _), receivedTelling_map,
    receivedTelling_map, receivedTelling_map]
  rfl

/-- A listing that tells lists what the listing lists, and tells the items of the text. -/
theorem tellWithin_eq (operators : Operators) (limit : Nat) (cursor : Cursor) :
    tellWithin operators limit cursor =
      (listWithin operators limit cursor, cursor.itemsWithin operators limit) := by
  induction limit generalizing cursor with
  | zero => rfl
  | succ limit inductionHypothesis =>
    rw [tellWithin_succ, listWithin_succ, Cursor.itemsWithin]
    by_cases ended : cursor.nextToken.kind = .endOfInput
    · rw [if_pos ended, if_pos ended, if_pos ended]
    by_cases separator : cursor.nextToken.isSymbol ';' = true
    · rw [if_neg ended, if_neg ended, if_neg ended, if_pos separator, if_pos separator,
        if_pos separator]
      exact inductionHypothesis _
    rw [if_neg ended, if_neg ended, if_neg ended, if_neg separator, if_neg separator,
      if_neg separator]
    cases cursor.readUnit operators with
    | parsed unit after =>
      simp only [receivedTelling, inductionHypothesis]
      rfl
    | failed error stopped =>
      simp only [receivedTelling, inductionHypothesis]
      rfl

/-- The failures in a listing are the errors among its items. -/
theorem failures_ofItems (items : List Item) :
    (ofItems items).failures = (items.filterMap Item.error?).length := by
  induction items with
  | nil => rfl
  | cons item items inductionHypothesis =>
    cases item with
    | ok unit => exact inductionHypothesis
    | error error => exact congrArg (· + 1) inductionHypothesis

/-- The reports in a listing are those of the errors among its items. -/
theorem reports_ofItems (items : List Item) :
    (ofItems items).reports =
      String.join ((items.filterMap Item.error?).map (·.diagnostic.text)) := by
  induction items with
  | nil => rfl
  | cons item items inductionHypothesis =>
    cases item with
    | ok unit => exact inductionHypothesis
    | error error =>
      have first : (Except.error error :: items).filterMap Item.error? =
          error :: items.filterMap Item.error? := rfl
      rw [first, List.map_cons, String.join_cons, ← inductionHypothesis]
      rfl

end Listing

/-- Lists a program and tells what has been listed. -/
def Cursor.tellListing (operators : Operators) (cursor : Cursor) : Listing × List Item :=
  Listing.tellWithin operators (cursor.rest.length + 1) cursor

namespace Dialogue

open Reckon.Action

variable {β : Type} [Backend β]

/-! ## What a step reads -/

namespace Progress

variable {progress : Progress}

/-- What the next step reads, if it reads anything. -/
def item? (progress : Progress) : Option Item :=
  if progress.cursor.nextToken.kind = .endOfInput then none
  else if progress.cursor.nextToken.isSymbol ';' then none
  else some (progress.cursor.readUnit progress.operators).result

/-- Where the next step goes on if something is left. -/
def resume (progress : Progress) : Cursor :=
  if progress.cursor.nextToken.isSymbol ';' then progress.cursor.pastToken
  else (progress.cursor.readUnit progress.operators).resume

/-- At the end a step reads nothing. -/
theorem item?_of_ended (ended : progress.cursor.nextToken.kind = .endOfInput) :
    progress.item? = none := if_pos ended

/-- At the end a step goes nowhere. -/
theorem next_of_ended (ended : progress.cursor.nextToken.kind = .endOfInput) :
    progress.next = { progress with started := true } := if_pos ended

/-- A step goes on behind what it reads, and its error comes behind the others. -/
theorem next_of_more (more : progress.cursor.nextToken.kind ≠ .endOfInput) :
    progress.next =
      { progress with
        started := true
        cursor := progress.resume
        errors := progress.errors ++ progress.item?.toList.filterMap Item.error? } := by
  rw [next, item?, resume, if_neg more, if_neg more]
  by_cases separator : progress.cursor.nextToken.isSymbol ';' = true
  · rw [if_pos separator, if_pos separator, if_pos separator]
    simp
  rw [if_neg separator, if_neg separator, if_neg separator]
  cases progress.cursor.readUnit progress.operators with
  | parsed unit after => simp [Outcome.resume, Outcome.result, Item.error?]
  | failed error stopped => simp [Outcome.resume, Outcome.result, Item.error?]

/-- A step adds the error that it reads to those that were found before. -/
theorem errors_next (progress : Progress) :
    progress.next.errors = progress.errors ++ progress.item?.toList.filterMap Item.error? := by
  by_cases ended : progress.cursor.nextToken.kind = .endOfInput
  · rw [next_of_ended ended, item?_of_ended ended]
    simp
  · rw [next_of_more ended]

/-- What is read is the first item, and the others are read behind it. -/
theorem itemsWithin_succ (more : progress.cursor.nextToken.kind ≠ .endOfInput) (limit : Nat) :
    progress.cursor.itemsWithin progress.operators (limit + 1) =
      progress.item?.toList ++ progress.next.cursor.itemsWithin progress.operators limit := by
  rw [Cursor.itemsWithin, next_of_more more, item?, resume, if_neg more, if_neg more]
  by_cases separator : progress.cursor.nextToken.isSymbol ';' = true
  · rw [if_pos separator, if_pos separator, if_pos separator]
    rfl
  · rw [if_neg separator, if_neg separator, if_neg separator]
    rfl

/-- A step that finds something takes at least one character. -/
theorem length_next_lt (registered : progress.operators.Registered)
    (more : progress.cursor.nextToken.kind ≠ .endOfInput) :
    progress.next.cursor.rest.length < progress.cursor.rest.length := by
  rw [next_of_more more, resume]
  split
  · exact progress.cursor.length_pastToken_lt more
  · exact (Cursor.readUnit_shortens registered progress.cursor).resume more

end Progress

/-! ## Runs that tell -/

/-- Takes in what has been read, and tells of it as a unit. -/
def receiveTelling {α : Type} (wrap : α → ProgramUnit) (takeIn : α → Turn β Unit) :
    Outcome α → Turn β Item
  | .parsed value after => do
    moveTo after
    takeIn value
    return .ok (wrap value)
  | .failed error stopped => do
    complain (.reading error)
    moveTo stopped.pastToken
    return .error error

/-- Takes the next unit in, in the way of its kind, and tells what it is. -/
def handleTelling (operators : Operators) (cursor : Cursor) : Turn β Item :=
  match cursor.nextToken.kind with
  | .define => receiveTelling .definition takeDefinition (cursor.readDefinition operators)
  | .declare => receiveTelling .declaration takeDeclaration cursor.readDeclaration
  | _ => receiveTelling .expression takeExpression (cursor.readAnonymous operators)

/-- A step that tells what it has read. -/
def stepTelling : Turn β (Bool × Option Item) := do
  let prompt := (← get).settings.prompt
  say prompt
  modify fun dialogue => { dialogue with started := true }
  let dialogue ← get
  let next := dialogue.cursor.nextToken
  if next.kind = .endOfInput then return (false, none)
  else if next.isSymbol ';' then
    moveTo dialogue.cursor.pastToken
    return (true, none)
  else
    let item ← handleTelling dialogue.session.operators dialogue.cursor
    return (true, some item)

/-- Something happens to the back end. -/
def disturb (happens : β → β) : Turn β Unit :=
  modify fun dialogue => { dialogue with backend := happens dialogue.backend }

/-- Takes units in until none is left, at most `limit` of them, and tells what has been read. Before
each step something may happen to the back end. -/
def runTellingWithin (happens : Nat → β → β) : Nat → Turn β (List Item)
  | 0 => pure []
  | limit + 1 => do
    disturb (happens 0)
    let (more, item?) ← stepTelling
    let later ←
      (if more then runTellingWithin (fun number => happens (number + 1)) limit else pure [])
    return item?.toList ++ later

/-- Takes all units in and tells what has been read. -/
def runTelling (happens : Nat → β → β) : Turn β (List Item) := do
  runTellingWithin happens ((← get).cursor.rest.length + 1)

/-- What is told of a unit that is taken in is the unit at the cursor. -/
theorem receiveTelling_map {α : Type} (wrap : α → ProgramUnit) (outcome : Outcome α) :
    receiveTelling id take (outcome.map wrap) =
      receiveTelling wrap (fun value => (take (wrap value) : Turn β Unit)) outcome := by
  cases outcome <;> rfl

/-- Telling which unit is taken in, a dialogue comes to the unit at its cursor. -/
theorem handleTelling_eq (operators : Operators) (cursor : Cursor) :
    handleTelling operators cursor =
      receiveTelling id (take : ProgramUnit → Turn β Unit) (cursor.readUnit operators) := by
  rw [Cursor.apply_readUnit (receiveTelling id take), receiveTelling_map, receiveTelling_map,
    receiveTelling_map]
  rfl

/-- To tell what has been read makes no other difference to taking it in. -/
theorem receiveTelling_eq (outcome : Outcome ProgramUnit) (dialogue : Dialogue β) :
    receiveTelling id take outcome dialogue =
      match receive take outcome dialogue with
      | .ok _ after => .ok outcome.result after
      | .error fault after => .error fault after := by
  cases outcome with
  | failed error stopped => rfl
  | parsed unit cursor =>
    change (take unit >>= fun _ => pure (Except.ok unit)) { dialogue with cursor } =
      match take unit { dialogue with cursor } with
      | .ok _ after => _
      | .error fault after => _
    cases taken : take unit { dialogue with cursor } with
    | ok _ after => exact bind_ok taken
    | error fault after => exact bind_error taken

/-- What a step tells is what it reads, and nothing else is different about it. -/
theorem stepTelling_eq (before : Dialogue β) :
    stepTelling before =
      match step before with
      | .ok more after => .ok (more, before.progress.item?) after
      | .error fault after => .error fault after := by
  have told : stepTelling before =
      (if before.cursor.nextToken.kind = .endOfInput then pure (false, none)
      else if before.cursor.nextToken.isSymbol ';' then do
        moveTo before.cursor.pastToken
        return (true, none)
      else do
        let item ← receiveTelling id take (before.cursor.readUnit before.session.operators)
        return (true, some item) : Turn β (Bool × Option Item)) before.asked := by
    rw [← handleTelling_eq]
    rfl
  have here : before.progress.cursor = before.cursor := rfl
  have table : before.progress.operators = before.session.operators := rfl
  rw [told, step_eq, Progress.item?, here, table]
  by_cases ended : before.cursor.nextToken.kind = .endOfInput
  · rw [if_pos ended, if_pos ended, if_pos ended]
    rfl
  by_cases separator : before.cursor.nextToken.isSymbol ';' = true
  · rw [if_neg ended, if_neg ended, if_neg ended, if_pos separator, if_pos separator,
      if_pos separator]
    rfl
  rw [if_neg ended, if_neg ended, if_neg ended, if_neg separator, if_neg separator,
    if_neg separator]
  have tells := receiveTelling_eq (before.cursor.readUnit before.session.operators) before.asked
  change _ =
    match (receive take _ >>= fun _ => pure true) before.asked with
    | .ok more after => _
    | .error fault after => _
  cases received : receive take (before.cursor.readUnit before.session.operators) before.asked with
  | ok _ after =>
    rw [received] at tells
    rw [bind_ok tells, bind_ok received]
    rfl
  | error fault after =>
    rw [received] at tells
    rw [bind_error tells, bind_error received]

/-- A run that tells takes a step, and then goes on if there is more. -/
theorem runTellingWithin_succ_eq_ok_iff {happens : Nat → β → β} {limit : Nat} {told : List Item}
    {before after : Dialogue β} :
    runTellingWithin happens (limit + 1) before = .ok told after ↔
      ∃ more next later,
        step { before with backend := happens 0 before.backend } = .ok more next ∧
        (if more then runTellingWithin (fun number => happens (number + 1)) limit
          else pure []) next = .ok later after ∧
        told = before.progress.item?.toList ++ later := by
  let disturbed : Dialogue β := { before with backend := happens 0 before.backend }
  let goOn (more : Bool) : Turn β (List Item) :=
    if more then runTellingWithin (fun number => happens (number + 1)) limit else pure []
  have unfolded : runTellingWithin happens (limit + 1) before =
      (stepTelling >>= fun answer => goOn answer.1 >>= fun later =>
        pure (answer.2.toList ++ later)) disturbed := rfl
  have tells := stepTelling_eq disturbed
  have same : disturbed.progress.item? = before.progress.item? := rfl
  rw [unfolded]
  constructor
  · intro done
    obtain ⟨answer, next, telling, goes⟩ := bind_eq_ok_iff.mp done
    obtain ⟨later, last, goes, ended⟩ := bind_eq_ok_iff.mp goes
    cases ended
    rw [telling] at tells
    cases stepped : step disturbed with
    | error fault stopped =>
      rw [stepped] at tells
      cases tells
    | ok more reached =>
      rw [stepped] at tells
      cases tells
      exact ⟨more, next, later, rfl, goes, rfl⟩
  · rintro ⟨more, next, later, stepped, goes, rfl⟩
    rw [stepped, same] at tells
    rw [bind_ok tells, bind_ok (show goOn more next = _ from goes)]
    rfl

/-- What a run that tells has come to. -/
structure Told (told : List Item) (limit : Nat) (before after : Dialogue β) : Prop where
  items : told = before.cursor.itemsWithin before.session.operators limit
  errors : after.syntaxErrors = before.syntaxErrors ++ told.filterMap Item.error?
  ended (registered : before.session.operators.Registered)
    (enough : before.cursor.rest.length < limit) : after.cursor.nextToken.kind = .endOfInput

/-- **What a run tells is what its text is read as**, whatever happens to the back end. -/
theorem told_of_runTellingWithin {happens : Nat → β → β} {limit : Nat} {told : List Item}
    {before after : Dialogue β} (done : runTellingWithin happens limit before = .ok told after) :
    Told told limit before after := by
  induction limit generalizing happens told before with
  | zero =>
    cases done
    exact ⟨rfl, (List.append_nil _).symm, fun _ enough => (Nat.not_lt_zero _ enough).elim⟩
  | succ limit inductionHypothesis =>
    obtain ⟨more, next, later, stepped, goes, rfl⟩ := runTellingWithin_succ_eq_ok_iff.mp done
    have stepped := stepped_of_step stepped
    -- The back end has no part in the progress, so what happened to it does not show here.
    have forward : next.progress = before.progress.next := stepped.progress_eq
    have cursor : next.cursor = before.progress.next.cursor := congrArg Progress.cursor forward
    have errors : next.syntaxErrors =
        before.syntaxErrors ++ before.progress.item?.toList.filterMap Item.error? :=
      (congrArg Progress.errors forward).trans before.progress.errors_next
    cases more with
    | false =>
      have ended := stepped.ended_iff.mp rfl
      cases goes
      have none : before.progress.item? = none := Progress.item?_of_ended ended
      have still : after.cursor = before.cursor := by rw [cursor, Progress.next_of_ended ended]; rfl
      refine ⟨?_, ?_, fun _ _ => still ▸ ended⟩
      · rw [none, Cursor.itemsWithin, if_pos ended]
        rfl
      · rw [errors, none]
        rfl
    | true =>
      have left : before.progress.cursor.nextToken.kind ≠ .endOfInput := by
        intro ended
        cases stepped.ended_iff.mpr ended
      have rest := inductionHypothesis goes
      have table : next.session.operators = before.session.operators :=
        (congrArg Progress.operators forward).trans before.progress.operators_next
      constructor
      case items =>
        rw [rest.items, cursor, table]
        exact (Progress.itemsWithin_succ left limit).symm
      case errors => rw [rest.errors, errors, List.filterMap_append, List.append_assoc]
      case ended =>
        intro registered enough
        have shorter := Progress.length_next_lt registered left
        rw [← cursor] at shorter
        exact rest.ended (table.symm ▸ registered)
          (Nat.lt_of_lt_of_le shorter (Nat.le_of_lt_succ enough))

/-- Every step leads on, whatever happens to the back end, and keeps a dialogue sound. -/
def Leads (happens : Nat → β → β) (sound : Dialogue β → Prop) : Prop :=
  ∀ number before, sound before → ∃ more after,
    step { before with backend := happens number before.backend } = .ok more after ∧ sound after

/-- A run that tells comes to an end if all steps lead on. -/
theorem Leads.exists_run {happens : Nat → β → β} {sound : Dialogue β → Prop}
    (leads : Leads happens sound) (limit : Nat) {before : Dialogue β} (start : sound before) :
    ∃ told after, runTellingWithin happens limit before = .ok told after := by
  induction limit generalizing happens before with
  | zero => exact ⟨[], before, rfl⟩
  | succ limit inductionHypothesis =>
    obtain ⟨more, next, stepped, there⟩ := leads 0 before start
    cases more with
    | false =>
      exact ⟨_, next, runTellingWithin_succ_eq_ok_iff.mpr ⟨false, next, [], stepped, rfl, rfl⟩⟩
    | true =>
      have leadsLater : Leads (fun number => happens (number + 1)) sound :=
        fun number => leads (number + 1)
      obtain ⟨later, after, goes⟩ := inductionHypothesis leadsLater there
      exact ⟨_, after,
        runTellingWithin_succ_eq_ok_iff.mpr ⟨true, next, later, stepped, goes, rfl⟩⟩

/-- A run that tells is a run if nothing happens to the back end. -/
theorem runWithin_of_runTellingWithin {limit : Nat} {told : List Item} {before after : Dialogue β}
    (done : runTellingWithin (fun _ => id) limit before = .ok told after) :
    runWithin limit before = .ok () after := by
  induction limit generalizing told before with
  | zero =>
    cases done
    rfl
  | succ limit inductionHypothesis =>
    obtain ⟨more, next, later, stepped, goes, _⟩ := runTellingWithin_succ_eq_ok_iff.mp done
    have stepped : step before = .ok more next := stepped
    change (step >>= fun again => if again then runWithin limit else pure ()) before = _
    rw [bind_ok stepped]
    cases more with
    | false =>
      cases goes
      rfl
    | true => exact inductionHypothesis goes

/-! ## Listings and runs -/

/-- A run reads what is listed, and reports the errors that the listing reports. -/
structure ReadsAsListed (happens : Nat → β → β) (start after : Dialogue β) : Prop where
  told : runTelling happens start = .ok (start.cursor.items start.session.operators) after
  errors : after.syntaxErrors =
    (start.cursor.items start.session.operators).filterMap Item.error?
  failures : (start.cursor.listing start.session.operators).failures = after.syntaxErrors.length
  reports : (start.cursor.listing start.session.operators).reports =
    String.join (after.syntaxErrors.map (·.diagnostic.text))
  ended (registered : start.session.operators.Registered) :
    after.cursor.nextToken.kind = .endOfInput

/-- If all steps lead on, a run reads what is listed. -/
theorem Leads.readsAsListed {happens : Nat → β → β} {sound : Dialogue β → Prop}
    (leads : Leads happens sound) {start : Dialogue β} (begins : sound start)
    (fresh : start.syntaxErrors = []) : ∃ after, ReadsAsListed happens start after := by
  obtain ⟨told, after, done⟩ := leads.exists_run (start.cursor.rest.length + 1) begins
  have all := told_of_runTellingWithin done
  obtain rfl : told = start.cursor.items start.session.operators := all.items
  have errors := all.errors
  rw [fresh, List.nil_append] at errors
  refine ⟨after, ?_⟩
  constructor
  case told => exact done
  case errors => exact errors
  case failures => rw [Cursor.listing_eq, Listing.failures_ofItems, errors]
  case reports => rw [Cursor.listing_eq, Listing.reports_ofItems, errors]
  case ended => exact fun registered => all.ended registered (Nat.lt_succ_self _)

/-! ## Machines that refuse units -/

/-- The machine of a generator refuses units, each time for the reason given, if there is one. -/
def refusing (reasons : Nat → Option String) (number : Nat) (generator : Generator) : Generator :=
  { generator with refusal := reasons number }

section

variable {reasons : Nat → Option String} {start next after : Dialogue Generator}

/-- One more step is taken in front of the others. -/
theorem stepsRefusing_succ_of_first {count : Nat} {more : Bool}
    (stepped : stepRefusing (reasons 0) start = .ok more next)
    (reached : stepsRefusing (fun number => reasons (number + 1)) count next = .ok () after) :
    stepsRefusing reasons (count + 1) start = .ok () after := by
  induction count generalizing after with
  | zero =>
    cases reached
    exact stepsRefusing_succ_eq rfl stepped
  | succ count inductionHypothesis =>
    change (stepsRefusing _ count >>= fun _ => stepRefusing _ >>= fun _ => pure ()) next = _
      at reached
    obtain ⟨_, before, earlier, later⟩ := bind_eq_ok_iff.mp reached
    obtain ⟨again, last, steppedLast, ended⟩ := bind_eq_ok_iff.mp later
    cases ended
    exact stepsRefusing_succ_eq (inductionHypothesis earlier) steppedLast

/-- A run that tells takes steps while units are refused. -/
theorem exists_stepsRefusing {limit : Nat} {told : List Item}
    (done : runTellingWithin (refusing reasons) limit start = .ok told after) :
    ∃ count, stepsRefusing reasons count start = .ok () after := by
  induction limit generalizing reasons told start with
  | zero =>
    cases done
    exact ⟨0, rfl⟩
  | succ limit inductionHypothesis =>
    obtain ⟨more, next, later, stepped, goes, _⟩ := runTellingWithin_succ_eq_ok_iff.mp done
    have stepped : stepRefusing (reasons 0) start = .ok more next := stepped
    cases more with
    | false =>
      cases goes
      exact ⟨1, stepsRefusing_succ_of_first stepped rfl⟩
    | true =>
      obtain ⟨count, reached⟩ := inductionHypothesis goes
      exact ⟨count + 1, stepsRefusing_succ_of_first stepped reached⟩

end

/-- Every step of an evaluator's dialogue leads on. -/
theorem leads_accompanied : Leads (fun _ => id) Accompanied := by
  intro _ before accompanied
  obtain ⟨more, after, stepped, _, there⟩ := accompanied.proceeds
  exact ⟨more, after, stepped, there⟩

/-- Every step of a generator's dialogue leads on. -/
theorem leads_shadowed : Leads (fun _ => id) Shadowed := by
  intro _ before shadowed
  obtain ⟨more, after, turns, there⟩ := shadowed.step
  obtain ⟨output, stepped⟩ := turns.ends before.output
  exact ⟨more, { after with output }, stepped, there⟩

/-- So does every step if the machine refuses units now and then. -/
theorem leads_shadowed_refusing (reasons : Nat → Option String) :
    Leads (refusing reasons) Shadowed := by
  intro number before shadowed
  obtain ⟨more, after, stepped, _, there⟩ := shadowed.proceeds (reasons number)
  exact ⟨more, after, stepped, there⟩

/-- **A listing and a run read the same.** For every program and every table of operators, what is
listed is what a run reads, unit by unit and error by error, both with the evaluator and with a
generator, whose machine may refuse whatever units it likes. So a listing counts the syntax errors
that a run reports, and shows their reports. -/
theorem run_reads_what_is_listed (settings : Settings) (platform : Platform) (operators : Operators)
    (level : Nat) (cursor : Cursor) (reasons : Nat → Option String) :
    let evaluating := withEvaluator settings platform operators cursor
    let generating := withGenerator settings platform operators level cursor
    cursor.tellListing operators = (cursor.listing operators, cursor.items operators) ∧
    (∃ after, run evaluating = .ok () after ∧ ReadsAsListed (fun _ => id) evaluating after) ∧
    (∃ after, run generating = .ok () after ∧ ReadsAsListed (fun _ => id) generating after) ∧
    ∃ count after, stepsRefusing reasons count generating = .ok () after ∧
      ReadsAsListed (refusing reasons) generating after := by
  intro evaluating generating
  refine ⟨Listing.tellWithin_eq .., ?_, ?_, ?_⟩
  · obtain ⟨after, reads⟩ := leads_accompanied.readsAsListed
      (accompanied_withEvaluator settings platform operators cursor) rfl
    exact ⟨after, runWithin_of_runTellingWithin reads.told, reads⟩
  · obtain ⟨after, reads⟩ := leads_shadowed.readsAsListed
      (shadowed_withGenerator settings platform operators level cursor) rfl
    exact ⟨after, runWithin_of_runTellingWithin reads.told, reads⟩
  · obtain ⟨after, reads⟩ := (leads_shadowed_refusing reasons).readsAsListed
      (shadowed_withGenerator settings platform operators level cursor) rfl
    obtain ⟨count, reached⟩ := exists_stepsRefusing reads.told
    exact ⟨count, after, reached, reads⟩

end Dialogue

end Reckon
