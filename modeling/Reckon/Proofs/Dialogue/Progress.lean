import Reckon.Proofs.Dialogue.Likeness

/-!
# How far a dialogue has read its text

Taking a unit in is blind to the text: whatever the back end does about it, and whatever fails,
the text that is left is neither looked at nor moved in, the operators stay as they are, and
nothing that is reported is a syntax error. So what a step reads is settled by the text, and
what it does about a unit is the same whatever comes behind it.
-/

namespace Reckon

/-- The syntax error that a report is about. -/
def Complaint.syntaxError? : Complaint → Option SyntaxError
  | reading error => some error
  | compiling _ _ => none
  | running _ => none

namespace Dialogue

open Reckon.Action

variable {β : Type}

/-- The syntax errors that have been reported. -/
def syntaxErrors (dialogue : Dialogue β) : List SyntaxError :=
  dialogue.complaints.filterMap Complaint.syntaxError?

/-- How far a text has been read, how the rest is read, and what was wrong with it so far. -/
structure Progress where
  cursor : Cursor
  started : Bool
  operators : Operators
  errors : List SyntaxError

/-- How far a dialogue has read its text. -/
def progress (dialogue : Dialogue β) : Progress :=
  { cursor := dialogue.cursor, started := dialogue.started,
    operators := dialogue.session.operators, errors := dialogue.syntaxErrors }

/-- Two dialogues that differ in where they stand only; the first has come as far as given. -/
structure Beside (other : Cursor) (progress : Progress) (left right : Dialogue β) : Prop where
  progress : left.progress = progress
  same : right = { left with cursor := other }

variable {other : Cursor} {progress : Progress}

/-- Writing does not depend on where a dialogue stands, and does not move it. -/
theorem say_beside (text : String) :
    Respects (Beside (β := β) other progress) Eq (say text) (say text) := by
  apply respects_modify
  rintro left _ ⟨rfl, rfl⟩
  exact ⟨rfl, rfl⟩

/-- Notes do not depend on where a dialogue stands. -/
theorem note_beside (least : Nat) (level signature text : String) :
    Respects (Beside (β := β) other progress) Eq
      (note least level signature text) (note least level signature text) := by
  apply respects_get.bind
  rintro left _ ⟨_, rfl⟩
  dsimp only
  split
  · exact say_beside _
  · exact respects_pure rfl

/-- A report that is no syntax error. -/
theorem complain_beside {complaint : Complaint} (noSyntaxError : complaint.syntaxError? = none) :
    Respects (Beside (β := β) other progress) Eq (complain complaint)
      (complain complaint) := by
  refine Respects.bind (respects_modify ?_) fun _ _ _ => say_beside _
  rintro left _ ⟨rfl, rfl⟩
  refine ⟨?_, rfl⟩
  simp [Dialogue.progress, syntaxErrors, noSyntaxError]

/-- Reports of faults do not depend on it. -/
theorem reportFault_beside (fault : Fault) :
    Respects (Beside (β := β) other progress) Eq (reportFault fault)
      (reportFault fault) := by
  cases fault with
  | compile error location => exact complain_beside rfl
  | run error => exact complain_beside rfl
  | _ => exact respects_throw rfl

/-- What the back end is asked does not depend on it. -/
theorem consult_beside {α : Type} (action : Action β α) :
    Respects (Beside (β := β) other progress) Eq (consult action)
      (consult action) := by
  rintro left _ ⟨rfl, rfl⟩
  unfold consult
  dsimp only
  cases action left.backend with
  | ok value backend => exact .ok rfl ⟨rfl, rfl⟩
  | error fault backend => exact .ok rfl ⟨rfl, rfl⟩

/-- Recording does not depend on it. -/
theorem record_beside (prototype : Prototype) :
    Respects (Beside (β := β) other progress) Eq (record prototype)
      (record prototype) := by
  apply respects_modify
  rintro left _ ⟨rfl, rfl⟩
  exact ⟨rfl, rfl⟩

variable [Backend β]

/-- Notes about units do not depend on it. -/
theorem noteUnit_beside (least : Nat) (level event : String) (unit : Nat) :
    Respects (Beside (β := β) other progress) Eq
      (noteUnit least level event unit) (noteUnit least level event unit) := by
  unfold noteUnit
  cases Backend.signature β with
  | none => exact respects_pure rfl
  | some signature => exact note_beside _ _ _ _

/-- Showing a function does not depend on it. -/
theorem echo_beside (handle : Handle) :
    Respects (Beside (β := β) other progress) Eq (echo handle) (echo handle) := by
  apply respects_get.bind
  rintro left _ ⟨_, rfl⟩
  dsimp only
  split
  · exact say_beside _
  · exact respects_pure rfl

/-! ## Units -/

/-- Compiling and handing off do not depend on it. -/
theorem submit_beside (function : Definition) :
    Respects (Beside (β := β) other progress) Eq (submit function)
      (submit function) := by
  apply respects_get.bind
  rintro left _ ⟨_, rfl⟩
  apply (consult_beside (define left.session function)).bind
  rintro defined _ rfl
  cases defined with
  | error fault =>
    apply (reportFault_beside fault).bind
    exact fun _ _ _ => respects_pure rfl
  | ok handle =>
    apply (echo_beside handle).bind
    rintro _ _ _
    apply (consult_beside Backend.handOff).bind
    rintro closed _ rfl
    cases closed with
    | error fault =>
      apply (reportFault_beside fault).bind
      exact fun _ _ _ => respects_pure rfl
    | ok unit =>
      apply (noteUnit_beside _ _ _ _).bind
      exact fun _ _ _ => respects_pure rfl

/-- Giving a unit up does not depend on it. -/
theorem giveUp_beside (unit : Nat) :
    Respects (Beside (β := β) other progress) Eq (giveUp unit) (giveUp unit) := by
  apply (consult_beside (Backend.release unit)).bind
  rintro released _ rfl
  cases released with
  | error fault => exact respects_throw rfl
  | ok _ => exact noteUnit_beside _ _ _ _

/-- Taking a definition in does not depend on where a dialogue stands, and does not move it. -/
theorem takeDefinition_beside (function : Definition) :
    Respects (Beside (β := β) other progress) Eq (takeDefinition function)
      (takeDefinition function) := by
  apply (note_beside _ _ _ _).bind
  rintro _ _ _
  apply (submit_beside function).bind
  rintro submitted _ rfl
  cases submitted with
  | none => exact respects_pure rfl
  | some submitted => exact record_beside _

/-- The same holds of declarations. -/
theorem takeDeclaration_beside (prototype : Prototype) :
    Respects (Beside (β := β) other progress) Eq (takeDeclaration prototype)
      (takeDeclaration prototype) := by
  apply (note_beside _ _ _ _).bind
  rintro _ _ _
  apply respects_get.bind
  rintro left _ ⟨_, rfl⟩
  apply (consult_beside (Declarations.declare left.session prototype)).bind
  rintro declared _ rfl
  cases declared with
  | error fault => exact reportFault_beside fault
  | ok handle =>
    apply (echo_beside handle).bind
    exact fun _ _ _ => record_beside prototype

/-- The same holds of bare expressions. -/
theorem takeExpression_beside (function : Definition) :
    Respects (Beside (β := β) other progress) Eq (takeExpression function)
      (takeExpression function) := by
  apply (note_beside _ _ _ _).bind
  rintro _ _ _
  apply (submit_beside function).bind
  rintro submitted _ rfl
  cases submitted with
  | none => exact respects_pure rfl
  | some submitted =>
    obtain ⟨handle, unit⟩ := submitted
    apply respects_get.bind
    rintro left _ ⟨_, rfl⟩
    apply (consult_beside (Backend.execute left.platform handle [])).bind
    rintro executed _ rfl
    cases executed with
    | ok value =>
      apply (giveUp_beside unit).bind
      rintro _ _ _
      refine Respects.bind (respects_modify ?_) fun _ _ _ => ?_
      · rintro left _ ⟨rfl, rfl⟩
        exact ⟨rfl, rfl⟩
      · apply respects_get.bind
        rintro left _ ⟨_, rfl⟩
        exact say_beside _
    | error fault =>
      cases fault with
      | compile error location =>
        apply (complain_beside rfl).bind
        exact fun _ _ _ => giveUp_beside unit
      | run error =>
        apply (complain_beside rfl).bind
        exact fun _ _ _ => giveUp_beside unit
      | _ =>
        apply (giveUp_beside unit).bind
        exact fun _ _ _ => respects_throw rfl

/-- **Taking a unit in is blind to the text.** -/
theorem take_beside (unit : ProgramUnit) :
    Respects (Beside (β := β) other progress) Eq (take unit) (take unit) := by
  cases unit with
  | definition function => exact takeDefinition_beside function
  | declaration prototype => exact takeDeclaration_beside prototype
  | expression function => exact takeExpression_beside function

/-- A unit that is taken in leaves the reading of the text where it is, and it is taken in likewise
wherever the dialogue stands. -/
theorem take_elsewhere {unit : ProgramUnit} {before after : Dialogue β}
    (taken : take unit before = .ok () after) (other : Cursor) :
    after.progress = before.progress ∧
      take unit { before with cursor := other } = .ok () { after with cursor := other } := by
  have ends := take_beside unit before { before with cursor := other } ⟨rfl, rfl⟩
  rw [taken] at ends
  generalize elsewhere : take unit { before with cursor := other } = result at ends
  cases ends with
  | ok _ beside =>
    obtain ⟨progress, rfl⟩ := beside
    exact ⟨progress, rfl⟩

/-! ## Steps -/

/-- The dialogue when the prompt has been written and the next token has been asked for. -/
def asked (dialogue : Dialogue β) : Dialogue β :=
  { dialogue with
    output := dialogue.output ++ dialogue.settings.prompt
    started := true }

/-- The dialogue after a report. -/
def complained (complaint : Complaint) (dialogue : Dialogue β) : Dialogue β :=
  { dialogue with
    complaints := dialogue.complaints ++ [complaint]
    output := dialogue.output ++ complaint.diagnostic.text }

/-- What a step does that no fault breaks off. -/
inductive Stepped (before : Dialogue β) : Bool → Dialogue β → Prop
  /-- Nothing is left. -/
  | finished (ended : before.cursor.nextToken.kind = .endOfInput) :
      Stepped before false before.asked
  /-- A separator is skipped. -/
  | separated (more : before.cursor.nextToken.kind ≠ .endOfInput)
      (separator : before.cursor.nextToken.isSymbol ';' = true) :
      Stepped before true { before.asked with cursor := before.cursor.pastToken }
  /-- A unit is taken in. -/
  | took {unit : ProgramUnit} {cursor : Cursor} {after : Dialogue β}
      (more : before.cursor.nextToken.kind ≠ .endOfInput)
      (unseparated : before.cursor.nextToken.isSymbol ';' ≠ true)
      (reads : before.cursor.readUnit before.session.operators = .parsed unit cursor)
      (taken : take unit { before.asked with cursor } = .ok () after) : Stepped before true after
  /-- What follows is no unit; the token that does not fit is skipped. -/
  | malformed {error : SyntaxError} {stopped : Cursor}
      (more : before.cursor.nextToken.kind ≠ .endOfInput)
      (unseparated : before.cursor.nextToken.isSymbol ';' ≠ true)
      (fails : before.cursor.readUnit before.session.operators = .failed error stopped) :
      Stepped before true
        { complained (.reading error) before.asked with cursor := stopped.pastToken }

/-- What is listed for a step is what the step does. -/
theorem Stepped.step_eq {before after : Dialogue β} {more : Bool}
    (stepped : Stepped before more after) : step before = .ok more after := by
  rw [Dialogue.step_eq]
  cases stepped with
  | finished ended =>
    rw [if_pos ended]
    rfl
  | separated more separator =>
    rw [if_neg more, if_pos separator]
    rfl
  | took more unseparated reads taken =>
    rw [if_neg more, if_neg unseparated, reads]
    exact bind_ok taken
  | malformed more unseparated fails =>
    rw [if_neg more, if_neg unseparated, fails]
    rfl

/-- A step that no fault breaks off does what is listed for it. -/
theorem stepped_of_step {before after : Dialogue β} {more : Bool}
    (done : step before = .ok more after) : Stepped before more after := by
  rw [step_eq] at done
  by_cases ended : before.cursor.nextToken.kind = .endOfInput
  · rw [if_pos ended] at done
    cases done
    exact .finished ended
  by_cases separator : before.cursor.nextToken.isSymbol ';' = true
  · rw [if_neg ended, if_pos separator] at done
    cases done
    exact .separated ended separator
  rw [if_neg ended, if_neg separator] at done
  cases reads : before.cursor.readUnit before.session.operators with
  | failed error stopped =>
    rw [reads] at done
    cases done
    exact .malformed ended separator reads
  | parsed unit cursor =>
    rw [reads] at done
    change (take unit >>= fun _ => pure true) { before.asked with cursor } = _ at done
    obtain ⟨_, last, taken, ended⟩ := bind_eq_ok_iff.mp done
    cases ended
    exact .took ended separator reads taken

/-- A step says that there was nothing left if that is so. -/
theorem Stepped.ended_iff {before after : Dialogue β} {more : Bool}
    (stepped : Stepped before more after) :
    more = false ↔ before.cursor.nextToken.kind = .endOfInput := by
  cases stepped with
  | finished ended => exact ⟨fun _ => ended, fun _ => rfl⟩
  | separated more => exact ⟨nofun, fun ended => (more ended).elim⟩
  | took more => exact ⟨nofun, fun ended => (more ended).elim⟩
  | malformed more => exact ⟨nofun, fun ended => (more ended).elim⟩

/-- How far a text has been read after one more step. -/
def Progress.next (progress : Progress) : Progress :=
  if progress.cursor.nextToken.kind = .endOfInput then { progress with started := true }
  else if progress.cursor.nextToken.isSymbol ';' then
    { progress with started := true, cursor := progress.cursor.pastToken }
  else
    match progress.cursor.readUnit progress.operators with
    | .parsed _ after => { progress with started := true, cursor := after }
    | .failed error stopped =>
      { progress with
        started := true
        cursor := stopped.pastToken
        errors := progress.errors ++ [error] }

/-- After a step the first token has been asked for. -/
@[simp] theorem Progress.started_next (progress : Progress) : progress.next.started = true := by
  unfold Progress.next
  split
  · rfl
  · split
    · rfl
    · split <;> rfl

/-- No step changes the table of operators. -/
@[simp] theorem Progress.operators_next (progress : Progress) :
    progress.next.operators = progress.operators := by
  unfold Progress.next
  split
  · rfl
  · split
    · rfl
    · split <;> rfl

/-- **Reading goes on by itself**: how far a step reads, and which error it reports, depends on how
far the text has been read before, and on nothing else. -/
theorem Stepped.progress_eq {before after : Dialogue β} {more : Bool}
    (stepped : Stepped before more after) : after.progress = before.progress.next := by
  have here : before.progress.cursor = before.cursor := rfl
  have table : before.progress.operators = before.session.operators := rfl
  rw [Progress.next, here, table]
  cases stepped with
  | finished ended =>
    rw [if_pos ended]
    rfl
  | separated more separator =>
    rw [if_neg more, if_pos separator]
    rfl
  | took more unseparated reads taken =>
    rw [if_neg more, if_neg unseparated, reads]
    exact (take_elsewhere taken before.cursor).1
  | malformed more unseparated fails =>
    rw [if_neg more, if_neg unseparated, fails]
    simp [Dialogue.progress, complained, asked, syntaxErrors, Complaint.syntaxError?]

end Dialogue

end Reckon
