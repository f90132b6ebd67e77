import Reckon.Dialogue
import Reckon.Proofs.Likeness.Actions
import Reckon.Proofs.Reading.Items

/-!
# Dialogues do not depend on places

What a dialogue does about a unit depends on the unit, the session and the back end, and not
on where the unit was read or what was written, answered or reported before. So a run is
settled by the items that its text is read as: it does about them, one after the other, what
any dialogue does about items that are alike.
-/

namespace Reckon

/-- What kind of error a report is about. -/
inductive Complaint.Kind where
  | reading
  | compiling
  | running
  deriving DecidableEq, Repr

/-- The kind of a report. -/
def Complaint.kind : Complaint → Kind
  | reading _ => .reading
  | compiling _ _ => .compiling
  | running _ => .running

/-- A report without its place: its kind, code and message. -/
def Complaint.bare (complaint : Complaint) : Complaint.Kind × String × String :=
  (complaint.kind, complaint.code, complaint.message)

namespace Dialogue

open Reckon.Action

variable {β : Type} [Backend β] [Placeless β]

/-- The first dialogue stands at the cursor and has come to what the second has come to, up to
places. The second had the given results and reports before. -/
structure Follows (cursor : Cursor) (operators : Operators) (results : List Float)
    (complaints : List (Complaint.Kind × String × String)) (left right : Dialogue β) : Prop where
  cursor : left.cursor = cursor
  operators : left.session.operators = operators
  settings : left.settings = right.settings
  platform : left.platform = right.platform
  session : left.session.Alike right.session
  backend : Placeless.Alike left.backend right.backend
  results : right.results = results ++ left.results
  complaints : right.complaints.map Complaint.bare =
    complaints ++ left.complaints.map Complaint.bare

variable {cursor : Cursor} {operators : Operators} {results : List Float}
  {complaints : List (Complaint.Kind × String × String)} {left right : Dialogue β}

/-! ## Parts of a step -/

/-- What is written does not count. -/
theorem say_alike (text textToo : String) :
    Respects (Follows (β := β) cursor operators results complaints) Eq (say text) (say textToo) :=
  respects_modify fun _ _ follows => { follows with }

/-- Notes do not count. -/
theorem note_alike (least : Nat) (level signature text : String) :
    Respects (Follows (β := β) cursor operators results complaints) Eq
      (note least level signature text) (note least level signature text) := by
  apply respects_get.bind
  intro dialogue dialogueToo follows
  rw [follows.settings]
  split
  · exact say_alike _ _
  · exact respects_pure rfl

/-- Notes about units do not count. -/
theorem noteUnit_alike (least : Nat) (level event : String) (unit : Nat) :
    Respects (Follows (β := β) cursor operators results complaints) Eq
      (noteUnit least level event unit) (noteUnit least level event unit) := by
  unfold noteUnit
  cases Backend.signature β with
  | none => exact respects_pure rfl
  | some signature => exact note_alike _ _ _ _

/-- What is shown of functions does not count. -/
theorem echo_alike (handle : Handle) :
    Respects (Follows (β := β) cursor operators results complaints) Eq (echo handle)
      (echo handle) := by
  apply respects_get.bind
  intro dialogue dialogueToo follows
  dsimp only
  rw [follows.settings]
  split
  · exact say_alike _ _
  · exact respects_pure rfl

/-- Complaints that are the same but for their places are remembered alike. -/
theorem complain_alike {complaint complaintToo : Complaint}
    (same : complaint.bare = complaintToo.bare) :
    Respects (Follows (β := β) cursor operators results complaints) Eq (complain complaint)
      (complain complaintToo) := by
  refine Respects.bind (respects_modify fun left right follows => ?_) fun _ _ _ => say_alike _ _
  exact { follows with complaints := by simp [follows.complaints, same] }

/-- Faults that differ in their places only are reported alike. -/
theorem reportFault_alike {fault faultToo : Fault} (same : fault.bare = faultToo.bare) :
    Respects (Follows (β := β) cursor operators results complaints) Eq (reportFault fault)
      (reportFault faultToo) := by
  obtain rfl | ⟨error, location, other, rfl, rfl⟩ := Fault.eq_or_compile same
  · cases fault with
    | compile error location => exact complain_alike rfl
    | run error => exact complain_alike rfl
    | _ => exact respects_throw rfl
  · exact complain_alike rfl

/-- Prototypes that are alike are recorded alike. -/
theorem record_alike {prototype prototypeToo : Prototype} (alike : prototype.Alike prototypeToo) :
    Respects (Follows (β := β) cursor operators results complaints) Eq (record prototype)
      (record prototypeToo) :=
  respects_modify fun _ _ follows => { follows with session := follows.session.record alike }

/-- A turn asks the back end and goes on with the result or the fault. -/
theorem consult_alike {α γ : Type} {action actionToo : Action β α}
    (respects : Respects Placeless.Alike Eq action actionToo)
    {next nextToo : Except Fault α → Turn β γ}
    (done : ∀ value, Respects (Follows cursor operators results complaints) Eq (next (.ok value))
      (nextToo (.ok value)))
    (failed : ∀ fault faultToo : Fault, fault.bare = faultToo.bare →
      Respects (Follows cursor operators results complaints) Eq (next (.error fault))
        (nextToo (.error faultToo))) :
    Respects (Follows cursor operators results complaints) Eq (consult action >>= next)
      (consult actionToo >>= nextToo) := by
  intro left right follows
  have ends := respects _ _ follows.backend
  change EndsAlike _ Eq (EStateM.bind (consult action) next left)
    (EStateM.bind (consult actionToo) nextToo right)
  simp only [EStateM.bind, consult]
  generalize action left.backend = result at ends
  generalize actionToo right.backend = resultToo at ends
  cases ends with
  | ok same alike =>
    cases same
    exact done _ _ _ { follows with backend := alike }
  | error same alike => exact failed _ _ same _ _ { follows with backend := alike }

/-! ## Units -/

/-- Functions that are alike are compiled and handed off alike. -/
theorem submit_alike {function functionToo : Definition} (alike : function.Alike functionToo) :
    Respects (Follows (β := β) cursor operators results complaints) Eq (submit function)
      (submit functionToo) := by
  apply respects_get.bind
  intro dialogue dialogueToo follows
  apply consult_alike (Placeless.define follows.session alike)
  · intro handle
    apply (echo_alike handle).bind
    rintro _ _ _
    apply consult_alike Placeless.handOff
    · intro unit
      apply (noteUnit_alike _ _ _ _).bind
      rintro _ _ _
      exact respects_pure rfl
    · intro fault faultToo same
      apply (reportFault_alike same).bind
      rintro _ _ _
      exact respects_pure rfl
  · intro fault faultToo same
    apply (reportFault_alike same).bind
    rintro _ _ _
    exact respects_pure rfl

/-- A unit is given up alike. -/
theorem giveUp_alike (unit : Nat) :
    Respects (Follows (β := β) cursor operators results complaints) Eq (giveUp unit)
      (giveUp unit) := by
  apply consult_alike (Placeless.release unit)
  · rintro _
    exact noteUnit_alike _ _ _ _
  · exact fun _ _ same => respects_throw same

/-- Definitions that are alike are taken in alike. -/
theorem takeDefinition_alike {function functionToo : Definition}
    (alike : function.Alike functionToo) :
    Respects (Follows (β := β) cursor operators results complaints) Eq (takeDefinition function)
      (takeDefinition functionToo) := by
  apply (note_alike _ _ _ _).bind
  rintro _ _ _
  apply (submit_alike alike).bind
  rintro submitted _ rfl
  cases submitted with
  | none => exact respects_pure rfl
  | some submitted => exact record_alike alike.prototype

/-- Declarations that are alike are taken in alike. -/
theorem takeDeclaration_alike {prototype prototypeToo : Prototype}
    (alike : prototype.Alike prototypeToo) :
    Respects (Follows (β := β) cursor operators results complaints) Eq (takeDeclaration prototype)
      (takeDeclaration prototypeToo) := by
  apply (note_alike _ _ _ _).bind
  rintro _ _ _
  apply respects_get.bind
  intro dialogue dialogueToo follows
  apply consult_alike (Placeless.declares.declare follows.session alike)
  · intro handle
    apply (echo_alike handle).bind
    rintro _ _ _
    exact record_alike alike
  · exact fun _ _ same => reportFault_alike same

/-- Bare expressions that are alike are taken in alike. -/
theorem takeExpression_alike {function functionToo : Definition}
    (alike : function.Alike functionToo) :
    Respects (Follows (β := β) cursor operators results complaints) Eq (takeExpression function)
      (takeExpression functionToo) := by
  apply (note_alike _ _ _ _).bind
  rintro _ _ _
  apply (submit_alike alike).bind
  rintro submitted _ rfl
  cases submitted with
  | none => exact respects_pure rfl
  | some submitted =>
    obtain ⟨handle, unit⟩ := submitted
    apply respects_get.bind
    intro dialogue dialogueToo follows
    rw [follows.platform]
    apply consult_alike (Placeless.execute _ handle [])
    · intro value
      apply (giveUp_alike unit).bind
      rintro _ _ _
      refine Respects.bind (respects_modify fun left right follows => ?_) fun _ _ _ => ?_
      · exact { follows with results := by simp [follows.results] }
      · apply respects_get.bind
        intro dialogue dialogueToo follows
        exact say_alike _ _
    · intro fault faultToo same
      obtain rfl | ⟨error, location, other, rfl, rfl⟩ := Fault.eq_or_compile same
      · cases fault with
        | compile error location =>
          apply (complain_alike rfl).bind
          exact fun _ _ _ => giveUp_alike unit
        | run error =>
          apply (complain_alike rfl).bind
          exact fun _ _ _ => giveUp_alike unit
        | _ =>
          apply (giveUp_alike unit).bind
          exact fun _ _ _ => respects_throw rfl
      · have same : (Complaint.compiling error location).bare =
            (Complaint.compiling error other).bare := rfl
        apply (complain_alike same).bind
        exact fun _ _ _ => giveUp_alike unit

/-- **Units that are alike are taken in alike.** -/
theorem take_alike {unit unitToo : ProgramUnit} (alike : unit.Alike unitToo) :
    Respects (Follows (β := β) cursor operators results complaints) Eq (take unit)
      (take unitToo) := by
  cases alike with
  | definition alike => exact takeDefinition_alike alike
  | declaration alike => exact takeDeclaration_alike alike
  | expression alike => exact takeExpression_alike alike

/-! ## Runs -/

/-- Takes a unit in or reports an error. -/
def attend : Item → Turn β Unit
  | .ok unit => take unit
  | .error error => complain (.reading error)

omit [Placeless β] in
/-- A step from where its prompt has been written. -/
theorem step_eq (dialogue : Dialogue β) :
    step dialogue =
      (if dialogue.cursor.nextToken.kind = .endOfInput then pure false
      else if dialogue.cursor.nextToken.isSymbol ';' then do
        moveTo dialogue.cursor.pastToken
        return true
      else do
        receive take (dialogue.cursor.readUnit dialogue.session.operators)
        return true : Turn β Bool)
        { dialogue with
          output := dialogue.output ++ dialogue.settings.prompt
          started := true } := by
  rw [← handle_eq]
  rfl

/-- A step that reads an item does what any dialogue does about it, and goes on reading behind
it. -/
theorem step_attends (follows : Follows cursor operators results complaints left right)
    (more : cursor.nextToken.kind ≠ .endOfInput)
    (unseparated : cursor.nextToken.isSymbol ';' ≠ true) {item : Item}
    (alike : Item.Alike (cursor.readUnit operators).result item) :
    EndsAlike (Follows (cursor.readUnit operators).resume operators results complaints)
      (fun again _ => again = true) (step left) (attend item right) := by
  rw [step_eq, follows.cursor, follows.operators, if_neg more, if_neg unseparated]
  generalize cursor.readUnit operators = outcome at alike
  cases outcome with
  | parsed unit after =>
    cases alike with
    | unit alike =>
      have taken : Respects (Follows after operators results complaints)
          (fun again _ => again = true) (do take unit; return true : Turn β Bool)
          (take _ >>= fun _ => pure ()) :=
        (take_alike alike).bind fun _ _ _ => respects_pure rfl
      have done := taken { left with
          output := left.output ++ left.settings.prompt
          started := true
          cursor := after } right { follows with cursor := rfl }
      rwa [bind_pure_unit] at done
  | failed error stopped =>
    cases alike with
    | @error _ other expected =>
      have same : (Complaint.reading error).bare = (Complaint.reading other).bare := by
        simp [Complaint.bare, Complaint.kind, Complaint.code, Complaint.message, expected]
      exact .ok rfl { follows with
        cursor := rfl
        complaints := by simp [follows.complaints, same] }

/-- **A run does about the items that its text is read as what any dialogue does about items that
are alike.** -/
theorem runWithin_attends (limit : Nat) {items : List Item}
    (alike : Item.AllAlike (cursor.itemsWithin operators limit) items)
    (follows : Follows cursor operators results complaints left right) :
    EndsAlike (fun left right => ∃ cursor, Follows cursor operators results complaints left right)
      Eq (runWithin limit left) (forM items attend right) := by
  induction limit generalizing cursor items left right with
  | zero =>
    obtain rfl := List.forall₂_nil_left_iff.mp alike
    exact .ok rfl ⟨cursor, follows⟩
  | succ limit inductionHypothesis =>
    change EndsAlike _ Eq
      ((step >>= fun again => if again then runWithin limit else pure ()) left) _
    by_cases ends : cursor.nextToken.kind = .endOfInput
    · have stepped := step_eq left
      rw [follows.cursor, if_pos ends] at stepped
      rw [Cursor.itemsWithin, if_pos ends] at alike
      obtain rfl := List.forall₂_nil_left_iff.mp alike
      rw [bind_ok stepped]
      exact .ok rfl ⟨cursor, { follows with cursor := rfl }⟩
    · by_cases separator : cursor.nextToken.isSymbol ';' = true
      · have stepped := step_eq left
        rw [follows.cursor, if_neg ends, if_pos separator] at stepped
        rw [Cursor.itemsWithin, if_neg ends, if_pos separator] at alike
        rw [bind_ok stepped]
        exact inductionHypothesis alike { follows with cursor := rfl }
      · rw [Cursor.itemsWithin, if_neg ends, if_neg separator] at alike
        obtain ⟨item, rest, first, later, rfl⟩ := List.forall₂_cons_left_iff.mp alike
        have done := step_attends follows ends separator first
        rw [List.forM_cons]
        change EndsAlike _ Eq (EStateM.bind step _ left) (EStateM.bind (attend item) _ right)
        simp only [EStateM.bind]
        generalize step left = result at done
        generalize attend item right = resultToo at done
        cases done with
        | ok same follows =>
          cases same
          exact inductionHypothesis later follows
        | error same follows => exact .error same ⟨_, follows⟩

end Dialogue

end Reckon
