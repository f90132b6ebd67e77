import Reckon.Proofs.Backend.Keeping
import Reckon.Proofs.Pairing.Rejections

/-!
# What steps keep

A step does nothing to the back end but by its operations. So what all operations keep,
every step keeps, and any number of steps.
-/

namespace Reckon

namespace Dialogue

open Reckon.Action

variable {β α : Type} {good : β → Prop}

/-- The back end has the property. -/
abbrev Having (good : β → Prop) (dialogue : Dialogue β) : Prop := good dialogue.backend

/-- A turn that comes to an end without asking the back end for anything keeps the property. -/
theorem keeps_of_ends {turn : Turn β α}
    (ends : ∀ dialogue, ∃ value after, Ends turn dialogue value after ∧
      after.backend = dialogue.backend) : Keeps (Having good) turn := by
  intro dialogue holds
  obtain ⟨value, after, ⟨output, ended⟩, same⟩ := ends dialogue
  unfold Ensures
  rw [ended]
  change good after.backend
  rwa [same]

/-- Writing does not touch the back end. -/
theorem say_keeps (text : String) : Keeps (Having good) (say text) :=
  keeps_of_ends fun dialogue => ⟨(), dialogue, ends_say .., rfl⟩

/-- Notes do not touch the back end. -/
theorem noteRead_keeps (what : String) : Keeps (Having good) (noteRead what : Turn β Unit) :=
  keeps_of_ends fun dialogue => ⟨(), dialogue, ends_note .., rfl⟩

/-- Complaints do not touch the back end. -/
theorem complain_keeps (complaint : Complaint) : Keeps (Having good) (complain complaint) :=
  keeps_of_ends fun dialogue => ⟨(), _, ends_complain complaint dialogue, rfl⟩

/-- A fault is reported or passed on without touching the back end. -/
theorem reportFault_keeps (fault : Fault) : Keeps (Having good) (reportFault fault) := by
  cases fault with
  | compile error location => exact complain_keeps _
  | run error => exact complain_keeps _
  | _ => exact keeps_throw _

/-- The back end keeps what the operation keeps that it is asked for. -/
theorem consult_keeps {action : Action β α} (keeps : Keeps good action) :
    Keeps (Having good) (consult action) := by
  intro dialogue holds
  have kept := keeps dialogue.backend holds
  unfold Ensures consult at *
  cases ended : action dialogue.backend with
  | ok value backend =>
    rw [ended] at kept
    exact kept
  | error fault backend =>
    rw [ended] at kept
    exact kept

section

variable [Backend β]

/-- Showing a function only looks at the back end. -/
theorem echo_keeps (handle : Handle) : Keeps (Having good) (echo handle : Turn β Unit) :=
  keeps_of_ends fun dialogue => ⟨(), dialogue, ends_echo .., rfl⟩

/-- Notes about units do not touch the back end. -/
theorem noteUnit_keeps (least : Nat) (level event : String) (unit : Nat) :
    Keeps (Having good) (noteUnit least level event unit : Turn β Unit) :=
  keeps_of_ends fun dialogue => ⟨(), dialogue, ends_noteUnit .., rfl⟩

variable (kept : Kept good)

include kept

/-- Compiling and handing off keep what both operations keep. -/
theorem submit_keeps (function : Definition) :
    Keeps (Having good) (submit function : Turn β (Option (Handle × Nat))) := by
  apply keeps_get
  intro dialogue
  apply (consult_keeps (kept.define dialogue.session function)).bind
  rintro (fault | handle)
  · exact (reportFault_keeps fault).bind fun _ => keeps_pure _
  · apply (echo_keeps handle).bind
    intro _
    apply (consult_keeps kept.handsOff).bind
    rintro (fault | unit)
    · exact (reportFault_keeps fault).bind fun _ => keeps_pure _
    · exact (noteUnit_keeps 1 "INFO" "finalized" unit).bind fun _ => keeps_pure _

/-- Giving a unit up keeps what releasing it keeps. -/
theorem giveUp_keeps (unit : Nat) : Keeps (Having good) (giveUp unit : Turn β Unit) := by
  apply (consult_keeps (kept.releases unit)).bind
  rintro (fault | _)
  · exact keeps_throw _
  · exact noteUnit_keeps 2 "DEBUG" "released" unit

/-- Taking a bare expression in keeps what compiling, handing off, executing and releasing keep. -/
theorem takeExpression_keeps (function : Definition) :
    Keeps (Having good) (takeExpression function : Turn β Unit) := by
  refine (noteRead_keeps _).bind fun _ => (submit_keeps kept function).bind ?_
  rintro (_ | ⟨handle, unit⟩)
  · exact keeps_pure _
  apply keeps_get
  intro dialogue
  apply (consult_keeps (kept.executes dialogue.platform handle [])).bind
  have gives := giveUp_keeps kept unit
  rintro (fault | value)
  · cases fault with
    | compile error location => exact (complain_keeps _).bind fun _ => gives
    | run error => exact (complain_keeps _).bind fun _ => gives
    | _ => exact gives.bind fun _ => keeps_throw _
  · refine gives.bind fun _ => Keeps.bind (keeps_modify fun _ holds => holds) fun _ => ?_
    exact keeps_get fun _ => say_keeps _

/-- Taking a unit in keeps what the operations of the back end keep. -/
theorem take_keeps (unit : ProgramUnit) : Keeps (Having good) (take unit : Turn β Unit) := by
  cases unit with
  | definition function =>
    refine (noteRead_keeps _).bind fun _ => (submit_keeps kept function).bind ?_
    rintro (_ | _)
    · exact keeps_pure _
    · exact keeps_modify fun _ holds => holds
  | declaration prototype =>
    apply (noteRead_keeps _).bind
    intro _
    apply keeps_get
    intro dialogue
    apply (consult_keeps (kept.declares dialogue.session prototype)).bind
    rintro (fault | handle)
    · exact reportFault_keeps fault
    · exact (echo_keeps handle).bind fun _ => keeps_modify fun _ holds => holds
  | expression function => exact takeExpression_keeps kept function

/-- Taking the next unit in keeps what the operations of the back end keep. -/
theorem handle_keeps (operators : Operators) (cursor : Cursor) :
    Keeps (Having good) (handle operators cursor : Turn β Unit) := by
  rw [handle_eq]
  cases cursor.readUnit operators with
  | parsed unit after =>
    exact Keeps.bind (keeps_modify fun _ holds => holds) fun _ => take_keeps kept unit
  | failed error stopped =>
    exact (complain_keeps _).bind fun _ => keeps_modify fun _ holds => holds

/-- A step keeps what the operations of the back end keep. -/
theorem step_keeps : Keeps (Having good) (step : Turn β Bool) := by
  apply keeps_get
  intro asked
  refine (say_keeps _).bind fun _ => Keeps.bind (keeps_modify fun _ holds => holds) fun _ => ?_
  apply keeps_get
  intro dialogue
  dsimp only
  split
  · exact keeps_pure _
  split
  · exact Keeps.bind (keeps_modify fun _ holds => holds) fun _ => keeps_pure _
  exact (handle_keeps kept _ _).bind fun _ => keeps_pure _

/-- So does any number of steps. -/
theorem steps_keeps (count : Nat) : Keeps (Having good) (steps count : Turn β Unit) := by
  induction count with
  | zero => exact keeps_pure _
  | succ count inductionHypothesis =>
    exact inductionHypothesis.bind fun _ => (step_keeps kept).bind fun _ => keeps_pure _

end

/-- Steps with a machine that may refuse units keep what the operations of the generator keep, if
it does not matter whether units are refused. -/
theorem stepsRefusing_keeps {good : Generator → Prop} (kept : Kept good)
    (refusing : ∀ generator refusal, good generator → good { generator with refusal })
    (reasons : Nat → Option String) (count : Nat) :
    Keeps (Having good) (stepsRefusing reasons count) := by
  induction count with
  | zero => exact keeps_pure _
  | succ count inductionHypothesis =>
    have refuses : Keeps (Having good) (stepRefusing (reasons count)) :=
      Keeps.bind (keeps_modify fun dialogue => refusing dialogue.backend _) fun _ =>
        step_keeps kept
    exact inductionHypothesis.bind fun _ => refuses.bind fun _ => keeps_pure _

end Dialogue

end Reckon
