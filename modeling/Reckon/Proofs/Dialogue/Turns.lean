import Reckon.Dialogue
import Reckon.Proofs.Backend.Contract

/-!
# What a step of a dialogue does

A step writes prompts, notes, reports and texts as it goes along. Up to what has been
written it comes to one of a few ends, which are listed here with what the back end did
on the way. Every dialogue that the list puts after another is reached by a step.
-/

namespace Reckon

/-- What is remembered of a fault that is reported. -/
def Fault.complaint? : Fault → Option Complaint
  | .compile error location => some (.compiling error location)
  | .run error => some (.running error)
  | _ => none

namespace Dialogue

variable {β α γ : Type}

/-- The turn ends with a value in a dialogue, up to what has been written. -/
def Ends (turn : Turn β α) (dialogue : Dialogue β) (value : α) (after : Dialogue β) : Prop :=
  ∃ output, turn dialogue = .ok value { after with output }

/-- A value ends a turn where it stands. -/
theorem ends_pure (value : α) (dialogue : Dialogue β) :
    Ends (pure value) dialogue value dialogue := ⟨dialogue.output, rfl⟩

/-- Turns are taken one after the other; what the first has written does not matter. -/
theorem Ends.bind {first : Turn β α} {next : α → Turn β γ} {dialogue middle after : Dialogue β}
    {value : α} {result : γ} (start : Ends first dialogue value middle)
    (rest : ∀ output, Ends (next value) { middle with output } result after) :
    Ends (first >>= next) dialogue result after := by
  obtain ⟨output, reached⟩ := start
  obtain ⟨last, ended⟩ := rest output
  refine ⟨last, ?_⟩
  change EStateM.bind first next dialogue = _
  rw [EStateM.bind, reached]
  exact ended

/-- Looking at the dialogue changes nothing. -/
theorem ends_get {next : Dialogue β → Turn β γ} {dialogue after : Dialogue β} {result : γ}
    (rest : Ends (next dialogue) dialogue result after) :
    Ends (get >>= next) dialogue result after := rest

/-- What is written makes no difference to the end of a turn. -/
theorem ends_say (text : String) (dialogue : Dialogue β) : Ends (say text) dialogue () dialogue :=
  ⟨dialogue.output ++ text, rfl⟩

/-- A change ends in the changed dialogue. -/
theorem ends_modify (change : Dialogue β → Dialogue β) (dialogue : Dialogue β) :
    Ends (modify change) dialogue () (change dialogue) := ⟨(change dialogue).output, rfl⟩

/-- Whether a note is written makes no difference to the end of a turn. -/
theorem ends_note (least : Nat) (level signature text : String) (dialogue : Dialogue β) :
    Ends (note least level signature text) dialogue () dialogue := by
  apply ends_get
  split
  · exact ends_say ..
  · exact ends_pure ..

/-- An operation that succeeds gives its result and leaves the back end as it does. -/
theorem ends_consult_ok {action : Action β α} {dialogue : Dialogue β} {value : α} {backend : β}
    (done : action dialogue.backend = .ok value backend) :
    Ends (consult action) dialogue (.ok value) { dialogue with backend } := by
  refine ⟨dialogue.output, ?_⟩
  unfold consult
  rw [done]

/-- An operation that fails gives its fault and leaves the back end as it does. -/
theorem ends_consult_error {action : Action β α} {dialogue : Dialogue β} {fault : Fault}
    {backend : β} (failed : action dialogue.backend = .error fault backend) :
    Ends (consult action) dialogue (.error fault) { dialogue with backend } := by
  refine ⟨dialogue.output, ?_⟩
  unfold consult
  rw [failed]

/-- A complaint is remembered. -/
theorem ends_complain (complaint : Complaint) (dialogue : Dialogue β) :
    Ends (complain complaint) dialogue ()
      { dialogue with complaints := dialogue.complaints ++ [complaint] } :=
  (ends_modify ..).bind fun _ => ends_say ..

/-- A fault that is reported is remembered. -/
theorem ends_reportFault {fault : Fault} {complaint : Complaint}
    (reported : fault.complaint? = some complaint) (dialogue : Dialogue β) :
    Ends (reportFault fault) dialogue ()
      { dialogue with complaints := dialogue.complaints ++ [complaint] } := by
  cases fault with
  | compile error location =>
    cases reported
    exact ends_complain ..
  | run error =>
    cases reported
    exact ends_complain ..
  | _ => cases reported

/-- After a syntax error the token that did not fit is skipped. -/
theorem ends_receive_failed {takeIn : α → Turn β Unit} (error : SyntaxError) (stopped : Cursor)
    (dialogue : Dialogue β) :
    Ends (receive takeIn (.failed error stopped)) dialogue ()
      { dialogue with
        cursor := stopped.pastToken
        complaints := dialogue.complaints ++ [.reading error] } :=
  (ends_complain ..).bind fun _ => ends_modify ..

/-- What has been read is taken in with the cursor behind it. -/
theorem ends_receive_parsed {takeIn : α → Turn β Unit} {value : α} {cursor : Cursor}
    {dialogue after : Dialogue β}
    (takes : ∀ output, Ends (takeIn value) { dialogue with cursor, output } () after) :
    Ends (receive takeIn (.parsed value cursor)) dialogue () after :=
  (ends_modify ..).bind takes

/-- The dialogue after a bare expression has been run and given up. -/
def told (dialogue : Dialogue β) (outcome : Except RunError Float) (backend : β) : Dialogue β :=
  match outcome with
  | .ok value => { dialogue with backend, results := dialogue.results ++ [value] }
  | .error error => { dialogue with backend, complaints := dialogue.complaints ++ [.running error] }

/-- Telling of a bare expression moves no cursor. -/
@[simp] theorem told_cursor (dialogue : Dialogue β) (outcome : Except RunError Float)
    (backend : β) :
    (dialogue.told outcome backend).cursor = dialogue.cursor := by
  cases outcome <;> rfl

/-- Telling of a bare expression does not start a dialogue over. -/
@[simp] theorem told_started (dialogue : Dialogue β) (outcome : Except RunError Float)
    (backend : β) :
    (dialogue.told outcome backend).started = dialogue.started := by
  cases outcome <;> rfl

/-- Telling of a bare expression records nothing. -/
@[simp] theorem told_session (dialogue : Dialogue β) (outcome : Except RunError Float)
    (backend : β) :
    (dialogue.told outcome backend).session = dialogue.session := by
  cases outcome <;> rfl

/-- Telling of a bare expression stays on the platform. -/
@[simp] theorem told_platform (dialogue : Dialogue β) (outcome : Except RunError Float)
    (backend : β) :
    (dialogue.told outcome backend).platform = dialogue.platform := by
  cases outcome <;> rfl

/-- Telling of a bare expression leaves the back end as it is given. -/
@[simp] theorem told_backend (dialogue : Dialogue β) (outcome : Except RunError Float)
    (backend : β) :
    (dialogue.told outcome backend).backend = backend := by
  cases outcome <;> rfl

section

variable [Backend β]

/-- Whether a note about a unit is written makes no difference either. -/
theorem ends_noteUnit (least : Nat) (level event : String) (unit : Nat) (dialogue : Dialogue β) :
    Ends (noteUnit least level event unit) dialogue () dialogue := by
  unfold noteUnit
  split
  · exact ends_note ..
  · exact ends_pure ..

/-- Whether a function is shown makes no difference either. -/
theorem ends_echo (handle : Handle) (dialogue : Dialogue β) :
    Ends (echo handle) dialogue () dialogue := by
  apply ends_get
  split
  · exact ends_say ..
  · exact ends_pure ..

/-! ## Submitting a function -/

section Submission

variable {dialogue : Dialogue β} {function : Definition} {handle : Handle} {compiled closed : β}
  {unit : Nat} {fault : Fault} {complaint : Complaint}

/-- A function that compiles is handed off. -/
theorem ends_submit
    (defines : define dialogue.session function dialogue.backend = .ok handle compiled)
    (handsOff : Backend.handOff compiled = .ok unit closed) :
    Ends (submit function) dialogue (some (handle, unit)) { dialogue with backend := closed } := by
  refine ends_get ((ends_consult_ok defines).bind fun _ => ?_)
  apply (ends_echo ..).bind
  intro _
  apply Ends.bind (@ends_consult_ok β Nat Backend.handOff _ unit closed handsOff)
  intro _
  exact (ends_noteUnit ..).bind fun _ => ends_pure ..

/-- A function that does not compile is reported. -/
theorem ends_submit_refused
    (refuses : define dialogue.session function dialogue.backend = .error fault compiled)
    (reported : fault.complaint? = some complaint) :
    Ends (submit function) dialogue none
      { dialogue with backend := compiled, complaints := dialogue.complaints ++ [complaint] } := by
  refine ends_get ((ends_consult_error refuses).bind fun _ => ?_)
  exact (ends_reportFault reported _).bind fun _ => ends_pure ..

/-- A unit that is not accepted is reported. -/
theorem ends_submit_rejected
    (defines : define dialogue.session function dialogue.backend = .ok handle compiled)
    (rejects : (Backend.handOff : Action β Nat) compiled = .error fault closed)
    (reported : fault.complaint? = some complaint) :
    Ends (submit function) dialogue none
      { dialogue with backend := closed, complaints := dialogue.complaints ++ [complaint] } := by
  refine ends_get ((ends_consult_ok defines).bind fun _ => ?_)
  apply (ends_echo ..).bind
  intro _
  apply Ends.bind (@ends_consult_error β Nat Backend.handOff _ fault closed rejects)
  intro _
  exact (ends_reportFault reported _).bind fun _ => ends_pure ..

end Submission

/-- Giving a unit up leaves the back end without it. -/
theorem ends_giveUp {dialogue : Dialogue β} {unit : Nat} {backend : β}
    (released : Backend.release unit dialogue.backend = .ok () backend) :
    Ends (giveUp unit) dialogue () { dialogue with backend } :=
  (ends_consult_ok released).bind fun _ => ends_noteUnit ..

/-! ## Taking a unit of the program in -/

/-- The ends of taking a unit in, with what the back end did on the way. -/
inductive Takes (dialogue : Dialogue β) : ProgramUnit → Dialogue β → Prop
  /-- A definition compiles, and its unit is accepted. -/
  | defined {function : Definition} {handle : Handle} {compiled closed : β} {unit : Nat}
      (defines : define dialogue.session function dialogue.backend = .ok handle compiled)
      (handsOff : Backend.handOff compiled = .ok unit closed) :
      Takes dialogue (.definition function)
        { dialogue with backend := closed, session := dialogue.session.record function.prototype }
  /-- A definition does not compile. -/
  | definitionRefused {function : Definition} {fault : Fault} {complaint : Complaint} {compiled : β}
      (refuses : define dialogue.session function dialogue.backend = .error fault compiled)
      (reported : fault.complaint? = some complaint) :
      Takes dialogue (.definition function)
        { dialogue with backend := compiled, complaints := dialogue.complaints ++ [complaint] }
  /-- The unit of a definition is not accepted. -/
  | definitionRejected {function : Definition} {handle : Handle} {fault : Fault}
      {complaint : Complaint} {compiled closed : β}
      (defines : define dialogue.session function dialogue.backend = .ok handle compiled)
      (rejects : (Backend.handOff : Action β Nat) compiled = .error fault closed)
      (reported : fault.complaint? = some complaint) :
      Takes dialogue (.definition function)
        { dialogue with backend := closed, complaints := dialogue.complaints ++ [complaint] }
  /-- A declaration is accepted. -/
  | declared {prototype : Prototype} {handle : Handle} {backend : β}
      (declares : Declarations.declare dialogue.session prototype dialogue.backend =
        .ok handle backend) :
      Takes dialogue (.declaration prototype)
        { dialogue with backend, session := dialogue.session.record prototype }
  /-- A declaration is refused. -/
  | declarationRefused {prototype : Prototype} {fault : Fault} {complaint : Complaint} {backend : β}
      (refuses : Declarations.declare dialogue.session prototype dialogue.backend =
        .error fault backend)
      (reported : fault.complaint? = some complaint) :
      Takes dialogue (.declaration prototype)
        { dialogue with backend, complaints := dialogue.complaints ++ [complaint] }
  /-- A bare expression has a value. -/
  | evaluated {function : Definition} {handle : Handle} {compiled closed executed released : β}
      {unit : Nat} {value : Float}
      (defines : define dialogue.session function dialogue.backend = .ok handle compiled)
      (handsOff : Backend.handOff compiled = .ok unit closed)
      (executes : Backend.execute dialogue.platform handle [] closed = .ok value executed)
      (releases : Backend.release unit executed = .ok () released) :
      Takes dialogue (.expression function)
        { dialogue with backend := released, results := dialogue.results ++ [value] }
  /-- A bare expression compiles, and its execution fails. -/
  | failed {function : Definition} {handle : Handle} {compiled closed executed released : β}
      {unit : Nat} {fault : Fault} {complaint : Complaint}
      (defines : define dialogue.session function dialogue.backend = .ok handle compiled)
      (handsOff : Backend.handOff compiled = .ok unit closed)
      (fails : Backend.execute dialogue.platform handle [] closed = .error fault executed)
      (reported : fault.complaint? = some complaint)
      (releases : Backend.release unit executed = .ok () released) :
      Takes dialogue (.expression function)
        { dialogue with backend := released, complaints := dialogue.complaints ++ [complaint] }
  /-- A bare expression does not compile. -/
  | expressionRefused {function : Definition} {fault : Fault} {complaint : Complaint} {compiled : β}
      (refuses : define dialogue.session function dialogue.backend = .error fault compiled)
      (reported : fault.complaint? = some complaint) :
      Takes dialogue (.expression function)
        { dialogue with backend := compiled, complaints := dialogue.complaints ++ [complaint] }
  /-- The unit of a bare expression is not accepted. -/
  | expressionRejected {function : Definition} {handle : Handle} {fault : Fault}
      {complaint : Complaint} {compiled closed : β}
      (defines : define dialogue.session function dialogue.backend = .ok handle compiled)
      (rejects : (Backend.handOff : Action β Nat) compiled = .error fault closed)
      (reported : fault.complaint? = some complaint) :
      Takes dialogue (.expression function)
        { dialogue with backend := closed, complaints := dialogue.complaints ++ [complaint] }

/-- A bare expression that compiles is told by its value or its error. -/
theorem Takes.told {dialogue : Dialogue β} {function : Definition} {handle : Handle}
    {compiled closed executed released : β} {unit : Nat} {outcome : Except RunError Float}
    (defines : define dialogue.session function dialogue.backend = .ok handle compiled)
    (handsOff : Backend.handOff compiled = .ok unit closed)
    (executes : Action.Comes (Backend.execute dialogue.platform handle []) closed outcome executed)
    (releases : Backend.release unit executed = .ok () released) :
    Takes dialogue (.expression function) (dialogue.told outcome released) := by
  cases outcome with
  | ok value => exact .evaluated defines handsOff executes releases
  | error error => exact .failed defines handsOff executes rfl releases

/-- Taking a unit in comes to the end that is listed for it, whatever has been written before. -/
theorem Takes.ends {dialogue after : Dialogue β} {unit : ProgramUnit}
    (takes : Takes dialogue unit after) (output : String) :
    Ends (take unit) { dialogue with output } () after := by
  cases takes with
  | defined defines handsOff =>
    apply (ends_note ..).bind
    intro _
    refine Ends.bind (ends_submit defines handsOff) fun _ => ?_
    exact ends_modify ..
  | definitionRefused refuses reported =>
    apply (ends_note ..).bind
    intro _
    exact Ends.bind (ends_submit_refused refuses reported) fun _ => ends_pure ..
  | definitionRejected defines rejects reported =>
    apply (ends_note ..).bind
    intro _
    exact Ends.bind (ends_submit_rejected defines rejects reported) fun _ => ends_pure ..
  | declared declares =>
    refine (ends_note ..).bind fun _ => ends_get ?_
    refine Ends.bind (ends_consult_ok declares) fun _ => ?_
    exact Ends.bind (ends_echo ..) fun _ => ends_modify ..
  | declarationRefused refuses reported =>
    refine (ends_note ..).bind fun _ => ends_get ?_
    exact Ends.bind (ends_consult_error refuses) fun _ => ends_reportFault reported _
  | evaluated defines handsOff executes releases =>
    apply (ends_note ..).bind
    intro _
    refine Ends.bind (ends_submit defines handsOff) fun _ => ends_get ?_
    apply Ends.bind (ends_consult_ok executes)
    intro _
    apply Ends.bind (ends_giveUp releases)
    intro _
    exact (ends_modify ..).bind fun _ => ends_get (ends_say ..)
  | @failed function handle compiled closed executed released unit fault complaint defines handsOff
      fails reported releases =>
    apply (ends_note ..).bind
    intro _
    refine Ends.bind (ends_submit defines handsOff) fun _ => ends_get ?_
    apply Ends.bind (ends_consult_error fails)
    intro _
    cases fault with
    | compile error location =>
      cases reported
      exact Ends.bind (ends_complain ..) fun _ => ends_giveUp releases
    | run error =>
      cases reported
      exact Ends.bind (ends_complain ..) fun _ => ends_giveUp releases
    | _ => cases reported
  | expressionRefused refuses reported =>
    apply (ends_note ..).bind
    intro _
    exact Ends.bind (ends_submit_refused refuses reported) fun _ => ends_pure ..
  | expressionRejected defines rejects reported =>
    apply (ends_note ..).bind
    intro _
    exact Ends.bind (ends_submit_rejected defines rejects reported) fun _ => ends_pure ..

/-! ## Steps -/

/-- The ends of a step. -/
inductive Turns (dialogue : Dialogue β) : Bool → Dialogue β → Prop
  /-- Nothing is left. -/
  | finished (ended : dialogue.cursor.nextToken.kind = .endOfInput) :
      Turns dialogue false { dialogue with started := true }
  /-- A separator is skipped. -/
  | separated (separator : dialogue.cursor.nextToken.isSymbol ';' = true) :
      Turns dialogue true { dialogue with started := true, cursor := dialogue.cursor.pastToken }
  /-- What follows is no unit; the token that does not fit is skipped. -/
  | malformed {error : SyntaxError} {stopped : Cursor}
      (more : dialogue.cursor.nextToken.kind ≠ .endOfInput)
      (unseparated : dialogue.cursor.nextToken.isSymbol ';' = false)
      (fails : dialogue.cursor.readUnit dialogue.session.operators = .failed error stopped) :
      Turns dialogue true
        { dialogue with
          started := true
          cursor := stopped.pastToken
          complaints := dialogue.complaints ++ [.reading error] }
  /-- A unit is taken in. -/
  | took {unit : ProgramUnit} {cursor : Cursor} {after : Dialogue β}
      (more : dialogue.cursor.nextToken.kind ≠ .endOfInput)
      (unseparated : dialogue.cursor.nextToken.isSymbol ';' = false)
      (reads : dialogue.cursor.readUnit dialogue.session.operators = .parsed unit cursor)
      (takes : Takes { dialogue with started := true, cursor } unit after) :
      Turns dialogue true after

/-- A step comes to the end that is listed for it, whatever has been written before. -/
theorem Turns.ends {dialogue after : Dialogue β} {more : Bool} (turns : Turns dialogue more after)
    (output : String) : Ends step { dialogue with output } more after := by
  unfold step
  simp only [handle_eq]
  refine ends_get (Ends.bind (ends_say ..) fun _ => ?_)
  refine Ends.bind (ends_modify ..) fun output => ends_get ?_
  cases turns with
  | finished ended =>
    rw [if_pos ended]
    exact ends_pure ..
  | separated separator =>
    have more : dialogue.cursor.nextToken.kind ≠ .endOfInput := by
      rw [Reader.kind_of_isSymbol separator]
      decide
    rw [if_neg more, if_pos separator]
    exact Ends.bind (ends_modify ..) fun _ => ends_pure ..
  | malformed more unseparated fails =>
    rw [if_neg more, if_neg (by simp [unseparated])]
    simp only [fails]
    exact Ends.bind (ends_receive_failed ..) fun _ => ends_pure ..
  | took more unseparated reads takes =>
    rw [if_neg more, if_neg (by simp [unseparated])]
    simp only [reads]
    exact Ends.bind (ends_receive_parsed takes.ends) fun _ => ends_pure ..

end

end Dialogue

end Reckon
