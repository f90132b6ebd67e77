import Reckon.Backend
import Reckon.Reading.Program
import Reckon.Report

/-!
# Dialogues

A dialogue reads a program unit by unit and does at once what each unit asks for. A
definition is compiled, handed off and recorded; a declaration is announced to the
open unit and recorded; a bare expression is compiled, handed off, executed and given
up again. What fails is reported, and the dialogue goes on with the next unit.

Only reports are taken care of here. A fault that is no report ends the step at once
and is passed on, after the unit of a bare expression has been given up.
-/

namespace Reckon

/-- What a dialogue shows besides reports. -/
structure Settings where
  /-- Written before each unit is read; an empty prompt is not written. -/
  prompt : String
  /-- Whether the text of each compiled or declared function is shown. -/
  echo : Bool
  /-- The template for the value of an expression. -/
  report : String
  /-- At one, finished work is noted; from two on, also units given up. -/
  verbosity : Nat

/-- The prompt of a session with a person. -/
def interactivePrompt : String := "READY> "

/-- The usual template for the value of an expression. -/
def usualReport : String := "Evaluated to \x7bvalue:f\x7d"

/-- No prompt, no echo, the usual report and no notes. -/
def Settings.quiet : Settings :=
  { prompt := "", echo := false, report := usualReport, verbosity := 0 }

/-- Something that was reported. -/
inductive Complaint where
  | reading (error : SyntaxError)
  | compiling (error : CompileError) (location : Option Location)
  | running (error : RunError)

/-- The code of what was reported. -/
def Complaint.code : Complaint → String
  | reading error => error.expected.code
  | compiling error _ => error.code
  | running error => error.code

/-- The message of what was reported. -/
def Complaint.message : Complaint → String
  | reading error => error.expected.message
  | compiling error _ => error.message
  | running error => error.message

/-- The report in full. -/
def Complaint.diagnostic : Complaint → Diagnostic
  | reading error => error.diagnostic
  | compiling error location => .error error.code error.message location error.help []
  | running error => .error error.code error.message none error.help []

/-- A dialogue between a program and a back end. -/
structure Dialogue (β : Type) where
  settings : Settings
  platform : Platform
  /-- In front of the next token. -/
  cursor : Cursor
  /-- Whether the first token has been asked for. -/
  started : Bool
  session : Session
  backend : β
  results : List Float
  complaints : List Complaint
  output : String

namespace Dialogue

variable {β : Type} [Backend β]

/-- A dialogue that has not read anything. -/
def begin (settings : Settings) (platform : Platform) (session : Session) (backend : β)
    (cursor : Cursor) : Dialogue β :=
  { settings, platform, cursor, started := false, session, backend,
    results := [], complaints := [], output := "" }

/-- What a part of a step computes, and the dialogue after it. -/
abbrev Turn (β α : Type) := EStateM Fault (Dialogue β) α

/-- Writes a text. -/
def say (text : String) : Turn β Unit :=
  modify fun dialogue => { dialogue with output := dialogue.output ++ text }

/-- Notes finished work if that much is wanted. -/
def note (least : Nat) (level signature text : String) : Turn β Unit := do
  if least ≤ (← get).settings.verbosity then
    say (level ++ " " ++ signature ++ ": " ++ text ++ "\n")

/-- Notes that a unit of the program has been read. -/
def noteRead (what : String) : Turn β Unit :=
  note 1 "INFO" "tylang.driver.toplevel" ("Parsed " ++ what)

/-- Notes what happened to a unit of the back end, if the back end keeps notes. -/
def noteUnit (least : Nat) (level event : String) (unit : Nat) : Turn β Unit :=
  match Backend.signature β with
  | some signature => note least level signature (event ++ " " ++ unitName unit)
  | none => pure ()

/-- Remembers and shows what is to be reported. -/
def complain (complaint : Complaint) : Turn β Unit := do
  modify fun dialogue => { dialogue with complaints := dialogue.complaints ++ [complaint] }
  say complaint.diagnostic.text

/-- Reports a fault, or passes it on if it is no report. -/
def reportFault : Fault → Turn β Unit
  | .compile error location => complain (.compiling error location)
  | .run error => complain (.running error)
  | fault => throw fault

/-- Runs an operation of the back end and gives its result or its fault. -/
def consult {α : Type} (action : Action β α) : Turn β (Except Fault α) := fun dialogue =>
  match action dialogue.backend with
  | .ok value backend => .ok (.ok value) { dialogue with backend }
  | .error fault backend => .ok (.error fault) { dialogue with backend }

/-- Shows the text of a function if that is wanted. -/
def echo (handle : Handle) : Turn β Unit := do
  let dialogue ← get
  if dialogue.settings.echo then
    let text := Backend.dump dialogue.backend handle
    say (if text.endsWith "\n" then text else text ++ "\n")

/-- Records a prototype. -/
def record (prototype : Prototype) : Turn β Unit :=
  modify fun dialogue => { dialogue with session := dialogue.session.record prototype }

/-- Compiles, shows and hands off a function. Gives its handle and its unit, or nothing
after a report. -/
def submit (function : Definition) : Turn β (Option (Handle × Nat)) := do
  match ← consult (define (← get).session function) with
  | .error fault =>
    reportFault fault
    return none
  | .ok handle =>
    echo handle
    match ← consult Backend.handOff with
    | .error fault =>
      reportFault fault
      return none
    | .ok unit =>
      noteUnit 1 "INFO" "finalized" unit
      return some (handle, unit)

/-- Gives a unit up. -/
def giveUp (unit : Nat) : Turn β Unit := do
  match ← consult (Backend.release unit) with
  | .error fault => throw fault
  | .ok () => noteUnit 2 "DEBUG" "released" unit

/-- Takes a definition in. Its prototype is recorded only once its unit is handed off. -/
def takeDefinition (function : Definition) : Turn β Unit := do
  noteRead "a function definition"
  match ← submit function with
  | some _ => record function.prototype
  | none => pure ()

/-- Takes a declaration in. -/
def takeDeclaration (prototype : Prototype) : Turn β Unit := do
  noteRead "an extern"
  match ← consult (Declarations.declare (← get).session prototype) with
  | .error fault => reportFault fault
  | .ok handle =>
    echo handle
    record prototype

/-- Takes a bare expression in. Its unit is needed for one execution only. -/
def takeExpression (function : Definition) : Turn β Unit := do
  noteRead "a top-level expr"
  match ← submit function with
  | none => pure ()
  | some (handle, unit) =>
    match ← consult (Backend.execute (← get).platform handle []) with
    | .error (.compile error location) =>
      complain (.compiling error location)
      giveUp unit
    | .error (.run error) =>
      complain (.running error)
      giveUp unit
    | .error fault =>
      giveUp unit
      throw fault
    | .ok value =>
      giveUp unit
      modify fun dialogue => { dialogue with results := dialogue.results ++ [value] }
      say (Report.fill (← get).settings.report value ++ "\n")

/-- Moves the cursor. -/
def moveTo (cursor : Cursor) : Turn β Unit := modify fun dialogue => { dialogue with cursor }

/-- Takes in what has been read. After a syntax error the token that did not fit is skipped. -/
def receive {α : Type} (takeIn : α → Turn β Unit) : Outcome α → Turn β Unit
  | .parsed value after => do
    moveTo after
    takeIn value
  | .failed error stopped => do
    complain (.reading error)
    moveTo stopped.pastToken

/-- Takes the next unit in, in the way of its kind. -/
def handle (operators : Operators) (cursor : Cursor) : Turn β Unit :=
  match cursor.nextToken.kind with
  | .define => receive takeDefinition (cursor.readDefinition operators)
  | .declare => receive takeDeclaration cursor.readDeclaration
  | _ => receive takeExpression (cursor.readAnonymous operators)

/-- Takes one unit or separator in; says whether there was one. -/
def step : Turn β Bool := do
  let prompt := (← get).settings.prompt
  say prompt
  modify fun dialogue => { dialogue with started := true }
  let dialogue ← get
  let next := dialogue.cursor.nextToken
  if next.kind = .endOfInput then return false
  else if next.isSymbol ';' then
    moveTo dialogue.cursor.pastToken
    return true
  else
    handle dialogue.session.operators dialogue.cursor
    return true

/-- Does what a unit of the program asks for. -/
def take : ProgramUnit → Turn β Unit
  | .definition function => takeDefinition function
  | .declaration prototype => takeDeclaration prototype
  | .expression function => takeExpression function

/-- It makes no difference to a dialogue whether the kind of a unit is found out before or after
the unit is read. -/
theorem receive_map {α : Type} (wrap : α → ProgramUnit) (outcome : Outcome α) :
    receive take (outcome.map wrap) =
      receive (fun value => (take (wrap value) : Turn β Unit)) outcome := by
  cases outcome <;> rfl

/-- A dialogue comes to the unit at its cursor. -/
theorem handle_eq (operators : Operators) (cursor : Cursor) :
    handle operators cursor = receive (take : ProgramUnit → Turn β Unit)
      (cursor.readUnit operators) := by
  rw [Cursor.apply_readUnit (receive take), receive_map, receive_map, receive_map]
  rfl

/-- Takes units in until none is left, at most `limit` of them. -/
def runWithin : Nat → Turn β Unit
  | 0 => pure ()
  | limit + 1 => do
    if ← step then runWithin limit

/-- Takes all units in. Each of them takes at least one character. -/
def run : Turn β Unit := do
  runWithin ((← get).cursor.rest.length + 1)

end Dialogue

end Reckon
