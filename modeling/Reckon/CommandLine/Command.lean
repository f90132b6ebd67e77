import Reckon.CommandLine.Arguments
import Reckon.Dialogue
import Reckon.Evaluator.Execution
import Reckon.Generator.Execution
import Reckon.Platform.Doubles
import Reckon.Text.LineEnds

/-!
# Running a command line

A command reads one source, from a file or from its standard input, and holds a
dialogue over it or lists it. Everything a dialogue writes goes to the error stream, and
so do the reports of a listing; the listing itself goes to the output stream. A listing
with syntax errors counts as a failure, a dialogue never does.
-/

namespace Reckon

namespace CommandLine

/-- What a command leaves behind. -/
structure Completion where
  exitCode : Nat
  output : String
  errors : String
  deriving DecidableEq, Repr

/-- The name of the standard input in places and reports. -/
def standardInputName : String := "<stdin>"

/-- The name and the text of the source, and the names that are left over. -/
def source (files : String → Except FileError String) (input : String) (names : List String) :
    Except UsageError (String × String) :=
  match names with
  | [] => .ok (standardInputName, input)
  | name :: others => do
    let found ←
      if name = "-" then .ok (standardInputName, input)
      else
        match files name with
        | .ok text => .ok (name, text)
        | .error reason => .error (.unreadable name reason)
    if others.isEmpty then return found else .error (.unexpectedNames others)

/-- What an invocation shows in a dialogue. -/
def Invocation.settings (invocation : Invocation) : Settings :=
  { prompt := if invocation.prompt then interactivePrompt else ""
    echo := invocation.showCode
    report := usualReport
    verbosity := invocation.verbosity }

/-- Holds a dialogue with a back end to its end. -/
def converse {β : Type} [Backend β] (invocation : Invocation) (cursor : Cursor) (backend : β) :
    Completion :=
  let dialogue := Dialogue.begin invocation.settings Platform.doubles Session.fresh backend cursor
  let closing := if invocation.prompt then "\n" else ""
  match Dialogue.run dialogue with
  | .ok () after => { exitCode := 0, output := "", errors := after.output ++ closing }
  | .error _ after => { exitCode := 1, output := "", errors := after.output }

/-- Carries an invocation out on a source. -/
def Invocation.carryOut (invocation : Invocation) (name text : String) : Completion :=
  let cursor := Cursor.start name (Text.unifiedLineEnds text.toList)
  if invocation.listOnly then
    let listing := cursor.listing Operators.standard
    { exitCode := if listing.failures = 0 then 0 else 1
      output := listing.lines
      errors := listing.reports }
  else
    match invocation.backend with
    | .evaluator => converse invocation cursor Evaluator.initial
    | .generator => converse invocation cursor (Generator.initial invocation.level none)

/-- Runs a command line over the given files and standard input. -/
def run (files : String → Except FileError String) (input : String) (arguments : List String) :
    Completion :=
  let attempt : Except UsageError Completion := do
    let arguments ← readArguments arguments
    match arguments.explanation? with
    | some text => return { exitCode := 0, output := text, errors := "" }
    | none =>
      let invocation ← arguments.invocation
      let (name, text) ← source files input arguments.names
      return invocation.carryOut name text
  match attempt with
  | .ok completion => completion
  | .error error => { exitCode := 2, output := "", errors := error.text }

/-- Where a source comes from. -/
inductive Origin where
  | standardInput
  | file (name : String)
  deriving DecidableEq, Repr

/-- Where the source of a command line comes from. One that is refused for its form, or
that asks for an explanation, reads nothing. -/
def origin? (arguments : List String) : Option Origin :=
  match readArguments arguments with
  | .ok arguments =>
    if arguments.explanation?.isSome then none
    else
      match arguments.names.head? with
      | none => some .standardInput
      | some name => some (if name = "-" then .standardInput else .file name)
  | .error _ => none

end CommandLine

end Reckon
