import Reckon.CommandLine.Directory
import Reckon.CommandLine.Help
import Reckon.CommandLine.Options
import Reckon.Text.Blank
import Reckon.Text.DecimalDigit

/-!
# Command lines

Arguments are read from left to right. An argument with two dashes is a long option,
one with a single dash a cluster of short ones, and anything else is a name; after a
bare double dash, and for a dash alone, everything is a name. An option takes its
value from the rest of its argument or from the next argument.

Mistakes in the form of the arguments are found first, in order. Values are looked at
afterwards, in the order in which their options first occur, and of a repeated option
the last value counts. Names come last. Where the program is asked about itself, it
answers and looks at no values.
-/

namespace Reckon

namespace CommandLine

/-- Why a command line is refused. -/
inductive UsageError where
  | unknownOption (option : String) (meant : List String)
  | missingValue (option : String)
  | unwantedValue (option : String)
  | unknownBackend (given : String)
  | levelNotInteger (given : String)
  | levelOutOfRange (level : Int)
  | unreadable (name : String) (reason : FileError)
  | unexpectedNames (names : List String)
  deriving DecidableEq, Repr

namespace UsageError

/-- The message of a usage error. -/
def message : UsageError → String
  | unknownOption option meant =>
    "No such option " ++ Text.quoted option ++ "." ++ suggestionText meant
  | missingValue option => "Option '" ++ option ++ "' requires an argument."
  | unwantedValue option => "Option '" ++ option ++ "' does not take a value."
  | unknownBackend given =>
    "Invalid value for '--backend': " ++ Text.quoted given ++ " is not one of 'llvm', 'eval'."
  | levelNotInteger given =>
    "Invalid value for '-O': " ++ Text.quoted given ++ " is not a valid integer range."
  | levelOutOfRange level =>
    "Invalid value for '-O': " ++ toString level ++ " is not in the range 0<=x<=3."
  | unreadable name reason =>
    "Invalid value for '[SOURCE]': '" ++ name ++ "': " ++ reason.message
  | unexpectedNames names =>
    "Got unexpected extra argument" ++ (if names.length = 1 then "" else "s") ++ " (" ++
      " ".intercalate names ++ ")"

/-- Whether the usage is shown with the error. -/
def showsUsage : UsageError → Bool
  | missingValue _ => false
  | unwantedValue _ => false
  | _ => true

/-- The error as it is shown. -/
def text (error : UsageError) : String :=
  (if error.showsUsage then usageLine ++ "Try 'main --help' for help.\n\n" else "") ++
    "Error: " ++ error.message ++ "\n"

end UsageError

/-- An option on the command line, with its value as it was given. -/
inductive Occurrence where
  | backend (given : String)
  | level (given : String)
  | showCode
  | listOnly
  | prompt (shown : Bool)
  | louder
  | explain (text : String)
  deriving DecidableEq, Repr

/-- An option that waits for its value. -/
structure Waiting where
  option : String
  occurrence : String → Occurrence

/-- What one argument holds: options, and possibly one more that waits for its value. -/
abbrev Cluster := List Occurrence × Option Waiting

/-- The long options without a value. -/
def longFlag? (name : String) : Option Occurrence :=
  match name with
  | "--emit-ir" => some .showCode
  | "--emit-ast" => some .listOnly
  | "--prompt" => some (.prompt true)
  | "--no-prompt" => some (.prompt false)
  | "--verbose" => some .louder
  | "--version" => some (.explain versionText)
  | "--help" => some (.explain helpText)
  | _ => none

/-- The text before the first equals sign, and the text after it if there is one. -/
def splitValue (argument : List Char) : String × Option String :=
  (String.ofList (argument.takeWhile (· ≠ '=')),
    match argument.dropWhile (· ≠ '=') with
    | _ :: value => some (String.ofList value)
    | [] => none)

/-- Reads a long option. -/
def readLong (argument : List Char) : Except UsageError Cluster :=
  match splitValue argument with
  | ("--backend", some value) => .ok ([.backend value], none)
  | ("--backend", none) => .ok ([], some { option := "--backend", occurrence := .backend })
  | (name, value) =>
    match longFlag? name, value with
    | some occurrence, none => .ok ([occurrence], none)
    | some _, some _ => .error (.unwantedValue name)
    | none, _ => .error (.unknownOption name (suggestions name))

/-- Reads the short options after a dash. -/
def readShort : List Char → Except UsageError Cluster
  | [] => .ok ([], none)
  | 'v' :: rest => do
    let (occurrences, waiting) ← readShort rest
    return (.louder :: occurrences, waiting)
  | 'O' :: rest =>
    if rest.isEmpty then .ok ([], some { option := "-O", occurrence := .level })
    else .ok ([.level (String.ofList rest)], none)
  | other :: _ => .error (.unknownOption (String.ofList ['-', other]) [])

/-- Whether an argument holds options. -/
def isOption (argument : List Char) : Bool := argument.head? == some '-' && argument ≠ ['-']

/-- Reads an argument that holds options. -/
def readOptions (argument : List Char) : Except UsageError Cluster :=
  match argument with
  | '-' :: '-' :: _ => readLong argument
  | _ => readShort (argument.drop 1)

/-- Options and names on a command line, each in order. -/
structure Arguments where
  occurrences : List Occurrence
  names : List String
  deriving DecidableEq, Repr

/-- Puts options in front. -/
def Arguments.withOptions (occurrences : List Occurrence) (arguments : Arguments) : Arguments :=
  { arguments with occurrences := occurrences ++ arguments.occurrences }

/-- Puts a name in front. -/
def Arguments.withName (name : String) (arguments : Arguments) : Arguments :=
  { arguments with names := name :: arguments.names }

/-- Reads a command line. -/
def readArguments : List String → Except UsageError Arguments
  | [] => .ok { occurrences := [], names := [] }
  | [argument] =>
    if argument = "--" then .ok { occurrences := [], names := [] }
    else if isOption argument.toList then
      match readOptions argument.toList with
      | .error error => .error error
      | .ok (_, some waiting) => .error (.missingValue waiting.option)
      | .ok (occurrences, none) => .ok { occurrences, names := [] }
    else .ok { occurrences := [], names := [argument] }
  | argument :: next :: rest =>
    if argument = "--" then .ok { occurrences := [], names := next :: rest }
    else if isOption argument.toList then
      match readOptions argument.toList with
      | .error error => .error error
      | .ok (occurrences, some waiting) => do
        let others ← readArguments rest
        return others.withOptions (occurrences ++ [waiting.occurrence next])
      | .ok (occurrences, none) => do
        let others ← readArguments (next :: rest)
        return others.withOptions occurrences
    else do
      let others ← readArguments (next :: rest)
      return others.withName argument

/-- Groups of digits with single underscores between them, as a number. -/
def digitGroups? : Nat → List Char → Option Nat
  | total, [] => some total
  | total, '_' :: c :: rest => do
    let digit ← Text.decimalDigit? c
    digitGroups? (10 * total + digit) rest
  | total, c :: rest => do
    let digit ← Text.decimalDigit? c
    digitGroups? (10 * total + digit) rest

/-- A number that starts with a digit. -/
def natural? (text : List Char) : Option Nat :=
  match text with
  | [] => none
  | c :: rest => do
    let digit ← Text.decimalDigit? c
    digitGroups? digit rest

/-- An integer with an optional sign, blanks around it not counting. -/
def integer? (text : List Char) : Option Int :=
  let inner := ((text.dropWhile Text.isBlank).reverse.dropWhile Text.isBlank).reverse
  match inner with
  | '-' :: digits => (natural? digits).map fun value => -(value : Int)
  | '+' :: digits => (natural? digits).map fun value => (value : Int)
  | digits => (natural? digits).map fun value => (value : Int)

/-- The level of optimization that a text gives, from zero to three. -/
def levelOf (given : String) : Except UsageError Nat :=
  match integer? given.toList with
  | none => .error (.levelNotInteger given)
  | some level => if 0 ≤ level ∧ level ≤ 3 then .ok level.toNat else .error (.levelOutOfRange level)

/-- The back ends to choose from. -/
inductive BackendChoice where
  | generator
  | evaluator
  deriving DecidableEq, Repr

/-- The back end that a text names. -/
def backendOf (given : String) : Except UsageError BackendChoice :=
  if given = "llvm" then .ok .generator
  else if given = "eval" then .ok .evaluator
  else .error (.unknownBackend given)

/-- What a command line asks for. -/
structure Invocation where
  backend : BackendChoice
  level : Nat
  showCode : Bool
  listOnly : Bool
  prompt : Bool
  verbosity : Nat
  deriving DecidableEq, Repr

/-- The last value given for the back end. -/
def Arguments.backend (arguments : Arguments) : String :=
  (arguments.occurrences.reverse.findSome? fun occurrence =>
    match occurrence with
    | .backend given => some given
    | _ => none).getD "llvm"

/-- The last value given for the level of optimization. -/
def Arguments.level (arguments : Arguments) : String :=
  (arguments.occurrences.reverse.findSome? fun occurrence =>
    match occurrence with
    | .level given => some given
    | _ => none).getD "2"

/-- Whether the prompt is asked for. It is not shown by default, as nobody is known to watch. -/
def Arguments.prompt (arguments : Arguments) : Bool :=
  (arguments.occurrences.reverse.findSome? fun occurrence =>
    match occurrence with
    | .prompt shown => some shown
    | _ => none).getD false

/-- What the program is asked to say about itself first, if anything. -/
def Arguments.explanation? (arguments : Arguments) : Option String :=
  arguments.occurrences.findSome? fun occurrence =>
    match occurrence with
    | .explain text => some text
    | _ => none

/-- Looks at the value of an option. -/
def Arguments.checkOption (arguments : Arguments) : Occurrence → Except UsageError Unit
  | .backend _ => (backendOf arguments.backend).map fun _ => ()
  | .level _ => (levelOf arguments.level).map fun _ => ()
  | _ => .ok ()

/-- Makes out what a command line asks for, without its names. -/
def Arguments.invocation (arguments : Arguments) : Except UsageError Invocation := do
  arguments.occurrences.forM arguments.checkOption
  let backend ← backendOf arguments.backend
  let level ← levelOf arguments.level
  return {
    backend, level
    showCode := arguments.occurrences.contains .showCode
    listOnly := arguments.occurrences.contains .listOnly
    prompt := arguments.prompt
    verbosity := arguments.occurrences.count .louder }

end CommandLine

end Reckon
