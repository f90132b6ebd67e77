import Reckon.CommandLine.Command

/-!
# The program

Reads the file that the command line names, or the standard input, and writes what the
command leaves behind.
-/

namespace Reckon

open CommandLine

/-- Why a file cannot be read, from what the system says. -/
def fileError : IO.Error → FileError
  | .inappropriateType _ _ "not a directory" => .notDirectory
  | .inappropriateType .. => .isDirectory
  | .permissionDenied .. => .accessDenied
  | _ => .notFound

/-- The text of a file, if it can be read. -/
def readText (name : String) : IO (Except FileError String) := do
  try
    return .ok (← IO.FS.readFile name)
  catch error =>
    return .error (fileError error)

/-- The whole standard input. -/
def readInput : IO String := do
  let input ← IO.getStdin
  input.readToEnd

end Reckon

/-- Runs the command line. -/
def main (arguments : List String) : IO UInt32 := do
  let (text, input) ← match Reckon.CommandLine.origin? arguments with
    | some (.file name) => pure (← Reckon.readText name, "")
    | some .standardInput => pure (.error .notFound, ← Reckon.readInput)
    | none => pure (.error .notFound, "")
  let completion := Reckon.CommandLine.run (fun _ => text) input arguments
  IO.print completion.output
  IO.eprint completion.errors
  return completion.exitCode.toUInt32
