import Reckon.Location
import Reckon.Text.Uppercase

/-!
# Diagnostics

A diagnostic is shown as its severity in capitals, its code and message, then one
line each for the place and the advice it has, and a list of suggestions.
-/

namespace Reckon

/-- A remark about a program. An empty code or advice counts as absent. -/
structure Diagnostic where
  severity : String
  code : Option String
  message : String
  location : Option Location
  help : Option String
  suggestions : List String

/-- A text that is there and not empty, put into its frame. -/
def framed (before : String) (text : Option String) (after : String) : String :=
  match text with
  | some "" => ""
  | some content => before ++ content ++ after
  | none => ""

/-- The diagnostic as it is shown; every line ends in a line feed. -/
def Diagnostic.text (diagnostic : Diagnostic) : String :=
  Text.uppercase diagnostic.severity ++ framed "[" diagnostic.code "]" ++ ": " ++
    diagnostic.message ++ "\n" ++
    framed "  --> " (diagnostic.location.map Location.text) "\n" ++
    framed "  help: " diagnostic.help "\n" ++
    (if diagnostic.suggestions.isEmpty then ""
      else "  suggestions:\n" ++
        String.join (diagnostic.suggestions.map ("    - " ++ · ++ "\n")))

/-- A diagnostic of an error with a code. -/
def Diagnostic.error (code message : String) (location : Option Location)
    (help : Option String) (suggestions : List String) : Diagnostic where
  severity := "error"
  code := some code
  message := message
  location := location
  help := help
  suggestions := suggestions

end Reckon
