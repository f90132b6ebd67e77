import Reckon.NameSet
import Reckon.Text.Quoted
import Reckon.Text.Resemblance

/-!
# Long options

The long options by name, and which of them an unknown name was probably meant to be. At
most three are suggested: those that resemble the name most, and among those that
resemble it equally the ones with the greatest code points. They are listed by code point.
-/

namespace Reckon

namespace CommandLine

/-- The names of the long options. -/
def longOptions : List String :=
  ["--backend", "--emit-ir", "--emit-ast", "--prompt", "--no-prompt", "--verbose", "--version",
    "--help"]

/-- Whether the first option is the better suggestion for a name, or as good as the second. -/
def isBetterSuggestion (name first second : String) : Bool :=
  Text.resemblesMore name.toList first.toList second.toList ||
    (!Text.resemblesMore name.toList second.toList first.toList && second ≤ first)

/-- The options that a name was probably meant to be. -/
def suggestions (name : String) : List String :=
  let near := longOptions.filter fun option => Text.resembles option.toList name.toList
  NameSet.sorted ((near.mergeSort (isBetterSuggestion name)).take 3)

/-- Suggestions as they follow a complaint. -/
def suggestionText : List String → String
  | [] => ""
  | [option] => " Did you mean " ++ Text.quoted option ++ "?"
  | options => " (Did you mean one of: " ++ ", ".intercalate (options.map Text.quoted) ++ "?)"

end CommandLine

end Reckon
