/-!
# What the program says about itself

The text that explains the command line, and the version.
-/

namespace Reckon

namespace CommandLine

/-- The first line of the help and of a complaint about the command line. -/
def usageLine : String := "Usage: main [OPTIONS] [SOURCE]\n"

/-- An option and what it does, the second column starting at a fixed place. -/
def helpEntry (option : String) (lines : List String) : String :=
  let indent := "".pushn ' ' 26
  "  " ++ option ++ "".pushn ' ' (24 - option.length) ++
    ("\n" ++ indent).intercalate lines ++ "\n"

/-- The explanation of the command line. -/
def helpText : String :=
  usageLine ++ "\n  Run a tylang program from SOURCE, or interactively from stdin.\n\nOptions:\n" ++
    helpEntry "--backend [llvm|eval]" ["Code generation backend.  [default: llvm]"] ++
    helpEntry "-O INTEGER RANGE"
      ["Optimization level for the LLVM backend.  [default:", "2; 0<=x<=3]"] ++
    helpEntry "--emit-ir" ["Print the generated code of every top-level unit."] ++
    helpEntry "--emit-ast" ["Only parse; print every top-level unit as an S-", "expression."] ++
    helpEntry "--prompt / --no-prompt"
      ["Show the READY> prompt (default: only when reading", "a terminal)."] ++
    helpEntry "-v, --verbose" ["Increase logging verbosity (can be repeated)."] ++
    helpEntry "--version" ["Show the version and exit."] ++
    helpEntry "--help" ["Show this message and exit."]

/-- The name and the version of the program. -/
def versionText : String := "main, version 0.1.0\n"

end CommandLine

end Reckon
