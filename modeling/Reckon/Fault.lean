import Reckon.Diagnostic
import Reckon.NameSet
import Reckon.Node.Notation

/-!
# Failures of compiling and running

A unit is refused before it runs when a name, a count of arguments or a declaration
is wrong; running fails when a function is missing or calls itself without end. Both
kinds are reported and the session goes on. The remaining failures are misuses of
the interface that no program text brings about.
-/

namespace Reckon

/-- Why a unit is refused. -/
inductive CompileError where
  | unknownVariable (name : String)
  | unknownFunction (name : String)
  | arityMismatch (function : String) (expected given : Int)
  | invalidOperator (operator : String)
  | redefinition (function : String)
  | duplicateParameter (function parameter : String)
  | conflictingDeclaration (function : String) (declared requested : Int)
  | rejectedUnit (unit reason : String)
  deriving DecidableEq, Repr

namespace CompileError

/-- The code of the error. -/
def code : CompileError → String
  | rejectedUnit .. => "C000"
  | unknownVariable _ => "C001"
  | unknownFunction _ => "C002"
  | arityMismatch .. => "C003"
  | invalidOperator _ => "C004"
  | redefinition _ => "C005"
  | duplicateParameter .. => "C006"
  | conflictingDeclaration .. => "C007"

/-- The message of the error. -/
def message : CompileError → String
  | unknownVariable name => "Unknown variable name '" ++ name ++ "'"
  | unknownFunction name => "Unknown function referenced '" ++ name ++ "'"
  | arityMismatch function expected given =>
    "Incorrect number of arguments passed to '" ++ function ++ "': expected " ++
      toString expected ++ ", got " ++ toString given
  | invalidOperator operator => "Invalid binary operator '" ++ operator ++ "'"
  | redefinition function => "Function '" ++ function ++ "' cannot be redefined"
  | duplicateParameter function parameter =>
    "Duplicate parameter name '" ++ parameter ++ "' in prototype of '" ++ function ++ "'"
  | conflictingDeclaration function declared requested =>
    "Conflicting declaration of '" ++ function ++ "': already declared with " ++
      toString declared ++ " parameter(s), now " ++ toString requested
  | rejectedUnit unit reason => "LLVM rejected module " ++ unit ++ ": " ++ reason

/-- The advice that goes with the error. -/
def help : CompileError → Option String
  | unknownVariable _ => some "Only the parameters of the enclosing function are in scope."
  | unknownFunction _ => some "Define it with 'def' or declare it with 'extern' first."
  | invalidOperator _ => some "Only '+', '-', '*' and '<' have a meaning."
  | _ => none

end CompileError

/-- Why a function cannot be run, or a unit not be given up. -/
inductive RunError where
  | unresolved (names : List String) (neededBy : String)
  | staleArity (function : String) (expected given : Nat)
  | endless (function : String)
  | alreadyReleased (unit : String)
  deriving DecidableEq, Repr

namespace RunError

/-- The code of the error. -/
def code : RunError → String
  | unresolved .. => "E001"
  | _ => "E002"

/-- The message of the error. Who needs the missing names is left out if nobody is named. -/
def message : RunError → String
  | unresolved names neededBy =>
    "Unresolved external symbol(s) " ++
      ", ".intercalate ((NameSet.sorted names).map fun name => "'" ++ name ++ "'") ++
      (if neededBy = "" then "" else " needed by '" ++ neededBy ++ "'")
  | staleArity function expected given =>
    "'" ++ function ++ "' expects " ++ toString expected ++ " argument(s), was called with " ++
      toString given
  | endless function =>
    "Evaluation of '" ++ function ++ "' did not terminate (recursion too deep)"
  | alreadyReleased unit => "Unit " ++ unit ++ " was already released"

/-- The advice that goes with the error. -/
def help : RunError → Option String
  | unresolved .. => some "Define the function with 'def' before evaluating code that calls it."
  | _ => none

end RunError

/-- How an operation of a back end fails. -/
inductive Fault where
  /-- A unit is refused. -/
  | compile (error : CompileError) (location : Option Location)
  /-- Code cannot be run, or a unit cannot be given up. -/
  | run (error : RunError)
  /-- A unit stands where an expression belongs. -/
  | misplaced (misplaced : Misplaced)
  /-- A function without a name is declared where names are symbols. -/
  | nameless
  /-- A unit is given up that is not live. -/
  | notLive
  /-- A body reads more arguments than its function was declared with. -/
  | missingArgument
  /-- Calls nest too deep while no function is being executed by name. -/
  | tooDeep

namespace Fault

/-- The report of a fault that is reported. The others are passed on. -/
def diagnostic? : Fault → Option Diagnostic
  | compile error location => some (.error error.code error.message location error.help [])
  | run error => some (.error error.code error.message none error.help [])
  | _ => none

end Fault

end Reckon
