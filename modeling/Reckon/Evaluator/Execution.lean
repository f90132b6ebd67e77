import Reckon.Evaluator.Compilation
import Reckon.Reading.Program

/-!
# Running resolved expressions

A call by name runs the newest live definition of the name, or else the host function.
Calls nest at most as deep as the platform has room for. The language has no way of
choosing between two expressions, so a function that calls itself never comes back; the
bound is how that is noticed.
-/

namespace Reckon

namespace Evaluator

/-- The code of a name in the newest live unit that defines it, with its arity. -/
def definition? (evaluator : Evaluator) (name : String) : Option (Nat × Code) :=
  evaluator.live.reverse.findSome? (·.code? name)

/-- An argument by its position. -/
def argument (arguments : List Float) (position : Nat) : Except Fault Float :=
  match arguments[position]? with
  | some value => .ok value
  | none => .error .missingArgument

/-- Calls a name with at most `depth` calls inside one another. -/
def call (platform : Platform) (evaluator : Evaluator) :
    Nat → String → List Float → Except Fault Float
  | 0, _, _ => .error .tooDeep
  | depth + 1, name, arguments =>
    match evaluator.definition? name with
    | some (arity, code) =>
      if arguments.length = arity then
        code.run platform (argument arguments) (call platform evaluator depth)
      else .error (.run (.staleArity name arity arguments.length))
    | none =>
      match platform.hostFunction? name with
      | some function => .ok (function arguments)
      | none => .error (.run (.unresolved [name] ""))

/-- Runs a function of any unit: its own code if it has some, else whatever its name means. -/
def outcome (platform : Platform) (evaluator : Evaluator) (handle : Handle)
    (arguments : List Float) : Except Fault Float :=
  match (evaluator.function? handle).bind (·.body) with
  | some (_, code) =>
    code.run platform (argument arguments) (call platform evaluator platform.depth)
  | none => call platform evaluator platform.depth handle.symbol arguments

/-- Runs a function with the arguments it was declared for. That calls nest too deep is
blamed on the function. -/
def execute (platform : Platform) (handle : Handle) (arguments : List Float) :
    Action Evaluator Float := do
  let evaluator ← get
  let arity := evaluator.arityOf handle
  if arguments.length = arity then
    match evaluator.outcome platform handle arguments with
    | .ok value => return value
    | .error .tooDeep => throw (.run (.endless handle.symbol))
    | .error fault => throw fault
  else throw (.compile (.arityMismatch handle.symbol arity arguments.length) none)

/-- The prefix form of a function: a definition with a body, a declaration without. -/
def dump (evaluator : Evaluator) (handle : Handle) : String :=
  match evaluator.function? handle with
  | some ⟨prototype, some (body, _)⟩ =>
    Definition.line { prototype, body, location := none }
  | some ⟨prototype, none⟩ => prototype.declarationLine
  | none => ""

instance : Backend Evaluator where
  defineBody := defineBody
  handOff := handOff
  execute := execute
  release := release
  hasBody := hasBody
  dump := dump
  defined := Evaluator.defined
  signature := some "tylang.backend.evaluator"

end Evaluator

end Reckon
