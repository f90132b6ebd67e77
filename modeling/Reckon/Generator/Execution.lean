import Reckon.Generator.Emission

/-!
# Handing modules off

A module is closed when it is handed off, whether it is accepted or not. A refused
module leaves nothing behind: its functions no longer count as defined.
-/

namespace Reckon

open Instruction

namespace Generator

/-- The number of lines of a text whose lines all end in a line feed. -/
def lineCount (text : String) : Nat := (text.toList.filter (· = '\n')).length

/-- Where the first incomplete block ends, counted in lines from `line`. -/
def incompleteLine? (line : Nat) : List Routine → Option Nat
  | [] => none
  | routine :: rest =>
    let last := line + lineCount routine.text
    match routine.block with
    | some { returned := none, .. } => some last
    | _ => incompleteLine? (last + 1) rest

/-- Why a module is refused: because all are, or because a block does not return. Its text
has three lines of its own in front of the routines, and a blank line before each. -/
def refusalOf? (generator : Generator) (module : Module) : Option String :=
  match generator.refusal with
  | some reason => some reason
  | none =>
    (incompleteLine? 4 module.routines.values).map fun line =>
      "LLVM IR parsing error\n<string>:" ++ toString line ++
        ":1: error: expected instruction opcode\n\x7d\n^\n"

/-- Hands the open module off and opens the next. -/
def handOff : Action Generator Nat := do
  let generator ← get
  let module := generator.current
  let next : Generator :=
    { generator with
      current := .opened (module.number + 1)
      closed := generator.closed ++ [module] }
  match generator.refusalOf? module with
  | some reason =>
    set { next with defined := next.defined.without module.defined }
    throw (.compile (.rejectedUnit (unitName module.number) reason) none)
  | none =>
    let unit := CompiledUnit.ofRoutines module.number generator.level module.routines.values
    set { next with linker := next.linker.add unit }
    return module.number

/-- Runs a function by its symbol, with the arguments it was declared for. -/
def execute (platform : Platform) (handle : Handle) (arguments : List Float) :
    Action Generator Float := do
  let arity := (← get).arityOf handle
  if arguments.length = arity then linking (Linker.call platform handle.symbol arguments)
  else throw (.compile (.arityMismatch handle.symbol arity arguments.length) none)

/-- Gives a unit up. The functions it defined no longer count as defined. -/
def release (number : Nat) : Action Generator Unit := do
  let names ← linking (Linker.release number)
  modify fun generator => { generator with defined := generator.defined.without names }

/-- A routine in assembly text. -/
def dump (generator : Generator) (handle : Handle) : String :=
  match generator.routine? handle with
  | some routine => routine.text
  | none => ""

instance : Backend Generator where
  defineBody := defineBody
  handOff := handOff
  execute := execute
  release := release
  hasBody := hasBody
  dump := dump
  defined := Generator.defined
  signature := none

end Generator

end Reckon
