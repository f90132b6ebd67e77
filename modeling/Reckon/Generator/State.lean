import Reckon.Linker.Execution

/-!
# The modules of the generator

A module holds routines by symbol, in the order of their declaration. The symbol of a
function is its name, except that every anonymous function has one of its own, made
from the number of its module. Modules that were handed off keep their routines for
those who hold handles of them; what runs is the copy that the linker was given.
-/

namespace Reckon

open Instruction

/-- Routines generated together. -/
structure Module where
  number : Nat
  routines : Catalog String Routine

namespace Module

/-- A module without routines. -/
def opened (number : Nat) : Module := { number, routines := Catalog.empty }

/-- The symbol of a function in the module. -/
def symbol (module : Module) (name : String) : String :=
  if name = anonymousName then name ++ "." ++ toString module.number else name

/-- Replaces a routine. -/
def withRoutine (module : Module) (routine : Routine) : Module :=
  { module with routines := module.routines.put routine.symbol routine }

/-- The module in assembly text. -/
def text (module : Module) : String :=
  "; ModuleID = \"" ++ unitName module.number ++ "\"\n" ++
    String.join (module.routines.values.map ("\n" ++ ·.text))

/-- The functions with a block. -/
def defined (module : Module) : List String :=
  (module.routines.values.filter (·.block.isSome)).map (·.symbol)

end Module

/-- The state of the generator: the open module, those handed off, the functions that
count as defined, the linker, the level of optimization, and why units are refused if
they are. -/
structure Generator where
  current : Module
  closed : List Module
  defined : NameSet
  linker : Linker
  level : Nat
  refusal : Option String

namespace Generator

/-- A generator with nothing in its open module. -/
def initial (level : Nat) (refusal : Option String) : Generator :=
  { current := .opened 1, closed := [], defined := [], linker := .initial, level, refusal }

/-- A module by its number. -/
def module? (generator : Generator) (number : Nat) : Option Module :=
  (generator.current :: generator.closed).find? (·.number = number)

/-- The routine that a handle names. -/
def routine? (generator : Generator) (handle : Handle) : Option Routine := do
  let module ← generator.module? handle.unit
  module.routines.get? handle.symbol

/-- The number of parameters of a function; none for a handle of nothing. -/
def arityOf (generator : Generator) (handle : Handle) : Nat :=
  match generator.routine? handle with
  | some routine => routine.arity
  | none => 0

/-- Whether a function has a block. -/
def hasBody (generator : Generator) (handle : Handle) : Bool :=
  match generator.routine? handle with
  | some routine => routine.block.isSome
  | none => false

/-- Replaces a routine in the module with the given number. -/
def withRoutine (generator : Generator) (number : Nat) (routine : Routine) : Generator :=
  let change (module : Module) : Module :=
    if module.number = number then module.withRoutine routine else module
  { generator with current := change generator.current, closed := generator.closed.map change }

/-- The function of the open module with a name. -/
def lookup (generator : Generator) (name : String) : Option Handle :=
  let symbol := generator.current.symbol name
  (generator.current.routines.get? symbol).map fun _ => ⟨generator.current.number, symbol⟩

/-- Declares a function in the open module, unless it is there with the same arity. The
empty name is no symbol. -/
def declare (session : Session) (prototype : Prototype) : Action Generator Handle := do
  check (session.prototypeFault? prototype)
  let generator ← get
  let symbol := generator.current.symbol prototype.name
  match generator.current.routines.get? symbol with
  | some routine => check (declarationFault? prototype routine.arity)
  | none =>
    if symbol = "" then throw .nameless
    set { generator with
      current := generator.current.withRoutine (.declared symbol prototype.parameters) }
  return ⟨generator.current.number, symbol⟩

instance : Declarations Generator where
  lookup := lookup
  declare := declare
  arity := arityOf

/-- Carries an operation of the linker out. -/
def linking {α : Type} (action : Action Linker α) : Action Generator α := fun generator =>
  match action generator.linker with
  | .ok value linker => .ok value { generator with linker }
  | .error fault linker => .error fault { generator with linker }

end Generator

end Reckon
