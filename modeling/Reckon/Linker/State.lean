import Reckon.Backend
import Reckon.Instruction.Routine

/-!
# Units on their way to execution

A unit that was handed off is pending until everything it calls can be found, then it is
materialized: loaded into the image together with whatever becomes ready at the same
time. A unit that is given up is released, whichever of the two it was.

The image only grows. A released unit no longer counts when it is asked which functions
exist, but its code stays where it was loaded.
-/

namespace Reckon

open Instruction

/-- How far a unit has come. -/
inductive UnitState where
  | pending
  | materialized
  | released
  deriving DecidableEq, Repr

/-- The name of a state in listings. -/
def UnitState.label : UnitState → String
  | pending => "PENDING"
  | materialized => "MATERIALIZED"
  | released => "RELEASED"

/-- A unit after its hand-off: its routines with a block, the functions it defines, and
the functions that it calls and does not define. -/
structure CompiledUnit where
  number : Nat
  routines : List Routine
  defined : NameSet
  required : NameSet
  state : UnitState
  /-- How hard the code was optimized. -/
  level : Nat

/-- Functions that the machine provides itself need no definition. -/
def isIntrinsic (name : String) : Bool := "llvm.".toList.isPrefixOf name.toList

/-- A unit as it is handed off. -/
def CompiledUnit.ofRoutines (number level : Nat) (routines : List Routine) : CompiledUnit :=
  let complete := routines.filter (·.block.isSome)
  let defined := NameSet.union [] (complete.map (·.symbol))
  let called := NameSet.union [] (complete.flatMap fun routine =>
    (routine.block.map Block.callees).getD [])
  { number, level, routines := complete, defined, state := .pending,
    required := (called.without defined).filter (fun name => !isIntrinsic name) }

/-- The block of a function of the unit, with the registers of its arguments. -/
def CompiledUnit.block? (unit : CompiledUnit) (symbol : String) : Option (List String × Block) := do
  let routine ← unit.routines.find? (·.symbol = symbol)
  let block ← routine.block
  return (routine.parameters, block)

/-- A unit in the image, with the number of the batch it was loaded in. -/
structure Loaded where
  unit : CompiledUnit
  batch : Nat

/-- The units that were handed off, the image, and the host functions found so far. -/
structure Linker where
  pending : List CompiledUnit
  materialized : List CompiledUnit
  released : List CompiledUnit
  image : List Loaded
  batches : Nat
  hostSymbols : NameSet

namespace Linker

/-- A linker without units. -/
def initial : Linker :=
  { pending := [], materialized := [], released := [], image := [], batches := 0,
    hostSymbols := [] }

/-- Takes a unit in as pending. -/
def add (linker : Linker) (unit : CompiledUnit) : Linker :=
  { linker with pending := linker.pending ++ [unit] }

/-- The functions that materialized units define. -/
def liveDefinitions (linker : Linker) : List String :=
  linker.materialized.flatMap (·.defined)

/-- Remembers host functions that were found. -/
def withHostSymbols (linker : Linker) (names : List String) : Linker :=
  { linker with hostSymbols := linker.hostSymbols.union names }

end Linker

end Reckon
