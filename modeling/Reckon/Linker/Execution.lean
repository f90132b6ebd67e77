import Reckon.Linker.Materialization

/-!
# Running loaded code

Calls are bound when a unit is loaded, and stay bound. A call goes to the unit's own
function of that name; else to the newest unit loaded before; else to a unit loaded
later in the same batch; else to the host. Since the image only grows, the binding can
be read off the positions at any later time.

How a call in loaded code is bound is the loader's affair, and what is written down here
is what is assumed of it. Where the results of both back ends are compared, a name has
one definer among the units, and then all the ways of binding it come to the same.

Loaded code does not count its calls: a routine that calls itself exhausts the machine.
The depth of the platform makes running it a function, and what nests deeper than that
is outside of all that is said of it.
-/

namespace Reckon

namespace Linker

open Instruction

/-- The position in the image that a call from a unit is bound to. The program leaves this choice
to the loader of machine code, so this is assumed behaviour of the loader and no code of the
program's own. There is no choice where every name has one definer. -/
def bound? (image : List Loaded) (caller : Nat) (name : String) : Option Nat :=
  match image[caller]? with
  | none => none
  | some loaded =>
    if name ∈ loaded.unit.defined then some caller
    else
      match position? (image.take caller) name with
      | some position => some position
      | none =>
        (image.zipIdx.find? fun other =>
          caller < other.2 && other.1.batch = loaded.batch && name ∈ other.1.unit.defined).map (·.2)

/-- Runs a function at a position, with at most `depth` calls inside one another. Executing machine
code is not the program's own work either: assumed is that a block computes what its instructions
say and that its calls go where the loader has bound them. -/
def run (platform : Platform) (image : List Loaded) :
    Nat → Nat → String → List Float → Except Fault Float
  | 0, _, _, _ => .error .tooDeep
  | depth + 1, position, symbol, arguments =>
    match image[position]?.bind (·.unit.block? symbol) with
    | some (parameters, block) =>
      block.run platform
        (fun callee values =>
          match bound? image position callee with
          | some target => run platform image depth target callee values
          | none =>
            match platform.hostFunction? callee with
            | some function => .ok (function values)
            | none => .error (.run (.unresolved [callee] "")))
        (parameters.zip (arguments.map .double))
    | none => .error (.run (.unresolved [symbol] ""))

/-- Runs a function by its name, after materializing what can be. -/
def call (platform : Platform) (name : String) (arguments : List Float) : Action Linker Float := do
  let position ← address platform name
  match run platform (← get).image (platform.depth + 1) position name arguments with
  | .ok value => return value
  | .error .tooDeep => throw (.run (.endless name))
  | .error fault => throw fault

end Linker

end Reckon
