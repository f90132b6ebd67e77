import Reckon.Platform

/-!
# Instructions

A routine is a name, the registers that receive its arguments, and one block. The
instructions of a block each write one register that nothing has written before; the
block ends by returning an operand. Registers hold doubles, except that a comparison
gives a bit, which has to be widened before anything else can use it.

A block runs in any monad that says what a call yields. A register that nothing has
written reads as zero.
-/

namespace Reckon

namespace Instruction

/-- Where an instruction takes a double from. -/
inductive Operand where
  | constant (value : Float)
  | register (name : String)

end Instruction

open Instruction in
/-- An instruction; the first field of each is the register it writes. -/
inductive Instruction where
  | arithmetic (result : String) (kind : Arithmetic) (left right : Operand)
  | compare (result : String) (left right : Operand)
  | widen (result : String) (bit : String)
  | call (result : String) (callee : String) (arguments : List Operand)

namespace Instruction

/-- The register that an instruction writes. -/
def result : Instruction → String
  | arithmetic result .. => result
  | compare result .. => result
  | widen result _ => result
  | call result .. => result

/-- What a register holds. -/
inductive Value where
  | double (value : Float)
  | bit (value : Bool)

/-- A value used as a double. -/
def Value.toDouble : Value → Float
  | double value => value
  | bit _ => 0.0

/-- A value used as a bit. -/
def Value.toBit : Value → Bool
  | double _ => false
  | bit value => value

/-- The registers that have been written, the latest first. -/
abbrev Frame := List (String × Value)

/-- The double that an operand stands for. -/
def Operand.read (frame : Frame) : Operand → Float
  | constant value => value
  | register name => ((frame.lookup name).map Value.toDouble).getD 0.0

variable {m : Type → Type} [Monad m]

/-- Carries one instruction out. -/
def run (platform : Platform) (call : String → List Float → m Float) (frame : Frame) :
    Instruction → m Frame
  | .arithmetic result kind left right =>
    let value := platform.arithmetic kind (left.read frame) (right.read frame)
    return (result, .double value) :: frame
  | .compare result left right =>
    let value := platform.below (left.read frame) (right.read frame)
    return (result, .bit value) :: frame
  | .widen result bit =>
    let value := ((frame.lookup bit).map Value.toBit).getD false
    return (result, .double (Platform.ofBit value)) :: frame
  | .call result callee arguments => do
    let value ← call callee (arguments.map (·.read frame))
    return (result, .double value) :: frame

/-- Carries instructions out one after the other. -/
def runAll (platform : Platform) (call : String → List Float → m Float) :
    Frame → List Instruction → m Frame
  | frame, [] => pure frame
  | frame, instruction :: rest => do
    let next ← instruction.run platform call frame
    runAll platform call next rest

/-- A labelled row of instructions. It returns an operand once it is complete. -/
structure Block where
  label : String
  instructions : List Instruction
  returned : Option Operand

/-- Runs a block in a frame. An incomplete block returns zero. -/
def Block.run (platform : Platform) (call : String → List Float → m Float) (block : Block)
    (frame : Frame) : m Float := do
  let last ← runAll platform call frame block.instructions
  return (block.returned.map (·.read last)).getD 0.0

/-- The functions that the instructions of a block call. -/
def Block.callees (block : Block) : List String :=
  block.instructions.filterMap fun instruction =>
    match instruction with
    | .call _ callee _ => some callee
    | _ => none

end Instruction

end Reckon
