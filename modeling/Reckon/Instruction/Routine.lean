import Reckon.Decimal.Binary
import Reckon.Instruction.Basic
import Reckon.Instruction.Names
import Reckon.Node.Notation
import Reckon.Text.Quoted

/-!
# Routines and their text

A routine that has no block is a declaration. In the assembly text a name stands
between quotes, with the quote and the backslash escaped in hexadecimal and every other
character as it is, and a constant is written as the bits of a double.
-/

namespace Reckon

namespace Instruction

/-- A routine: its symbol, the registers of its arguments, the names in use in it, and
its block if it has one. -/
structure Routine where
  symbol : String
  parameters : List String
  names : Names
  block : Option Block

namespace Routine

/-- A declaration. Parameters get distinct registers even if their names are not distinct. -/
def declared (symbol : String) (parameters : List String) : Routine :=
  let (registers, names) := Names.ofParameters parameters
  { symbol, parameters := registers, names, block := none }

/-- The number of parameters. -/
def arity (routine : Routine) : Nat := routine.parameters.length

end Routine

/-- A character as it stands between quotes in assembly text. -/
def escapedCharacter (c : Char) : List Char :=
  if c = '"' || c = '\\' then '\\' :: Text.hexDigits 2 c.toNat else [c]

/-- A name between quotes. -/
def quotedName (name : String) : String :=
  "\"" ++ String.ofList (name.toList.flatMap escapedCharacter) ++ "\""

/-- A register in assembly text. -/
def registerText (name : String) : String := "%" ++ quotedName name

/-- A function in assembly text. -/
def symbolText (name : String) : String := "@" ++ quotedName name

/-- A double in assembly text: its bits in hexadecimal, in a column of sixteen characters. -/
def constantText (value : Float) : String :=
  let digits := '0' :: 'x' :: Nat.toDigits 16 value.toBits.toNat
  String.ofList (List.replicate (16 - digits.length) ' ' ++ digits)

/-- An operand in assembly text. -/
def Operand.text : Operand → String
  | constant value => constantText value
  | register name => registerText name

/-- The name of an operation in assembly text. -/
def mnemonic : Arithmetic → String
  | .add => "fadd"
  | .subtract => "fsub"
  | .multiply => "fmul"

/-- An instruction in assembly text. -/
def text (instruction : Instruction) : String :=
  registerText instruction.result ++ " = " ++
    match instruction with
    | arithmetic _ kind left right =>
      mnemonic kind ++ " double " ++ left.text ++ ", " ++ right.text
    | compare _ left right => "fcmp ult double " ++ left.text ++ ", " ++ right.text
    | widen _ bit => "uitofp i1 " ++ registerText bit ++ " to double"
    | call _ callee arguments =>
      "call double " ++ symbolText callee ++ "(" ++
        ", ".intercalate (arguments.map fun argument => "double " ++ argument.text) ++ ")"

/-- The lines of a block: its label, its instructions, and its return. -/
def Block.lines (block : Block) : List String :=
  (block.label ++ ":") :: block.instructions.map ("  " ++ ·.text) ++
    match block.returned with
    | some operand => ["  ret double " ++ operand.text]
    | none => []

/-- The first line of a routine, after the word that tells whether it has a block. -/
def Routine.heading (routine : Routine) : String :=
  " double " ++ symbolText routine.symbol ++ "(" ++
    ", ".intercalate (routine.parameters.map fun name => "double " ++ registerText name) ++ ")"

/-- A routine in assembly text; it ends in a line feed. -/
def Routine.text (routine : Routine) : String :=
  match routine.block with
  | none => "declare" ++ routine.heading ++ "\n"
  | some block =>
    let lines := ("define" ++ routine.heading) :: "\x7b" :: block.lines ++ ["\x7d"]
    String.join (lines.map (· ++ "\n"))

end Instruction

end Reckon
