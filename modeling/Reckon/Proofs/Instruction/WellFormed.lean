import Mathlib.Data.List.Nodup
import Reckon.Instruction.Routine
import Reckon.Proofs.Generator.Rendering

/-!
# Well-formed blocks

Instructions are in order if each one reads only what is there by then: constants, parameters, and
results of earlier instructions. A comparison gives a bit, which can only be widened; all other
results are doubles. No register is written twice, so a register always means the same result. A
block is well-formed if its instructions are in order, its calls fit the functions that they call,
and it returns once, at its end.
-/

namespace Reckon

namespace Instruction

/-- Whether the result is a bit. -/
def givesBit : Instruction → Bool
  | compare .. => true
  | _ => false

/-- A double is there: it is a constant, a parameter or the result of an instruction. -/
def Operand.Available (parameters : List String) (earlier : List Instruction) : Operand → Prop
  | .constant _ => True
  | .register name => name ∈ parameters ∨
      ∃ instruction ∈ earlier, instruction.result = name ∧ instruction.givesBit = false

/-- All that the instruction reads is there. -/
def Ready (parameters : List String) (earlier : List Instruction) : Instruction → Prop
  | .arithmetic _ _ left right =>
    left.Available parameters earlier ∧ right.Available parameters earlier
  | .compare _ left right =>
    left.Available parameters earlier ∧ right.Available parameters earlier
  | .widen _ bit =>
    ∃ instruction ∈ earlier, instruction.result = bit ∧ instruction.givesBit = true
  | .call _ _ arguments => ∀ argument ∈ arguments, argument.Available parameters earlier

/-- Each instruction is ready when it is its turn, and writes a new register. -/
inductive InOrder (parameters : List String) : List Instruction → Prop
  | nil : InOrder parameters []
  | snoc {earlier : List Instruction} {instruction : Instruction}
      (ordered : InOrder parameters earlier) (ready : instruction.Ready parameters earlier)
      (fresh : instruction.result ∉ parameters ++ earlier.map result) :
      InOrder parameters (earlier ++ [instruction])

/-- The line returns from a function. -/
def IsReturn (line : String) : Prop := "  ret ".toList <+: line.toList

/-- What the verifier of modules asks of a block of a routine with the parameters: every operand is
a constant, a parameter or the result of an earlier instruction, and of its type; no register is
written twice; every call passes as many operands as its callee declares; and the block returns an
operand in its last line and nowhere else. -/
structure Block.WellFormed (declares : String → Nat → Prop) (parameters : List String)
    (block : Block) : Prop where
  ready {earlier later : List Instruction} {instruction : Instruction}
    (there : block.instructions = earlier ++ instruction :: later) :
    instruction.Ready parameters earlier
  distinct : (parameters ++ block.instructions.map result).Nodup
  fits {result callee : String} {arguments : List Operand}
    (member : .call result callee arguments ∈ block.instructions) :
    declares callee arguments.length
  returns : ∃ operand front, block.returned = some operand ∧
    operand.Available parameters block.instructions ∧
    block.lines = front ++ ["  ret double " ++ operand.text] ∧ ∀ line ∈ front, ¬ IsReturn line

section

variable {parameters : List String} {earlier later instructions : List Instruction}
  {instruction : Instruction}

/-- What is available stays so behind more instructions. -/
theorem Operand.Available.mono {operand : Operand} (among : earlier ⊆ later)
    (available : operand.Available parameters earlier) : operand.Available parameters later := by
  cases operand with
  | constant value => trivial
  | register name =>
    rcases available with parameter | ⟨instruction, member, writes⟩
    · exact .inl parameter
    · exact .inr ⟨instruction, among member, writes⟩

/-- What is there is a parameter or was written. -/
theorem Operand.Available.among {operand : Operand} {taken : List String}
    (available : operand.Available parameters earlier)
    (used : parameters ++ earlier.map result ⊆ taken) : operand.Among taken := by
  cases operand with
  | constant value => trivial
  | register name =>
    apply used
    rcases available with parameter | ⟨instruction, member, rfl, _⟩
    · exact List.mem_append_left _ parameter
    · exact List.mem_append_right _ (List.mem_map_of_mem member)

namespace InOrder

/-- Every instruction was ready when it was its turn. -/
theorem ready_of_split (ordered : InOrder parameters instructions)
    (there : instructions = earlier ++ instruction :: later) :
    instruction.Ready parameters earlier := by
  induction ordered generalizing later with
  | nil => simp at there
  | @snoc front last _ ready _ inductionHypothesis =>
    rcases List.eq_nil_or_concat later with rfl | ⟨others, final, rfl⟩
    · obtain ⟨rfl, same⟩ := List.append_inj' there rfl
      cases same
      exact ready
    · rw [List.concat_eq_append, ← List.cons_append, ← List.append_assoc] at there
      exact inductionHypothesis (List.append_inj' there rfl).1

/-- Registers that are written in order are distinct from the parameters and from each other. -/
theorem distinct (ordered : InOrder parameters instructions) (once : parameters.Nodup) :
    (parameters ++ instructions.map result).Nodup := by
  induction ordered with
  | nil => simpa using once
  | snoc _ _ fresh inductionHypothesis =>
    rw [List.map_append, ← List.append_assoc]
    refine List.Nodup.append inductionHypothesis (List.nodup_singleton _) ?_
    rintro name member itself
    rw [List.mem_singleton.mp itself] at member
    exact fresh member

end InOrder

end

/-- The line of an instruction begins with a register. -/
theorem not_isReturn_instruction (instruction : Instruction) :
    ¬ IsReturn ("  " ++ instruction.text) := by
  rintro ⟨rest, same⟩
  have third := congrArg (·[2]?) same
  simp [text, registerText] at third

/-- The name that is given begins with the one that was wanted. -/
theorem Names.take_begins (names : Names) (wanted : String) :
    ∃ rest, (names.take wanted).1 = wanted ++ rest := by
  have numbered_begins (limit count : Nat) :
      ∃ rest, (numbered names.taken wanted limit count).1 = wanted ++ rest := by
    induction limit generalizing count with
    | zero => exact ⟨_, String.append_assoc ..⟩
    | succ limit inductionHypothesis =>
      rw [numbered]
      split
      · exact inductionHypothesis (count + 1)
      · exact ⟨_, String.append_assoc ..⟩
  unfold take
  split
  · exact numbered_begins ..
  · exact ⟨"", (String.append_empty).symm⟩

/-- A label is not a line that returns. -/
theorem not_isReturn_label (names : Names) : ¬ IsReturn ((names.take "entry").1 ++ ":") := by
  obtain ⟨suffix, label⟩ := names.take_begins "entry"
  rintro ⟨rest, same⟩
  rw [label] at same
  have first := congrArg (·[0]?) same
  simp at first

/-- A block that is in order and whose calls fit is well-formed if it returns what is there. -/
theorem InOrder.wellFormed {declares : String → Nat → Prop} {parameters : List String}
    {instructions : List Instruction} (ordered : InOrder parameters instructions)
    (once : parameters.Nodup)
    (fits : ∀ {result callee : String} {arguments : List Operand},
      .call result callee arguments ∈ instructions → declares callee arguments.length)
    {operand : Operand} (available : operand.Available parameters instructions) (names : Names) :
    Block.WellFormed declares parameters
      { label := (names.take "entry").1, instructions, returned := some operand } := by
  constructor
  case ready => exact ordered.ready_of_split
  case distinct => exact ordered.distinct once
  case fits => exact fits
  case returns =>
    refine ⟨operand, _, rfl, available, rfl, ?_⟩
    intro line member
    rcases List.mem_cons.mp member with rfl | later
    · exact not_isReturn_label names
    · obtain ⟨instruction, _, rfl⟩ := List.mem_map.mp later
      exact not_isReturn_instruction instruction

end Instruction

end Reckon
