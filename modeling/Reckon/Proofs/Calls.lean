import Reckon.Evaluator.Code
import Reckon.Instruction.Basic
import Reckon.Node
import Reckon.Proofs.Reading.Spelling

/-!
# The calls in a body

The calls of a tree, of its code and of the instructions written for it, each with the
number of its arguments, in the order in which they are made.
-/

namespace Reckon

/-- What holds of a tree whenever it holds of its parts holds of every tree. Units have no parts
here: nothing goes on below a unit that stands where an expression belongs. -/
theorem Node.byParts {holds : Node → Prop}
    (number : ∀ value location, holds (.number value location))
    (reference : ∀ name location, holds (.reference name location))
    (binary : ∀ operator left right location, holds left → holds right →
      holds (.binary operator left right location))
    (call : ∀ callee arguments location, (∀ argument ∈ arguments, holds argument) →
      holds (.call callee arguments location))
    (prototype : ∀ header, holds (.prototype header))
    (definition : ∀ header body location, holds (.definition header body location)) (node : Node) :
    holds node := by
  induction node using Node.rec (motive_2 := fun nodes => ∀ node ∈ nodes, holds node) with
  | number => exact number ..
  | reference => exact reference ..
  | binary operator left right location holdsLeft holdsRight =>
    exact binary operator left right location holdsLeft holdsRight
  | call callee arguments location each => exact call callee arguments location each
  | prototype => exact prototype ..
  | definition => exact definition ..
  | nil _ member => cases member
  | cons first rest holdsFirst holdsRest _ member =>
    exact List.forall_mem_cons.mpr ⟨holdsFirst, holdsRest⟩ _ member

/-- What holds of code whenever it holds of its parts holds of all code. -/
theorem Code.byParts {holds : Code → Prop} (constant : ∀ value, holds (.constant value))
    (parameter : ∀ position, holds (.parameter position))
    (operation : ∀ kind left right, holds left → holds right → holds (.operation kind left right))
    (call : ∀ callee arguments, (∀ argument ∈ arguments, holds argument) →
      holds (.call callee arguments)) (code : Code) : holds code := by
  induction code using Code.rec (motive_2 := fun codes => ∀ code ∈ codes, holds code) with
  | constant => exact constant ..
  | parameter => exact parameter ..
  | operation kind left right holdsLeft holdsRight =>
    exact operation kind left right holdsLeft holdsRight
  | call callee arguments each => exact call callee arguments each
  | nil _ member => cases member
  | cons first rest holdsFirst holdsRest _ member =>
    exact List.forall_mem_cons.mpr ⟨holdsFirst, holdsRest⟩ _ member

mutual

/-- The calls in a tree, those in the arguments of a call before it. -/
def Node.calls : Node → List (String × Nat)
  | .number .. | .reference .. | .prototype _ | .definition .. => []
  | .binary _ left right _ => left.calls ++ right.calls
  | .call callee arguments _ => callsOfNodes arguments ++ [(callee, arguments.length)]

/-- The calls in a row of expressions, as they are made. -/
def callsOfNodes : List Node → List (String × Nat)
  | [] => []
  | node :: rest => node.calls ++ callsOfNodes rest

end

mutual

/-- The calls that code makes. -/
def Code.calls : Code → List (String × Nat)
  | .constant _ | .parameter _ => []
  | .operation _ left right => left.calls ++ right.calls
  | .call callee arguments => callsOfCodes arguments ++ [(callee, arguments.length)]

/-- The calls in a row of codes, as they are made. -/
def callsOfCodes : List Code → List (String × Nat)
  | [] => []
  | code :: rest => code.calls ++ callsOfCodes rest

end

/-- The calls in a row of trees are those in one of the trees. -/
theorem mem_callsOfNodes {call : String × Nat} {nodes : List Node} :
    call ∈ callsOfNodes nodes ↔ ∃ node ∈ nodes, call ∈ node.calls := by
  induction nodes with
  | nil => simp [callsOfNodes]
  | cons node rest inductionHypothesis => simp [callsOfNodes, inductionHypothesis]

/-- The calls in a row of codes are those in one of the codes. -/
theorem mem_callsOfCodes {call : String × Nat} {codes : List Code} :
    call ∈ callsOfCodes codes ↔ ∃ code ∈ codes, call ∈ code.calls := by
  induction codes with
  | nil => simp [callsOfCodes]
  | cons code rest inductionHypothesis => simp [callsOfCodes, inductionHypothesis]

/-- The functions that are called by a tree that was read are words. -/
theorem Node.Spelled.word_of_mem_calls {node : Node} (spelled : node.Spelled) {call : String × Nat}
    (member : call ∈ node.calls) : IsWord call.1 := by
  induction spelled with
  | number | reference => cases member
  | binary _ _ _ _ inLeft inRight =>
    rcases List.mem_append.mp member with first | second
    · exact inLeft first
    · exact inRight second
  | @call callee arguments location word _ each =>
    rcases List.mem_append.mp member with inside | itself
    · obtain ⟨argument, present, made⟩ := mem_callsOfNodes.mp inside
      exact each argument present made
    · rw [List.mem_singleton.mp itself]
      exact word

mutual

/-- The code reads no parameter from the given position on. -/
def Code.ReadsBelow (arity : Nat) : Code → Prop
  | .constant _ => True
  | .parameter position => position < arity
  | .operation _ left right => left.ReadsBelow arity ∧ right.ReadsBelow arity
  | .call _ arguments => CodesReadBelow arity arguments

/-- No code of the row reads a parameter beyond the arity. -/
def CodesReadBelow (arity : Nat) : List Code → Prop
  | [] => True
  | code :: rest => code.ReadsBelow arity ∧ CodesReadBelow arity rest

end

namespace Instruction

/-- The call that an instruction makes. -/
def call? : Instruction → Option (String × Nat)
  | .call _ callee arguments => some (callee, arguments.length)
  | _ => none

/-- The calls that a block makes. -/
def Block.calls (block : Block) : List (String × Nat) := block.instructions.filterMap call?

/-- The functions that a block calls are those of its calls. -/
theorem Block.callees_eq (block : Block) : block.callees = block.calls.map Prod.fst := by
  rw [calls, List.map_filterMap, callees]
  congr 1
  funext instruction
  cases instruction <;> rfl

end Instruction

end Reckon
