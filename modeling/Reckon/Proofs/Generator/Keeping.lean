import Reckon.Generator.Execution
import Reckon.Proofs.Backend.Keeping
import Reckon.Proofs.Calls
import Reckon.Proofs.Instruction.Names

/-!
# What declaring and writing a body out keep

Declaring a function at most brings it into the open module. Writing a body out adds names and
instructions of its own. All that it asks of the generator is to find functions, and that may
declare some. So whatever declaring keeps, writing out keeps.
-/

namespace Reckon

open Reckon.Action Instruction

namespace Generator

variable {good : Generator → Prop} {session : Session}

/-- Declaring keeps what is not lost when a new function comes into the open module. -/
theorem declare_keeps {prototype : Prototype}
    (comes : ∀ generator : Generator, good generator →
      generator.current.routines.get? (generator.current.symbol prototype.name) = none →
      good { generator with
        current := generator.current.withRoutine
          (.declared (generator.current.symbol prototype.name) prototype.parameters) }) :
    Keeps good (declare session prototype) := by
  intro generator holds
  unfold declare
  refine ensures_check (fun _ => ensures_get ?_) fun _ _ => holds
  cases found : generator.current.routines.get? (generator.current.symbol prototype.name) with
  | some routine =>
    simp only [found]
    exact ensures_check (fun _ => ensures_pure holds) fun _ _ => holds
  | none =>
    simp only [found]
    split
    · exact holds
    · exact comes generator holds found

/-- The generator behind a block that is being written has the property. -/
abbrev Behind (good : Generator → Prop) (emission : Emission) : Prop := good emission.generator

/-- What a part of the generator keeps is kept while a block is written. -/
theorem generating_keeps {α : Type} {action : Action Generator α} (keeps : Keeps good action) :
    Keeps (Behind good) (generating action) := by
  intro emission holds
  have kept := keeps emission.generator holds
  unfold Ensures at kept ⊢
  unfold generating
  cases ended : action emission.generator with
  | ok value after =>
    rw [ended] at kept
    exact kept
  | error fault after =>
    rw [ended] at kept
    exact kept

/-- An instruction that is appended changes the block and nothing behind it. -/
theorem append_keeps (wanted : String) (instruction : String → Instruction) :
    Keeps (Behind good) (append wanted instruction) :=
  fun _ holds => holds

section Writing

variable {kept : Emission → Prop}

/-- An operation keeps what appending keeps. -/
theorem emitOperation_keeps
    (appends : ∀ wanted instruction, Keeps kept (append wanted instruction))
    (operation : Operation) (left right : Operand) :
    Keeps kept (emitOperation operation left right) := by
  cases operation with
  | arithmetic kind => exact (appends _ _).bind fun _ => keeps_pure _
  | below =>
    exact (appends _ _).bind fun _ => (appends _ _).bind fun _ => keeps_pure _

/-- If writing each body out keeps something, so does a row of bodies. -/
theorem emitAll_keeps {scope : List (String × String)} {nodes : List Node}
    (each : ∀ node ∈ nodes, Keeps kept (emit session scope node)) :
    Keeps kept (emitAll session scope nodes) := by
  induction nodes with
  | nil =>
    rw [emitAll]
    exact keeps_pure _
  | cons node rest inductionHypothesis =>
    obtain ⟨itself, others⟩ := List.forall_mem_cons.mp each
    rw [emitAll]
    exact itself.bind fun _ => (inductionHypothesis others).bind fun _ => keeps_pure _

/-- Writing a body out keeps what finding the functions that it calls and appending an instruction
keep. -/
theorem emit_keeps_of {scope : List (String × String)} {node : Node}
    (finds : ∀ call ∈ node.calls, Keeps kept (generating (resolve session call.1)))
    (appends : ∀ wanted instruction, Keeps kept (append wanted instruction)) :
    Keeps kept (emit session scope node) := by
  induction node using Node.byParts with
  | number value location =>
    rw [emit]
    exact keeps_pure _
  | reference name location =>
    rw [emit]
    cases scope.reverse.lookup name with
    | some register => exact keeps_pure _
    | none => exact keeps_throw _
  | binary operator left right location inLeft inRight =>
    rw [Node.calls, List.forall_mem_append] at finds
    rw [emit]
    refine (inLeft finds.1).bind fun leftOperand => (inRight finds.2).bind fun rightOperand => ?_
    cases Operation.ofOperator? operator with
    | some operation => exact emitOperation_keeps appends _ _ _
    | none => exact keeps_throw _
  | call callee arguments location each =>
    rw [Node.calls, List.forall_mem_append, List.forall_mem_singleton] at finds
    rw [emit]
    apply finds.2.bind
    intro found
    cases found with
    | none => exact keeps_throw _
    | some handle =>
      apply keeps_get
      intro emission
      dsimp only
      split
      · refine (emitAll_keeps fun argument member => each argument member ?_).bind
          fun _ => (appends _ _).bind fun _ => keeps_pure _
        exact fun call made => finds.1 call (mem_callsOfNodes.mpr ⟨argument, member, made⟩)
      · exact keeps_throw _
  | prototype header =>
    rw [emit]
    exact keeps_throw _
  | definition header body location =>
    rw [emit]
    exact keeps_throw _

end Writing

/-- Writing a body out keeps what declaring keeps. -/
theorem emit_keeps (declares : ∀ prototype, Keeps good (declare session prototype))
    (scope : List (String × String)) (node : Node) :
    Keeps (Behind good) (emit session scope node) :=
  emit_keeps_of (fun _ _ => generating_keeps (resolve_keeps fun known _ => declares known))
    append_keeps

/-- A name that is in use stays in use. -/
theorem emit_keeps_names (session : Session) (taken : List String)
    (scope : List (String × String)) (node : Node) :
    Keeps (fun emission : Emission => taken ⊆ emission.names.taken) (emit session scope node) := by
  apply emit_keeps_of
  · intro call _ emission among
    unfold Ensures generating
    cases resolve session call.1 emission.generator <;> exact among
  · intro wanted instruction emission among
    change taken ⊆ (emission.names.take wanted).2.taken
    rw [Names.taken_take]
    exact List.Subset.trans among (List.subset_cons_self ..)

/-- Compiling a body keeps what declaring, replacing a routine and counting a function as defined
keep. -/
theorem defineBody_keeps (declares : ∀ prototype, Keeps good (declare session prototype))
    {handle : Handle} {body : Node}
    (replaces : ∀ before routine generator replaced, good before →
      before.routine? handle = some routine → good generator → replaced.symbol = routine.symbol →
      replaced.parameters = routine.parameters → routine.names.taken ⊆ replaced.names.taken →
      good (generator.withRoutine handle.unit replaced))
    (counts : ∀ generator, good generator →
      good { generator with defined := generator.defined.insert handle.symbol })
    (parameters : List String) : Keeps good (defineBody session handle body parameters) := by
  intro generator holds
  unfold defineBody
  apply ensures_get
  refine ensures_check (fun _ => ?_) fun _ _ => holds
  cases there : generator.routine? handle with
  | none => exact ensures_pure holds
  | some routine =>
    have kept := emit_keeps declares (parameters.zip routine.parameters) body
      { generator, names := (routine.names.take "entry").2, instructions := [] } holds
    have among : routine.names.taken ⊆ (routine.names.take "entry").2.taken := by
      rw [Names.taken_take]
      exact List.subset_cons_self ..
    have used := emit_keeps_names session routine.names.taken
      (parameters.zip routine.parameters) body
      { generator, names := (routine.names.take "entry").2, instructions := [] } among
    unfold Ensures at kept used ⊢
    dsimp only
    cases written : emit session (parameters.zip routine.parameters) body
        { generator, names := (routine.names.take "entry").2, instructions := [] } with
    | ok operand emission =>
      rw [written] at kept used
      exact counts _ (replaces _ _ _ _ holds there kept rfl rfl used)
    | error fault emission =>
      rw [written] at kept used
      exact replaces _ _ _ _ holds there kept rfl rfl used

/-- What does not depend on the linker is kept whatever the linker does. -/
theorem linking_keeps {α : Type} (unlinked : ∀ generator linker, good generator →
    good { generator with linker }) (action : Action Linker α) : Keeps good (linking action) := by
  intro generator holds
  unfold Ensures linking
  cases action generator.linker with
  | ok value linker => exact unlinked generator linker holds
  | error fault linker => exact unlinked generator linker holds

end Generator

end Reckon
