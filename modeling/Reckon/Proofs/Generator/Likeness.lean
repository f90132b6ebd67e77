import Reckon.Generator.Execution
import Reckon.Proofs.Likeness.Actions

/-!
# The generator does not depend on places

The generator keeps no places at all: trees and prototypes that are alike are written out as
the same routines. Places only occur in the faults.
-/

namespace Reckon

namespace Generator

open Reckon.Action

variable {session sessionToo : Session}

/-- Prototypes at different places are declared alike. -/
theorem declare_alike (sessions : session.Alike sessionToo) {prototype prototypeToo : Prototype}
    (alike : prototype.Alike prototypeToo) :
    Respects Eq Eq (declare session prototype) (declare sessionToo prototypeToo) := by
  unfold declare
  apply (respects_check (sessions.prototypeFault? alike)).bind
  rintro _ _ _
  apply respects_get.bind
  rintro generator _ rfl
  rw [alike.name, alike.parameters]
  dsimp only
  cases generator.current.routines.get? (generator.current.symbol prototypeToo.name) with
  | none => exact respects_refl _
  | some routine =>
    apply (respects_check (declarationFault?_alike alike _)).bind
    rintro _ _ _
    exact respects_pure rfl

/-- Declaring and looking functions up do not depend on places. -/
theorem declaresAlike : DeclaresAlike (β := Generator) Eq where
  lookup alike _ := by rw [alike]
  arity alike _ := by rw [alike]
  declare := declare_alike

/-- What is carried out while a block is being written respects the equality of emissions. -/
theorem generating_alike {α : Type} {action actionToo : Action Generator α}
    (respects : Respects Eq Eq action actionToo) :
    Respects Eq Eq (generating action) (generating actionToo) := by
  rintro emission _ rfl
  have ends := respects emission.generator _ rfl
  unfold generating
  generalize action emission.generator = result at ends
  generalize actionToo emission.generator = resultToo at ends
  cases ends with
  | ok same alike => exact .ok same (by rw [alike])
  | error same alike => exact .error same (by rw [alike])

/-- Expressions one after the other are written out alike if each is. -/
theorem emitAll_alike {scope : List (String × String)} {nodes nodesToo : List Node}
    (alike : List.Forall₂ (fun node nodeToo => Respects Eq Eq (emit session scope node)
      (emit sessionToo scope nodeToo)) nodes nodesToo) :
    Respects Eq Eq (emitAll session scope nodes) (emitAll sessionToo scope nodesToo) := by
  induction alike with
  | nil => exact respects_pure rfl
  | cons first _ inductionHypothesis =>
    rw [emitAll, emitAll]
    apply first.bind
    rintro operand _ rfl
    apply inductionHypothesis.bind
    rintro operands _ rfl
    exact respects_pure rfl

/-- Trees that are alike are written out as the same instructions. -/
theorem emit_alike (sessions : session.Alike sessionToo) (scope : List (String × String))
    {node nodeToo : Node} (alike : node.Alike nodeToo) :
    Respects Eq Eq (emit session scope node) (emit sessionToo scope nodeToo) := by
  induction alike with
  | number value => exact respects_pure rfl
  | reference name =>
    rw [emit, emit]
    cases scope.reverse.lookup name with
    | some register => exact respects_pure rfl
    | none => exact respects_throw rfl
  | binary operator _ _ _ _ left right =>
    rw [emit, emit]
    apply left.bind
    rintro leftOperand _ rfl
    apply right.bind
    rintro rightOperand _ rfl
    cases Operation.ofOperator? operator with
    | some operation => exact respects_refl _
    | none => exact respects_throw rfl
  | @call callee arguments argumentsToo _ _ length _ inductionHypothesis =>
    have each := List.forall₂_iff_zip.mpr ⟨length, fun member => inductionHypothesis _ member⟩
    rw [emit, emit]
    apply (generating_alike (declaresAlike.resolve sessions callee)).bind
    rintro handle? _ rfl
    cases handle? with
    | none => exact respects_throw rfl
    | some handle =>
      apply respects_get.bind
      rintro emission _ rfl
      rw [length]
      dsimp only
      by_cases fits : emission.generator.arityOf handle = argumentsToo.length
      · rw [if_pos fits, if_pos fits]
        apply (emitAll_alike each).bind
        rintro operands _ rfl
        exact respects_refl _
      · rw [if_neg fits, if_neg fits]
        exact respects_throw rfl

/-- What is left of a block does not depend on where the fault points to. -/
theorem remainder_of_bare {fault faultToo : Fault} (same : fault.bare = faultToo.bare)
    (label : String) (instructions : List Instruction) :
    remainder fault label instructions = remainder faultToo label instructions := by
  have view (fault : Fault) : remainder fault label instructions =
      remainder fault.bare label instructions := by
    cases fault <;> rfl
  rw [view, view faultToo, same]

/-- Bodies at different places are compiled alike for the same handle. -/
theorem defineBody_alike (sessions : session.Alike sessionToo) {body bodyToo : Node}
    (alike : body.Alike bodyToo) (handle : Handle) (parameters : List String) :
    Respects Eq Eq (defineBody session handle body parameters)
      (defineBody sessionToo handle bodyToo parameters) := by
  unfold defineBody
  apply respects_get.bind
  rintro before _ rfl
  apply (respects_check (redefinitionFault?_alike _ _ _ _ _)).bind
  rintro _ _ _
  cases before.routine? handle with
  | none => exact respects_pure rfl
  | some routine =>
    have ends := emit_alike sessions (parameters.zip routine.parameters) alike
      { generator := before, names := (routine.names.take "entry").2, instructions := [] } _ rfl
    dsimp only
    generalize emit session _ body _ = result at ends
    generalize emit sessionToo _ bodyToo _ = resultToo at ends
    cases ends with
    | ok same alike =>
      cases same
      cases alike
      exact respects_refl _
    | error same alike =>
      cases alike
      dsimp only
      rw [remainder_of_bare same]
      apply (respects_refl _).bind
      rintro _ _ _
      exact respects_throw same

instance : Placeless Generator where
  Alike := Eq
  refl _ := rfl
  declares := declaresAlike
  defineBody := defineBody_alike
  handOff := respects_refl _
  execute _ _ _ := respects_refl _
  release _ := respects_refl _
  defined alike := by rw [alike]

end Generator

end Reckon
