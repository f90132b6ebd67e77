import Reckon.Proofs.Backend.Contract
import Reckon.Proofs.Pairing.Arities
import Reckon.Proofs.Pairing.Execution

/-!
# Calling a function through the linker

Calling a function by name materializes what can be, and then runs the function if it is
live. Running fails only by nesting too deep or where a function is missing.
-/

namespace Reckon

open Reckon.Action

/-- Going over instructions fails only where one of their calls does. -/
theorem Instruction.runAll_error {platform : Platform}
    {call : String → List Float → Except Fault Float} {instructions : List Instruction}
    {frame : Frame} {fault : Fault}
    (fails : runAll platform call frame instructions = .error fault) :
    ∃ callee values, call callee values = .error fault := by
  induction instructions generalizing frame with
  | nil => cases fails
  | cons instruction rest inductionHypothesis =>
    rw [runAll] at fails
    rcases Except.bind_eq_error_iff.mp fails with first | ⟨after, _, later⟩
    · cases instruction with
      | call result callee arguments =>
        rw [run] at first
        rcases Except.bind_eq_error_iff.mp first with itself | ⟨value, _, impossible⟩
        · exact ⟨callee, _, itself⟩
        · cases impossible
      | _ => cases first
    · exact inductionHypothesis later

/-- A block fails only where one of its calls does. -/
theorem Instruction.Block.run_error {platform : Platform}
    {call : String → List Float → Except Fault Float} {block : Block} {frame : Frame}
    {fault : Fault} (fails : block.run platform call frame = .error fault) :
    ∃ callee values, call callee values = .error fault := by
  rw [Block.run] at fails
  rcases Except.bind_eq_error_iff.mp fails with inside | ⟨last, _, impossible⟩
  · exact runAll_error inside
  · cases impossible

namespace Linker

/-- Running loaded code nests too deep, or misses a function. -/
theorem run_error {platform : Platform} {image : List Loaded} {depth position : Nat}
    {symbol : String} {arguments : List Float} {fault : Fault}
    (fails : run platform image depth position symbol arguments = .error fault) :
    fault = .tooDeep ∨ ∃ names, fault = .run (.unresolved names "") := by
  induction depth generalizing position symbol arguments with
  | zero =>
    cases fails
    exact .inl rfl
  | succ depth inductionHypothesis =>
    rw [run] at fails
    split at fails
    · obtain ⟨callee, values, failing⟩ := Instruction.Block.run_error fails
      split at failing
      · exact inductionHypothesis failing
      · split at failing
        · cases failing
        · cases failing
          exact .inr ⟨_, rfl⟩
    · cases fails
      exact .inr ⟨_, rfl⟩

/-- The materialized units are in the image. -/
def Imaged (linker : Linker) : Prop :=
  ∀ unit ∈ linker.materialized, ∃ loaded ∈ linker.image, loaded.unit = unit

variable {platform : Platform} {linker : Linker}

/-- A live function is found in the image. -/
theorem Imaged.position?_of_live (imaged : linker.Imaged) {name : String}
    (live : name ∈ linker.liveDefinitions) :
    ∃ position, position? linker.image name = some position := by
  obtain ⟨unit, member, defines⟩ := List.mem_flatMap.mp live
  obtain ⟨loaded, present, rfl⟩ := imaged unit member
  obtain ⟨position, there⟩ := List.mem_iff_getElem?.mp present
  exact Option.isSome_iff_exists.mp (position?_isSome ⟨loaded, there, defines⟩)

/-- A function has an address exactly if it is live after materializing. -/
theorem address_ensures (imaged : (linker.materialize platform).2.Imaged) (name : String) :
    Ensures (address platform name) linker fun
      | .ok position after => after = (linker.materialize platform).2 ∧
        name ∈ after.liveDefinitions ∧ DefinesAt after.image position name
      | .error fault after =>
        (∃ names, after = (linker.materialize platform).2.withHostSymbols names) ∧
        name ∉ (linker.materialize platform).2.liveDefinitions ∧
        ∃ names, fault = .run (.unresolved names name) := by
  unfold address
  refine ensures_modify (ensures_get ?_)
  by_cases live : name ∈ (linker.materialize platform).2.liveDefinitions
  · rw [if_pos live]
    obtain ⟨position, found⟩ := imaged.position?_of_live live
    rw [found]
    exact ensures_pure ⟨rfl, live, definesAt_of_position? found⟩
  · rw [if_neg live]
    exact ensures_set (ensures_throw ⟨⟨_, rfl⟩, live, _, rfl⟩)

/-- How a call by name ends once everything is materialized that can be. -/
inductive Called (platform : Platform) (materialized : Linker) (name : String)
    (arguments : List Float) : Except RunError Float → Prop
  | value {position : Nat} {value : Float} (defines : DefinesAt materialized.image position name)
      (ran : run platform materialized.image (platform.depth + 1) position name arguments =
        .ok value) :
      Called platform materialized name arguments (.ok value)
  | failed {position : Nat} {fault : Fault} {error : RunError}
      (defines : DefinesAt materialized.image position name)
      (ran : run platform materialized.image (platform.depth + 1) position name arguments =
        .error fault) : Called platform materialized name arguments (.error error)
  | dead {names : List String} (dead : name ∉ materialized.liveDefinitions) :
      Called platform materialized name arguments (.error (.unresolved names name))

/-- Calling a function that is not live misses functions; calling a live one runs it. -/
theorem call_comes (imaged : (linker.materialize platform).2.Imaged) (name : String)
    (arguments : List Float) :
    ∃ outcome names, Comes (call platform name arguments) linker outcome
        ((linker.materialize platform).2.withHostSymbols names) ∧
      Called platform (linker.materialize platform).2 name arguments outcome := by
  have addressed := address_ensures imaged name
  unfold Ensures at addressed
  unfold Comes call
  cases reached : address platform name linker with
  | error fault after =>
    rw [reached] at addressed
    obtain ⟨⟨names, rfl⟩, dead, missing, rfl⟩ := addressed
    exact ⟨.error _, names, bind_error reached, .dead dead⟩
  | ok position after =>
    rw [reached] at addressed
    obtain ⟨rfl, live, defines⟩ := addressed
    rw [bind_ok reached]
    cases ran : run platform (linker.materialize platform).2.image (platform.depth + 1) position
        name arguments with
    | ok value =>
      refine ⟨.ok value, [], ?_, .value defines ran⟩
      exact (get_bind ..).trans (by rw [ran]; rfl)
    | error fault =>
      rcases run_error ran with rfl | ⟨names, rfl⟩
      · refine ⟨.error (.endless name), [], ?_, .failed defines ran⟩
        exact (get_bind ..).trans (by rw [ran]; rfl)
      · refine ⟨.error (.unresolved names ""), [], ?_, .failed defines ran⟩
        exact (get_bind ..).trans (by rw [ran]; rfl)

end Linker

end Reckon
