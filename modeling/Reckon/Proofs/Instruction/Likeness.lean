import Mathlib.Control.Lawful
import Reckon.Proofs.Calls

/-!
# Bodies that do the same

Blocks may do the same though their registers have other names: they make the same calls with the
same arguments and return the same value, whatever the calls yield, and in whatever monad they
run. To compare them it is enough to run them with as many arguments as there are parameters,
because an argument that is missing reads as zero and one too many is dropped.
-/

namespace Reckon

namespace Instruction

variable {m : Type → Type} [Monad m] [LawfulMonad m]

/-! ## Frames -/

/-- Every register reads the same in both frames, as a double and as a bit. -/
def ReadAlike (frame other : Frame) : Prop :=
  ∀ name, ((frame.lookup name).map Value.toDouble).getD 0.0 =
      ((other.lookup name).map Value.toDouble).getD 0.0 ∧
    ((frame.lookup name).map Value.toBit).getD false =
      ((other.lookup name).map Value.toBit).getD false

namespace ReadAlike

variable {frame other : Frame}

/-- A frame reads as itself. -/
theorem refl (frame : Frame) : ReadAlike frame frame := fun _ => ⟨rfl, rfl⟩

/-- What is written into both frames reads the same in both. -/
theorem write (alike : ReadAlike frame other) (result : String) (value : Value) :
    ReadAlike ((result, value) :: frame) ((result, value) :: other) := by
  intro name
  rw [List.lookup_cons, List.lookup_cons]
  cases name == result with
  | true => exact ⟨rfl, rfl⟩
  | false => exact alike name

/-- An operand reads the same in both frames. -/
theorem read (alike : ReadAlike frame other) (operand : Operand) :
    operand.read frame = operand.read other := by
  cases operand with
  | constant value => rfl
  | register name => exact (alike name).1

/-- Instructions end in frames that read alike. -/
theorem runAll (alike : ReadAlike frame other) (platform : Platform)
    (call : String → List Float → m Float) (instructions : List Instruction) {γ : Type}
    {next nextToo : Frame → m γ}
    (same : ∀ last lastToo, ReadAlike last lastToo → next last = nextToo lastToo) :
    runAll platform call frame instructions >>= next =
      Instruction.runAll platform call other instructions >>= nextToo := by
  induction instructions generalizing frame other with
  | nil =>
    simp only [Instruction.runAll, pure_bind]
    exact same frame other alike
  | cons instruction rest inductionHypothesis =>
    simp only [Instruction.runAll, bind_assoc]
    cases instruction with
    | arithmetic result kind left right =>
      simp only [run, pure_bind, alike.read]
      exact inductionHypothesis (alike.write _ _)
    | compare result left right =>
      simp only [run, pure_bind, alike.read]
      exact inductionHypothesis (alike.write _ _)
    | widen result bit =>
      simp only [run, pure_bind, (alike bit).2]
      exact inductionHypothesis (alike.write _ _)
    | call result callee arguments =>
      simp only [run, bind_assoc, pure_bind, alike.read]
      apply bind_congr
      intro value
      exact inductionHypothesis (alike.write _ _)

/-- A block does the same in frames that read alike. -/
theorem run_block (alike : ReadAlike frame other) (platform : Platform)
    (call : String → List Float → m Float) (block : Block) :
    block.run platform call frame = block.run platform call other := by
  apply alike.runAll
  intro last lastToo alike
  cases block.returned with
  | none => rfl
  | some operand => simp only [Option.map_some, alike.read]

end ReadAlike

/-- The first arguments, and zeros if there are not enough. -/
def filled : Nat → List Float → List Float
  | 0, _ => []
  | count + 1, [] => 0.0 :: filled count []
  | count + 1, argument :: rest => argument :: filled count rest

/-- There are as many arguments as asked for. -/
theorem length_filled (count : Nat) (arguments : List Float) :
    (filled count arguments).length = count := by
  induction count generalizing arguments with
  | zero => rfl
  | succ count inductionHypothesis =>
    cases arguments <;> simp [filled, inductionHypothesis]

/-- Registers read alike when as many arguments are passed as there are registers. -/
theorem readAlike_filled (registers : List String) (arguments : List Float) :
    ReadAlike (registers.zip (arguments.map Value.double))
      (registers.zip ((filled registers.length arguments).map Value.double)) := by
  induction registers generalizing arguments with
  | nil => exact .refl _
  | cons register rest inductionHypothesis =>
    cases arguments with
    | cons argument others =>
      simp only [List.length_cons, filled, List.map_cons, List.zip_cons_cons]
      exact (inductionHypothesis others).write register _
    | nil =>
      simp only [List.length_cons, filled, List.map_cons, List.zip_cons_cons, List.map_nil,
        List.zip_nil_right]
      intro name
      rw [List.lookup_cons]
      cases name == register with
      | true => exact ⟨rfl, rfl⟩
      | false =>
        have none := inductionHypothesis [] name
        rw [List.map_nil, List.zip_nil_right] at none
        exact none

/-! ## Bodies -/

/-- Both blocks return or neither does, and with the arguments in the registers of their parameters
they do the same. -/
structure BodiesAlike (body other : List String × Block) : Prop where
  returned : body.2.returned.isSome = other.2.returned.isSome
  runs (m : Type → Type) [Monad m] [LawfulMonad m] (platform : Platform)
    (call : String → List Float → m Float) (arguments : List Float) :
    body.2.run platform call (body.1.zip (arguments.map .double)) =
      other.2.run platform call (other.1.zip (arguments.map .double))

namespace BodiesAlike

/-- A body is like itself. -/
theorem refl (body : List String × Block) : BodiesAlike body body :=
  ⟨rfl, fun _ _ _ _ _ _ => rfl⟩

/-- Only as many arguments count as there are parameters. -/
theorem of_fitting {parameters registers : List String} {block blockToo : Block}
    (lengths : parameters.length = registers.length)
    (returned : block.returned.isSome = blockToo.returned.isSome)
    (runs : ∀ (m : Type → Type) [Monad m] [LawfulMonad m] (platform : Platform)
      (call : String → List Float → m Float) (arguments : List Float),
      arguments.length = parameters.length →
      block.run platform call (parameters.zip (arguments.map .double)) =
        blockToo.run platform call (registers.zip (arguments.map .double))) :
    BodiesAlike (parameters, block) (registers, blockToo) := by
  refine ⟨returned, ?_⟩
  intro m _ _ platform call arguments
  have fits := runs m platform call (filled parameters.length arguments) (length_filled ..)
  have left := (readAlike_filled parameters arguments).run_block platform call block
  have right := (readAlike_filled registers arguments).run_block platform call blockToo
  rw [← lengths] at right
  exact left.trans (fits.trans right.symm)

end BodiesAlike

/-- A platform on which nothing matters. -/
def blankPlatform : Platform :=
  { arithmetic := fun _ _ _ => 0.0, below := fun _ _ => false, hostFunction? := fun _ => none
    depth := 0 }

/-- A call that is only noted. -/
def noted (callee : String) (_ : List Float) : StateM (List String) Float :=
  fun calls => (0.0, calls ++ [callee])

/-- Running instructions notes the functions that they call. -/
theorem noted_runAll (instructions : List Instruction) (frame : Frame) (calls : List String) :
    (runAll blankPlatform noted frame instructions calls).2 =
      calls ++ (instructions.filterMap call?).map Prod.fst := by
  induction instructions generalizing frame calls with
  | nil => exact (List.append_nil calls).symm
  | cons instruction rest inductionHypothesis =>
    cases instruction with
    | arithmetic result kind left right => exact inductionHypothesis _ calls
    | compare result left right => exact inductionHypothesis _ calls
    | widen result bit => exact inductionHypothesis _ calls
    | call result callee arguments =>
      refine (inductionHypothesis _ (calls ++ [callee])).trans ?_
      rw [List.append_assoc]
      rfl

/-- Running a block notes its callees in their order. -/
theorem noted_run (block : Block) (frame : Frame) (calls : List String) :
    (block.run blankPlatform noted frame calls).2 = calls ++ block.callees := by
  rw [Block.callees_eq]
  exact noted_runAll block.instructions frame calls

/-- Bodies that do the same call the same functions in the same order. -/
theorem BodiesAlike.callees {body other : List String × Block} (alike : BodiesAlike body other) :
    body.2.callees = other.2.callees := by
  have runs := alike.runs (StateM (List String)) blankPlatform noted []
  have same := congrArg (fun action : StateM (List String) Float => (action []).2) runs
  exact (noted_run body.2 _ []).symm.trans (same.trans (noted_run other.2 _ []))

end Instruction

end Reckon
