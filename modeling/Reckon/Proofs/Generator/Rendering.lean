import Reckon.Generator.Emission
import Reckon.Proofs.Calls
import Reckon.Proofs.Instruction.Names

/-!
# Instructions that compute what code computes

Instructions compute code if running them, whatever calls yield, makes the calls of the
code in its order and ends in a frame where an operand reads its value. Only registers
that were not in use are written, so what was computed before can still be read. The
statement is about any monad that calls may run in, and about whatever is done with the
frame and with the value afterwards.
-/

namespace Reckon

namespace Instruction

variable {m : Type → Type} [Monad m] [LawfulMonad m] {γ : Type}

/-- Rows of instructions run one after the other. -/
theorem runAll_append (platform : Platform) (call : String → List Float → m Float)
    (front back : List Instruction) (frame : Frame) :
    runAll platform call frame (front ++ back) =
      runAll platform call frame front >>= fun middle => runAll platform call middle back := by
  induction front generalizing frame with
  | nil => simp [runAll]
  | cons instruction rest inductionHypothesis =>
    simp only [List.cons_append, runAll, inductionHypothesis, bind_assoc]

/-- The registers hold the parameters. -/
def Receives (registers : List String) (parameter : Nat → m Float) (frame : Frame) : Prop :=
  ∀ (position : Nat) (register : String), registers[position]? = some register →
    ∃ value, frame.lookup register = some (.double value) ∧ parameter position = pure value

/-- The frames agree on the names in use. -/
def Keeps (taken : List String) (before after : Frame) : Prop :=
  ∀ name ∈ taken, after.lookup name = before.lookup name

/-- A frame agrees with itself. -/
theorem Keeps.refl (taken : List String) (frame : Frame) : Keeps taken frame frame :=
  fun _ _ => rfl

/-- Frames that agree one after the other agree on the names that were in use at first. -/
theorem Keeps.trans {taken more : List String} {first second third : Frame} (among : taken ⊆ more)
    (start : Keeps taken first second) (rest : Keeps more second third) : Keeps taken first third :=
  fun name member => (rest name (among member)).trans (start name member)

/-- A write to a new register keeps the names in use. -/
theorem Keeps.write {taken : List String} {fresh : String} (absent : fresh ∉ taken) (value : Value)
    (frame : Frame) : Keeps taken frame ((fresh, value) :: frame) := by
  intro name member
  have differs : (name == fresh) = false := by
    rw [beq_eq_false_iff_ne]
    rintro rfl
    exact absent member
  rw [List.lookup_cons, differs]

omit [LawfulMonad m] in
/-- The parameters stay in registers that are in use. -/
theorem Receives.keeps {registers taken : List String} {parameter : Nat → m Float}
    {before after : Frame} (receives : Receives registers parameter before)
    (among : registers ⊆ taken) (keeps : Keeps taken before after) :
    Receives registers parameter after := by
  intro position register found
  obtain ⟨value, held, same⟩ := receives position register found
  have member : register ∈ taken := among (List.mem_of_getElem? found)
  exact ⟨value, (keeps register member).trans held, same⟩

/-- The operand is a constant or a register in use. -/
def Operand.Among (taken : List String) : Operand → Prop
  | .constant _ => True
  | .register name => name ∈ taken

/-- What is kept reads the same. -/
theorem Operand.Among.read {taken : List String} {operand : Operand} (among : operand.Among taken)
    {before after : Frame} (keeps : Keeps taken before after) :
    operand.read after = operand.read before := by
  cases operand with
  | constant _ => rfl
  | register name => simp only [Operand.read, keeps name among]

/-- A register that was just written reads what was written. -/
theorem Operand.read_write (name : String) (value : Float) (frame : Frame) :
    (Operand.register name).read ((name, .double value) :: frame) = value := by
  simp [Operand.read, Value.toDouble]

/-- Running the instructions and going on with the frame is running the code and going on with its
value, if that is read off the frame and the names in use are kept. -/
def Computes (taken registers : List String) (added : List Instruction) (code : Code)
    (operand : Operand) : Prop :=
  ∀ {m : Type → Type} [Monad m] [LawfulMonad m] {γ : Type} (platform : Platform)
    (parameter : Nat → m Float) (call : String → List Float → m Float) (frame : Frame)
    (next : Frame → m γ) (value : Float → m γ), Receives registers parameter frame →
    (∀ after, Keeps taken frame after → next after = value (operand.read after)) →
    runAll platform call frame added >>= next = code.run platform parameter call >>= value

/-- The same for several codes. -/
def ComputesAll (taken registers : List String) (added : List Instruction) (codes : List Code)
    (operands : List Operand) : Prop :=
  ∀ {m : Type → Type} [Monad m] [LawfulMonad m] {γ : Type} (platform : Platform)
    (parameter : Nat → m Float) (call : String → List Float → m Float) (frame : Frame)
    (next : Frame → m γ) (values : List Float → m γ), Receives registers parameter frame →
    (∀ after, Keeps taken frame after → next after = values (operands.map (·.read after))) →
    runAll platform call frame added >>= next =
      Code.runAll platform parameter call codes >>= values

/-- A constant is computed by no instruction at all. -/
theorem computes_constant (taken registers : List String) (value : Float) :
    Computes taken registers [] (.constant value) (.constant value) := by
  intro m _ _ γ platform parameter call frame next result _ agrees
  simp only [runAll, Code.run, pure_bind]
  exact agrees frame (.refl taken frame)

/-- A parameter is computed by no instruction: its register is the operand. -/
theorem computes_parameter {taken registers : List String} {position : Nat} {register : String}
    (found : registers[position]? = some register) :
    Computes taken registers [] (.parameter position) (.register register) := by
  intro m _ _ γ platform parameter call frame next result receives agrees
  obtain ⟨value, held, same⟩ := receives position register found
  have read : (Operand.register register).read frame = value := by
    simp [Operand.read, held, Value.toDouble]
  simp only [runAll, Code.run, pure_bind, same]
  rw [agrees frame (.refl taken frame), read]

/-- No codes are computed by no instructions. -/
theorem computesAll_nil (taken registers : List String) : ComputesAll taken registers [] [] [] := by
  intro m _ _ γ platform parameter call frame next result _ agrees
  simp only [runAll, Code.runAll, pure_bind]
  exact agrees frame (.refl taken frame)

section Sequence

variable {taken middle registers : List String} {front back : List Instruction}

/-- A row of codes is computed by computing the first one and then the rest, which keeps the first
operand. -/
theorem ComputesAll.cons {code : Code} {codes : List Code} {operand : Operand}
    {operands : List Operand} (first : Computes taken registers front code operand)
    (rest : ComputesAll middle registers back codes operands) (within : taken ⊆ middle)
    (receiving : registers ⊆ taken) (among : operand.Among middle) :
    ComputesAll taken registers (front ++ back) (code :: codes) (operand :: operands) := by
  intro m _ _ γ platform parameter call frame next result receives agrees
  rw [runAll_append, bind_assoc, Code.runAll, bind_assoc]
  apply first platform parameter call frame _ _ receives
  intro reached keeps
  rw [bind_assoc]
  apply rest platform parameter call reached _ _ (receives.keeps receiving keeps)
  intro after keepsMore
  rw [agrees after (keeps.trans within keepsMore), pure_bind, List.map_cons, among.read keepsMore]

/-- Two operands in turn. -/
theorem Computes.both {left right : Code} {leftOperand rightOperand : Operand}
    (first : Computes taken registers front left leftOperand)
    (second : Computes middle registers back right rightOperand) (within : taken ⊆ middle)
    (receiving : registers ⊆ taken) (among : leftOperand.Among middle)
    {m : Type → Type} [Monad m] [LawfulMonad m] {γ : Type} (platform : Platform)
    (parameter : Nat → m Float) (call : String → List Float → m Float) (frame : Frame)
    (next : Frame → m γ) (result : Float → Float → m γ)
    (receives : Receives registers parameter frame) (agrees : ∀ after, Keeps taken frame after →
      next after = result (leftOperand.read after) (rightOperand.read after)) :
    runAll platform call frame (front ++ back) >>= next =
      left.run platform parameter call >>= fun leftValue =>
        right.run platform parameter call >>= fun rightValue => result leftValue rightValue := by
  rw [runAll_append, bind_assoc]
  apply first platform parameter call frame _ _ receives
  intro reached keeps
  apply second platform parameter call reached _ _ (receives.keeps receiving keeps)
  intro after keepsMore
  rw [agrees after (keeps.trans within keepsMore), among.read keepsMore]

/-- An arithmetic operation on two operands. -/
theorem Computes.arithmetic {left right : Code} {leftOperand rightOperand : Operand}
    (first : Computes taken registers front left leftOperand)
    (second : Computes middle registers back right rightOperand) (within : taken ⊆ middle)
    (receiving : registers ⊆ taken) (among : leftOperand.Among middle) {fresh : String}
    (absent : fresh ∉ taken) (kind : Arithmetic) :
    Computes taken registers
      (front ++ back ++ [.arithmetic fresh kind leftOperand rightOperand])
      (.operation (.arithmetic kind) left right) (.register fresh) := by
  intro m _ _ γ platform parameter call frame next result receives agrees
  rw [runAll_append, bind_assoc]
  rw [first.both second within receiving among platform parameter call frame _
    (fun leftValue rightValue => result (platform.arithmetic kind leftValue rightValue)) receives]
  · simp only [Code.run, bind_assoc, pure_bind, Platform.apply]
  · intro after keeps
    simp only [runAll, run, pure_bind]
    rw [agrees _ (keeps.trans (List.Subset.refl _) (.write absent _ _)), Operand.read_write]

/-- A comparison of two operands, widened. -/
theorem Computes.below {left right : Code} {leftOperand rightOperand : Operand}
    (first : Computes taken registers front left leftOperand)
    (second : Computes middle registers back right rightOperand) (within : taken ⊆ middle)
    (receiving : registers ⊆ taken) (among : leftOperand.Among middle) {bit fresh : String}
    (absent : bit ∉ taken) (absentToo : fresh ∉ taken) :
    Computes taken registers
      (front ++ back ++ [.compare bit leftOperand rightOperand, .widen fresh bit])
      (.operation .below left right) (.register fresh) := by
  intro m _ _ γ platform parameter call frame next result receives agrees
  rw [runAll_append, bind_assoc]
  rw [first.both second within receiving among platform parameter call frame _
    (fun leftValue rightValue => result (Platform.ofBit (platform.below leftValue rightValue)))
    receives]
  · simp only [Code.run, bind_assoc, pure_bind, Platform.apply]
  · intro after keeps
    simp only [runAll, run, pure_bind]
    have kept := (keeps.trans (List.Subset.refl _) (.write absent
      (.bit (platform.below (leftOperand.read after) (rightOperand.read after))) _)).trans
      (List.Subset.refl _) (.write absentToo
        (.double (Platform.ofBit
          (platform.below (leftOperand.read after) (rightOperand.read after)))) _)
    simp only [List.lookup_cons_self, Option.map_some, Value.toBit, Option.getD_some]
    rw [agrees _ kept, Operand.read_write]

/-- A call with the operands that were computed. -/
theorem ComputesAll.call {codes : List Code} {operands : List Operand}
    (all : ComputesAll taken registers front codes operands) {fresh : String}
    (absent : fresh ∉ taken) (callee : String) :
    Computes taken registers (front ++ [.call fresh callee operands]) (.call callee codes)
      (.register fresh) := by
  intro m _ _ γ platform parameter call frame next result receives agrees
  rw [runAll_append, bind_assoc, Code.run, bind_assoc]
  apply all platform parameter call frame _ _ receives
  intro after keeps
  simp only [runAll, run, bind_assoc, pure_bind]
  apply bind_congr
  intro value
  rw [agrees _ (keeps.trans (List.Subset.refl _) (.write absent _ _)), Operand.read_write]

end Sequence

/-- Running a block is running the code that its instructions compute. -/
theorem Computes.run_block {taken registers : List String} {block : Block} {code : Code}
    {operand : Operand} (computes : Computes taken registers block.instructions code operand)
    (returned : block.returned = some operand) (platform : Platform) {parameter : Nat → m Float}
    (call : String → List Float → m Float) {frame : Frame}
    (receives : Receives registers parameter frame) :
    block.run platform call frame = code.run platform parameter call := by
  have whole := computes platform parameter call frame
    (fun last => pure ((block.returned.map (·.read last)).getD 0.0)) pure receives ?_
  · rw [Block.run, whole, bind_pure]
  · intro after _
    rw [returned]
    rfl

end Instruction

end Reckon
