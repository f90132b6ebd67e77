import Reckon.Backend
import Reckon.Proofs.Reading.Spelling

/-!
# Well-formed definitions

Whether a definition is well formed can be told before anything is compiled, from the
parameters of the functions that are known and from the names that are taken. It is told
here twice: by rules, and by listing every place where a rule is broken. The list is in
the order in which one reads: first the prototype, then the name, then the body with
operands before their operator and a call before its arguments.
-/

namespace Reckon

/-- What a definition is judged by. -/
structure Surroundings where
  /-- The numbers of parameters of the functions in the open unit. -/
  opened : String → Option Nat
  /-- The numbers of parameters of the recorded prototypes. -/
  recorded : String → Option Nat
  /-- The names of the functions that count as defined. -/
  defined : NameSet

/-- What a back end and a session give a definition to be judged by. -/
def Surroundings.of {β : Type} [Backend β] (session : Session) (backend : β) : Surroundings where
  opened name := (Declarations.lookup backend name).map (Declarations.arity backend)
  recorded name := (session.find? name).map Prototype.arity
  defined := Backend.defined backend

/-- How many arguments a call in the body of a function takes: the function itself can be called,
and so can those of the open unit and those that are recorded. -/
def Surroundings.callable? (surroundings : Surroundings) (prototype : Prototype) (name : String) :
    Option Nat :=
  if name = prototype.name then some prototype.arity
  else (surroundings.opened name).or (surroundings.recorded name)

/-- The operators with a meaning. -/
def meaningfulOperators : List String := ["+", "-", "*", "<"]

/-- The operators with a meaning are the ones of the list. -/
theorem ofOperator?_isSome_iff (operator : String) :
    (Operation.ofOperator? operator).isSome = true ↔ operator ∈ meaningfulOperators := by
  unfold Operation.ofOperator? meaningfulOperators
  split
  · simp_all
  split
  · simp_all
  split
  · simp_all
  split <;> simp_all

/-! ## By rules -/

/-- Variables are parameters, calls fit functions that can be called, and operators have a
meaning. -/
inductive Node.WellFormed (callable? : String → Option Nat) (parameters : List String) : Node → Prop
  | number (value : Float) (location : Option Location) :
      WellFormed callable? parameters (.number value location)
  | reference {name : String} (location : Option Location) (parameter : name ∈ parameters) :
      WellFormed callable? parameters (.reference name location)
  | binary {operator : String} {left right : Node} (location : Option Location)
      (leftFormed : WellFormed callable? parameters left)
      (rightFormed : WellFormed callable? parameters right)
      (meaning : operator ∈ meaningfulOperators) :
      WellFormed callable? parameters (.binary operator left right location)
  | call {callee : String} {arguments : List Node} (location : Option Location)
      (fits : callable? callee = some arguments.length)
      (formed : ∀ argument ∈ arguments, WellFormed callable? parameters argument) :
      WellFormed callable? parameters (.call callee arguments location)

/-- The parameters are distinct and as many as those of every known function of the name. -/
structure Prototype.WellFormed (surroundings : Surroundings) (prototype : Prototype) : Prop where
  distinct : prototype.parameters.Nodup
  recorded (arity : Nat) (known : surroundings.recorded prototype.name = some arity) :
    arity = prototype.arity
  opened (arity : Nat) (known : surroundings.opened prototype.name = some arity) :
    arity = prototype.arity

/-- A new function, or an anonymous one, with a well-formed prototype and a well-formed body. -/
structure Definition.WellFormed (surroundings : Surroundings) (function : Definition) : Prop where
  prototype : function.prototype.WellFormed surroundings
  new : function.prototype.name ∈ surroundings.defined → function.prototype.name = anonymousName
  body : function.body.WellFormed (surroundings.callable? function.prototype)
    function.prototype.parameters

/-! ## By places -/

/-- A rule that is broken at a place. -/
structure Violation where
  error : CompileError
  location : Option Location
  deriving DecidableEq, Repr

/-- How a back end reports a violation. -/
def Violation.fault (violation : Violation) : Fault := .compile violation.error violation.location

/-- A violation if the rule is broken. -/
def violationIf (broken : Prop) [Decidable broken] (error : CompileError)
    (location : Option Location) : List Violation :=
  if broken then [⟨error, location⟩] else []

/-- Something is found wrong exactly where the condition is broken. -/
@[simp] theorem violationIf_eq_nil_iff {broken : Prop} [Decidable broken] {error : CompileError}
    {location : Option Location} : violationIf broken error location = [] ↔ ¬ broken := by
  simp [violationIf]

/-- Names that stand somewhere further in front as well. -/
def repetitions (names : List String) : List String :=
  (names.zipIdx.filter fun entry => decide (entry.1 ∈ names.take entry.2)).map Prod.fst

/-- The first repetition is the one that is looked for from the front. -/
theorem head?_repetitions (names : List String) :
    (repetitions names).head? = firstRepeated? [] names := by
  suffices general : ∀ before : List String,
      (((names.zipIdx before.length).filter fun entry =>
        decide (entry.1 ∈ (before.reverse ++ names).take entry.2)).map Prod.fst).head? =
        firstRepeated? before names from general []
  induction names with
  | nil => exact fun _ => rfl
  | cons name rest inductionHypothesis =>
    intro before
    have later := inductionHypothesis (name :: before)
    rw [List.reverse_cons, List.append_assoc, List.singleton_append, List.length_cons] at later
    have front : (before.reverse ++ name :: rest).take before.length = before.reverse := by
      rw [← List.length_reverse, List.take_left]
    rw [List.zipIdx_cons, List.filter_cons, front, firstRepeated?]
    by_cases present : name ∈ before
    · simp [present]
    · simpa [present] using later

/-- No name is repeated exactly if all are distinct. -/
theorem repetitions_eq_nil_iff (names : List String) : repetitions names = [] ↔ names.Nodup := by
  rw [← List.head?_eq_none_iff, head?_repetitions, firstRepeated?_eq_none_iff]
  simp

mutual

/-- The violations in an expression. -/
def Node.violations (callable? : String → Option Nat) (parameters : List String) :
    Node → List Violation
  | .reference name location =>
    violationIf (name ∉ parameters) (.unknownVariable name) location
  | .binary operator left right location =>
    left.violations callable? parameters ++ right.violations callable? parameters ++
      violationIf (operator ∉ meaningfulOperators) (.invalidOperator operator) location
  | .call callee arguments location =>
    (match callable? callee with
      | some arity =>
        violationIf (arity ≠ arguments.length) (.arityMismatch callee arity arguments.length)
          location
      | none => [⟨.unknownFunction callee, location⟩]) ++
    Node.violationsOfAll callable? parameters arguments
  | .number _ _ | .prototype _ | .definition _ _ _ => []

/-- The violations in expressions, from left to right. -/
def Node.violationsOfAll (callable? : String → Option Nat) (parameters : List String) :
    List Node → List Violation
  | [] => []
  | node :: rest =>
    node.violations callable? parameters ++ Node.violationsOfAll callable? parameters rest

end

/-- The violation of a prototype that differs from a known function of the name. -/
def Prototype.conflicts (prototype : Prototype) : Option Nat → List Violation
  | some arity =>
    violationIf (arity ≠ prototype.arity)
      (.conflictingDeclaration prototype.name arity prototype.arity) prototype.location
  | none => []

/-- The violations in a prototype: repeated parameters, and other numbers of them than those
recorded and those of the open unit. -/
def Prototype.violations (surroundings : Surroundings) (prototype : Prototype) : List Violation :=
  (repetitions prototype.parameters).map (fun parameter =>
    ⟨.duplicateParameter prototype.name parameter, prototype.location⟩) ++
  prototype.conflicts (surroundings.recorded prototype.name) ++
  prototype.conflicts (surroundings.opened prototype.name)

/-- The violations in a definition: those in its prototype, a name that is taken, and those in its
body. -/
def Definition.violations (surroundings : Surroundings) (function : Definition) : List Violation :=
  function.prototype.violations surroundings ++
  violationIf
    (function.prototype.name ∈ surroundings.defined ∧ function.prototype.name ≠ anonymousName)
    (.redefinition function.prototype.name) function.body.location ++
  function.body.violations (surroundings.callable? function.prototype)
    function.prototype.parameters

/-! ## Both ways are one -/

/-- Nothing is wrong with a row of trees exactly if nothing is wrong with any of them. -/
theorem Node.violationsOfAll_eq_nil_iff {callable? : String → Option Nat} {parameters : List String}
    {nodes : List Node} : Node.violationsOfAll callable? parameters nodes = [] ↔
      ∀ node ∈ nodes, node.violations callable? parameters = [] := by
  induction nodes with
  | nil => simp [Node.violationsOfAll]
  | cons node rest inductionHypothesis =>
    rw [Node.violationsOfAll, List.append_eq_nil_iff, inductionHypothesis, List.forall_mem_cons]

/-- An expression is well formed exactly if it has no violation. -/
theorem Node.Spelled.wellFormed_iff {node : Node} (spelled : node.Spelled)
    (callable? : String → Option Nat) (parameters : List String) :
    node.WellFormed callable? parameters ↔ node.violations callable? parameters = [] := by
  induction spelled with
  | number value location => exact ⟨fun _ => rfl, fun _ => .number value location⟩
  | reference name location =>
    rw [Node.violations, violationIf_eq_nil_iff, Decidable.not_not]
    constructor
    · rintro ⟨⟩
      assumption
    · exact .reference location
  | binary operator location _ _ inLeft inRight =>
    rw [Node.violations, List.append_eq_nil_iff, List.append_eq_nil_iff, violationIf_eq_nil_iff,
      Decidable.not_not, ← inLeft, ← inRight]
    constructor
    · rintro ⟨⟩
      exact ⟨⟨‹_›, ‹_›⟩, ‹_›⟩
    · rintro ⟨⟨left, right⟩, meaning⟩
      exact .binary location left right meaning
  | @call callee arguments location _ _ each =>
    simp only [Node.violations, List.append_eq_nil_iff, Node.violationsOfAll_eq_nil_iff]
    constructor
    · rintro (_ | _ | _ | ⟨_, fits, formed⟩)
      refine ⟨?_, fun argument member => (each argument member).mp (formed argument member)⟩
      simp [fits]
    · rintro ⟨fits, formed⟩
      refine .call location ?_ fun argument member =>
        (each argument member).mpr (formed argument member)
      cases known : callable? callee with
      | none => simp [known] at fits
      | some arity =>
        simp only [known, violationIf_eq_nil_iff, ne_eq, Decidable.not_not] at fits
        exact congrArg some fits

/-- A prototype is in no conflict exactly if a known function of the name has as many parameters. -/
theorem Prototype.conflicts_eq_nil_iff (prototype : Prototype) (known? : Option Nat) :
    prototype.conflicts known? = [] ↔ ∀ arity, known? = some arity → arity = prototype.arity := by
  cases known? <;> simp [Prototype.conflicts]

/-- A prototype is well formed exactly if it has no violation. -/
theorem Prototype.wellFormed_iff (surroundings : Surroundings) (prototype : Prototype) :
    prototype.WellFormed surroundings ↔ prototype.violations surroundings = [] := by
  simp only [Prototype.violations, List.append_eq_nil_iff, List.map_eq_nil_iff,
    repetitions_eq_nil_iff, Prototype.conflicts_eq_nil_iff]
  constructor
  · exact fun formed => ⟨⟨formed.distinct, formed.recorded⟩, formed.opened⟩
  · exact fun ⟨⟨distinct, recorded⟩, opened⟩ => ⟨distinct, recorded, opened⟩

/-- **A definition is well formed exactly if it has no violation.** -/
theorem Definition.wellFormed_iff (surroundings : Surroundings) {function : Definition}
    (spelled : function.body.Spelled) :
    function.WellFormed surroundings ↔ function.violations surroundings = [] := by
  simp only [Definition.violations, List.append_eq_nil_iff, violationIf_eq_nil_iff, not_and, ne_eq,
    Decidable.not_not, ← Prototype.wellFormed_iff, ← spelled.wellFormed_iff]
  constructor
  · exact fun formed => ⟨⟨formed.prototype, formed.new⟩, formed.body⟩
  · exact fun ⟨⟨prototype, new⟩, body⟩ => ⟨prototype, new, body⟩

/-! ## What the judgement depends on -/

/-- Only the functions that are called count. -/
theorem Node.Spelled.violations_congr {node : Node} (spelled : node.Spelled)
    {callable? other? : String → Option Nat}
    (same : ∀ name, IsWord name → callable? name = other? name) (parameters : List String) :
    node.violations callable? parameters = node.violations other? parameters := by
  induction spelled with
  | number value location => rfl
  | reference name location => rfl
  | binary operator location _ _ inLeft inRight =>
    simp only [Node.violations, inLeft, inRight]
  | @call callee arguments location word spelled each =>
    have inArguments : Node.violationsOfAll callable? parameters arguments =
        Node.violationsOfAll other? parameters arguments := by
      induction arguments with
      | nil => rfl
      | cons argument rest inductionHypothesis =>
        obtain ⟨first, others⟩ := List.forall_mem_cons.mp each
        rw [Node.violationsOfAll, Node.violationsOfAll, first,
          inductionHypothesis (List.forall_mem_cons.mp spelled).2 others]
    simp only [Node.violations, same callee word, inArguments]

end Reckon
