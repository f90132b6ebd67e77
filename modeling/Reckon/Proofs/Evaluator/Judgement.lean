import Reckon.Proofs.Backend.Violations
import Reckon.Proofs.Evaluator.Semantics
import Reckon.Proofs.Evaluator.Verdicts

/-!
# Definitions are judged by their violations

The checks of a definition are spread over declaring, compiling the body and finding the
functions that it calls, and the open unit grows on the way. They come to this: a
definition is accepted if it has no violation, and otherwise the first one is reported.
-/

namespace Reckon

namespace Action

variable {σ α β : Type}

/-- The action ends well if there is no violation, and otherwise reports the first one. -/
def Reports (action : EStateM Fault σ α) (state : σ) (violations : List Violation)
    (good : α → σ → Prop) (bad : σ → Prop) : Prop :=
  Ensures action state fun
    | .ok value after => violations = [] ∧ good value after
    | .error fault after => violations.head?.map Violation.fault = some fault ∧ bad after

variable {violations others : List Violation} {state : σ} {good : β → σ → Prop} {bad : σ → Prop}

/-- Violations that come later count if there are none before. -/
theorem Reports.bind {first : EStateM Fault σ α} {next : α → EStateM Fault σ β}
    {middle : α → σ → Prop} (start : Reports first state violations middle bad)
    (continues : ∀ value after, middle value after →
      Reports (next value) after others good bad) :
    Reports (first >>= next) state (violations ++ others) good bad := by
  apply Ensures.bind start
  · rintro fault after ⟨reported, kept⟩
    refine ⟨?_, kept⟩
    cases violations with
    | nil => cases reported
    | cons violation rest => exact reported
  · rintro value after ⟨rfl, kept⟩
    exact continues value after kept

/-- A check that throws the fault of the first violation reports it, and without one the action goes
on. -/
theorem reports_check {fault? : Option Fault} {next : PUnit → EStateM Fault σ β}
    (same : fault? = violations.head?.map Violation.fault) (kept : bad state)
    (continues : violations = [] → Reports (next ⟨⟩) state others good bad) :
    Reports (check fault? >>= next) state (violations ++ others) good bad := by
  cases violations with
  | nil =>
    obtain rfl : fault? = none := same
    exact continues rfl
  | cons violation rest =>
    obtain rfl : fault? = some violation.fault := same
    exact ⟨rfl, kept⟩

/-- How an action ends may be told in weaker terms that use what is known of the violations. -/
theorem Reports.imp {action : EStateM Fault σ β} {weaker : β → σ → Prop} {weakerBad : σ → Prop}
    (reports : Reports action state violations good bad)
    (implies : violations = [] → ∀ value after, good value after → weaker value after)
    (impliesBad : violations ≠ [] → ∀ after, bad after → weakerBad after) :
    Reports action state violations weaker weakerBad := by
  unfold Reports Ensures at *
  cases ended : action state with
  | ok value after =>
    rw [ended] at reports
    exact ⟨reports.1, implies reports.1 value after reports.2⟩
  | error fault after =>
    rw [ended] at reports
    refine ⟨reports.1, impliesBad ?_ after reports.2⟩
    rintro rfl
    cases reports.1

/-- A value that is given back says that there is no violation. -/
theorem reports_pure {value : β} (kept : good value state) :
    Reports (pure value) state [] good bad := ⟨rfl, kept⟩

end Action

open Reckon.Action

/-- A declaration conflicts with one of another arity and with no other. -/
theorem declarationFault?_eq (prototype : Prototype) (arity : Nat) :
    declarationFault? prototype arity =
      (prototype.conflicts (some arity)).head?.map Violation.fault := by
  unfold declarationFault? Prototype.conflicts violationIf
  by_cases same : arity = prototype.arity <;> simp [same, Violation.fault]

/-- A prototype is refused for its first repeated parameter, or else for a recorded prototype of
another arity. -/
theorem Session.prototypeFault?_eq (session : Session) (prototype : Prototype) :
    session.prototypeFault? prototype =
      (((repetitions prototype.parameters).map fun parameter =>
        (⟨.duplicateParameter prototype.name parameter, prototype.location⟩ : Violation)) ++
        prototype.conflicts (session.arity? prototype.name)).head?.map Violation.fault := by
  unfold prototypeFault?
  rw [← head?_repetitions]
  cases repetitions prototype.parameters with
  | cons parameter rest => rfl
  | nil =>
    rw [arity?]
    cases session.find? prototype.name with
    | none => rfl
    | some known => exact declarationFault?_eq prototype known.arity

/-- A second body is refused for a name that counts as defined, unless the name is the anonymous
one. -/
theorem redefinitionFault?_eq (defined : NameSet) (name : String) (location : Option Location) :
    redefinitionFault? defined name false location =
      (violationIf (name ∈ defined ∧ name ≠ anonymousName) (.redefinition name)
        location).head?.map Violation.fault := by
  unfold redefinitionFault? violationIf
  by_cases taken : name ∈ defined ∧ name ≠ anonymousName
  · simp [taken, Violation.fault]
  · rw [if_neg taken, if_neg (by simpa using taken)]
    rfl

namespace Evaluator

/-- No position is found for a name exactly if it is no parameter. -/
theorem position?_eq_none_iff (name : String) (parameters : List String) :
    position? name parameters = none ↔ name ∉ parameters := by
  induction parameters with
  | nil => simp [position?]
  | cons parameter rest inductionHypothesis =>
    rw [position?, List.mem_cons, not_or, ← inductionHypothesis]
    cases position? name rest with
    | some position => simp
    | none => simp [eq_comm]

/-! ## Bodies -/

/-- What is computed is a value if there is no violation, and else the fault of the first one. -/
def Decides {α : Type} (outcome : Except Fault α) (violations : List Violation) : Prop :=
  match violations with
  | [] => ∃ value, outcome = .ok value
  | first :: _ => outcome = .error first.fault

section

variable {α β : Type} {outcome : Except Fault α} {rest : α → Except Fault β}
  {violations others : List Violation}

/-- What is computed after a value is decided by the violations of both parts, those of the first
part in front. -/
theorem Decides.bind (decides : Decides outcome violations)
    (continues : ∀ value, Decides (rest value) others) :
    Decides (outcome >>= rest) (violations ++ others) := by
  cases violations with
  | nil =>
    obtain ⟨value, rfl⟩ := decides
    exact continues value
  | cons first later =>
    obtain rfl : outcome = .error first.fault := decides
    rfl

/-- What ends with a violation has a value only if there is none. -/
theorem Decides.eq_nil (decides : Decides outcome violations) {value : α}
    (gives : outcome = .ok value) : violations = [] := by
  cases violations with
  | nil => rfl
  | cons first later =>
    rw [show outcome = .error first.fault from decides] at gives
    cases gives

/-- If the computation fails, it does so with the fault of the first violation. -/
theorem Decides.head?_eq (decides : Decides outcome violations) {fault : Fault}
    (fails : outcome = .error fault) : violations.head?.map Violation.fault = some fault := by
  cases violations with
  | nil =>
    obtain ⟨value, gives⟩ := decides
    rw [gives] at fails
    cases fails
  | cons first later =>
    rw [show outcome = .error first.fault from decides] at fails
    cases fails
    rfl

end

/-- If each tree is decided by its violations, the row of trees is decided by all of them in order.
-/
theorem resolutions_decided {callable? : String → Option Nat} {parameters : List String}
    {nodes : List Node}
    (each : ∀ node ∈ nodes,
      Decides (resolution callable? parameters node) (node.violations callable? parameters)) :
    Decides (resolutions callable? parameters nodes)
      (Node.violationsOfAll callable? parameters nodes) := by
  induction nodes with
  | nil =>
    rw [resolutions, Node.violationsOfAll]
    exact ⟨[], rfl⟩
  | cons node rest inductionHypothesis =>
    obtain ⟨first, others⟩ := List.forall_mem_cons.mp each
    rw [resolutions, Node.violationsOfAll]
    apply first.bind
    intro code
    rw [← List.append_nil (Node.violationsOfAll callable? parameters rest)]
    exact (inductionHypothesis others).bind fun codes => ⟨_, rfl⟩

/-- Resolving an expression is decided by the violations in it. -/
theorem resolution_decided (callable? : String → Option Nat) (parameters : List String)
    {node : Node} (spelled : node.Spelled) :
    Decides (resolution callable? parameters node) (node.violations callable? parameters) := by
  induction spelled with
  | number value location =>
    rw [resolution, Node.violations]
    exact ⟨_, rfl⟩
  | reference name location =>
    rw [resolution, Node.violations]
    have missing := position?_eq_none_iff name parameters
    cases found : position? name parameters with
    | some position =>
      have parameter : name ∈ parameters := by simpa [found] using missing
      simp only [violationIf, parameter, not_true_eq_false, if_false]
      exact ⟨_, rfl⟩
    | none =>
      simp only [violationIf, missing.mp found, not_false_eq_true, if_true]
      rfl
  | binary operator location _ _ inLeft inRight =>
    rw [resolution, Node.violations, List.append_assoc]
    refine inLeft.bind fun leftCode => inRight.bind fun rightCode => ?_
    have meaning := ofOperator?_isSome_iff operator
    cases found : Operation.ofOperator? operator with
    | some kind =>
      have meaningful : operator ∈ meaningfulOperators := by simpa [found] using meaning
      simp only [violationIf, meaningful, not_true_eq_false, if_false]
      exact ⟨_, rfl⟩
    | none =>
      have meaningless : operator ∉ meaningfulOperators := by simpa [found] using meaning
      simp only [violationIf, meaningless, not_false_eq_true, if_true]
      rfl
  | @call callee arguments location _ _ each =>
    rw [resolution, Node.violations]
    cases callable? callee with
    | none => rfl
    | some arity =>
      by_cases fits : arity = arguments.length
      · simp only [violationIf, ne_eq, fits, not_true_eq_false, if_false, if_true, List.nil_append]
        rw [← List.append_nil (Node.violationsOfAll _ _ _)]
        exact (resolutions_decided each).bind fun codes => ⟨_, rfl⟩
      · simp only [violationIf, ne_eq, fits, not_false_eq_true, if_false, if_true]
        rfl

/-! ## Definitions -/

variable {session : Session} {evaluator : Evaluator}

/-- The arity under a name in the open unit is what the judges of a definition are given. -/
theorem opened_of (session : Session) (evaluator : Evaluator) (name : String) :
    (Surroundings.of session evaluator).opened name =
      (evaluator.current.functions.get? name).map (·.prototype.arity) := by
  change (Declarations.lookup evaluator name).map (Declarations.arity evaluator) = _
  rw [lookup_eq]
  cases found : evaluator.current.functions.get? name with
  | none => rfl
  | some function => exact congrArg some (arityOf_current found)

/-- What a name means in a call, unless the function is declared that the call stands in. -/
theorem callable?_of (session : Session) (evaluator : Evaluator) (prototype : Prototype)
    (name : String) : (Surroundings.of session evaluator).callable? prototype name =
      if name = prototype.name then some prototype.arity
      else meantArity? session evaluator name := by
  rw [Surroundings.callable?, opened_of]
  rfl

/-- A declared prototype gives its name its arity as a meaning. -/
theorem meantArity?_declared {prototype : Prototype} {declared : Evaluator}
    (holds : declared.Holds (prototype.name, prototype.arity))
    (shape : declared = evaluator ∨
      evaluator.current.functions.get? prototype.name = none ∧
        declared = { evaluator with
          current := { evaluator.current with
            functions := evaluator.current.functions.put prototype.name ⟨prototype, none⟩ } }) :
    meantArity? session declared = (Surroundings.of session evaluator).callable? prototype := by
  funext name
  rw [callable?_of]
  by_cases itself : name = prototype.name
  · subst itself
    obtain ⟨function, found, arity⟩ := holds
    rw [if_pos rfl, meantArity?, found, Option.map_some, Option.some_or, arity]
  · rw [if_neg itself]
    rcases shape with rfl | ⟨_, rfl⟩
    · rfl
    · simp only [meantArity?, Catalog.get?_put, if_neg (Ne.symm itself)]

/-- What declaring a prototype comes to. -/
structure Declares (session : Session) (prototype : Prototype) (before : Evaluator)
    (handle : Handle) (after : Evaluator) : Prop where
  named : handle = ⟨before.current.number, prototype.name⟩
  same : after = { before with current := after.current }
  number : after.current.number = before.current.number
  function : ∃ function, after.current.functions.get? prototype.name = some function ∧
    function = (before.current.functions.get? prototype.name).getD ⟨prototype, none⟩
  meant : meantArity? session after = (Surroundings.of session before).callable? prototype

/-- Declaring is decided by the violations in the prototype. -/
theorem declare_reports (session : Session) (prototype : Prototype) (evaluator : Evaluator) :
    Reports (declare session prototype) evaluator
      (prototype.violations (.of session evaluator)) (Declares session prototype evaluator)
      (· = evaluator) := by
  have declares : Reports (declare session prototype) evaluator
      (prototype.violations (.of session evaluator)) (fun _ _ => True) (· = evaluator) := by
    unfold declare Prototype.violations
    refine reports_check (session.prototypeFault?_eq prototype) rfl fun _ => ensures_get ?_
    rw [opened_of]
    cases found : evaluator.current.functions.get? prototype.name with
    | none => exact ensures_set (reports_pure trivial)
    | some function =>
      dsimp only [Option.map_some]
      rw [← List.append_nil (prototype.conflicts _)]
      exact reports_check (declarationFault?_eq prototype _) rfl fun _ => reports_pure trivial
  have spec := declare_ensures session prototype evaluator
  unfold Reports Ensures at *
  cases ended : declare session prototype evaluator with
  | error fault after =>
    rw [ended] at declares
    exact declares
  | ok handle after =>
    rw [ended] at declares spec
    obtain ⟨rfl, _, holds, shape⟩ := spec
    refine ⟨declares.1, rfl, ?_, ?_, ?_, meantArity?_declared holds shape⟩
    · rcases shape with rfl | ⟨_, rfl⟩ <;> rfl
    · rcases shape with rfl | ⟨_, rfl⟩ <;> rfl
    · obtain ⟨function, found, _⟩ := holds
      refine ⟨function, found, ?_⟩
      rcases shape with rfl | ⟨absent, rfl⟩
      · rw [found]
        rfl
      · rw [Catalog.get?_put_self] at found
        cases found
        rw [absent]
        rfl

/-- Resolving a body is decided by the violations in it, with functions known by what their names
mean. -/
theorem compile_reports (keyed : session.Keyed) (distinct : session.Distinct)
    (parameters : List String) {body : Node} (spelled : body.Spelled) (start : Evaluator) :
    Reports (compile session parameters body) start
      (body.violations (meantArity? session start) parameters)
      (fun code after => resolution (meantArity? session start) parameters body = .ok code ∧
        Grows session start after)
      (Grows session start) := by
  have outcome := compile_hasOutcome keyed distinct parameters body (.refl session start)
  have decides := resolution_decided (meantArity? session start) parameters spelled
  unfold Reports HasOutcome Ensures at *
  cases ended : compile session parameters body start with
  | ok code after =>
    rw [ended] at outcome
    exact ⟨decides.eq_nil outcome.1, outcome⟩
  | error fault after =>
    rw [ended] at outcome
    exact ⟨decides.head?_eq outcome.1, outcome.2⟩

/-- Compiling a body for a declaration of the open unit is decided by whether the name is taken, and
by the violations in the body. -/
theorem defineBody_reports (keyed : session.Keyed) (distinct : session.Distinct) {name : String}
    {there : Function} (found : evaluator.current.functions.get? name = some there)
    (bodyless : there.body = none) {body : Node} (spelled : body.Spelled)
    (parameters : List String) :
    Reports (defineBody session ⟨evaluator.current.number, name⟩ body parameters) evaluator
      (violationIf (name ∈ evaluator.defined ∧ name ≠ anonymousName) (.redefinition name)
        body.location ++ body.violations (meantArity? session evaluator) parameters)
      (fun _ after => ∃ code,
        resolution (meantArity? session evaluator) parameters body = .ok code ∧
        after.function? ⟨evaluator.current.number, name⟩ =
          some { there with body := some (body, code) })
      (Grows session evaluator) := by
  have without : evaluator.hasBody ⟨evaluator.current.number, name⟩ = false := by
    rw [hasBody, function?_current, found]
    simp [bodyless]
  unfold defineBody
  refine ensures_get (reports_check ?_ (.refl session evaluator) fun _ => ?_)
  · rw [without]
    exact redefinitionFault?_eq ..
  rw [← List.append_nil (Node.violations _ _ _)]
  apply (compile_reports keyed distinct parameters spelled evaluator).bind
  rintro code after ⟨resolved, grows⟩
  refine ⟨rfl, code, resolved, ?_⟩
  have stands := grows.kept _ there found
  rw [← function?_current, grows.number] at stands
  exact function?_withBody stands (body, code)

/-- What accepting a definition comes to: the function that stood in the open unit, or else a new
one, has got the code that the body is resolved to. -/
structure Accepts (session : Session) (function : Definition) (before : Evaluator)
    (handle : Handle) (after : Evaluator) : Prop where
  named : handle = ⟨before.current.number, function.prototype.name⟩
  compiled : ∃ code,
    resolution ((Surroundings.of session before).callable? function.prototype)
      function.prototype.parameters function.body = .ok code ∧
    after.function? handle = some
      { (before.current.functions.get? function.prototype.name).getD ⟨function.prototype, none⟩ with
        body := some (function.body, code) }

/-- What refusing a definition comes to: if its prototype is well formed, it stays declared. -/
def Refuses (session : Session) (function : Definition) (before after : Evaluator) : Prop :=
  meantArity? session after =
    if function.prototype.violations (.of session before) = [] then
      (Surroundings.of session before).callable? function.prototype
    else meantArity? session before

/-- **Defining is decided by the violations in the definition**, as long as the open unit has no
body of the name. -/
theorem define_reports (keyed : session.Keyed) (distinct : session.Distinct)
    {function : Definition} (spelled : function.body.Spelled)
    (bodyless : ∀ there, evaluator.current.functions.get? function.prototype.name = some there →
      there.body = none) :
    Reports (define session function) evaluator (function.violations (.of session evaluator))
      (Accepts session function evaluator) (Refuses session function evaluator) := by
  have declares : Reports (Declarations.declare session function.prototype) evaluator
      (function.prototype.violations (.of session evaluator))
      (fun handle after => function.prototype.violations (.of session evaluator) = [] ∧
        Declares session function.prototype evaluator handle after)
      (Refuses session function evaluator) := by
    refine (declare_reports session function.prototype evaluator).imp
      (fun formed _ _ => .intro formed) ?_
    rintro broken _ rfl
    rw [Refuses, if_neg broken]
  unfold define Definition.violations
  rw [List.append_assoc]
  apply declares.bind
  rintro handle declared ⟨formed, declares⟩
  obtain ⟨there, found, shape⟩ := declares.function
  have unbodied : there.body = none := by
    subst shape
    cases stood : evaluator.current.functions.get? function.prototype.name with
    | none => rfl
    | some stands => exact bodyless stands stood
  have bodies := defineBody_reports keyed distinct found unbodied spelled
    function.prototype.parameters
  have defined : declared.defined = evaluator.defined := by rw [declares.same]
  rw [declares.meant, defined, declares.number, ← declares.named] at bodies
  rw [← List.append_nil (_ ++ _)]
  refine (bodies.imp (fun _ _ _ => id) fun _ after grows => ?_).bind fun _ after accepts => ?_
  · rw [Refuses, if_pos formed, grows.meantArity?_eq, declares.meant]
  · rw [shape] at accepts
    exact reports_pure ⟨declares.named, accepts⟩

end Evaluator

end Reckon
