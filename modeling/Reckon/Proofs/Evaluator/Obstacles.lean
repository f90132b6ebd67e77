import Reckon.Evaluator.Execution
import Reckon.Proofs.Calls

/-!
# What evaluation can stumble over

Code has no choices, so running it makes all of its calls unless one of them fails. If
it has a value, every call that can be reached was answered. If it has none, either
calls nested too deep, or a call that can be reached stands in the way: its function has
another number of parameters, or nobody has the function.
-/

namespace Reckon

/-- Going on after a failure fails, and going on after a value goes on. -/
theorem Except.bind_eq_error_iff {ε α β : Type} {first : Except ε α} {next : α → Except ε β}
    {failure : ε} : (first >>= next) = .error failure ↔
      first = .error failure ∨ ∃ value, first = .ok value ∧ next value = .error failure := by
  cases first with
  | error other => simp [bind, Except.bind]
  | ok value => simp [bind, Except.bind]

/-- There is a value after going on exactly if there was one before and it led to one. -/
theorem Except.bind_eq_ok_iff {ε α β : Type} {first : Except ε α} {next : α → Except ε β}
    {result : β} : (first >>= next) = .ok result ↔
      ∃ value, first = .ok value ∧ next value = .ok result := by
  cases first with
  | error other => simp [bind, Except.bind]
  | ok value => simp [bind, Except.bind]

namespace Evaluator

variable {platform : Platform} {arguments : List Float}
  {perform : String → List Float → Except Fault Float}

/-- An argument that is there is found by its position. -/
theorem argument_eq_ok {position : Nat} (below : position < arguments.length) :
    argument arguments position = .ok arguments[position] := by
  simp [argument, below]

/-- If codes fail, one of them fails. -/
theorem runAll_error {codes : List Code} {fault : Fault}
    (fails : Code.runAll platform (argument arguments) perform codes = .error fault) :
    ∃ code ∈ codes, code.run platform (argument arguments) perform = .error fault := by
  induction codes with
  | nil => cases fails
  | cons code rest inductionHypothesis =>
    rw [Code.runAll] at fails
    rcases Except.bind_eq_error_iff.mp fails with first | ⟨value, _, later⟩
    · exact ⟨code, List.mem_cons_self, first⟩
    · rcases Except.bind_eq_error_iff.mp later with others | ⟨values, _, impossible⟩
      · obtain ⟨culprit, member, failing⟩ := inductionHypothesis others
        exact ⟨culprit, List.mem_cons_of_mem _ member, failing⟩
      · cases impossible

/-- If codes have values, each of them has one. -/
theorem runAll_ok {codes : List Code} {values : List Float}
    (succeeds : Code.runAll platform (argument arguments) perform codes = .ok values) :
    values.length = codes.length ∧
      ∀ code ∈ codes, ∃ value, code.run platform (argument arguments) perform = .ok value := by
  induction codes generalizing values with
  | nil =>
    cases succeeds
    exact ⟨rfl, fun _ member => by cases member⟩
  | cons code rest inductionHypothesis =>
    rw [Code.runAll] at succeeds
    obtain ⟨value, first, later⟩ := Except.bind_eq_ok_iff.mp succeeds
    obtain ⟨others, rests, formed⟩ := Except.bind_eq_ok_iff.mp later
    cases formed
    obtain ⟨length, each⟩ := inductionHypothesis rests
    exact ⟨by simp [length], List.forall_mem_cons.mpr ⟨⟨value, first⟩, each⟩⟩

/-- If a row of codes reads no missing argument, none of the codes does. -/
theorem readsBelow_of_mem {arity : Nat} {codes : List Code} (reads : CodesReadBelow arity codes) :
    ∀ code ∈ codes, code.ReadsBelow arity := by
  induction codes with
  | nil => exact fun _ member => by cases member
  | cons code rest inductionHypothesis =>
    exact List.forall_mem_cons.mpr ⟨reads.1, inductionHypothesis reads.2⟩

/-- Code that reads no missing argument fails only where one of its calls does. -/
theorem run_error {code : Code} {fault : Fault} (reads : code.ReadsBelow arguments.length)
    (fails : code.run platform (argument arguments) perform = .error fault) :
    ∃ callee values, (callee, values.length) ∈ code.calls ∧
      perform callee values = .error fault := by
  induction code using Code.byParts with
  | constant value => cases fails
  | parameter position =>
    rw [Code.run, argument_eq_ok reads] at fails
    cases fails
  | operation kind left right inLeft inRight =>
    rw [Code.run] at fails
    rcases Except.bind_eq_error_iff.mp fails with first | ⟨leftValue, _, later⟩
    · obtain ⟨callee, values, member, failing⟩ := inLeft reads.1 first
      exact ⟨callee, values, List.mem_append_left _ member, failing⟩
    · rcases Except.bind_eq_error_iff.mp later with second | ⟨rightValue, _, impossible⟩
      · obtain ⟨callee, values, member, failing⟩ := inRight reads.2 second
        exact ⟨callee, values, List.mem_append_right _ member, failing⟩
      · cases impossible
  | call callee operands inOperands =>
    rw [Code.run] at fails
    rcases Except.bind_eq_error_iff.mp fails with inside | ⟨values, succeeds, itself⟩
    · obtain ⟨culprit, member, failing⟩ := runAll_error inside
      obtain ⟨inner, values, made, failingCall⟩ :=
        inOperands culprit member (readsBelow_of_mem reads culprit member) failing
      refine ⟨inner, values, List.mem_append_left _ ?_, failingCall⟩
      exact mem_callsOfCodes.mpr ⟨culprit, member, made⟩
    · refine ⟨callee, values, List.mem_append_right _ ?_, itself⟩
      rw [(runAll_ok succeeds).1]
      exact List.mem_singleton_self _

/-- Code that has a value has made each of its calls. -/
theorem run_ok {code : Code} {value : Float}
    (succeeds : code.run platform (argument arguments) perform = .ok value) :
    ∀ call ∈ code.calls, ∃ values result, values.length = call.2 ∧
      perform call.1 values = .ok result := by
  induction code using Code.byParts generalizing value with
  | constant _ => exact fun _ member => by cases member
  | parameter _ => exact fun _ member => by cases member
  | operation kind left right inLeft inRight =>
    rw [Code.run] at succeeds
    obtain ⟨leftValue, first, later⟩ := Except.bind_eq_ok_iff.mp succeeds
    obtain ⟨rightValue, second, _⟩ := Except.bind_eq_ok_iff.mp later
    intro call member
    rcases List.mem_append.mp member with inFirst | inSecond
    · exact inLeft first call inFirst
    · exact inRight second call inSecond
  | call callee operands inOperands =>
    rw [Code.run] at succeeds
    obtain ⟨values, inside, itself⟩ := Except.bind_eq_ok_iff.mp succeeds
    obtain ⟨length, each⟩ := runAll_ok inside
    intro call member
    rcases List.mem_append.mp member with inner | last
    · obtain ⟨operand, among, made⟩ := mem_callsOfCodes.mp inner
      obtain ⟨result, reached⟩ := each operand among
      exact inOperands operand among reached call made
    · rw [List.mem_singleton.mp last]
      exact ⟨values, value, length, itself⟩

/-- If each code of a row keeps its value when calls are made in another way, the row keeps its
values. -/
theorem runAll_ok_of_imp {other : String → List Float → Except Fault Float} {codes : List Code}
    {values : List Float}
    (each : ∀ code ∈ codes, ∀ value, code.run platform (argument arguments) perform = .ok value →
      code.run platform (argument arguments) other = .ok value)
    (succeeds : Code.runAll platform (argument arguments) perform codes = .ok values) :
    Code.runAll platform (argument arguments) other codes = .ok values := by
  induction codes generalizing values with
  | nil => exact succeeds
  | cons code rest inductionHypothesis =>
    obtain ⟨first, others⟩ := List.forall_mem_cons.mp each
    rw [Code.runAll] at succeeds ⊢
    obtain ⟨value, ran, later⟩ := Except.bind_eq_ok_iff.mp succeeds
    obtain ⟨values, rests, formed⟩ := Except.bind_eq_ok_iff.mp later
    rw [first value ran, inductionHypothesis others rests]
    exact formed

/-- Code keeps its value if calls are made in another way that gives them the same values. -/
theorem run_ok_of_imp {other : String → List Float → Except Fault Float} {code : Code}
    {value : Float} (succeeds : code.run platform (argument arguments) perform = .ok value)
    (same : ∀ callee values result, (callee, values.length) ∈ code.calls →
      perform callee values = .ok result → other callee values = .ok result) :
    code.run platform (argument arguments) other = .ok value := by
  induction code using Code.byParts generalizing value with
  | constant _ => exact succeeds
  | parameter _ => exact succeeds
  | operation kind left right inLeft inRight =>
    rw [Code.run] at succeeds ⊢
    obtain ⟨leftValue, first, later⟩ := Except.bind_eq_ok_iff.mp succeeds
    obtain ⟨rightValue, second, formed⟩ := Except.bind_eq_ok_iff.mp later
    rw [inLeft first fun callee values result member =>
        same callee values result (List.mem_append_left _ member),
      inRight second fun callee values result member =>
        same callee values result (List.mem_append_right _ member)]
    exact formed
  | call callee operands inOperands =>
    rw [Code.run] at succeeds ⊢
    obtain ⟨values, inside, itself⟩ := Except.bind_eq_ok_iff.mp succeeds
    have alike : Code.runAll platform (argument arguments) other operands = .ok values := by
      refine runAll_ok_of_imp (fun operand among result ran => ?_) inside
      apply inOperands operand among ran
      intro inner given reached made
      exact same inner given reached
        (List.mem_append_left _ (mem_callsOfCodes.mpr ⟨operand, among, made⟩))
    rw [alike]
    refine same callee values value (List.mem_append_right _ ?_) itself
    rw [(runAll_ok inside).1]
    exact List.mem_singleton_self _

/-- The calls that can be reached from code by way of live definitions. -/
inductive Makes (evaluator : Evaluator) : Code → String × Nat → Prop
  | here {code : Code} {call : String × Nat} (member : call ∈ code.calls) :
    Makes evaluator code call
  | through {code inner : Code} {name : String} {given arity : Nat} {call : String × Nat}
      (member : (name, given) ∈ code.calls)
      (live : evaluator.definition? name = some (arity, inner))
      (makes : Makes evaluator inner call) : Makes evaluator code call

/-- What holds of the calls of code and of live definitions holds of all that can be reached. -/
theorem Makes.all {evaluator : Evaluator} {holds : String × Nat → Prop} {code : Code}
    {call : String × Nat} (makes : Makes evaluator code call)
    (own : ∀ call ∈ code.calls, holds call)
    (live : ∀ name arity inner, evaluator.definition? name = some (arity, inner) →
      ∀ call ∈ inner.calls, holds call) : holds call := by
  induction makes with
  | here member => exact own _ member
  | through _ found _ inductionHypothesis => exact inductionHypothesis (live _ _ _ found)

/-- What can stand in the way of a call: a live definition with another number of parameters, or
that there is neither a live definition nor a host function. -/
inductive Obstacle (platform : Platform) (evaluator : Evaluator) : String × Nat → Fault → Prop
  | stale {name : String} {arity given : Nat} {code : Code}
      (live : evaluator.definition? name = some (arity, code)) (differs : given ≠ arity) :
      Obstacle platform evaluator (name, given) (.run (.staleArity name arity given))
  | unresolved {name : String} {given : Nat} (dead : evaluator.definition? name = none)
      (foreign : platform.provides name = false) :
      Obstacle platform evaluator (name, given) (.run (.unresolved [name] ""))

/-- Live code reads no argument that its function does not have. -/
def ReadsArguments (evaluator : Evaluator) : Prop :=
  ∀ name arity code, evaluator.definition? name = some (arity, code) → code.ReadsBelow arity

variable {evaluator : Evaluator}

/-- What fails is nested too deep or meets an obstacle on a call that can be reached. -/
theorem run_call_error (sound : evaluator.ReadsArguments) {depth : Nat} {code : Code}
    {fault : Fault} (reads : code.ReadsBelow arguments.length)
    (fails : code.run platform (argument arguments) (call platform evaluator depth) =
      .error fault) :
    fault = .tooDeep ∨
      ∃ call, Makes evaluator code call ∧ Obstacle platform evaluator call fault := by
  induction depth generalizing code arguments with
  | zero =>
    obtain ⟨callee, values, _, failing⟩ := run_error reads fails
    rw [call] at failing
    cases failing
    exact .inl rfl
  | succ depth inductionHypothesis =>
    obtain ⟨callee, values, member, failing⟩ := run_error reads fails
    rw [call] at failing
    cases live : evaluator.definition? callee with
    | some definition =>
      obtain ⟨arity, inner⟩ := definition
      rw [live] at failing
      by_cases same : values.length = arity
      · simp only [if_pos same] at failing
        have innerReads : inner.ReadsBelow values.length := same ▸ sound callee arity inner live
        rcases inductionHypothesis innerReads failing with deep | ⟨call, makes, obstacle⟩
        · exact .inl deep
        · exact .inr ⟨call, .through member live makes, obstacle⟩
      · simp only [if_neg same] at failing
        cases failing
        exact .inr ⟨_, .here member, .stale live same⟩
    | none =>
      rw [live] at failing
      cases found : platform.hostFunction? callee with
      | some function =>
        rw [found] at failing
        cases failing
      | none =>
        rw [found] at failing
        cases failing
        exact .inr ⟨_, .here member, .unresolved live (by simp [Platform.provides, found])⟩

/-- What has a value has no obstacle on a call that can be reached. -/
theorem run_call_ok {depth : Nat} {code : Code} {value : Float}
    (succeeds : code.run platform (argument arguments) (call platform evaluator depth) = .ok value)
    {made : String × Nat} (makes : Makes evaluator code made) :
    (∃ inner, evaluator.definition? made.1 = some (made.2, inner)) ∨
      evaluator.definition? made.1 = none ∧ platform.provides made.1 = true := by
  induction makes generalizing depth arguments value with
  | @here code made member =>
    obtain ⟨values, result, length, performed⟩ := run_ok succeeds _ member
    cases depth with
    | zero => cases performed
    | succ depth =>
      rw [call] at performed
      cases live : evaluator.definition? made.1 with
      | some definition =>
        obtain ⟨arity, inner⟩ := definition
        rw [live] at performed
        by_cases same : values.length = arity
        · rw [← length, same]
          exact .inl ⟨inner, rfl⟩
        · simp only [if_neg same] at performed
          cases performed
      | none =>
        rw [live] at performed
        cases found : platform.hostFunction? made.1 with
        | some function => exact .inr ⟨rfl, by simp [Platform.provides, found]⟩
        | none =>
          rw [found] at performed
          cases performed
  | through member live _ inductionHypothesis =>
    obtain ⟨values, result, length, performed⟩ := run_ok succeeds _ member
    cases depth with
    | zero => cases performed
    | succ depth =>
      rw [call, live] at performed
      dsimp only at performed
      split at performed
      · exact inductionHypothesis performed
      · cases performed

end Evaluator

end Reckon
