import Reckon.Proofs.Dialogue.Registry
import Reckon.Proofs.Evaluator.Judgement

/-!
# The first violation is reported

In every state that a dialogue comes to, a definition is accepted exactly if it is well
formed, and what is reported of another one is its first violation. The list of violations
knows nothing of back ends, and two dialogues over the same program give it the same
surroundings, so they report the same.
-/

namespace Reckon

open Reckon.Action

/-- A function as a definition or a bare expression is read. -/
def Definition.Parsed (function : Definition) : Prop :=
  ∃ operators, ∃ cursor after : Cursor,
    cursor.readUnit operators = .parsed (.definition function) after ∨
    cursor.readUnit operators = .parsed (.expression function) after

/-- What is read is made of words, under a word or the reserved name. -/
theorem Definition.Parsed.spelled {function : Definition} (parsed : function.Parsed) :
    Nameable function.prototype.name ∧ function.body.Spelled := by
  obtain ⟨operators, cursor, after, reads | reads⟩ := parsed
  · obtain ⟨word, spelled⟩ := Cursor.readUnit_spelled reads
    exact ⟨.inl word, spelled⟩
  · obtain ⟨body, spelled, rfl⟩ := Cursor.readUnit_spelled reads
    exact ⟨.inr rfl, spelled⟩

/-- Defining the function is decided by its violations: it succeeds exactly if the function is well
formed, and fails with the first violation otherwise. -/
structure Judged {β : Type} [Backend β] (session : Session) (backend : β) (function : Definition) :
    Prop where
  accepted : (∃ handle after, define session function backend = .ok handle after) ↔
    function.WellFormed (.of session backend)
  refused (fault : Fault) : (∃ after, define session function backend = .error fault after) ↔
    (function.violations (.of session backend)).head?.map Violation.fault = some fault

/-- If defining a spelled function reports its violations, it is judged by its well-formedness. -/
theorem judged_of_reports {β : Type} [Backend β] {session : Session} {backend : β}
    {function : Definition} (spelled : function.body.Spelled) {good : Handle → β → Prop}
    {bad : β → Prop}
    (reports : Reports (define session function) backend
      (function.violations (.of session backend)) good bad) :
    Judged session backend function := by
  have formed := function.wellFormed_iff (.of session backend) spelled
  unfold Reports Ensures at reports
  cases ended : define session function backend with
  | ok handle after =>
    rw [ended] at reports
    obtain ⟨none, _⟩ := reports
    constructor
    · exact ⟨fun _ => formed.mpr none, fun _ => ⟨handle, after, ended⟩⟩
    · intro fault
      rw [ended, none]
      exact ⟨nofun, nofun⟩
  | error fault after =>
    rw [ended] at reports
    obtain ⟨reported, _⟩ := reports
    constructor
    · refine ⟨fun ⟨_, _, done⟩ => ?_, fun isFormed => ?_⟩
      · rw [ended] at done
        cases done
      · rw [formed.mp isFormed] at reported
        cases reported
    · intro other
      rw [ended, reported]
      constructor
      · rintro ⟨_, same⟩
        cases same
        rfl
      · rintro ⟨⟩
        exact ⟨after, rfl⟩

/-- Functions that are judged by the same violations are accepted together, or refused for the same
reason. -/
theorem Judged.alike {β γ : Type} [Backend β] [Backend γ] {session other : Session} {backend : β}
    {backendToo : γ} {function : Definition} (spelled : function.body.Spelled)
    (judged : Judged session backend function) (judgedToo : Judged other backendToo function)
    (same : function.violations (.of session backend) =
      function.violations (.of other backendToo)) :
    ((∃ handle after, define session function backend = .ok handle after) ↔
      ∃ handle after, define other function backendToo = .ok handle after) ∧
    ∀ fault, (∃ after, define session function backend = .error fault after) ↔
      ∃ after, define other function backendToo = .error fault after := by
  constructor
  · rw [judged.accepted, judgedToo.accepted, function.wellFormed_iff _ spelled,
      function.wellFormed_iff _ spelled, same]
  · intro fault
    rw [judged.refused, judgedToo.refused, same]

/-- Actions that agree report the same. -/
theorem Action.Reports.of_agree {σ τ α β : Type} {action : EStateM Fault σ α}
    {other : EStateM Fault τ β} {state : σ} {stateToo : τ} {violations : List Violation}
    {good : α → σ → Prop} {bad : σ → Prop} {related : α → σ → β → τ → Prop}
    {relatedBad : σ → τ → Prop} (reports : Reports action state violations good bad)
    (agree : Agree action other state stateToo related relatedBad) :
    Reports other stateToo violations (fun _ _ => True) fun _ => True := by
  unfold Reports Ensures Agree at *
  cases ended : action state <;> cases endedToo : other stateToo <;>
    rw [ended] at reports agree <;> rw [endedToo] at agree
  · exact ⟨reports.1, trivial⟩
  · exact agree.elim
  · exact agree.elim
  · exact ⟨agree.1 ▸ reports.1, trivial⟩

/-! ## Surroundings that are alike -/

/-- The surroundings are the same as far as functions that can be named are concerned. -/
structure Surroundings.Alike (left right : Surroundings) : Prop where
  opened (name : String) (nameable : Nameable name) : left.opened name = right.opened name
  recorded : left.recorded = right.recorded
  defined : left.defined = right.defined

/-- Surroundings that are alike judge alike. -/
theorem Definition.violations_congr {function : Definition}
    (nameable : Nameable function.prototype.name) (spelled : function.body.Spelled)
    {left right : Surroundings} (alike : left.Alike right) :
    function.violations left = function.violations right := by
  have prototype : function.prototype.violations left = function.prototype.violations right := by
    rw [Prototype.violations, Prototype.violations, alike.recorded, alike.opened _ nameable]
  have callable (name : String) (word : IsWord name) :
      left.callable? function.prototype name = right.callable? function.prototype name := by
    rw [Surroundings.callable?, Surroundings.callable?, alike.recorded, alike.opened _ (.inl word)]
  have body := spelled.violations_congr callable function.prototype.parameters
  rw [Definition.violations, Definition.violations, prototype, alike.defined, body]

namespace Generator

/-- The arity under a name in the open module is that of the routine under its symbol. -/
theorem opened_of (session : Session) (generator : Generator) (name : String) :
    (Surroundings.of session generator).opened name =
      (generator.current.routines.get? (generator.current.symbol name)).map (·.arity) := by
  change (Option.map _ _).map (generator.arityOf) = _
  cases found : generator.current.routines.get? (generator.current.symbol name) with
  | none => rfl
  | some routine => exact congrArg some (arityOf_current found)

end Generator

/-- Matching units are like surroundings. -/
theorem surroundings_alike {session : Session} {evaluator : Evaluator} {generator : Generator}
    (matched : Matched evaluator.current generator.current)
    (defined : generator.defined = evaluator.defined) :
    (Surroundings.of session evaluator).Alike (.of session generator) := by
  refine ⟨fun name nameable => ?_, rfl, defined.symm⟩
  rw [Evaluator.opened_of, Generator.opened_of]
  exact matched.arities name nameable

namespace Dialogue

section

variable {function : Definition}

/-- An evaluator that some generator is coupled with judges by violations. -/
theorem reports_of_coupled {session : Session} {excused : String → String → Prop}
    {platform : Platform} {evaluator : Evaluator} {generator : Generator}
    (coupled : Coupled session excused platform evaluator generator)
    (recorded : WellRecorded session) (spelled : function.body.Spelled) :
    Reports (define session function) evaluator (function.violations (.of session evaluator))
      (Evaluator.Accepts session function evaluator)
      (Evaluator.Refuses session function evaluator) :=
  Evaluator.define_reports coupled.keyed
    (fun name known finds => (recorded name known finds).2.2) spelled
    fun _ found => coupled.settled.opened.body_eq_none found

/-- A generator that some evaluator shadows judges by violations. -/
theorem judged_of_shadowed {session : Session} {excused : String → String → Prop}
    {platform : Platform} {evaluator : Evaluator} {generator : Generator}
    (shadowed : Reckon.Shadowed session excused platform evaluator generator)
    (recorded : WellRecorded session) (nameable : Nameable function.prototype.name)
    (spelled : function.body.Spelled) : Judged session generator function := by
  have matched : Matched evaluator.current generator.current := shadowed.matched
  have agree := Generator.define_agrees shadowed.keyed nameable spelled matched
    shadowed.settled.opened shadowed.settled.earlier shadowed.earlier shadowed.defined
    fun other member => shadowed.settled.isWord_of_mem member
  have reports := (reports_of_coupled shadowed recorded spelled).of_agree agree
  rw [function.violations_congr nameable spelled (surroundings_alike matched shadowed.defined)]
    at reports
  exact judged_of_reports spelled reports

end

/-- In a run of the evaluator prototypes are recorded as they should be. -/
theorem wellRecorded_of_steps {settings : Settings} {platform : Platform} {operators : Operators}
    {cursor : Cursor} {count : Nat} {dialogue : Dialogue Evaluator}
    (reached : steps count (withEvaluator settings platform operators cursor) = .ok () dialogue) :
    WellRecorded dialogue.session := by
  obtain ⟨other, run⟩ := recordedRun rfl (wellRecorded_newSession operators)
    (accompanied_withEvaluator settings platform operators cursor).leads count
  have same := run.reached
  rw [reached] at same
  cases same
  exact run.recorded

/-- **A definition is accepted exactly if it is well formed, and otherwise its first violation is
reported.** For every program, table of operators and platform, and after any number of steps, with
the evaluator and with a generator whose machine refuses whatever units it likes, every function
that can be read is judged by its violations. After the same number of steps with each, both back
ends accept the same functions, and report the same error at the same place for the others. -/
theorem first_violation_is_reported {function : Definition} (parsed : function.Parsed)
    (settings : Settings) (platform : Platform) (operators : Operators) (level : Nat)
    (cursor : Cursor) (reasons : Nat → Option String) (count : Nat) :
    (∃ dialogue,
      stepsRefusing reasons count (withGenerator settings platform operators level cursor) =
        .ok () dialogue ∧
      Judged dialogue.session dialogue.backend function) ∧
    ∃ left right,
      steps count (withEvaluator settings platform operators cursor) = .ok () left ∧
      steps count (withGenerator settings platform operators level cursor) = .ok () right ∧
      Judged left.session left.backend function ∧
      Judged right.session right.backend function ∧
      ((∃ handle after, define left.session function left.backend = .ok handle after) ↔
        ∃ handle after, define right.session function right.backend = .ok handle after) ∧
      ∀ fault, (∃ after, define left.session function left.backend = .error fault after) ↔
        ∃ after, define right.session function right.backend = .error fault after := by
  obtain ⟨nameable, spelled⟩ := parsed.spelled
  constructor
  · have shadowed := shadowed_withGenerator settings platform operators level cursor
    obtain ⟨dialogue, run⟩ := recordedRun rfl (wellRecorded_newSession operators)
      (shadowed.leads reasons) count
    obtain ⟨evaluator, shadowedToo⟩ := shadowed.of_steps run.reached
    exact ⟨dialogue, run.reached, judged_of_shadowed shadowedToo run.recorded nameable spelled⟩
  · obtain ⟨paired, start⟩ := paired_begin settings platform operators level cursor _
    obtain ⟨left, right, reached, reachedToo, paired, _⟩ := paired.steps start count
    have recorded := wellRecorded_of_steps reached
    have coupled := paired.coupled
    have judged := judged_of_reports spelled (reports_of_coupled coupled recorded spelled)
    have judgedToo := judged_of_shadowed { coupled with accepting := rfl } recorded nameable spelled
    have same : function.violations (.of left.session left.backend) =
        function.violations (.of right.session right.backend) := by
      rw [paired.session]
      exact function.violations_congr nameable spelled
        (surroundings_alike coupled.matched coupled.defined)
    rw [← paired.session] at judgedToo
    exact ⟨left, right, reached, reachedToo, judged, judgedToo,
      judged.alike spelled judgedToo same⟩

/-- The function that is read from a text, if it is a definition. -/
def definitionOf? (text : String) : Option Definition :=
  match (Cursor.start "" text.toList).readUnit .standard with
  | .parsed (.definition function) _ => some function
  | _ => none

/-- What is read from a text as a definition is a function as it is read. -/
theorem parsed_of_definitionOf? {text : String} {function : Definition}
    (found : definitionOf? text = some function) : function.Parsed := by
  unfold definitionOf? at found
  split at found
  case h_1 other after reads =>
    cases found
    exact ⟨_, _, after, .inl reads⟩
  case h_2 => cases found

/-- A function with many mistakes: the first is the number of arguments of its first call. -/
theorem first_violation_is_reported_mistakes :
    let cursor := Cursor.start "" "def g(x y) x; extern f(a);".toList
    ∃ function dialogue location after, function.Parsed ∧
      steps 4 (withEvaluator .quiet .doubles .standard cursor) = .ok () dialogue ∧
      (function.violations (.of dialogue.session dialogue.backend)).map (·.error) =
        [.arityMismatch "g" 2 1, .unknownVariable "y", .unknownFunction "h",
          .arityMismatch "f" 1 2, .unknownVariable "z"] ∧
      define dialogue.session function dialogue.backend =
        .error (.compile (.arityMismatch "g" 2 1) location) after := by
  intro cursor
  obtain ⟨dialogue, reached, test⟩ : ∃ dialogue,
      steps 4 (withEvaluator .quiet .doubles .standard cursor) = .ok () dialogue ∧
      (definitionOf? "def f(x) g(y) - h(f(x, z))").any (fun function =>
        (function.violations (.of dialogue.session dialogue.backend)).map (·.error) =
          [.arityMismatch "g" 2 1, .unknownVariable "y", .unknownFunction "h",
            .arityMismatch "f" 1 2, .unknownVariable "z"]) = true :=
    exists_end (by decide +kernel)
  obtain ⟨function, found, mistakes⟩ := (Option.any_eq_true ..).mp test
  have parsed := parsed_of_definitionOf? found
  have mistakes := of_decide_eq_true mistakes
  obtain ⟨_, left, _, reachedToo, _, judged, _⟩ :=
    first_violation_is_reported parsed .quiet .doubles .standard 0 cursor (fun _ => none) 4
  rw [reached] at reachedToo
  cases reachedToo
  obtain ⟨first, rest, listed, first_error, _⟩ := List.map_eq_cons_iff.mp mistakes
  obtain ⟨after, failed⟩ := (judged.refused first.fault).mpr (by rw [listed]; rfl)
  refine ⟨function, dialogue, first.location, after, parsed, reached, mistakes, ?_⟩
  rw [failed, Violation.fault, first_error]

end Dialogue

end Reckon
