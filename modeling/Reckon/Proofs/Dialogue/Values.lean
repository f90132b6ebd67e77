import Reckon.Proofs.Evaluator.Hindrances
import Reckon.Proofs.Pairing.Runs

/-!
# When a bare expression has a value

The language has no choices, so the graph of the calls in live bodies decides how a bare
expression ends that compiles: with a value if no chain of calls from it turns in a
circle, is too long or ends at a name that nobody answers, and otherwise with the error
of what stands in the way first.

How long a chain of calls is too long, the machine decides, and it may decide otherwise
each time: operands take room on its stack as well. So nothing here is about a particular
bound; whatever it is when the expression is executed, the graph decides with it.
-/

namespace Reckon

namespace Dialogue

open Evaluator

/-- **A bare expression has a value exactly if nothing stands in its way.** Whenever a run of the
evaluator comes to a bare expression that compiles, executing it gives a value or an error of
running, and leaves the evaluator as it is, whatever depth of calls there is room for then. If every
call that can be reached from the expression has as many arguments as the live definition of its
callee has parameters, there is a value exactly if no cycle of calls can be reached, every name that
can be reached without a live definition is a function of the host, and calls nest within this
depth. Otherwise the error is that of what evaluation meets first: a name that nobody answers, or
calls that nest too deep.

The platform of the run is arbitrary, and so is its own depth, which is one of those that the
expression may be executed with. -/
theorem has_value_iff {settings : Settings} {platform : Platform} {operators : Operators}
    {cursor after : Cursor} {count : Nat} {dialogue : Dialogue Evaluator} {function : Definition}
    {handle : Handle} {compiled : Evaluator}
    (reached : steps count (withEvaluator settings platform operators cursor) = .ok () dialogue)
    (reads : dialogue.cursor.readUnit dialogue.session.operators =
      .parsed (.expression function) after)
    (defines : define dialogue.session function dialogue.backend = .ok handle compiled)
    (depth : Nat) :
    ∃ unit closed outcome, handOff compiled = .ok unit closed ∧
      Action.Comes (execute (dialogue.platform.within depth) handle []) closed outcome closed ∧
      ((∀ name given, dialogue.backend.callGraph.Reaches function.body.calls (name, given) →
          ∀ arity inner, dialogue.backend.callGraph name = some (arity, inner) → given = arity) →
        ((∃ value, outcome = .ok value) ↔
          (∀ call, dialogue.backend.callGraph.Reaches function.body.calls call →
            ¬ Relation.TransGen dialogue.backend.callGraph.Calls call.1 call.1) ∧
          (∀ call, dialogue.backend.callGraph.Reaches function.body.calls call →
            dialogue.backend.callGraph call.1 = none →
              dialogue.platform.provides call.1 = true) ∧
          ∀ levels, dialogue.backend.callGraph.Nests function.body.calls levels →
            levels ≤ depth) ∧
        ((¬ ∃ value, outcome = .ok value) → ∃ hindrance,
          dialogue.backend.callGraph.first? dialogue.platform.provides depth
            function.body.calls = some hindrance ∧
          outcome = .error (hindrance.error handle.symbol) ∧
          (hindrance.error handle.symbol).code = hindrance.code)) := by
  obtain ⟨excused, _, coupled⟩ := coupled_of_steps _ _ _ _ reached
  obtain ⟨body, spelled, rfl⟩ : ProgramUnit.Spelled (.expression function) :=
    Cursor.readUnit_spelled reads
  have ensures := define_ensures coupled.keyed coupled.settled.opened coupled.settled.earlier
    (.anonymous body)
  rw [Action.Ensures, defines] at ensures
  obtain ⟨declared, code, wraps⟩ := coupled.settled.wraps spelled ensures
  obtain ⟨outcome, comes, _⟩ := wraps.execute_comes (dialogue.platform.within depth)
  refine ⟨_, _, outcome, handOff_eq compiled, comes, fun fits => ?_⟩
  have ends := wraps.meets (fun call reaches => fits call.1 call.2 reaches)
    (dialogue.platform.within depth)
  rw [Platform.within_depth, Platform.within_provides] at ends
  have clear := @CallGraph.first?_eq_none_iff dialogue.backend.callGraph body.calls
    dialogue.platform.provides depth
  cases first :
    dialogue.backend.callGraph.first? dialogue.platform.provides depth body.calls with
  | none =>
    rw [first] at ends
    have value := wraps.comes_value comes ends
    obtain ⟨provided, bounded⟩ := clear.mp first
    exact ⟨⟨fun _ => ⟨fun call reaches => reaches.not_cycle bounded, provided, bounded⟩,
      fun _ => value⟩, fun without => (without value).elim⟩
  | some hindrance =>
    rw [first] at ends
    have failed := wraps.comes_error comes ends
    refine ⟨⟨?_, ?_⟩, fun _ => ⟨hindrance, first, failed, hindrance.error_code _⟩⟩
    · rintro ⟨value, valued⟩
      rw [failed] at valued
      cases valued
    · rintro ⟨_, provided, bounded⟩
      rw [clear.mpr ⟨provided, bounded⟩] at first
      cases first

/-- The bare expression that is read next, if it compiles. -/
def compilable? (dialogue : Dialogue Evaluator) : Option Definition :=
  match dialogue.cursor.readUnit dialogue.session.operators with
  | .parsed (.expression function) _ =>
    match define dialogue.session function dialogue.backend with
    | .ok .. => some function
    | .error .. => none
  | _ => none

/-- A bare expression that was found to compile is read next, and compiles. -/
theorem reads_of_compilable? {dialogue : Dialogue Evaluator} {function : Definition}
    (found : dialogue.compilable? = some function) :
    ∃ after handle compiled,
      dialogue.cursor.readUnit dialogue.session.operators =
        .parsed (.expression function) after ∧
      define dialogue.session function dialogue.backend = .ok handle compiled := by
  unfold compilable? at found
  split at found
  case h_2 => cases found
  case h_1 other after reads =>
    split at found
    case h_2 => cases found
    case h_1 handle compiled defines =>
      cases found
      exact ⟨after, handle, compiled, reads, defines⟩

/-- A function is called that calls another: the expression has a value where there is room for two
calls inside one another. -/
theorem has_value_iff_call :
    let cursor := Cursor.start "" "def f(x) x; def g(y) f(y)+1; g(2);".toList
    ∃ dialogue function after handle compiled,
      steps 4 (withEvaluator .quiet .doubles .standard cursor) = .ok () dialogue ∧
      dialogue.cursor.readUnit dialogue.session.operators =
        .parsed (.expression function) after ∧
      define dialogue.session function dialogue.backend = .ok handle compiled ∧
      ∀ depth, ∃ unit closed outcome, handOff compiled = .ok unit closed ∧
        Action.Comes (execute (dialogue.platform.within depth) handle []) closed outcome closed ∧
        ((∃ value, outcome = .ok value) ↔ 2 ≤ depth) := by
  intro cursor
  obtain ⟨dialogue, reached, test⟩ : ∃ dialogue,
      steps 4 (withEvaluator .quiet .doubles .standard cursor) = .ok () dialogue ∧
      dialogue.compilable?.any (fun function => function.body.calls = [("g", 1)] ∧
        dialogue.backend.callGraph "g" = some (1, [("f", 1)]) ∧
        dialogue.backend.callGraph "f" = some (1, [])) = true :=
    exists_end (by decide +kernel)
  obtain ⟨function, found, graph⟩ := (Option.any_eq_true ..).mp test
  obtain ⟨calls, outer, inner⟩ := of_decide_eq_true graph
  obtain ⟨after, handle, compiled, reads, defines⟩ := reads_of_compilable? found
  refine ⟨dialogue, function, after, handle, compiled, reached, reads, defines, fun depth => ?_⟩
  obtain ⟨unit, closed, outcome, handsOff, comes, ends⟩ :=
    has_value_iff reached reads defines depth
  refine ⟨unit, closed, outcome, handsOff, comes, ?_⟩
  have fits : ∀ name given,
      dialogue.backend.callGraph.Reaches function.body.calls (name, given) →
      ∀ arity inner, dialogue.backend.callGraph name = some (arity, inner) → given = arity := by
    intro name given reaches
    have among : (name, given) = ("g", 1) ∨ (name, given) = ("f", 1) := by
      apply @CallGraph.Reaches.all _ _ (fun call => call = ("g", 1) ∨ call = ("f", 1)) _ reaches
      · simp [calls]
      · rintro call arity found (rfl | rfl) live
        · simp_all
        · simp_all
    rcases among with itself | itself
    · simp_all
    · simp_all
  have clear : dialogue.backend.callGraph.first? dialogue.platform.provides depth
      function.body.calls = none ↔ 2 ≤ depth := by
    rw [calls]
    match depth with
    | 0 => simp [CallGraph.first?, CallGraph.order, CallGraph.hindrance?]
    | 1 =>
      rw [CallGraph.first?_live _ outer]
      simp [CallGraph.first?, CallGraph.order, CallGraph.hindrance?]
    | depth + 2 =>
      rw [CallGraph.first?_live _ outer, CallGraph.first?_live _ inner, CallGraph.first?_nil]
      simp
  obtain ⟨exactly, otherwise⟩ := ends fits
  rw [← clear]
  constructor
  · intro valued
    exact CallGraph.first?_eq_none_iff.mpr (exactly.mp valued).2
  · intro free
    by_contra valueless
    obtain ⟨hindrance, found, _⟩ := otherwise valueless
    rw [free] at found
    cases found

end Dialogue

end Reckon
