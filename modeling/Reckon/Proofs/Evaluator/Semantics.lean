import Reckon.Proofs.Evaluator.Requests
import Reckon.Proofs.Semantics.Evaluation

/-!
# What the evaluator compiles denotes the body

Resolving a body gives code that denotes it. The code is kept with the function of the handle, in
whichever unit that is.
-/

namespace Reckon

open Reckon.Action

namespace Evaluator

variable {session : Session} {parameters : List String}

/-- If each body denotes the code that it is compiled to, a row of bodies denotes the row of codes.
-/
theorem compileAll_denotes {nodes : List Node}
    (each : ∀ node ∈ nodes, ∀ {before after : Evaluator} {code : Code},
      compile session parameters node before = .ok code after → Denotes id parameters node code)
    {before after : Evaluator} {codes : List Code}
    (done : compileAll session parameters nodes before = .ok codes after) :
    DenotesAll id parameters nodes codes := by
  induction nodes generalizing before codes with
  | nil =>
    rw [compileAll] at done
    cases done
    exact denotesAll_nil
  | cons node rest inductionHypothesis =>
    obtain ⟨itself, others⟩ := List.forall_mem_cons.mp each
    rw [compileAll] at done
    obtain ⟨code, middle, compiled, done⟩ := bind_eq_ok_iff.mp done
    obtain ⟨more, last, compiledMore, done⟩ := bind_eq_ok_iff.mp done
    cases done
    exact .cons (itself compiled) (inductionHypothesis others compiledMore)

/-- The code of a body denotes it. -/
theorem compile_denotes (keyed : session.Keyed) (node : Node) {before after : Evaluator}
    {code : Code} (done : compile session parameters node before = .ok code after) :
    Denotes id parameters node code := by
  induction node using Node.byParts generalizing before after code with
  | number value location =>
    rw [compile] at done
    cases done
    exact denotes_number value location
  | reference name location =>
    rw [compile] at done
    cases found : position? name parameters with
    | some position =>
      rw [found] at done
      cases done
      exact denotes_reference found location
    | none =>
      rw [found] at done
      cases done
  | binary operator left right location inLeft inRight =>
    rw [compile] at done
    obtain ⟨leftCode, middle, compiled, done⟩ := bind_eq_ok_iff.mp done
    obtain ⟨rightCode, last, compiledToo, done⟩ := bind_eq_ok_iff.mp done
    cases means : Operation.ofOperator? operator with
    | some operation =>
      rw [means] at done
      cases done
      exact (inLeft compiled).binary (inRight compiledToo) means location
    | none =>
      rw [means] at done
      cases done
  | call callee arguments location each =>
    rw [compile] at done
    obtain ⟨found, middle, resolved, done⟩ := bind_eq_ok_iff.mp done
    have finds := resolve_ensures keyed callee before
    rw [Ensures, resolved] at finds
    cases found with
    | none => cases done
    | some handle =>
      obtain ⟨_, rfl, _⟩ := finds
      obtain ⟨evaluator, _, asked, done⟩ := bind_eq_ok_iff.mp done
      cases asked
      dsimp only at done
      split at done
      · obtain ⟨codes, last, compiled, done⟩ := bind_eq_ok_iff.mp done
        cases done
        exact (compileAll_denotes each compiled).call callee location
      · cases done
  | prototype header =>
    rw [compile] at done
    cases done
  | definition header body location =>
    rw [compile] at done
    cases done

/-- A function is there still when the open unit has grown. -/
theorem Grows.function? {before after : Evaluator} (grows : Grows session before after)
    {handle : Handle} {function : Function} (found : before.function? handle = some function) :
    after.function? handle = some function := by
  by_cases current : before.current.number = handle.unit
  · obtain ⟨number, symbol⟩ := handle
    obtain rfl : before.current.number = number := current
    rw [function?_current] at found
    rw [← grows.number, function?_current]
    exact grows.kept symbol function found
  · have currentToo : after.current.number ≠ handle.unit := grows.number ▸ current
    have same : after.unit? handle.unit = before.unit? handle.unit := by
      simp only [unit?, List.cons_append, List.find?_cons, decide_eq_false current,
        decide_eq_false currentToo]
      rw [grows.same]
    rw [Evaluator.function?, same]
    exact found

/-- The function of a handle is given a body wherever its unit is. -/
theorem function?_withBody {evaluator : Evaluator} {handle : Handle} {function : Function}
    (found : evaluator.function? handle = some function) (body : Node × Code) :
    (evaluator.withBody handle body).function? handle =
      some { function with body := some body } := by
  have changed : (evaluator.withBody handle body).unit? handle.unit =
      (evaluator.unit? handle.unit).map (·.withBody handle.symbol body) := by
    have all := find?_map_if (fun unit : CodeUnit => unit.number_withBody handle.symbol body)
      handle.unit (evaluator.current :: evaluator.live ++ evaluator.released)
    rw [unit?, unit?, ← all]
    simp [withBody]
  obtain ⟨unit, among, there⟩ := Option.bind_eq_some_iff.mp found
  rw [Evaluator.function?, changed, among, Option.map_some, Option.bind_eq_bind, Option.bind_some,
    CodeUnit.withBody, there]
  exact Catalog.get?_put_self ..

/-- **A body is kept with code that denotes it.** -/
theorem defineBody_denotes (keyed : session.Keyed) {before after : Evaluator} {handle : Handle}
    {function : Function} (found : before.function? handle = some function) {body : Node}
    (done : defineBody session handle body parameters before = .ok () after) :
    ∃ code, after.function? handle = some { function with body := some (body, code) } ∧
      Denotes id parameters body code := by
  rw [defineBody, get_bind] at done
  obtain ⟨_, start, accepted, rest⟩ := bind_eq_ok_iff.mp done
  rw [check_ok accepted] at rest
  obtain ⟨code, middle, compiled, last⟩ := bind_eq_ok_iff.mp rest
  cases last
  have grows := compile_ensures keyed parameters body before
  rw [Ensures, compiled] at grows
  exact ⟨code, function?_withBody (grows.1.function? found) (body, code),
    compile_denotes keyed body compiled⟩

end Evaluator

end Reckon
