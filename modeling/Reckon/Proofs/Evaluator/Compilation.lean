import Reckon.Evaluator.Compilation
import Reckon.Proofs.Backend.Contract
import Reckon.Proofs.Calls
import Reckon.Proofs.Catalog
import Reckon.Proofs.Reading.Spelling

/-!
# Resolving leaves declarations behind

Whether a body is resolved or refused, all that changes in the evaluator is that its
open unit gains declarations of recorded prototypes. The code of a body makes the calls
that stand in the body, and for each of them the open unit then holds a function with
as many parameters.
-/

namespace Reckon

/-- Every prototype is recorded under its own name. -/
def Session.Keyed (session : Session) : Prop :=
  ∀ name prototype, session.find? name = some prototype → prototype.name = name

/-- A prototype is recorded under its own name, like the others. -/
theorem Session.Keyed.record {session : Session} (keyed : session.Keyed) (prototype : Prototype) :
    (session.record prototype).Keyed := by
  intro name known found
  rw [Session.find?_record] at found
  by_cases same : prototype.name = name
  · rw [if_pos same] at found
    cases found
    exact same
  · rw [if_neg same] at found
    exact keyed name known found

/-- A session without prototypes has none under a wrong name. -/
theorem Session.keyed_fresh : Session.fresh.Keyed := by
  intro name known found
  cases found

namespace Evaluator

open Reckon.Action

/-- The open unit only gained declarations of recorded prototypes. -/
structure Grows (session : Session) (before after : Evaluator) : Prop where
  same : after = { before with current := after.current }
  number : after.current.number = before.current.number
  kept (name : String) (function : Function)
    (found : before.current.functions.get? name = some function) :
    after.current.functions.get? name = some function
  added (name : String) (function : Function)
    (found : after.current.functions.get? name = some function) :
    before.current.functions.get? name = some function ∨
      ∃ prototype, session.find? name = some prototype ∧ function = ⟨prototype, none⟩
  entries (entry : String × Function) (member : entry ∈ after.current.functions.entries) :
    entry ∈ before.current.functions.entries ∨ entry.2.body = none

namespace Grows

/-- An evaluator that is left alone has gained nothing else. -/
theorem refl (session : Session) (evaluator : Evaluator) : Grows session evaluator evaluator :=
  ⟨rfl, rfl, fun _ _ found => found, fun _ _ found => .inl found, fun _ member => .inl member⟩

/-- What was gained in two rounds was gained. -/
theorem trans {session : Session} {first second third : Evaluator}
    (start : Grows session first second) (rest : Grows session second third) :
    Grows session first third := by
  refine ⟨?_, rest.number.trans start.number, ?_, ?_, ?_⟩
  · rw [rest.same, start.same]
  · intro name function found
    exact rest.kept name function (start.kept name function found)
  · intro name function found
    rcases rest.added name function found with earlier | recorded
    · exact start.added name function earlier
    · exact .inr recorded
  · intro entry member
    rcases rest.entries entry member with earlier | bodyless
    · exact start.entries entry earlier
    · exact .inr bodyless

end Grows

/-- The functions of the open unit are those that its handles name. -/
theorem function?_current (evaluator : Evaluator) (name : String) :
    evaluator.function? ⟨evaluator.current.number, name⟩ =
      evaluator.current.functions.get? name := by
  simp [function?, unit?]

/-- A handle of the open unit has the arity of its function. -/
theorem arityOf_current {evaluator : Evaluator} {name : String} {function : Function}
    (found : evaluator.current.functions.get? name = some function) :
    evaluator.arityOf ⟨evaluator.current.number, name⟩ = function.prototype.arity := by
  rw [arityOf, function?_current, found]

/-- The open unit holds a function of the name with the number of parameters. -/
def Holds (evaluator : Evaluator) (call : String × Nat) : Prop :=
  ∃ function, evaluator.current.functions.get? call.1 = some function ∧
    function.prototype.arity = call.2

/-- Functions that the open unit holds are not lost to declarations. -/
theorem Holds.grows {session : Session} {before after : Evaluator} {call : String × Nat}
    (holds : before.Holds call) (grows : Grows session before after) : after.Holds call := by
  obtain ⟨function, found, arity⟩ := holds
  exact ⟨function, grows.kept _ function found, arity⟩

/-- Declaring adds the function if it is not there; what is there has the same arity. -/
theorem declare_ensures (session : Session) (prototype : Prototype) (evaluator : Evaluator) :
    Ensures (declare session prototype) evaluator fun
      | .ok handle after =>
        handle = ⟨evaluator.current.number, prototype.name⟩ ∧
          session.prototypeFault? prototype = none ∧ after.Holds (prototype.name, prototype.arity) ∧
          (after = evaluator ∨
            evaluator.current.functions.get? prototype.name = none ∧
              after = { evaluator with
                current := { evaluator.current with
                  functions := evaluator.current.functions.put prototype.name ⟨prototype, none⟩ } })
      | .error fault after => after = evaluator ∧ fault.IsCompile := by
  unfold declare
  refine ensures_check (fun accepted => ensures_get ?_) fun fault refused =>
    ⟨rfl, Session.isCompile_prototypeFault refused⟩
  cases found : evaluator.current.functions.get? prototype.name with
  | some function =>
    refine ensures_check (fun same => ensures_pure ?_) fun fault refused =>
      ⟨rfl, isCompile_declarationFault refused⟩
    have arity := (declarationFault?_eq_none_iff prototype _).mp same
    exact ⟨rfl, accepted, ⟨function, found, arity⟩, .inl rfl⟩
  | none =>
    refine ensures_set (ensures_pure ⟨rfl, accepted, ?_, .inr ⟨rfl, rfl⟩⟩)
    exact ⟨⟨prototype, none⟩, Catalog.get?_put_self _ _ _, rfl⟩

/-- Declaring a recorded prototype lets the open unit grow. -/
theorem Grows.put {session : Session} {evaluator : Evaluator} {name : String}
    {prototype : Prototype} (recorded : session.find? name = some prototype)
    (absent : evaluator.current.functions.get? name = none) :
    Grows session evaluator { evaluator with
      current := { evaluator.current with
        functions := evaluator.current.functions.put name ⟨prototype, none⟩ } } := by
  refine ⟨rfl, rfl, ?_, ?_, ?_⟩
  · intro other function found
    rw [Catalog.get?_put, if_neg]
    · exact found
    · rintro rfl
      rw [absent] at found
      cases found
  · intro other function found
    rw [Catalog.get?_put] at found
    by_cases same : name = other
    · subst same
      rw [if_pos rfl] at found
      exact .inr ⟨prototype, recorded, (Option.some.inj found).symm⟩
    · rw [if_neg same] at found
      exact .inl found
  · intro entry member
    rcases Catalog.mem_entries_put member with rfl | earlier
    · exact .inr rfl
    · exact .inl earlier

/-- Looking a name up finds the function of the open unit under it. -/
theorem lookup_eq (evaluator : Evaluator) (name : String) :
    Declarations.lookup evaluator name =
      (evaluator.current.functions.get? name).map fun _ => ⟨evaluator.current.number, name⟩ := rfl

/-- A name in a call is found in the open unit afterwards, or is known nowhere. -/
theorem resolve_ensures {session : Session} (keyed : session.Keyed) (name : String)
    (evaluator : Evaluator) :
    Ensures (resolve session name) evaluator fun
      | .ok (some handle) after => Grows session evaluator after ∧
        handle = ⟨evaluator.current.number, name⟩ ∧
        ∃ function, after.current.functions.get? name = some function
      | .ok none after => after = evaluator ∧
        evaluator.current.functions.get? name = none ∧ session.find? name = none
      | .error fault after => after = evaluator ∧ fault.IsCompile := by
  unfold resolve
  apply ensures_get
  simp only [lookup_eq]
  cases there : evaluator.current.functions.get? name with
  | some function =>
    simp only [Option.map_some]
    exact ensures_pure ⟨.refl session evaluator, rfl, function, there⟩
  | none =>
    simp only [Option.map_none]
    cases recorded : session.find? name with
    | none => exact ensures_pure ⟨rfl, trivial, rfl⟩
    | some prototype =>
      have named := keyed name prototype recorded
      subst named
      apply (declare_ensures session prototype evaluator).bind
      · intro fault after refused
        exact refused
      · rintro handle after ⟨rfl, _, ⟨function, found, _⟩, rfl | ⟨_, rfl⟩⟩
        · rw [there] at found
          cases found
        · exact ensures_pure ⟨.put recorded there, rfl, function, found⟩

/-- A position that is found is that of a parameter. -/
theorem position?_lt {name : String} {parameters : List String} {position : Nat}
    (found : position? name parameters = some position) : position < parameters.length := by
  induction parameters generalizing position with
  | nil => cases found
  | cons parameter rest inductionHypothesis =>
    rw [position?] at found
    cases there : position? name rest with
    | some later =>
      rw [there] at found
      cases found
      have below := inductionHypothesis there
      simp only [List.length_cons]
      omega
    | none =>
      rw [there] at found
      by_cases same : parameter = name
      · simp only [if_pos same, Option.some.injEq] at found
        simp [← found]
      · simp only [if_neg same] at found
        cases found

/-- What resolving a body promises. -/
def Resolves (session : Session) (parameters : List String) (before : Evaluator) (node : Node) :
    EStateM.Result Fault Evaluator Code → Prop
  | .ok code after => Grows session before after ∧ code.calls = node.calls ∧
    code.ReadsBelow parameters.length ∧ ∀ call ∈ node.calls, after.Holds call
  | .error fault after => Grows session before after ∧ (node.Spelled → fault.IsCompile)

/-- The same for several bodies. -/
def ResolvesAll (session : Session) (parameters : List String) (before : Evaluator)
    (nodes : List Node) : EStateM.Result Fault Evaluator (List Code) → Prop
  | .ok codes after => Grows session before after ∧ codes.length = nodes.length ∧
    callsOfCodes codes = callsOfNodes nodes ∧ CodesReadBelow parameters.length codes ∧
    ∀ call ∈ callsOfNodes nodes, after.Holds call
  | .error fault after => Grows session before after ∧
    ((∀ node ∈ nodes, node.Spelled) → fault.IsCompile)

/-- If each body is resolved as promised wherever the evaluator has got to, so is a row of bodies.
-/
theorem compileAll_ensures (session : Session) (parameters : List String) (nodes : List Node)
    (each : ∀ node ∈ nodes, ∀ evaluator,
      Ensures (compile session parameters node) evaluator
        (Resolves session parameters evaluator node)) (evaluator : Evaluator) :
    Ensures (compileAll session parameters nodes) evaluator
      (ResolvesAll session parameters evaluator nodes) := by
  induction nodes generalizing evaluator with
  | nil =>
    rw [compileAll]
    refine ensures_pure ⟨.refl session evaluator, rfl, rfl, trivial, ?_⟩
    intro call member
    cases member
  | cons node rest inductionHypothesis =>
    rw [compileAll]
    apply (each node List.mem_cons_self evaluator).bind
    · rintro fault after ⟨grows, compiles⟩
      exact ⟨grows, fun spelled => compiles (spelled node List.mem_cons_self)⟩
    · rintro code middle ⟨grows, calls, reads, holds⟩
      have others := inductionHypothesis
        (fun node member => each node (List.mem_cons_of_mem _ member)) middle
      apply others.bind
      · rintro fault after ⟨growsMore, compiles⟩
        refine ⟨grows.trans growsMore, fun spelled => compiles fun node member => ?_⟩
        exact spelled node (List.mem_cons_of_mem _ member)
      · rintro codes after ⟨growsMore, length, callsMore, readsMore, holdsMore⟩
        refine ensures_pure ⟨grows.trans growsMore, by simp [length], ?_, ⟨reads, readsMore⟩, ?_⟩
        · rw [callsOfCodes, callsOfNodes, calls, callsMore]
        · intro call member
          rcases List.mem_append.mp member with first | later
          · exact (holds call first).grows growsMore
          · exact holdsMore call later

/-- Resolving a body keeps the promise. -/
theorem compile_ensures {session : Session} (keyed : session.Keyed) (parameters : List String)
    (node : Node) (evaluator : Evaluator) :
    Ensures (compile session parameters node) evaluator
      (Resolves session parameters evaluator node) := by
  induction node using Node.byParts generalizing evaluator with
  | number value location =>
    rw [compile]
    refine ensures_pure ⟨.refl session evaluator, rfl, trivial, ?_⟩
    intro call member
    cases member
  | reference name location =>
    rw [compile]
    cases found : position? name parameters with
    | some position =>
      refine ensures_pure ⟨.refl session evaluator, rfl, position?_lt found, ?_⟩
      intro call member
      cases member
    | none => exact ensures_throw ⟨.refl session evaluator, fun _ => ⟨_, _, rfl⟩⟩
  | binary operator left right location holdsLeft holdsRight =>
    rw [compile]
    apply (holdsLeft evaluator).bind
    · rintro fault after ⟨grows, compiles⟩
      refine ⟨grows, fun spelled => compiles ?_⟩
      cases spelled
      assumption
    · rintro leftCode middle ⟨grows, calls, reads, holds⟩
      apply (holdsRight middle).bind
      · rintro fault after ⟨growsMore, compiles⟩
        refine ⟨grows.trans growsMore, fun spelled => compiles ?_⟩
        cases spelled
        assumption
      · rintro rightCode after ⟨growsMore, callsMore, readsMore, holdsMore⟩
        cases Operation.ofOperator? operator with
        | some kind =>
          refine ensures_pure ⟨grows.trans growsMore, ?_, ⟨reads, readsMore⟩, ?_⟩
          · rw [Code.calls, Node.calls, calls, callsMore]
          · intro call member
            rcases List.mem_append.mp member with first | later
            · exact (holds call first).grows growsMore
            · exact holdsMore call later
        | none => exact ensures_throw ⟨grows.trans growsMore, fun _ => ⟨_, _, rfl⟩⟩
  | call callee arguments location each =>
    rw [compile]
    apply (resolve_ensures keyed callee evaluator).bind
    · rintro fault after ⟨rfl, compiles⟩
      exact ⟨.refl session _, fun _ => compiles⟩
    · intro found middle resolved
      cases found with
      | none =>
        obtain ⟨rfl, _, _⟩ := resolved
        exact ensures_throw ⟨.refl session _, fun _ => ⟨_, _, rfl⟩⟩
      | some handle =>
        obtain ⟨grows, rfl, function, there⟩ := resolved
        apply ensures_get
        rw [← grows.number, arityOf_current there]
        dsimp only
        by_cases arity : function.prototype.arity = arguments.length
        · rw [if_pos arity]
          apply (compileAll_ensures session parameters arguments each middle).bind
          · rintro fault after ⟨growsMore, compiles⟩
            refine ⟨grows.trans growsMore, fun spelled => compiles ?_⟩
            cases spelled
            assumption
          · rintro codes after ⟨growsMore, length, callsMore, readsMore, holdsMore⟩
            refine ensures_pure ⟨grows.trans growsMore, ?_, readsMore, ?_⟩
            · rw [Code.calls, Node.calls, callsMore, length]
            · intro call member
              rcases List.mem_append.mp member with inside | itself
              · exact holdsMore call inside
              · rw [List.mem_singleton.mp itself]
                exact ⟨function, growsMore.kept _ _ there, arity⟩
        · rw [if_neg arity]
          exact ensures_throw ⟨grows, fun _ => ⟨_, _, rfl⟩⟩
  | prototype header =>
    rw [compile]
    exact ensures_throw ⟨.refl session evaluator, fun spelled => by cases spelled⟩
  | definition header body location =>
    rw [compile]
    exact ensures_throw ⟨.refl session evaluator, fun spelled => by cases spelled⟩

end Evaluator

end Reckon
