import Reckon.Proofs.Backend.Attempts
import Reckon.Proofs.Backend.Imitation
import Reckon.Proofs.Evaluator.Likeness
import Reckon.Proofs.Evaluator.Semantics
import Reckon.Proofs.Evaluator.Stock
import Reckon.Proofs.Evaluator.Verdicts

/-!
# Trying a definition again

After a refused attempt the evaluator knows more declarations than before, and nothing else has
changed. A definition that it would have accepted before is compiled to the same code, and what
the units hold for a name when they are handed off is the same.
-/

namespace Reckon

namespace Evaluator

open Reckon.Action

variable {session : Session} {allowed : Prototype → Prop} {left right : Evaluator}

/-- The right evaluator has more declarations in its open unit than the left one, with as many
parameters as the prototypes of their names that may come. -/
structure Covers (allowed : Prototype → Prop) (left right : Evaluator) : Prop where
  same : right = { left with current := right.current }
  number : right.current.number = left.current.number
  kept (name : String) (function : Function)
    (found : left.current.functions.get? name = some function) :
    ∃ other, right.current.functions.get? name = some other ∧
      other.prototype.arity = function.prototype.arity ∧ other.body = function.body
  added (name : String) (absent : left.current.functions.get? name = none) (other : Function)
    (found : right.current.functions.get? name = some other) :
    other.body = none ∧ ∀ prototype, allowed prototype → prototype.name = name →
      other.prototype.arity = prototype.arity

namespace Covers

/-- The name stands for functions that look alike in both open units afterwards. -/
theorem put (covers : Covers allowed left right) (name : String) {function other : Function}
    (arity : other.prototype.arity = function.prototype.arity) (body : other.body = function.body) :
    Covers allowed
      { left with current := { left.current with
        functions := left.current.functions.put name function } }
      { right with current := { right.current with
        functions := right.current.functions.put name other } } := by
  refine ⟨?_, covers.number, ?_, ?_⟩
  · rw [covers.same]
  all_goals simp only [Catalog.get?_put]
  · intro sought there found
    split at found
    · rename_i same
      cases found
      exact ⟨other, if_pos same, arity, body⟩
    · rename_i differs
      rw [if_neg differs]
      exact covers.kept sought there found
  · intro sought absent there found
    split at absent
    · cases absent
    · rename_i differs
      rw [if_neg differs] at found
      exact covers.added sought absent there found

/-- A declaration that only the right open unit had comes into the left one. -/
theorem catchUp (covers : Covers allowed left right) {prototype : Prototype}
    (may : allowed prototype) (absent : left.current.functions.get? prototype.name = none)
    {other : Function} (found : right.current.functions.get? prototype.name = some other) :
    Covers allowed
      { left with current := { left.current with
        functions := left.current.functions.put prototype.name ⟨prototype, none⟩ } } right := by
  obtain ⟨bodyless, arity⟩ := covers.added _ absent other found
  refine ⟨?_, covers.number, ?_, ?_⟩
  · rw [covers.same]
  all_goals simp only [Catalog.get?_put]
  · intro sought there standing
    split at standing
    · rename_i same
      subst same
      cases standing
      exact ⟨other, found, arity prototype may rfl, bodyless⟩
    · exact covers.kept sought there standing
  · intro sought missing there standing
    split at missing
    · cases missing
    · exact covers.added sought missing there standing

end Covers

/-- What is accepted and in the open unit already, with the same arity, stays as it is. -/
theorem declare_present {evaluator : Evaluator} {prototype : Prototype} {function : Function}
    (accepted : session.prototypeFault? prototype = none)
    (found : evaluator.current.functions.get? prototype.name = some function)
    (arity : function.prototype.arity = prototype.arity) :
    declare session prototype evaluator =
      .ok ⟨evaluator.current.number, prototype.name⟩ evaluator := by
  unfold declare
  rw [accepted, check, pure_bind, get_bind]
  simp only [found]
  rw [(declarationFault?_eq_none_iff prototype _).mpr arity, check, pure_bind]
  rfl

/-- An evaluator with more declarations does what one with less does, as long as the
declarations agree with the prototypes that come. -/
theorem covering (session : Session) (allowed : Prototype → Prop) :
    Covering session allowed (Covers allowed) := by
  constructor
  case found =>
    intro left right covers name handle there
    rw [lookup_eq] at there ⊢
    obtain ⟨function, found, rfl⟩ := Option.map_eq_some_iff.mp there
    obtain ⟨other, foundToo, arity, _⟩ := covers.kept name function found
    rw [foundToo, covers.number]
    refine ⟨rfl, ?_⟩
    change right.arityOf _ = left.arityOf _
    rw [arityOf_current found, ← covers.number, arityOf_current foundToo, arity]
  case declare =>
    intro left right covers prototype may handle after done
    change declare session prototype left = _ at done
    have declares := declare_ensures session prototype left
    rw [Ensures, done] at declares
    obtain ⟨rfl, accepted, ⟨function, there, arity⟩, shape⟩ := declares
    have looked : Declarations.lookup after prototype.name =
        some ⟨left.current.number, prototype.name⟩ := by
      rw [lookup_eq, there]
      rcases shape with rfl | ⟨_, rfl⟩ <;> rfl
    have handles : (⟨right.current.number, prototype.name⟩ : Handle) =
        ⟨left.current.number, prototype.name⟩ := by rw [covers.number]
    rcases shape with rfl | ⟨absent, rfl⟩
    · obtain ⟨other, thereToo, arityToo, _⟩ := covers.kept _ function there
      exact ⟨_, _, declare_present accepted thereToo (arityToo.trans arity), handles, covers,
        looked⟩
    · cases standing : right.current.functions.get? prototype.name with
      | none =>
        exact ⟨_, _, declare_absent accepted standing, handles, covers.put _ rfl rfl, looked⟩
      | some other =>
        have arityToo := (covers.added _ absent other standing).2 prototype may rfl
        exact ⟨_, _, declare_present accepted standing arityToo, handles,
          covers.catchUp may absent standing, looked⟩
  case stands =>
    intro state after prototype handle given there done
    rw [lookup_eq] at there
    obtain ⟨function, found, rfl⟩ := Option.map_eq_some_iff.mp there
    have declares := declare_ensures session prototype state
    change declare session prototype state = _ at done
    rw [Ensures, done] at declares
    obtain ⟨rfl, _, _, rfl | ⟨absent, _⟩⟩ := declares
    · exact ⟨rfl, rfl⟩
    · rw [absent] at found
      cases found

/-! ## Bodies -/

/-- The right action does what the left one does, and the right evaluator stays ahead. -/
abbrev Mirrors {α : Type} (allowed : Prototype → Prop) (action : Action Evaluator α)
    (left right : Evaluator) : Prop :=
  Imitates action action left right fun value after valueToo afterToo =>
    valueToo = value ∧ Covers allowed after afterToo

/-- If each body is compiled alike with more declarations around, so is a row of bodies. -/
theorem compileAll_mirrors {parameters : List String} {nodes : List Node}
    (each : ∀ node ∈ nodes, ∀ left right, Covers allowed left right →
      Mirrors allowed (compile session parameters node) left right)
    (covers : Covers allowed left right) :
    Mirrors allowed (compileAll session parameters nodes) left right := by
  induction nodes generalizing left right with
  | nil =>
    rw [compileAll]
    exact imitates_pure ⟨rfl, covers⟩
  | cons node rest inductionHypothesis =>
    obtain ⟨itself, others⟩ := List.forall_mem_cons.mp each
    rw [compileAll]
    apply (itself left right covers).bind
    rintro code middle _ middleToo ⟨rfl, covers⟩
    apply (inductionHypothesis others covers).bind
    rintro codes after _ afterToo ⟨rfl, covers⟩
    exact imitates_pure ⟨rfl, covers⟩

/-- What resolves on the left resolves on the right, to the same code. -/
theorem compile_mirrors
    (recorded : ∀ name known, session.find? name = some known → known.name = name ∧ allowed known)
    (parameters : List String) (node : Node) (covers : Covers allowed left right) :
    Mirrors allowed (compile session parameters node) left right := by
  induction node using Node.byParts generalizing left right with
  | number value location =>
    rw [compile]
    exact imitates_pure ⟨rfl, covers⟩
  | reference name location =>
    rw [compile]
    cases position? name parameters with
    | some position => exact imitates_pure ⟨rfl, covers⟩
    | none => exact imitates_throw _
  | binary operator leftNode rightNode location inLeft inRight =>
    rw [compile]
    apply (inLeft covers).bind
    rintro leftCode middle _ middleToo ⟨rfl, covers⟩
    apply (inRight covers).bind
    rintro rightCode after _ afterToo ⟨rfl, covers⟩
    cases Operation.ofOperator? operator with
    | some kind => exact imitates_pure ⟨rfl, covers⟩
    | none => exact imitates_throw _
  | call callee arguments location each =>
    rw [compile]
    apply ((covering session allowed).resolve recorded covers callee).bind
    intro found middle foundToo middleToo means
    cases found with
    | none => exact imitates_throw _
    | some handle =>
      obtain ⟨rfl, covers, arity⟩ := means handle rfl
      change middleToo.arityOf handle = middle.arityOf handle at arity
      apply imitates_get
      dsimp only
      rw [arity]
      split
      · apply (compileAll_mirrors (fun node member left right => each node member) covers).bind
        rintro codes after _ afterToo ⟨rfl, covers⟩
        exact imitates_pure ⟨rfl, covers⟩
      · exact imitates_throw _
  | prototype header =>
    rw [compile]
    exact imitates_throw _
  | definition header body location =>
    rw [compile]
    exact imitates_throw _

/-- A function of the open unit gets a body in its place. -/
theorem current_withBody {evaluator : Evaluator} {name : String} {function : Function}
    (found : evaluator.current.functions.get? name = some function) (body : Node × Code) :
    (evaluator.withBody ⟨evaluator.current.number, name⟩ body).current =
      { evaluator.current with
        functions :=
          evaluator.current.functions.put name { function with body := some body } } := by
  simp [Evaluator.withBody, CodeUnit.withBody, found]

/-- The same body for a function of both open units. -/
theorem Covers.withBody (covers : Covers allowed left right) {name : String} {function : Function}
    (found : left.current.functions.get? name = some function) (body : Node × Code) :
    Covers allowed
      { left.withBody ⟨left.current.number, name⟩ body with defined := left.defined.insert name }
      { right.withBody ⟨left.current.number, name⟩ body with
        defined := right.defined.insert name } := by
  obtain ⟨other, foundToo, arity, _⟩ := covers.kept name function found
  have current := current_withBody found body
  have currentToo := current_withBody foundToo body
  rw [covers.number] at currentToo
  have bodied : Covers allowed
      { left with current := { left.current with
        functions := left.current.functions.put name { function with body := some body } } }
      { right with current := { right.current with
        functions := right.current.functions.put name { other with body := some body } } } :=
    covers.put name arity rfl
  constructor
  case same =>
    rw [covers.same]
    rfl
  all_goals
    dsimp only
    rw [current, currentToo]
  case number => exact bodied.number
  case kept => exact bodied.kept
  case added => exact bodied.added

/-- Compiling a body for a function of both open units. -/
theorem defineBody_mirrors
    (recorded : ∀ name known, session.find? name = some known → known.name = name ∧ allowed known)
    (covers : Covers allowed left right) {name : String} {function : Function}
    (found : left.current.functions.get? name = some function) (body : Node)
    (parameters : List String) :
    Imitates (defineBody session ⟨left.current.number, name⟩ body parameters)
      (defineBody session ⟨left.current.number, name⟩ body parameters) left right
      fun _ after _ afterToo => Covers allowed after afterToo ∧
        Declarations.lookup after name = some ⟨left.current.number, name⟩ := by
  obtain ⟨other, foundToo, _, same⟩ := covers.kept name function found
  have bodied : right.hasBody ⟨left.current.number, name⟩ =
      left.hasBody ⟨left.current.number, name⟩ := by
    have there := right.function?_current name
    rw [covers.number] at there
    rw [hasBody, hasBody, there, function?_current, found, foundToo]
    exact congrArg Option.isSome same
  have defined : right.defined = left.defined := by rw [covers.same]
  unfold defineBody
  apply imitates_get
  apply imitates_check
  · rw [defined, bodied]
    exact id
  · intro _ value after done
    obtain ⟨code, middle, compiled, last⟩ := bind_eq_ok_iff.mp done
    cases last
    obtain ⟨codeToo, middleToo, compiledToo, rfl, coversToo⟩ :=
      compile_mirrors recorded parameters body covers _ _ compiled
    have adds := (compile_adds session parameters body left).of_ok compiled (.refl ..)
    have stands := Catalog.get?_of_prefix adds.extended.isPrefix found
    have complete := coversToo.withBody stands (body, codeToo)
    have current := current_withBody stands (body, codeToo)
    rw [adds.number] at complete current
    refine ⟨⟨⟩, _, bind_ok compiledToo, complete, ?_⟩
    rw [lookup_eq]
    dsimp only
    rw [current, Catalog.get?_put_self]
    exact congrArg (fun number => some (Handle.mk number name)) adds.number

/-- What is defined on the left can be defined on the right. -/
theorem define_mirrors
    (recorded : ∀ name known, session.find? name = some known → known.name = name ∧ allowed known)
    (covers : Covers allowed left right) {function : Definition}
    (may : allowed function.prototype) :
    Imitates (define session function) (define session function) left right
      fun handle after handleToo afterToo => handleToo = handle ∧ Covers allowed after afterToo ∧
        Declarations.lookup after function.prototype.name = some handle := by
  apply ((covering session allowed).declare covers may).bind
  rintro handle declared _ declaredToo ⟨rfl, covers, there⟩
  rw [lookup_eq] at there
  obtain ⟨standing, found, rfl⟩ := Option.map_eq_some_iff.mp there
  apply (defineBody_mirrors recorded covers found function.body _).bind
  rintro _ after _ afterToo ⟨covers, stands⟩
  exact imitates_pure ⟨rfl, covers, stands⟩

/-! ## Answers -/

/-- Both open units hold the same code for a name. -/
theorem Covers.code?_eq (covers : Covers allowed left right) (name : String) :
    right.current.code? name = left.current.code? name := by
  unfold CodeUnit.code?
  cases found : left.current.functions.get? name with
  | some function =>
    obtain ⟨other, foundToo, arity, body⟩ := covers.kept name function found
    simp only [foundToo, Option.bind_eq_bind, Option.bind_some, body, arity]
  | none =>
    cases foundToo : right.current.functions.get? name with
    | none => rfl
    | some other =>
      obtain ⟨bodyless, _⟩ := covers.added name found other foundToo
      simp [bodyless]

/-- Calls are settled alike once both open units are handed off. -/
theorem Covers.definition?_closed (covers : Covers allowed left right) :
    right.closed.definition? = left.closed.definition? := by
  have live : right.live = left.live := by rw [covers.same]
  funext name
  simp only [definition?, closed, List.reverse_append, List.reverse_singleton,
    List.singleton_append, List.findSome?_cons, covers.code?_eq, live]

/-- A function of the left open unit has the same arity and body once both are handed off. -/
theorem Covers.function?_closed (covers : Covers allowed left right) {name : String}
    {function : Function} (found : left.current.functions.get? name = some function) :
    (right.closed.function? ⟨left.current.number, name⟩).map
        (fun there => (there.prototype.arity, there.body)) =
      (left.closed.function? ⟨left.current.number, name⟩).map
        fun there => (there.prototype.arity, there.body) := by
  have live : right.live = left.live := by rw [covers.same]
  obtain ⟨other, foundToo, arity, body⟩ := covers.kept name function found
  simp only [function?, unit?, closed, CodeUnit.opened, live, covers.number]
  cases earlier : left.live.find? (·.number = left.current.number) with
  | none => simp [List.find?_append, earlier, covers.number, found, foundToo, arity, body]
  | some unit => simp [List.find?_append, earlier]

/-- What running a function answers depends on its arity and its outcome. -/
theorem answer_execute (platform : Platform) (handle : Handle) (arguments : List Float)
    (evaluator : Evaluator) :
    answer (execute platform handle arguments) evaluator =
      if arguments.length = evaluator.arityOf handle then
        match evaluator.outcome platform handle arguments with
        | .error .tooDeep => .error (.run (.endless handle.symbol))
        | outcome => outcome
      else .error (.compile
        (.arityMismatch handle.symbol (evaluator.arityOf handle) arguments.length) none) := by
  unfold answer execute
  rw [get_bind]
  by_cases given : arguments.length = evaluator.arityOf handle
  · rw [if_pos given, if_pos given]
    cases evaluator.outcome platform handle arguments with
    | ok value => rfl
    | error fault => cases fault <;> rfl
  · rw [if_neg given, if_neg given]
    rfl

/-- The function of the left open unit answers the same in both evaluators. -/
theorem Covers.answer?_eq (covers : Covers allowed left right) {name : String}
    {function : Function} (found : left.current.functions.get? name = some function)
    (platform : Platform) (arguments : List Float) :
    answer? platform ⟨left.current.number, name⟩ arguments right =
      answer? platform ⟨left.current.number, name⟩ arguments left := by
  let handle : Handle := ⟨left.current.number, name⟩
  have calls := call_congr covers.definition?_closed platform platform.depth
  have same : right.closed.arityOf handle = left.closed.arityOf handle ∧
      right.closed.outcome platform handle arguments =
        left.closed.outcome platform handle arguments := by
    unfold arityOf outcome
    rcases both_of_map_eq (covers.function?_closed found) with
      ⟨missing, missingToo⟩ | ⟨other, there, stands, standsToo, alike⟩
    · simp only [handle, missing, missingToo, calls, Option.bind_none, and_self]
    · obtain ⟨arity, body⟩ := Prod.mk.inj alike
      simp only [handle, stands, standsToo, Option.bind_some, arity, body, calls, and_self]
  change some (answer (execute platform handle arguments) right.closed) =
    some (answer (execute platform handle arguments) left.closed)
  rw [answer_execute, answer_execute, same.1, same.2]

/-! ## Attempts -/

variable {attempt : Attempt} {before after : Evaluator} {fault : Fault}

/-- An attempt that is refused adds only declarations that it makes. -/
theorem run_adds (failed : attempt.run session before = .error fault after) :
    Adds (fun entry => ∃ prototype, attempt.Declares session prototype ∧ entry = declared prototype)
      before after := by
  have recalls (entry : String × Function) (recalled : Recalled session attempt.callees entry) :
      ∃ prototype, attempt.Declares session prototype ∧ entry = declared prototype := by
    obtain ⟨name, called, known, recorded, rfl⟩ := recalled
    exact ⟨known, .inr ⟨name, called, recorded⟩, rfl⟩
  cases attempt with
  | declare prototype =>
    rcases bind_eq_error_iff.mp failed with undeclared | ⟨_, _, _, impossible⟩
    · change Evaluator.declare _ _ _ = _ at undeclared
      have declares := declare_adds session prototype before
      rw [Ensures, undeclared] at declares
      rw [declares]
      exact .refl ..
    · cases impossible
  | define definition =>
    rcases bind_eq_error_iff.mp failed with undefined | ⟨_, _, _, impossible⟩
    · refine (define_adds undefined).imp fun entry kind => ?_
      rcases kind with rfl | recalled
      · exact ⟨definition.prototype, .inl rfl, rfl⟩
      · exact recalls entry recalled
    · cases impossible
  | defineBody handle body parameters =>
    exact (defineBody_adds failed).imp recalls

/-- What is left of a refused attempt are declarations that it makes. -/
theorem leavesDeclarations (failed : attempt.run session before = .error fault after) :
    LeavesDeclarations session attempt id before after := by
  have adds := run_adds failed
  constructor
  case defined =>
    rw [adds.same]
    rfl
  case stock =>
    rw [adds.same]
    rfl
  case number => exact adds.number
  case opened =>
    obtain ⟨more, extended, kinds⟩ := adds.extended
    refine ⟨more.map fun entry => ⟨entry.1, entry.2.prototype.arity, entry.2.body⟩, ?_, ?_⟩
    · rw [opened_eq, opened_eq, CodeUnit.shelved, CodeUnit.shelved]
      exact (congrArg (List.map _) extended).trans List.map_append
    · intro function member
      obtain ⟨entry, added, rfl⟩ := List.mem_map.mp member
      obtain ⟨prototype, declares, rfl⟩ := kinds entry added
      exact ⟨prototype, declares, rfl⟩

/-- Declarations that agree with all that may come make an evaluator know more. -/
theorem Adds.covers {kind : String × Function → Prop} (adds : Adds kind before after)
    (agrees : ∀ entry, kind entry → entry.2.body = none ∧ ∀ prototype, allowed prototype →
      prototype.name = entry.1 → entry.2.prototype.arity = prototype.arity) :
    Covers allowed before after := by
  refine ⟨adds.same, adds.number, ?_, ?_⟩
  · intro name function found
    exact ⟨function, Catalog.get?_of_prefix adds.extended.isPrefix found, rfl, rfl⟩
  · intro name absent other found
    obtain ⟨more, extended, kinds⟩ := adds.extended
    have member := Catalog.mem_of_find? found
    change (name, other) ∈ after.declarations at member
    rw [extended] at member
    rcases List.mem_append.mp member with earlier | new
    · have listed : name ∈ before.current.functions.keys := List.mem_map_of_mem earlier
      rw [← Catalog.get?_isSome_iff, absent] at listed
      cases listed
    · exact agrees _ (kinds _ new)

/-- A definition may be tried again. -/
theorem mayBeRetried (keyed : session.Keyed)
    (failed : attempt.run session before = .error fault after) :
    MayBeRetried session attempt before after := by
  intro again handle defined isOf done
  have accepted : session.prototypeFault? again.prototype = none := by
    have declares := declare_ensures session again.prototype before
    obtain ⟨_, _, declared, _⟩ := bind_eq_ok_iff.mp done
    change declare session again.prototype before = _ at declared
    rw [Ensures, declared] at declares
    exact declares.2.1
  have covers : Covers (session.Offers again.prototype) before after := by
    refine (run_adds failed).covers fun entry kind => ?_
    obtain ⟨prototype, declares, rfl⟩ := kind
    exact ⟨rfl, fun other offers same =>
      declares.arity_eq keyed (fun _ => isOf.header_eq) accepted offers same⟩
  have recorded (name : String) (known : Prototype) (finds : session.find? name = some known) :
      known.name = name ∧ session.Offers again.prototype known := by
    obtain rfl := keyed name known finds
    exact ⟨rfl, .inr finds⟩
  obtain ⟨_, definedToo, doneToo, rfl, coversToo, stands⟩ :=
    define_mirrors recorded covers (.inl rfl) handle defined done
  rw [lookup_eq] at stands
  obtain ⟨function, found, rfl⟩ := Option.map_eq_some_iff.mp stands
  exact ⟨definedToo, doneToo, coversToo.answer?_eq found⟩

end Evaluator

end Reckon
