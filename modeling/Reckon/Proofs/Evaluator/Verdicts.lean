import Reckon.Proofs.Evaluator.Settled

/-!
# What compiling comes to

While nothing is left over in the open unit, a definition is judged by the recorded
arities alone: whether it is refused, for which reason, and what its body is resolved to.
What has been defined and what stands in the open unit has no influence, and of the
recorded prototypes nothing counts but the number of their parameters.
-/

namespace Reckon

namespace Action

variable {σ α β : Type}

/-- The action has the outcome, and the state after it is as wanted. -/
def HasOutcome (action : EStateM Fault σ α) (state : σ) (outcome : Except Fault α)
    (wanted : σ → Prop) : Prop :=
  Ensures action state fun
    | .ok value after => outcome = .ok value ∧ wanted after
    | .error fault after => outcome = .error fault ∧ wanted after

/-- A value that is given back is the outcome, with the state as it is. -/
theorem hasOutcome_pure {value : α} {state : σ} {wanted : σ → Prop} (holds : wanted state) :
    HasOutcome (pure value) state (.ok value) wanted := ⟨rfl, holds⟩

/-- A fault that is thrown is the outcome, with the state as it is. -/
theorem hasOutcome_throw {fault : Fault} {state : σ} {wanted : σ → Prop} (holds : wanted state) :
    HasOutcome (throw fault : EStateM Fault σ α) state (.error fault) wanted := ⟨rfl, holds⟩

/-- Of two actions one after the other, the outcomes are one after the other. -/
theorem HasOutcome.bind {first : EStateM Fault σ α} {next : α → EStateM Fault σ β} {state : σ}
    {outcome : Except Fault α} {rest : α → Except Fault β} {wanted : σ → Prop}
    (start : HasOutcome first state outcome wanted)
    (continues : ∀ value after, wanted after → HasOutcome (next value) after (rest value) wanted) :
    HasOutcome (first >>= next) state (outcome >>= rest) wanted := by
  apply Ensures.bind start
  · rintro fault after ⟨rfl, holds⟩
    exact ⟨rfl, holds⟩
  · rintro value after ⟨rfl, holds⟩
    exact continues value after holds

end Action

namespace Session

/-- The recorded number of parameters. -/
def arity? (session : Session) (name : String) : Option Nat :=
  (session.find? name).map Prototype.arity

/-- Of what is recorded, only arities decide whether a prototype is refused. -/
theorem prototypeFault?_congr {session other : Session} (same : session.arity? = other.arity?)
    (prototype : Prototype) :
    session.prototypeFault? prototype = other.prototypeFault? prototype := by
  have known : (session.find? prototype.name).map Prototype.arity =
      (other.find? prototype.name).map Prototype.arity := congrFun same prototype.name
  unfold prototypeFault?
  cases firstRepeated? [] prototype.parameters with
  | some parameter => rfl
  | none =>
    cases found : session.find? prototype.name with
    | none =>
      rw [found] at known
      rw [Option.map_eq_none_iff.mp known.symm]
    | some recorded =>
      rw [found] at known
      obtain ⟨recordedToo, foundToo, arity⟩ := Option.map_eq_some_iff.mp known.symm
      simp [foundToo, arity]

/-- Recording an accepted prototype of a recorded name changes no arity. -/
theorem arity?_record {session : Session} {prototype known : Prototype}
    (accepted : session.prototypeFault? prototype = none)
    (found : session.find? prototype.name = some known) :
    (session.record prototype).arity? = session.arity? := by
  have agrees := ((prototypeFault?_eq_none_iff ..).mp accepted).2
  funext name
  rw [arity?, arity?, find?_record]
  by_cases itself : prototype.name = name
  · rw [if_pos itself, ← itself, found, Option.map_some, Option.map_some, agrees known found]
  · rw [if_neg itself]

/-- No recorded prototype repeats a parameter. -/
def Distinct (session : Session) : Prop :=
  ∀ name known, session.find? name = some known → known.parameters.Nodup

/-- A prototype that was accepted repeats no parameter, so recording it keeps all prototypes so. -/
theorem Distinct.record {session : Session} (distinct : session.Distinct) {prototype : Prototype}
    (accepted : session.prototypeFault? prototype = none) :
    (session.record prototype).Distinct := by
  intro name known found
  rw [find?_record] at found
  by_cases itself : prototype.name = name
  · rw [if_pos itself] at found
    cases found
    exact ((prototypeFault?_eq_none_iff ..).mp accepted).1
  · rw [if_neg itself] at found
    exact distinct name known found

/-- A recorded prototype is not refused. -/
theorem prototypeFault?_recorded {session : Session} (keyed : session.Keyed)
    (distinct : session.Distinct) {name : String} {known : Prototype}
    (found : session.find? name = some known) : session.prototypeFault? known = none := by
  refine (prototypeFault?_eq_none_iff ..).mpr ⟨distinct name known found, ?_⟩
  intro other foundToo
  rw [keyed name known found, found] at foundToo
  cases foundToo
  rfl

end Session

namespace Evaluator

open Reckon.Action

mutual

/-- What an expression is resolved to, or why it is refused, where functions are known by the
number of their parameters. -/
def resolution (arity? : String → Option Nat) (parameters : List String) :
    Node → Except Fault Code
  | .number value _ => return .constant value
  | .reference name location =>
    match position? name parameters with
    | some position => return .parameter position
    | none => throw (.compile (.unknownVariable name) location)
  | .binary operator left right location => do
    let leftCode ← resolution arity? parameters left
    let rightCode ← resolution arity? parameters right
    match Operation.ofOperator? operator with
    | some kind => return .operation kind leftCode rightCode
    | none => throw (.compile (.invalidOperator operator) location)
  | .call callee arguments location =>
    match arity? callee with
    | some arity =>
      if arity = arguments.length then do
        let codes ← resolutions arity? parameters arguments
        return .call callee codes
      else throw (.compile (.arityMismatch callee arity arguments.length) location)
    | none => throw (.compile (.unknownFunction callee) location)
  | .prototype header => throw (.misplaced ⟨.prototype header⟩)
  | .definition header body location => throw (.misplaced ⟨.definition header body location⟩)

/-- What expressions are resolved to from left to right. -/
def resolutions (arity? : String → Option Nat) (parameters : List String) :
    List Node → Except Fault (List Code)
  | [] => return []
  | node :: rest => do
    let code ← resolution arity? parameters node
    let codes ← resolutions arity? parameters rest
    return code :: codes

end

/-- What a definition comes to by what is recorded: its code, or why it is refused. -/
def verdict (session : Session) (function : Definition) : Except Fault Code :=
  match session.prototypeFault? function.prototype with
  | some fault => .error fault
  | none => resolution session.arity? function.prototype.parameters function.body

/-- Only recorded arities decide about a definition. -/
theorem verdict_congr {session other : Session} (same : session.arity? = other.arity?) :
    verdict session = verdict other := by
  funext function
  rw [verdict, verdict, Session.prototypeFault?_congr same, same]

/-- The name is recorded, or it is the reserved name of a function without parameters. -/
def Familiar (session : Session) (name : String) (arity : Nat) : Prop :=
  (∃ known, session.find? name = some known) ∨ name = anonymousName ∧ arity = 0

/-- Nothing is left over in the open unit. -/
def Tidy (session : Session) (evaluator : Evaluator) : Prop :=
  ∀ name function, evaluator.current.functions.get? name = some function →
    Familiar session name function.prototype.arity

section

variable {session : Session} {start evaluator : Evaluator}

/-- Declarations of recorded prototypes leave nothing behind that a definition might stumble on. -/
theorem Tidy.grows (tidy : Tidy session start) (grows : Grows session start evaluator) :
    Tidy session evaluator := by
  intro name function found
  rcases grows.added name function found with earlier | ⟨prototype, recorded, _⟩
  · exact tidy name function earlier
  · exact .inl ⟨prototype, recorded⟩

/-- So does the declaration of a familiar name. -/
theorem Tidy.put (tidy : Tidy session evaluator) {prototype : Prototype}
    (familiar : Familiar session prototype.name prototype.arity) :
    Tidy session { evaluator with
      current := { evaluator.current with
        functions := evaluator.current.functions.put prototype.name ⟨prototype, none⟩ } } := by
  intro name function found
  rw [Catalog.get?_put] at found
  by_cases itself : prototype.name = name
  · rw [if_pos itself] at found
    cases found
    exact itself ▸ familiar
  · rw [if_neg itself] at found
    exact tidy name function found

/-- A unit that was just opened holds nothing that could be left over. -/
theorem tidy_opened {number : Nat} (opened : evaluator.current = .opened number) :
    Tidy session evaluator := by
  intro name function found
  rw [opened] at found
  cases found

/-- A function of the open unit has the recorded arity. -/
theorem arity?_eq_of_found (opened : Open session evaluator) (tidy : Tidy session evaluator)
    {name : String} (word : IsWord name) {function : Function}
    (found : evaluator.current.functions.get? name = some function) :
    session.arity? name = some function.prototype.arity := by
  rcases tidy name function found with ⟨known, recorded⟩ | ⟨reserved, _⟩
  · rw [Session.arity?, recorded, opened.recorded name function known found recorded]
    rfl
  · exact (word.ne_anonymousName reserved).elim

/-- What is accepted and not in the open unit yet is put there without a body. -/
theorem declare_absent {prototype : Prototype} (accepted : session.prototypeFault? prototype = none)
    (absent : evaluator.current.functions.get? prototype.name = none) :
    declare session prototype evaluator =
      .ok ⟨evaluator.current.number, prototype.name⟩ { evaluator with
        current := { evaluator.current with
          functions := evaluator.current.functions.put prototype.name ⟨prototype, none⟩ } } := by
  have declares : Ensures (declare session prototype) evaluator
      (· = .ok ⟨evaluator.current.number, prototype.name⟩ { evaluator with
        current := { evaluator.current with
          functions := evaluator.current.functions.put prototype.name ⟨prototype, none⟩ } }) := by
    unfold declare
    refine ensures_check (fun _ => ensures_get ?_) fun fault refused => ?_
    · rw [absent]
      exact ensures_set (ensures_pure rfl)
    · rw [accepted] at refused
      cases refused
  exact declares

/-- How many parameters the function has that a name in a call means: the one in the open unit, or
else the recorded one. -/
def meantArity? (session : Session) (evaluator : Evaluator) (name : String) : Option Nat :=
  ((evaluator.current.functions.get? name).map (·.prototype.arity)).or (session.arity? name)

/-- What a name means does not change when recorded functions are declared. -/
theorem Grows.meantArity?_eq (grows : Grows session start evaluator) :
    meantArity? session evaluator = meantArity? session start := by
  funext name
  unfold meantArity?
  cases there : start.current.functions.get? name with
  | some function => rw [grows.kept name function there]
  | none =>
    cases found : evaluator.current.functions.get? name with
    | none => rfl
    | some function =>
      rcases grows.added name function found with earlier | ⟨known, recorded, rfl⟩
      · rw [there] at earlier
        cases earlier
      · simp [Session.arity?, recorded]

/-- A name in a call is found with the arity that it means, or means nothing. -/
theorem resolve_meant (keyed : session.Keyed) (distinct : session.Distinct) (name : String) :
    Ensures (resolve session name) evaluator fun
      | .ok (some handle) after => Grows session evaluator after ∧
        handle = ⟨evaluator.current.number, name⟩ ∧
        meantArity? session evaluator name = some (after.arityOf handle)
      | .ok none after => after = evaluator ∧ meantArity? session evaluator name = none
      | .error _ _ => False := by
  have resolves := resolve_ensures keyed name evaluator
  unfold Ensures at resolves ⊢
  cases ended : resolve session name evaluator with
  | ok handle? after =>
    rw [ended] at resolves
    cases handle? with
    | none =>
      obtain ⟨rfl, absent, unrecorded⟩ := resolves
      exact ⟨rfl, by simp [meantArity?, Session.arity?, absent, unrecorded]⟩
    | some handle =>
      obtain ⟨grows, rfl, function, found⟩ := resolves
      refine ⟨grows, rfl, ?_⟩
      rw [← grows.meantArity?_eq, ← grows.number, arityOf_current found, meantArity?, found]
      rfl
  | error fault after =>
    -- Only the declaration of a recorded prototype could fail.
    unfold resolve at ended
    rw [get_bind, lookup_eq] at ended
    cases there : evaluator.current.functions.get? name with
    | some function =>
      rw [there] at ended
      cases ended
    | none =>
      rw [there] at ended
      cases recorded : session.find? name with
      | none =>
        rw [recorded] at ended
        cases ended
      | some known =>
        have absent : evaluator.current.functions.get? known.name = none := by
          rw [keyed name known recorded, there]
        have declares := declare_absent
          (Session.prototypeFault?_recorded keyed distinct recorded) absent
        rw [recorded] at ended
        change (Evaluator.declare session known >>= _) evaluator = _ at ended
        rw [bind_ok declares] at ended
        cases ended

/-- If each tree has the outcome of its resolution wherever the evaluator has got to, so has a row
of trees. -/
theorem compileAll_hasOutcome (parameters : List String) (nodes : List Node)
    (each : ∀ node ∈ nodes, ∀ evaluator, Grows session start evaluator →
      HasOutcome (compile session parameters node) evaluator
        (resolution (meantArity? session start) parameters node) (Grows session start))
    (grows : Grows session start evaluator) :
    HasOutcome (compileAll session parameters nodes) evaluator
      (resolutions (meantArity? session start) parameters nodes) (Grows session start) := by
  induction nodes generalizing evaluator with
  | nil =>
    rw [compileAll, resolutions]
    exact hasOutcome_pure grows
  | cons node rest inductionHypothesis =>
    obtain ⟨first, others⟩ := List.forall_mem_cons.mp each
    rw [compileAll, resolutions]
    apply (first evaluator grows).bind
    intro code after grows
    apply (inductionHypothesis others grows).bind
    intro codes after grows
    exact hasOutcome_pure grows

/-- **Resolving an expression is settled by the arities that names mean.** -/
theorem compile_hasOutcome (keyed : session.Keyed) (distinct : session.Distinct)
    (parameters : List String) (node : Node) (grows : Grows session start evaluator) :
    HasOutcome (compile session parameters node) evaluator
      (resolution (meantArity? session start) parameters node) (Grows session start) := by
  induction node using Node.byParts generalizing evaluator with
  | number value location =>
    rw [compile, resolution]
    exact hasOutcome_pure grows
  | reference name location =>
    rw [compile, resolution]
    cases position? name parameters with
    | some position => exact hasOutcome_pure grows
    | none => exact hasOutcome_throw grows
  | binary operator left right location inLeft inRight =>
    rw [compile, resolution]
    apply (inLeft grows).bind
    intro leftCode after grows
    apply (inRight grows).bind
    intro rightCode after grows
    cases Operation.ofOperator? operator with
    | some kind => exact hasOutcome_pure grows
    | none => exact hasOutcome_throw grows
  | call callee arguments location inArguments =>
    rw [compile, resolution]
    apply Ensures.bind (resolve_meant keyed distinct callee)
    · exact fun _ _ impossible => impossible.elim
    · intro handle? after found
      rw [← grows.meantArity?_eq]
      cases handle? with
      | none =>
        obtain ⟨rfl, unknown⟩ := found
        rw [unknown]
        exact hasOutcome_throw grows
      | some handle =>
        obtain ⟨more, rfl, meant⟩ := found
        rw [meant]
        apply ensures_get
        dsimp only
        split
        · rw [grows.meantArity?_eq]
          have inside := compileAll_hasOutcome parameters arguments
            (fun node member evaluator grows => inArguments node member grows) (grows.trans more)
          apply inside.bind
          intro codes after grows
          exact hasOutcome_pure grows
        · exact hasOutcome_throw (grows.trans more)
  | prototype header =>
    rw [compile, resolution]
    exact hasOutcome_throw grows
  | definition header body location =>
    rw [compile, resolution]
    exact hasOutcome_throw grows

/-- What a body is resolved to depends on the words that it calls. -/
theorem resolution_congr {arity? other? : String → Option Nat}
    (same : ∀ name, IsWord name → arity? name = other? name) (parameters : List String)
    {node : Node} (spelled : node.Spelled) :
    resolution arity? parameters node = resolution other? parameters node := by
  induction spelled with
  | number value location => rw [resolution, resolution]
  | reference name location => rw [resolution, resolution]
  | binary operator location _ _ inLeft inRight => rw [resolution, resolution, inLeft, inRight]
  | @call callee arguments location word spelled each =>
    have inArguments :
        resolutions arity? parameters arguments = resolutions other? parameters arguments := by
      induction arguments with
      | nil => rw [resolutions, resolutions]
      | cons argument rest inductionHypothesis =>
        obtain ⟨first, others⟩ := List.forall_mem_cons.mp each
        rw [resolutions, resolutions, first,
          inductionHypothesis (List.forall_mem_cons.mp spelled).2 others]
    rw [resolution, resolution, same callee word, inArguments]

/-- While nothing is left over, a word means what is recorded of it. -/
theorem meantArity?_eq_of_tidy (opened : Open session evaluator) (tidy : Tidy session evaluator)
    {name : String} (word : IsWord name) :
    meantArity? session evaluator name = session.arity? name := by
  unfold meantArity?
  cases found : evaluator.current.functions.get? name with
  | none => rfl
  | some function => rw [arity?_eq_of_found opened tidy word found]; rfl

/-- A familiar function of the open unit has the arity of every familiar prototype that is not
refused. -/
theorem arity_eq_of_accepted (opened : Open session evaluator) (tidy : Tidy session evaluator)
    {prototype : Prototype} (accepted : session.prototypeFault? prototype = none)
    (familiar : Familiar session prototype.name prototype.arity) {function : Function}
    (there : evaluator.current.functions.get? prototype.name = some function) :
    function.prototype.arity = prototype.arity := by
  cases recorded : session.find? prototype.name with
  | some known =>
    have agrees := ((Session.prototypeFault?_eq_none_iff ..).mp accepted).2
    rw [opened.recorded _ function known there recorded, agrees known recorded]
  | none =>
    have constant {arity : Nat} (familiar : Familiar session prototype.name arity) :
        arity = 0 := by
      rcases familiar with ⟨known, found⟩ | ⟨_, constant⟩
      · rw [recorded] at found
        cases found
      · exact constant
    rw [constant (tidy _ function there), constant familiar]

/-- What is familiar and not refused is declared. -/
theorem declare_accepted (opened : Open session evaluator) (tidy : Tidy session evaluator)
    {prototype : Prototype} (accepted : session.prototypeFault? prototype = none)
    (familiar : Familiar session prototype.name prototype.arity) :
    Ensures (declare session prototype) evaluator fun
      | .ok handle declared => handle = ⟨declared.current.number, prototype.name⟩ ∧
        declared.defined = evaluator.defined ∧ Open session declared ∧ Tidy session declared ∧
        ∃ function, declared.current.functions.get? prototype.name = some function
      | .error _ _ => False := by
  unfold declare
  refine ensures_check (fun _ => ensures_get ?_) fun fault refused => ?_
  · cases there : evaluator.current.functions.get? prototype.name with
    | none =>
      exact ensures_set (ensures_pure ⟨rfl, rfl, opened.put accepted, tidy.put familiar, _,
        Catalog.get?_put_self _ _ _⟩)
    | some function =>
      refine ensures_check (fun _ => ensures_pure ⟨rfl, rfl, opened, tidy, function, there⟩) ?_
      intro fault refused
      have arity := arity_eq_of_accepted opened tidy accepted familiar there
      rw [(declarationFault?_eq_none_iff prototype _).mpr arity] at refused
      cases refused
  · rw [accepted] at refused
    cases refused

/-- A body is given to the function of the open unit. -/
theorem get?_withBody {name : String} {function : Function}
    (found : evaluator.current.functions.get? name = some function) (content : Node × Code) :
    (evaluator.withBody ⟨evaluator.current.number, name⟩ content).current.functions.get? name =
      some { function with body := some content } := by
  simp only [withBody, if_true, CodeUnit.withBody, found]
  exact Catalog.get?_put_self _ _ _

/-- **A definition is judged by the recorded arities.** If it is accepted, the open unit holds its
function with the code of the verdict; if it is refused, nothing is left over. -/
theorem define_judged (keyed : session.Keyed) (distinct : session.Distinct)
    (opened : Open session evaluator) (tidy : Tidy session evaluator) {function : Definition}
    (spelled : function.body.Spelled)
    (familiar : Familiar session function.prototype.name function.prototype.arity)
    (new : function.prototype.name ∈ evaluator.defined →
      function.prototype.name = anonymousName) :
    Ensures (define session function) evaluator fun
      | .ok _ after => ∃ declared code, verdict session function = .ok code ∧
        after.current.functions.get? function.prototype.name =
          some ⟨declared, some (function.body, code)⟩
      | .error fault after => verdict session function = .error fault ∧ Tidy session after := by
  unfold define verdict
  cases refused : session.prototypeFault? function.prototype with
  | some fault =>
    have fails : Ensures (declare session function.prototype) evaluator
        (· = .error fault evaluator) := by
      unfold declare
      rw [refused]
      rfl
    apply fails.bind
    · rintro _ _ same
      cases same
      exact ⟨rfl, tidy⟩
    · nofun
  | none =>
    apply (declare_accepted opened tidy refused familiar).bind
    · exact fun _ _ impossible => impossible.elim
    · rintro handle declared ⟨rfl, defined, declaredOpen, declaredTidy, there, found⟩
      have compiles := compile_hasOutcome keyed distinct function.prototype.parameters
        function.body (.refl session declared)
      rw [resolution_congr (fun _ => meantArity?_eq_of_tidy declaredOpen declaredTidy) _ spelled]
        at compiles
      suffices bodies : Ensures (Evaluator.defineBody session
          ⟨declared.current.number, function.prototype.name⟩ function.body
          function.prototype.parameters) declared fun
        | .ok _ after => ∃ declared code,
          resolution session.arity? function.prototype.parameters function.body = .ok code ∧
          after.current.functions.get? function.prototype.name =
            some ⟨declared, some (function.body, code)⟩
        | .error fault after =>
          resolution session.arity? function.prototype.parameters function.body = .error fault ∧
          Tidy session after by
        exact bodies.bind (fun _ _ refused => refused) fun _ _ accepted => ensures_pure accepted
      unfold Evaluator.defineBody
      refine ensures_get (ensures_check (fun _ => ?_) fun fault refused => ?_)
      · apply Ensures.bind compiles
        · rintro fault after ⟨refused, grows⟩
          exact ⟨refused, declaredTidy.grows grows⟩
        · rintro code after ⟨resolved, grows⟩
          refine ⟨there.prototype, code, resolved, ?_⟩
          have stands := grows.kept _ there found
          change (after.withBody _ (function.body, code)).current.functions.get? _ = _
          rw [← grows.number, get?_withBody stands]
      · have bodyless := declaredOpen.hasBody_eq_false function.prototype.name
        rw [bodyless, defined] at refused
        by_cases member : function.prototype.name ∈ evaluator.defined
        · simp [redefinitionFault?, new member] at refused
        · simp [redefinitionFault?, member] at refused

end

end Evaluator

end Reckon
