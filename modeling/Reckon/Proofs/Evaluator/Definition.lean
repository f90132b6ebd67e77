import Reckon.Evaluator.Execution
import Reckon.Proofs.Evaluator.Compilation

/-!
# Defining functions in the evaluator

Between definitions the open unit holds declarations alone, and those of recorded names
have the recorded arity. A definition that succeeds turns the open unit into one with a
single body; one that is refused leaves such an open unit again.
-/

namespace Reckon

namespace Evaluator

open Reckon.Action

/-- The open unit holds no body, and its functions have the arities that are recorded. -/
structure Open (session : Session) (evaluator : Evaluator) : Prop where
  bodyless (entry : String × Function) (member : entry ∈ evaluator.current.functions.entries) :
    entry.2.body = none
  recorded (name : String) (function : Function) (known : Prototype)
    (found : evaluator.current.functions.get? name = some function)
    (finds : session.find? name = some known) : function.prototype.arity = known.arity

namespace Open

variable {session : Session} {evaluator : Evaluator}

/-- A function of an open unit without bodies has no body. -/
theorem body_eq_none (opened : Open session evaluator) {name : String} {function : Function}
    (found : evaluator.current.functions.get? name = some function) : function.body = none :=
  opened.bodyless _ (Catalog.mem_of_find? found)

/-- No handle of an open unit without bodies has a body. -/
theorem hasBody_eq_false (opened : Open session evaluator) (name : String) :
    evaluator.hasBody ⟨evaluator.current.number, name⟩ = false := by
  rw [hasBody, function?_current]
  cases found : evaluator.current.functions.get? name with
  | none => rfl
  | some function =>
    have bodyless := opened.body_eq_none found
    simp [bodyless]

/-- A declaration that is accepted adds no body and agrees with what is recorded. -/
theorem put (opened : Open session evaluator) {prototype : Prototype}
    (accepted : session.prototypeFault? prototype = none) :
    Open session { evaluator with
      current := { evaluator.current with
        functions := evaluator.current.functions.put prototype.name ⟨prototype, none⟩ } } := by
  constructor
  · intro entry member
    rcases Catalog.mem_entries_put member with rfl | earlier
    · rfl
    · exact opened.bodyless entry earlier
  · intro name function known found finds
    rw [Catalog.get?_put] at found
    by_cases same : prototype.name = name
    · subst same
      rw [if_pos rfl] at found
      cases found
      have agrees := ((Session.prototypeFault?_eq_none_iff ..).mp accepted).2
      exact (agrees known finds).symm
    · rw [if_neg same] at found
      exact opened.recorded name function known found finds

/-- Growing adds no body and keeps to what is recorded. -/
theorem grows (opened : Open session evaluator) {after : Evaluator}
    (grows : Grows session evaluator after) : Open session after := by
  constructor
  · intro entry member
    rcases grows.entries entry member with earlier | bodyless
    · exact opened.bodyless entry earlier
    · exact bodyless
  · intro name function known found finds
    rcases grows.added name function found with earlier | ⟨prototype, recorded, rfl⟩
    · exact opened.recorded name function known earlier finds
    · rw [finds] at recorded
      cases recorded
      rfl

end Open

/-- A unit whose only body is that of the named function. -/
structure CodeUnit.Bears (unit : CodeUnit) (name : String) (prototype : Prototype) (body : Node)
    (code : Code) : Prop where
  found : unit.functions.get? name = some ⟨prototype, some (body, code)⟩
  sole (other : String) (function : Function)
    (there : unit.functions.get? other = some function) (hasBody : function.body ≠ none) :
    other = name
  defined : unit.defined = [name]

/-- A body given to an open unit is its only one. -/
theorem Open.bears {session : Session} {evaluator : Evaluator} (opened : Open session evaluator)
    {name : String} {function : Function}
    (found : evaluator.current.functions.get? name = some function) (body : Node) (code : Code) :
    (evaluator.current.withBody name (body, code)).Bears name function.prototype body code := by
  have same : evaluator.current.withBody name (body, code) =
      { evaluator.current with
        functions := evaluator.current.functions.put name
          ⟨function.prototype, some (body, code)⟩ } := by
    rw [CodeUnit.withBody, found]
  rw [same]
  refine ⟨Catalog.get?_put_self _ _ _, ?_, ?_⟩
  · intro other there found hasBody
    rw [Catalog.get?_put] at found
    by_cases same : name = other
    · exact same.symm
    · rw [if_neg same] at found
      exact (hasBody (opened.body_eq_none found)).elim
  · let whole : Function := ⟨function.prototype, some (body, code)⟩
    have bodyless : ∀ entry ∈ evaluator.current.functions.entries, entry.2.body.isSome = false := by
      intro entry member
      rw [opened.bodyless entry member]
      rfl
    have sole := Catalog.filter_entries_put (fun function : Function => function.body.isSome)
      evaluator.current.functions name (show whole.body.isSome = true from rfl) bodyless
    rw [CodeUnit.defined, sole]
    rfl

/-- Units that are handed off or given up have smaller numbers than the open one. -/
def Earlier (evaluator : Evaluator) : Prop :=
  ∀ unit ∈ evaluator.live ++ evaluator.released, unit.number < evaluator.current.number

/-- A body for a function of the open unit changes no other unit. -/
theorem Earlier.withBody {evaluator : Evaluator} (earlier : evaluator.Earlier) (name : String)
    (body : Node × Code) :
    evaluator.withBody ⟨evaluator.current.number, name⟩ body =
      { evaluator with current := evaluator.current.withBody name body } := by
  have unchanged (units : List CodeUnit)
      (among : ∀ unit ∈ units, unit ∈ evaluator.live ++ evaluator.released) :
      units.map (fun unit =>
        if unit.number = evaluator.current.number then unit.withBody name body else unit) =
      units := by
    refine (List.map_congr_left (g := id) fun unit member => ?_).trans (List.map_id units)
    have less := earlier unit (among unit member)
    rw [if_neg (by omega), id]
  simp only [Evaluator.withBody, if_true]
  rw [unchanged _ fun unit member => List.mem_append_left _ member,
    unchanged _ fun unit member => List.mem_append_right _ member]

/-- Where a call in a body takes its function from: a record, the function itself, or a
declaration that stood in the open unit and is recorded nowhere. -/
inductive Accounted (session : Session) (before : Evaluator) (prototype : Prototype) :
    String × Nat → Prop
  | recorded {call : String × Nat} {known : Prototype} (finds : session.find? call.1 = some known)
      (arity : known.arity = call.2) : Accounted session before prototype call
  | itself : Accounted session before prototype (prototype.name, prototype.arity)
  | leftOver {call : String × Nat} {function : Function} (unrecorded : session.find? call.1 = none)
      (other : call.1 ≠ prototype.name)
      (found : before.current.functions.get? call.1 = some function) :
      Accounted session before prototype call

/-- What a definition that succeeds has done. -/
structure Defines (session : Session) (function : Definition) (before : Evaluator) (handle : Handle)
    (after : Evaluator) : Prop where
  handle : handle = ⟨before.current.number, function.prototype.name⟩
  accepted : session.prototypeFault? function.prototype = none
  new : function.prototype.name ∈ before.defined → function.prototype.name = anonymousName
  same : after = { before with
    current := after.current, defined := before.defined.insert function.prototype.name }
  number : after.current.number = before.current.number
  bears : ∃ declared code, after.current.Bears function.prototype.name declared function.body code ∧
    declared.arity = function.prototype.arity ∧ code.calls = function.body.calls ∧
    code.ReadsBelow declared.arity
  accounted (call : String × Nat) (member : call ∈ function.body.calls) :
    Accounted session before function.prototype call

/-- What a definition that is refused leaves. -/
structure Leaves (session : Session) (before after : Evaluator) : Prop where
  same : after = { before with current := after.current }
  number : after.current.number = before.current.number
  opened : Open session after

variable {session : Session} {evaluator : Evaluator}

/-- What a definition finds when it gets to the body: its function is declared, and what else
stands in the open unit stood there before. -/
theorem accounted_of_holds {function : Definition} {declared after : Evaluator}
    (stood : ∀ name there, declared.current.functions.get? name = some there →
      name ≠ function.prototype.name → ∃ there, evaluator.current.functions.get? name = some there)
    (holds : declared.Holds (function.prototype.name, function.prototype.arity))
    (grows : Grows session declared after) (opened : Open session after) {call : String × Nat}
    (finds : after.Holds call) : Accounted session evaluator function.prototype call := by
  obtain ⟨callee, given⟩ := call
  obtain ⟨found, there, arity⟩ := finds
  cases recorded : session.find? callee with
  | some known =>
    exact .recorded recorded ((opened.recorded callee found known there recorded).symm.trans arity)
  | none =>
    rcases grows.added callee found there with earlier | ⟨prototype, finds, _⟩
    · by_cases itself : callee = function.prototype.name
      · subst itself
        obtain ⟨same, sameThere, sameArity⟩ := holds
        rw [earlier] at sameThere
        cases sameThere
        obtain rfl : function.prototype.arity = given := sameArity.symm.trans arity
        exact .itself
      · obtain ⟨before, stoodThere⟩ := stood callee found earlier itself
        exact .leftOver recorded itself stoodThere
    · rw [recorded] at finds
      cases finds

/-- A definition gives the open unit its only body, or leaves an open unit. -/
theorem define_ensures (keyed : session.Keyed) (opened : Open session evaluator)
    (earlier : evaluator.Earlier) (function : Definition) :
    Ensures (define session function) evaluator fun
      | .ok handle after => Defines session function evaluator handle after
      | .error fault after =>
        Leaves session evaluator after ∧ (function.body.Spelled → fault.IsCompile) := by
  unfold define
  refine (declare_ensures session function.prototype evaluator).bind ?_ ?_
  · rintro fault after ⟨rfl, compiles⟩
    exact ⟨⟨rfl, rfl, opened⟩, fun _ => compiles⟩
  · rintro handle declared ⟨rfl, accepted, holds, shape⟩
    have declaredSame : declared = { evaluator with current := declared.current } := by
      rcases shape with rfl | ⟨_, rfl⟩ <;> rfl
    have number : declared.current.number = evaluator.current.number := by
      rcases shape with rfl | ⟨_, rfl⟩ <;> rfl
    have declaredOpen : Open session declared := by
      rcases shape with rfl | ⟨_, rfl⟩
      · exact opened
      · exact opened.put accepted
    have stood : ∀ name there, declared.current.functions.get? name = some there →
        name ≠ function.prototype.name →
        ∃ there, evaluator.current.functions.get? name = some there := by
      intro name there found other
      rcases shape with rfl | ⟨_, rfl⟩
      · exact ⟨there, found⟩
      · rw [Catalog.get?_put, if_neg (Ne.symm other)] at found
        exact ⟨there, found⟩
    have declaredLeaves : Leaves session evaluator declared := ⟨declaredSame, number, declaredOpen⟩
    change Ensures (Evaluator.defineBody session _ _ _ >>= _) declared _
    rw [← number]
    suffices bodies : Ensures (Evaluator.defineBody session
        ⟨declared.current.number, function.prototype.name⟩ function.body
        function.prototype.parameters) declared fun
      | .ok _ after => Defines session function evaluator
          ⟨declared.current.number, function.prototype.name⟩ after
      | .error fault after =>
        Leaves session evaluator after ∧ (function.body.Spelled → fault.IsCompile) by
      exact bodies.bind (fun _ _ refused => refused) fun _ _ defines => ensures_pure defines
    unfold Evaluator.defineBody
    refine ensures_get (ensures_check ?_ fun fault refused =>
      ⟨declaredLeaves, fun _ => isCompile_redefinitionFault refused⟩)
    intro fresh
    refine (compile_ensures keyed _ function.body declared).bind ?_ ?_
    · rintro fault after ⟨grows, compiles⟩
      refine ⟨⟨?_, grows.number.trans number, declaredOpen.grows grows⟩, compiles⟩
      rw [grows.same, declaredSame]
    · rintro code after ⟨grows, calls, reads, finds⟩
      have afterOpen := declaredOpen.grows grows
      obtain ⟨there, found, arity⟩ := holds.grows grows
      have afterEarlier : after.Earlier := by
        intro unit member
        rw [grows.number, number]
        rw [grows.same, declaredSame] at member
        exact earlier unit member
      have whole := afterEarlier.withBody function.prototype.name (function.body, code)
      change Defines _ _ _ _ { after.withBody _ (function.body, code) with defined := _ }
      rw [← grows.number, whole]
      refine ⟨by rw [grows.number, number], accepted, ?_, ?_, ?_, ?_, ?_⟩
      · intro member
        apply Classical.byContradiction
        intro ordinary
        have refused : redefinitionFault? declared.defined function.prototype.name
            (declared.hasBody ⟨declared.current.number, function.prototype.name⟩)
            function.body.location ≠ none := by
          rw [declaredSame]
          simp [redefinitionFault?, member, ordinary]
        exact refused fresh
      · rw [grows.same, declaredSame]
      · have number := grows.number.trans number
        rw [← number]
        simp only [CodeUnit.withBody, found]
      · refine ⟨there.prototype, code, afterOpen.bears found function.body code, arity, calls, ?_⟩
        rw [show there.prototype.arity = function.prototype.parameters.length from arity]
        exact reads
      · intro call member
        exact accounted_of_holds stood holds grows afterOpen (finds call member)

end Evaluator

end Reckon
