import Reckon.Proofs.Evaluator.Settled

/-!
# Bare expressions in the evaluator

A bare expression is wrapped, handed off, run and given up. Running it gives a value, or
fails by nesting too deep or at an obstacle that can be reached; either way the
evaluator is settled again afterwards, with the definitions it had before.
-/

namespace Reckon

/-- A new name that is added and taken away again leaves no trace. -/
theorem NameSet.without_insert {names : NameSet} {name : String} (absent : name ∉ names) :
    (names.insert name).without [name] = names := by
  rw [insert, if_neg absent, without, List.filter_append]
  simp only [List.mem_singleton, decide_not]
  rw [List.filter_eq_self.mpr]
  · simp
  · intro other member
    have differs : other ≠ name := fun same => absent (same ▸ member)
    simpa using differs

namespace Evaluator

open Reckon.Action

/-- How running the code of a bare expression ends. -/
inductive Ran (platform : Platform) (evaluator : Evaluator) (code : Code) (symbol : String) :
    Except RunError Float → Prop
  | value {value : Float}
      (ran : code.run platform (argument []) (call platform evaluator platform.depth) = .ok value) :
      Ran platform evaluator code symbol (.ok value)
  | endless
      (ran : code.run platform (argument []) (call platform evaluator platform.depth) =
        .error .tooDeep) :
      Ran platform evaluator code symbol (.error (.endless symbol))
  | blocked {call : String × Nat} {error : RunError} (makes : Makes evaluator code call)
      (obstacle : Obstacle platform evaluator call (.run error)) :
      Ran platform evaluator code symbol (.error error)

/-- Code that meets none of the things in which ways of running code may differ: calls that nest too
deep, live definitions with another number of parameters, and host functions that have a live
definition as well. -/
structure Plain (platform : Platform) (evaluator : Evaluator) (code : Code) : Prop where
  bounded : code.run platform (argument []) (call platform evaluator platform.depth) ≠
    .error .tooDeep
  fitting (call : String × Nat) (makes : Makes evaluator code call) (arity : Nat) (inner : Code)
    (live : evaluator.definition? call.1 = some (arity, inner)) : arity = call.2
  foreign (call : String × Nat) (makes : Makes evaluator code call)
    (live : evaluator.definition? call.1 ≠ none) : platform.provides call.1 = false

/-- Code is plain if its calls are among some that fit their live definitions, and that the calls of
these definitions are among as well. -/
theorem Plain.of_among {platform : Platform} {evaluator : Evaluator} {code : Code}
    (among : List (String × Nat)) (own : code.calls ⊆ among)
    (fits : ∀ call ∈ among, ∀ arity inner, evaluator.definition? call.1 = some (arity, inner) →
      arity = call.2 ∧ platform.provides call.1 = false ∧ inner.calls ⊆ among)
    (bounded : code.run platform (argument []) (call platform evaluator platform.depth) ≠
      .error .tooDeep) : evaluator.Plain platform code := by
  have reaches {code : Code} {call : String × Nat} (makes : Makes evaluator code call)
      (own : code.calls ⊆ among) : call ∈ among := by
    induction makes with
    | here member => exact own member
    | through member live _ inductionHypothesis =>
      exact inductionHypothesis (fits _ (own member) _ _ live).2.2
  refine ⟨bounded, ?_, ?_⟩
  · intro call makes arity inner live
    exact (fits call (reaches makes own) arity inner live).1
  · intro call makes live
    obtain ⟨⟨arity, inner⟩, found⟩ := Option.ne_none_iff_exists'.mp live
    exact (fits call (reaches makes own) arity inner found).2.1

/-- A bare expression has been compiled to code in the open unit of a settled evaluator. -/
structure Wraps (session : Session) (excused : String → String → Prop) (evaluator : Evaluator)
    (body : Node) (handle : Handle) (compiled : Evaluator) (declared : Prototype) (code : Code) :
    Prop where
  settled : Settled session excused evaluator
  spelled : body.Spelled
  defines : Defines session (.anonymous body) evaluator handle compiled
  bears : compiled.current.Bears anonymousName declared body code
  constant : declared.arity = 0
  calls : code.calls = body.calls
  reads : code.ReadsBelow 0

/-- Executing a function with a body runs its code. That calls nest too deep is blamed on the
handle. -/
theorem execute_eq {evaluator : Evaluator} {handle : Handle} {declared : Prototype} {body : Node}
    {code : Code} (found : evaluator.function? handle = some ⟨declared, some (body, code)⟩)
    (platform : Platform) {arguments : List Float} (given : arguments.length = declared.arity) :
    execute platform handle arguments evaluator =
      match code.run platform (argument arguments) (call platform evaluator platform.depth) with
      | .ok value => .ok value evaluator
      | .error .tooDeep => .error (.run (.endless handle.symbol)) evaluator
      | .error fault => .error fault evaluator := by
  have arity : evaluator.arityOf handle = declared.arity := by
    rw [arityOf, found]
  have outcomes : evaluator.outcome platform handle arguments =
      code.run platform (argument arguments) (call platform evaluator platform.depth) := by
    rw [outcome, found]
    rfl
  unfold execute
  apply (get_bind ..).trans
  rw [arity, if_pos given, outcomes]
  cases code.run platform (argument arguments) (call platform evaluator platform.depth) with
  | ok value => rfl
  | error fault => cases fault <;> rfl

/-- A bare expression that compiles is wrapped. -/
theorem Settled.wraps {session : Session} {excused : String → String → Prop}
    {evaluator compiled : Evaluator} {body : Node} {handle : Handle}
    (settled : Settled session excused evaluator) (spelled : body.Spelled)
    (defines : Defines session (.anonymous body) evaluator handle compiled) :
    ∃ declared code, Wraps session excused evaluator body handle compiled declared code := by
  obtain ⟨declared, code, bears, arity, calls, reads⟩ := defines.bears
  have constant : declared.arity = 0 := arity
  rw [constant] at reads
  exact ⟨declared, code, settled, spelled, defines, bears, constant, calls, reads⟩

namespace Wraps

variable {session : Session} {excused : String → String → Prop} {evaluator compiled : Evaluator}
  {body : Node} {handle : Handle} {declared : Prototype} {code : Code}

/-- While the expression is live, its code is found by the reserved name. -/
theorem definition?_anonymous
    (wraps : Wraps session excused evaluator body handle compiled declared code) :
    compiled.closed.definition? anonymousName = some (0, code) := by
  rw [definition?_closed wraps.bears, if_pos rfl, wraps.constant]

/-- Other names are found as before. -/
theorem definition?_other
    (wraps : Wraps session excused evaluator body handle compiled declared code) {name : String}
    (other : name ≠ anonymousName) :
    compiled.closed.definition? name = evaluator.definition? name := by
  rw [definition?_closed wraps.bears, if_neg other, wraps.defines.same]
  rfl

/-- Whatever is found is the code of the expression, or was found before. -/
theorem found_closed (wraps : Wraps session excused evaluator body handle compiled declared code)
    {name : String} {arity : Nat} {inner : Code}
    (found : compiled.closed.definition? name = some (arity, inner)) :
    arity = 0 ∧ inner = code ∨ evaluator.definition? name = some (arity, inner) := by
  by_cases anonymous : name = anonymousName
  · rw [anonymous, wraps.definition?_anonymous] at found
    cases found
    exact .inl ⟨rfl, rfl⟩
  · rw [wraps.definition?_other anonymous] at found
    exact .inr found

/-- The expression calls words. -/
theorem words (wraps : Wraps session excused evaluator body handle compiled declared code) :
    ∀ call ∈ code.calls, IsWord call.1 := by
  intro call member
  rw [wraps.calls] at member
  exact wraps.spelled.word_of_mem_calls member

/-- A call in the expression fits the live definition of its callee. -/
theorem fits (wraps : Wraps session excused evaluator body handle compiled declared code)
    {call : String × Nat} (member : call ∈ code.calls) {arity : Nat} {inner : Code}
    (live : evaluator.definition? call.1 = some (arity, inner)) : arity = call.2 := by
  have word := wraps.words call member
  rw [wraps.calls] at member
  exact wraps.settled.fits_of_accounted (wraps.defines.accounted call member)
    word.ne_anonymousName live

/-- Whatever the expression can reach is a word, and is called as its live definition wants it
unless that is excused. -/
theorem fits_of_makes (wraps : Wraps session excused evaluator body handle compiled declared code)
    {call : String × Nat} (makes : Makes compiled.closed code call) :
    IsWord call.1 ∧ ∀ arity inner, evaluator.definition? call.1 = some (arity, inner) →
      arity = call.2 ∨ ∃ caller, excused caller call.1 := by
  have own : ∀ call ∈ code.calls, IsWord call.1 ∧ ∀ arity inner,
      evaluator.definition? call.1 = some (arity, inner) →
        arity = call.2 ∨ ∃ caller, excused caller call.1 :=
    fun call member => ⟨wraps.words call member, fun _ _ live => .inl (wraps.fits member live)⟩
  apply makes.all own
  intro name arity inner found call member
  rcases wraps.found_closed found with ⟨_, rfl⟩ | earlier
  · exact own call member
  · refine ⟨(wraps.settled.words earlier).2 call member, fun _ _ live => ?_⟩
    exact (wraps.settled.fits earlier member live).imp id fun excuse => ⟨name, excuse⟩

/-- A call that fails for the number of its arguments was excused when its body was compiled. -/
theorem excused_of_stale
    (wraps : Wraps session excused evaluator body handle compiled declared code)
    {platform : Platform} {symbol name : String} {expected given : Nat}
    (ran : Ran platform compiled.closed code symbol (.error (.staleArity name expected given))) :
    ∃ caller, excused caller name := by
  cases ran with
  | blocked makes obstacle =>
    cases obstacle with
    | stale live differs =>
      obtain ⟨word, fits⟩ := wraps.fits_of_makes makes
      rw [wraps.definition?_other word.ne_anonymousName] at live
      exact (fits _ _ live).resolve_left (Ne.symm differs)

/-- The code of the expression and that of live units read no missing argument. -/
theorem readsArguments
    (wraps : Wraps session excused evaluator body handle compiled declared code) :
    compiled.closed.ReadsArguments := by
  intro name arity inner found
  rcases wraps.found_closed found with ⟨rfl, rfl⟩ | earlier
  · exact wraps.reads
  · exact wraps.settled.readsArguments name arity inner earlier

/-- The handle of the expression names its code. -/
theorem function?_closed
    (wraps : Wraps session excused evaluator body handle compiled declared code) :
    compiled.closed.function? handle = some ⟨declared, some (body, code)⟩ := by
  have before : evaluator.live.find? (·.number = evaluator.current.number) = none := by
    refine List.find?_eq_none.mpr fun unit member => ?_
    simpa using wraps.settled.number_ne member
  have number := wraps.defines.number
  have unit : compiled.closed.unit? evaluator.current.number = some compiled.current := by
    rw [unit?, closed, wraps.defines.same]
    simp [CodeUnit.opened, number, List.find?_append, before]
  rw [wraps.defines.handle, function?, unit]
  exact wraps.bears.found

/-- Executing the expression runs its code. That calls nest too deep is blamed on the handle. -/
theorem execute_closed (wraps : Wraps session excused evaluator body handle compiled declared code)
    (platform : Platform) :
    execute platform handle [] compiled.closed =
      match code.run platform (argument []) (call platform compiled.closed platform.depth) with
      | .ok value => .ok value compiled.closed
      | .error .tooDeep => .error (.run (.endless handle.symbol)) compiled.closed
      | .error fault => .error fault compiled.closed :=
  execute_eq wraps.function?_closed platform wraps.constant.symm

/-- Running the expression gives the value of its code, or fails by nesting too deep or at an
obstacle that can be reached. -/
theorem execute_comes (wraps : Wraps session excused evaluator body handle compiled declared code)
    (platform : Platform) :
    ∃ outcome, Comes (execute platform handle []) compiled.closed outcome compiled.closed ∧
      Ran platform compiled.closed code handle.symbol outcome := by
  have executed := wraps.execute_closed platform
  cases ran : code.run platform (argument []) (call platform compiled.closed platform.depth) with
  | ok value =>
    rw [ran] at executed
    exact ⟨.ok value, executed, .value ran⟩
  | error fault =>
    rw [ran] at executed
    have reads : code.ReadsBelow ([] : List Float).length := wraps.reads
    rcases run_call_error wraps.readsArguments reads ran with rfl | ⟨call, makes, obstacle⟩
    · exact ⟨.error _, executed, .endless ran⟩
    · cases obstacle with
      | stale live differs => exact ⟨.error _, executed, .blocked makes (.stale live differs)⟩
      | unresolved dead foreign =>
        exact ⟨.error _, executed, .blocked makes (.unresolved dead foreign)⟩

/-- The unit of the expression is given up without a trace but its number. -/
theorem release_closed
    (wraps : Wraps session excused evaluator body handle compiled declared code) :
    release compiled.current.number compiled.closed = .ok () { evaluator with
      current := .opened (evaluator.current.number + 1)
      released := evaluator.released ++ [compiled.current] } := by
  have before : evaluator.live.find? (·.number = evaluator.current.number) = none := by
    refine List.find?_eq_none.mpr fun unit member => ?_
    simpa using wraps.settled.number_ne member
  have kept : evaluator.live.filter (·.number ≠ evaluator.current.number) = evaluator.live := by
    apply List.filter_eq_self.mpr
    intro unit member
    simpa using wraps.settled.number_ne member
  have names := NameSet.without_insert fun member =>
    (wraps.settled.isWord_of_mem member).ne_anonymousName rfl
  have number := wraps.defines.number
  have same : compiled = { evaluator with
      current := compiled.current, defined := evaluator.defined.insert anonymousName } :=
    wraps.defines.same
  have found : compiled.closed.live.find? (·.number = compiled.current.number) =
      some compiled.current := by
    rw [closed, same, number]
    simp [List.find?_append, before, number]
  rw [release_eq found]
  rw [closed, same]
  simp only [number, List.filter_append, kept, wraps.bears.defined, names]
  simp [number]

/-- After the expression the evaluator is settled again. -/
theorem released (wraps : Wraps session excused evaluator body handle compiled declared code) :
    Settled session excused { evaluator with
      current := .opened (evaluator.current.number + 1)
      released := evaluator.released ++ [compiled.current] } := by
  refine { wraps.settled with opened := open_opened session rfl, earlier := ?_ }
  intro unit member
  change unit.number < evaluator.current.number + 1
  have older (unit : CodeUnit) (member : unit ∈ evaluator.live ++ evaluator.released) :
      unit.number < evaluator.current.number + 1 :=
    Nat.lt_succ_of_lt (wraps.settled.earlier unit member)
  rcases List.mem_append.mp member with live | released
  · exact older unit (List.mem_append_left _ live)
  · rcases List.mem_append.mp released with earlier | last
    · exact older unit (List.mem_append_right _ earlier)
    · rw [List.mem_singleton.mp last, wraps.defines.number]
      omega

end Wraps

end Evaluator

end Reckon
