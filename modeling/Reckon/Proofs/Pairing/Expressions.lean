import Reckon.Proofs.Pairing.Coupling

/-!
# Bare expressions side by side

A bare expression is handed off, run and given up on both sides. Either side ends with a
value or with an error of running, and both are coupled again afterwards. If the
expression is plain, they end alike: with the same value, or with errors of the same
code.
-/

namespace Reckon

open Reckon.Action Instruction

/-- Ends with the same value, or with errors of the same code. -/
inductive Alike : Except RunError Float → Except RunError Float → Prop
  | value (value : Float) : Alike (.ok value) (.ok value)
  | error {first second : RunError} (same : first.code = second.code) :
      Alike (.error first) (.error second)

namespace Linker

variable {platform : Platform} {holds : String → Nat → Code → Prop} {next : Nat} {linker : Linker}
  {evaluator : Evaluator} {symbol : String} {code : Code}

/-- The image has one unit for a symbol that is held, and the unit embodies what is held. -/
theorem Linking.embodied_of_held (linking : Linking platform holds next linker) {arity : Nat}
    (held : holds symbol arity code)
    (sole : ∀ given body, holds symbol given body → given = arity ∧ body = code) {position : Nat}
    (defines : DefinesAt linker.image position symbol) :
    ∃ loaded, linker.image[position]? = some loaded ∧ Embodies loaded.unit symbol arity code := by
  obtain ⟨loaded, there, names⟩ := defines
  refine ⟨loaded, there, ?_⟩
  rcases linking.image loaded (List.mem_of_getElem? there) with
    live | ⟨number, _, _, embodies, gone⟩
  · obtain ⟨owner, given, body, holding, embodies⟩ :=
      linking.embodied loaded.unit (List.mem_append_right _ live)
    obtain rfl := (embodies.mem_defined_iff symbol).mp names
    obtain ⟨rfl, rfl⟩ := sole given body holding
    exact embodies
  · rw [embodies.mem_defined_iff] at names
    exact (gone arity code (names ▸ held)).elim

/-- What is plain ends in the image as it ends in the evaluator. -/
theorem Linking.alike (linking : Linking platform holds next linker)
    (reflects : Reflects holds evaluator) (held : holds symbol 0 code)
    (sole : ∀ given body, holds symbol given body → given = 0 ∧ body = code)
    (plain : evaluator.Plain platform code) {name : String}
    {outcome outcomeToo : Except RunError Float} (ran : evaluator.Ran platform code name outcome)
    (called : Called platform (linker.materialize platform).2 symbol [] outcomeToo) :
    Alike outcome outcomeToo := by
  have materialized := linking.materialize
  have words := reflects.words symbol 0 code held
  have apart : Apart platform evaluator code := plain.foreign
  cases ran with
  | value ran =>
    have runs {position : Nat}
        (defines : DefinesAt (linker.materialize platform).2.image position symbol) :=
      have ⟨_, there, embodies⟩ := materialized.embodied_of_held held sole defines
      (materialized.binds reflects).run_ok ⟨⟨_, there, embodies⟩, words⟩ rfl apart ran
    cases called with
    | value defines ranToo =>
      have same := (runs defines).symm.trans ranToo
      cases same
      exact .value _
    | failed defines ranToo =>
      have same := (runs defines).symm.trans ranToo
      cases same
    | dead dead =>
      refine (dead (linking.mem_liveDefinitions_materialize reflects held ?_)).elim
      intro call makes
      rcases Evaluator.run_call_ok ran makes with ⟨inner, live⟩ | ⟨_, provided⟩
      · exact .inl ⟨_, inner, live⟩
      · exact .inr provided
  | endless ran => exact (plain.bounded ran).elim
  | @blocked call error makes obstacle =>
    cases obstacle with
    | stale live differs => exact (differs (plain.fitting _ makes _ _ live).symm).elim
    | unresolved missing foreign =>
      have absurd {position : Nat}
          (defines : DefinesAt (linker.materialize platform).2.image position symbol) : False := by
        obtain ⟨_, there, embodies⟩ := materialized.embodied_of_held held sole defines
        have provided := (materialized.binds reflects).answered_of_makes
          ⟨⟨_, there, embodies⟩, words⟩ apart makes missing
        rw [foreign] at provided
        cases provided
      cases called with
      | value defines _ => exact (absurd defines).elim
      | failed defines _ => exact (absurd defines).elim
      | dead _ => exact .error rfl

end Linker

namespace Generator

/-- What the linker does is done to the linker of the generator. -/
theorem linking_comes {α : Type} {action : Action Linker α} {generator : Generator} {after : Linker}
    {outcome : Except RunError α} (comes : Comes action generator.linker outcome after) :
    Comes (linking action) generator outcome { generator with linker := after } := by
  unfold Comes linking at *
  rw [comes]
  cases outcome <;> rfl

/-- Running a function with the arguments it was declared for is calling its symbol. -/
theorem execute_comes {platform : Platform} {handle : Handle} {generator : Generator}
    {arguments : List Float} {outcome : Except RunError Float} {after : Linker}
    (given : arguments.length = generator.arityOf handle)
    (comes : Comes (Linker.call platform handle.symbol arguments) generator.linker outcome after) :
    Comes (execute platform handle arguments) generator outcome
      { generator with linker := after } := by
  unfold Comes execute
  apply (get_bind ..).trans
  rw [if_pos given]
  exact linking_comes comes

/-- The handle of the function that was handed off last names its routine. -/
theorem arityOf_delivered {name : String} {body : Node} {unit : Evaluator.CodeUnit}
    {before after : Generator} (rendered : Rendered name body unit before after)
    (earlier : before.Earlier) {prototype : Prototype} {code : Code}
    (bears : unit.Bears name prototype body code) :
    after.delivered.arityOf ⟨before.current.number, before.current.symbol name⟩ =
      prototype.arity := by
  obtain ⟨routine, declared, other, _, there, _, found, renders⟩ := rendered.routine
  rw [bears.found] at found
  cases found
  have number := rendered.number
  have missed : after.closed.find? (·.number = before.current.number) = none := by
    refine List.find?_eq_none.mpr fun module member => ?_
    rw [rendered.same] at member
    have less := earlier module member
    simp only [decide_eq_true_eq]
    omega
  have module : after.delivered.module? before.current.number = some after.current := by
    simp [module?, delivered, Module.opened, number, List.find?_append, missed]
  have given : after.delivered.routine? ⟨before.current.number, before.current.symbol name⟩ =
      some routine := by
    rw [routine?, module]
    exact there
  rw [arityOf, given]
  exact renders.parameters

/-- A unit that the linker releases leaves the generator, and its names do not count as defined any
more. -/
theorem release_eq (generator : Generator) {number : Nat} {names : NameSet} {after : Linker}
    (released : Linker.release number generator.linker = .ok names after) :
    release number generator = .ok ()
      { generator with linker := after, defined := generator.defined.without names } := by
  have done : linking (Linker.release number) generator =
      .ok names { generator with linker := after } := by
    rw [linking, released]
  exact bind_ok done

end Generator

namespace Coupled

variable {session : Session} {excused : String → String → Prop} {platform : Platform}
  {evaluator compiled : Evaluator} {generator compiledToo : Generator} {body : Node}
  {handle : Handle} {declared : Prototype} {code : Code}

/-- The definitions that hold while a bare expression is live. -/
def Holding (evaluator : Evaluator) (symbol : String) (code : Code) (name : String) (arity : Nat)
    (body : Code) : Prop :=
  evaluator.Finds name arity body ∨ name = symbol ∧ arity = 0 ∧ body = code

/-- While the expression is live, what is held is what the evaluator finds. -/
theorem reflects
    (wraps : Evaluator.Wraps session excused evaluator body handle compiled declared code)
    (number : Nat) :
    Linker.Reflects (Holding evaluator (anonymousSymbol number) code) compiled.closed := by
  constructor
  · intro name word arity inner
    rw [wraps.definition?_other word.ne_anonymousName, Holding, Evaluator.Finds]
    have differs : name ≠ anonymousSymbol number := word.ne_of_anonymous_append _
    simp [differs]
  · rintro symbol arity inner (found | ⟨_, _, rfl⟩)
    · exact (wraps.settled.words found).2
    · exact wraps.words

/-- While the expression is live, every call that is held fits what it finds. -/
theorem consistent
    (wraps : Evaluator.Wraps session excused evaluator body handle compiled declared code)
    (number : Nat) :
    Linker.Consistent (Holding evaluator (anonymousSymbol number) code) excused := by
  rintro symbol arity inner (found | ⟨rfl, _, rfl⟩) name given member expected content held
  · have word := (wraps.settled.words found).2 _ member
    rcases held with live | ⟨rfl, _⟩
    · exact wraps.settled.fits found member live
    · exact (word.ne_of_anonymous_append _ rfl).elim
  · have word := wraps.words _ member
    rcases held with live | ⟨rfl, _⟩
    · exact .inl (wraps.fits member live)
    · exact (word.ne_of_anonymous_append _ rfl).elim

/-- The code of the expression is all that is held under its symbol. -/
theorem sole (wraps : Evaluator.Wraps session excused evaluator body handle compiled declared code)
    (number : Nat) : ∀ given inner, Holding evaluator (anonymousSymbol number) code
      (anonymousSymbol number) given inner → given = 0 ∧ inner = code := by
  rintro given inner (found | ⟨_, zero, same⟩)
  · exact ((wraps.settled.words found).1.ne_of_anonymous_append _ rfl).elim
  · exact ⟨zero, same⟩

/-- Giving the unit of the expression up leaves the definitions from before. -/
theorem finds_released
    (wraps : Evaluator.Wraps session excused evaluator body handle compiled declared code)
    (number : Nat) (name : String) (arity : Nat) (inner : Code) :
    Holding evaluator (anonymousSymbol number) code name arity inner ∧
        name ≠ anonymousSymbol number ↔
      evaluator.Finds name arity inner := by
  constructor
  · rintro ⟨found | ⟨same, _⟩, differs⟩
    · exact found
    · exact (differs same).elim
  · intro found
    exact ⟨.inl found, (wraps.settled.words found).1.ne_of_anonymous_append _⟩

/-- The generator before and after a bare expression, apart from its open module. -/
theorem released (coupled : Coupled session excused platform evaluator generator)
    (wraps : Evaluator.Wraps session excused evaluator body handle compiled declared code)
    (rendered : Generator.Rendered anonymousName body compiled.current generator compiledToo)
    {linker : Linker}
    (linking : Linker.Linking platform evaluator.Finds (generator.current.number + 1) linker)
    (fits : Linker.Fits linker.image excused) :
    Coupled session excused platform
      { evaluator with
        current := .opened (evaluator.current.number + 1)
        released := evaluator.released ++ [compiled.current] }
      { compiledToo.delivered with linker, defined := generator.defined } := by
  have number := coupled.matched.number
  refine ⟨coupled.keyed, wraps.released, ?_, coupled.earlier_delivered rendered,
    coupled.defined, ?_, ?_, fits⟩
  · change Matched (.opened (evaluator.current.number + 1))
      (.opened (compiledToo.current.number + 1))
    rw [rendered.number, number]
    exact .opened _ _
  · change compiledToo.refusal = none
    rw [rendered.same]
    exact coupled.accepting
  · change Linker.Linking platform evaluator.Finds (compiledToo.current.number + 1) linker
    rw [rendered.number]
    exact linking

/-- A bare expression that compiles is run and given up on both sides, and they are coupled again.
If it is plain, both sides end alike. -/
theorem expression (coupled : Coupled session excused platform evaluator generator)
    (wraps : Evaluator.Wraps session excused evaluator body handle compiled declared code)
    (rendered : Generator.Rendered anonymousName body compiled.current generator compiledToo) :
    ∃ outcome outcomeToo released executedToo releasedToo,
      Comes (Evaluator.execute platform handle []) compiled.closed outcome compiled.closed ∧
      Evaluator.release compiled.current.number compiled.closed = .ok () released ∧
      Comes (Generator.execute platform
          ⟨generator.current.number, generator.current.symbol anonymousName⟩ [])
        compiledToo.delivered outcomeToo executedToo ∧
      Generator.release compiledToo.current.number executedToo = .ok () releasedToo ∧
      Coupled session excused platform released releasedToo ∧
      compiled.closed.Ran platform code handle.symbol outcome ∧
      (compiled.closed.Plain platform code → Alike outcome outcomeToo) := by
  let number := generator.current.number
  have symbol : generator.current.symbol anonymousName = anonymousSymbol number :=
    Module.symbol_anonymous _
  have delivered : Linker.Linking platform (Holding evaluator (anonymousSymbol number) code)
      (number + 1) compiledToo.delivered.linker := by
    have linking := coupled.linking_delivered (.inr rfl) wraps.spelled wraps.defines rendered
      wraps.bears wraps.calls
    change Linker.Linking platform (fun name arity inner => evaluator.Finds name arity inner ∨
      name = generator.current.symbol anonymousName ∧ _) _ _ at linking
    rw [symbol, wraps.constant] at linking
    exact linking
  have reflects := reflects wraps number
  have held : Holding evaluator (anonymousSymbol number) code (anonymousSymbol number) 0 code :=
    .inr ⟨rfl, rfl, rfl⟩
  obtain ⟨outcome, comes, ran⟩ := wraps.execute_comes platform
  obtain ⟨outcomeToo, names, comesToo, called⟩ :=
    Linker.call_comes delivered.materialize.imaged (anonymousSymbol number) []
  have materialized := delivered.materialize.withHostSymbols names
  obtain ⟨unit, member, embodies⟩ := materialized.present _ _ _ held
  have itself : unit.number = compiledToo.current.number := by
    rw [rendered.number]
    exact materialized.numbered unit member number ((embodies.mem_defined_iff _).mpr rfl)
  have fits : Linker.Fits compiledToo.delivered.linker.image excused := by
    change Linker.Fits compiledToo.linker.image excused
    rw [rendered.same]
    exact coupled.fits
  have given := materialized.release_eq member
  rw [itself, embodies.defined] at given
  have without : (compiledToo.delivered.defined.without [anonymousSymbol number]) =
      generator.defined := by
    have same :
        compiledToo.delivered.defined = generator.defined.insert (anonymousSymbol number) := by
      change compiledToo.defined = _
      rw [rendered.same, symbol]
    rw [same]
    apply NameSet.without_insert
    intro present
    rw [coupled.defined] at present
    exact (coupled.settled.isWord_of_mem present).ne_of_anonymous_append _ rfl
  let executed : Generator := { compiledToo.delivered with
    linker := (compiledToo.delivered.linker.materialize platform).2.withHostSymbols names }
  have gives := executed.release_eq given
  refine ⟨outcome, outcomeToo, _, executed, _, comes, wraps.release_closed, ?_, gives, ?_, ran, ?_⟩
  · have arity := Generator.arityOf_delivered rendered coupled.earlier wraps.bears
    rw [wraps.constant] at arity
    rw [symbol] at arity ⊢
    exact Generator.execute_comes arity.symm comesToo
  · change Coupled _ _ _ _ { executed with
      linker := _, defined := compiledToo.delivered.defined.without _ }
    rw [without]
    apply coupled.released wraps rendered
    · exact (materialized.giveUp member (Nat.lt_succ_self _) embodies).congr
        (finds_released wraps number)
    · exact delivered.fits_materialize reflects.words (consistent wraps number) fits
  · intro plain
    exact delivered.alike reflects held (sole wraps number) plain ran called

end Coupled

end Reckon
