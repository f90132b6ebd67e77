import Reckon.Proofs.Evaluator.Expressions
import Reckon.Proofs.Pairing.Calling

/-!
# The evaluator beside the generator

Between the steps of two dialogues over the same program the evaluator is settled, the
open units match, the same names count as defined, and the linker holds the definitions
that calls in the evaluator find. Declarations and definitions, accepted or refused,
keep all of this.
-/

namespace Reckon

open Reckon.Action Instruction

/-- What calls in the evaluator find. -/
def Evaluator.Finds (evaluator : Evaluator) (name : String) (arity : Nat) (code : Code) : Prop :=
  evaluator.definition? name = some (arity, code)

/-- The evaluator and the generator as they are between the steps of two dialogues. -/
structure Coupled (session : Session) (excused : String → String → Prop) (platform : Platform)
    (evaluator : Evaluator) (generator : Generator) : Prop where
  keyed : session.Keyed
  settled : Evaluator.Settled session excused evaluator
  matched : Matched evaluator.current generator.current
  earlier : generator.Earlier
  defined : generator.defined = evaluator.defined
  accepting : generator.refusal = none
  linking : Linker.Linking platform evaluator.Finds generator.current.number generator.linker
  fits : Linker.Fits generator.linker.image excused

namespace Coupled

variable {session : Session} {excused : String → String → Prop} {platform : Platform}
  {evaluator compiled : Evaluator} {generator compiledToo : Generator}

/-- An evaluator and a generator that have taken nothing in are coupled. -/
theorem initial {session : Session} (keyed : session.Keyed) (excused : String → String → Prop)
    (platform : Platform) (level : Nat) :
    Coupled session excused platform .initial (.initial level none) := by
  refine ⟨keyed, .initial .., .opened _ 1, ?_, rfl, rfl, .initial _ _ _ ?_, ?_⟩
  · intro module member
    cases member
  · intro name arity code found
    cases found
  · intro position loaded there
    cases there

/-- More may be excused. -/
theorem weaken (coupled : Coupled session excused platform evaluator generator)
    {more : String → String → Prop}
    (implies : ∀ caller callee, excused caller callee → more caller callee) :
    Coupled session more platform evaluator generator :=
  { coupled with settled := coupled.settled.weaken implies, fits := coupled.fits.weaken implies }

/-- What is refused on both sides leaves them coupled. -/
theorem leaves (coupled : Coupled session excused platform evaluator generator) {after : Evaluator}
    {afterToo : Generator} (leaves : Evaluator.Leaves session evaluator after)
    (matched : Matched after.current afterToo.current)
    (differs : Generator.Differs generator afterToo) :
    Coupled session excused platform after afterToo := by
  have finds : after.Finds = evaluator.Finds := by
    rw [leaves.same]
    rfl
  refine ⟨coupled.keyed, coupled.settled.leaves leaves, matched, coupled.earlier.differs differs,
    ?_, ?_, ?_, ?_⟩
  · rw [differs.same, leaves.same]
    exact coupled.defined
  · rw [differs.same]
    exact coupled.accepting
  · rw [finds, differs.number, differs.same]
    exact coupled.linking
  · rw [differs.same]
    exact coupled.fits

/-- A declaration is accepted and recorded on both sides, or refused on both. -/
theorem declare (coupled : Coupled session excused platform evaluator generator)
    {prototype : Prototype} (word : IsWord prototype.name) :
    (∃ handle after handleToo afterToo,
      Evaluator.declare session prototype evaluator = .ok handle after ∧
      Generator.declare session prototype generator = .ok handleToo afterToo ∧
      Coupled (session.record prototype) excused platform after afterToo) ∨
    ∃ error location after afterToo,
      Evaluator.declare session prototype evaluator = .error (.compile error location) after ∧
      Generator.declare session prototype generator = .error (.compile error location) afterToo ∧
      Coupled session excused platform after afterToo := by
  have agrees := Generator.declare_agrees session prototype coupled.matched (.inl word)
  rcases agrees.ends (Evaluator.declare_ensures session prototype evaluator) with
    ⟨handle, after, handleToo, afterToo, reached, reachedToo, ⟨_, matched, differs⟩, spec⟩ |
    ⟨fault, after, afterToo, reached, reachedToo, ⟨rfl, rfl⟩, _, error, location, rfl⟩
  · left
    refine ⟨handle, after, handleToo, afterToo, reached, reachedToo, ?_⟩
    obtain ⟨_, accepted, _, shape⟩ := spec
    have leaves : Evaluator.Leaves session evaluator after := by
      rcases shape with rfl | ⟨_, rfl⟩
      · exact ⟨rfl, rfl, coupled.settled.opened⟩
      · exact ⟨rfl, rfl, coupled.settled.opened.put accepted⟩
    have kept := coupled.leaves leaves matched differs
    exact { kept with
      keyed := coupled.keyed.record prototype, settled := coupled.settled.declared reached }
  · right
    exact ⟨error, location, after, afterToo, reached, reachedToo, coupled⟩

/-- A function compiles on both sides, or is refused on both. -/
theorem define (coupled : Coupled session excused platform evaluator generator)
    (function : Definition) (nameable : Nameable function.prototype.name)
    (spelled : function.body.Spelled) :
    (∃ handle compiled compiledToo,
      define session function evaluator = .ok handle compiled ∧
      define session function generator = .ok ⟨generator.current.number,
        generator.current.symbol function.prototype.name⟩ compiledToo ∧
      Evaluator.Defines session function evaluator handle compiled ∧
      Generator.Rendered function.prototype.name function.body compiled.current generator
        compiledToo) ∨
    ∃ error location after afterToo,
      Reckon.define session function evaluator = .error (.compile error location) after ∧
      Reckon.define session function generator = .error (.compile error location) afterToo ∧
      Coupled session excused platform after afterToo := by
  have agrees := Generator.define_agrees coupled.keyed nameable spelled coupled.matched
    coupled.settled.opened coupled.settled.earlier coupled.earlier coupled.defined
    fun other member => coupled.settled.isWord_of_mem member
  have ensures := Evaluator.define_ensures coupled.keyed coupled.settled.opened
    coupled.settled.earlier function
  rcases agrees.ends ensures with
    ⟨handle, compiled, handleToo, compiledToo, reached, reachedToo, ⟨rfl, rendered⟩, defines⟩ |
    ⟨fault, after, afterToo, reached, reachedToo, ⟨matched, differs⟩, leaves, compiles⟩
  · exact .inl ⟨handle, compiled, compiledToo, reached, reachedToo, defines, rendered⟩
  · obtain ⟨error, location, rfl⟩ := compiles spelled
    exact .inr ⟨error, location, after, afterToo, reached, reachedToo,
      coupled.leaves leaves matched differs⟩

/-! ## Handing off -/

section Delivery

variable {function : Definition} {handle : Handle} {declared : Prototype} {code : Code}

/-- What was just defined has a symbol under which nothing is found. -/
theorem fresh (coupled : Coupled session excused platform evaluator generator)
    (nameable : Nameable function.prototype.name)
    (defines : Evaluator.Defines session function evaluator handle compiled) (arity : Nat)
    (body : Code) :
    ¬ evaluator.Finds (generator.current.symbol function.prototype.name) arity body := by
  intro found
  rcases nameable with word | anonymous
  · rw [Module.symbol_of_isWord _ word] at found
    obtain ⟨unit, member, _, _, honours, _⟩ := coupled.settled.honours_of_definition? found
    have there := (coupled.settled.defined _).mpr
      ⟨unit, member, honours.bears.defined ▸ List.mem_singleton_self _⟩
    exact word.ne_anonymousName (defines.new there)
  · rw [anonymous, Module.symbol_anonymous] at found
    exact (coupled.settled.words found).1.ne_of_anonymous_append _ rfl

/-- Once a module is handed off, the linker holds its function as well. -/
theorem linking_delivered (coupled : Coupled session excused platform evaluator generator)
    (nameable : Nameable function.prototype.name) (spelled : function.body.Spelled)
    (defines : Evaluator.Defines session function evaluator handle compiled)
    (rendered : Generator.Rendered function.prototype.name function.body compiled.current generator
      compiledToo)
    (bears : compiled.current.Bears function.prototype.name declared function.body code)
    (calls : code.calls = function.body.calls) :
    Linker.Linking platform
      (fun name arity body => evaluator.Finds name arity body ∨
        name = generator.current.symbol function.prototype.name ∧ arity = declared.arity ∧
        body = code)
      (generator.current.number + 1) compiledToo.delivered.linker := by
  have same : compiledToo.delivered.linker = generator.linker.add (.ofRoutines
      compiledToo.current.number compiledToo.level compiledToo.current.routines.values) := by
    rw [Generator.delivered, rendered.same]
  rw [same]
  refine coupled.linking.add rendered.number (rendered.embodies spelled bears calls)
    (coupled.fresh nameable defines) ?_
  intro number same
  rcases nameable with word | anonymous
  · rw [Module.symbol_of_isWord _ word] at same
    exact (word.ne_of_anonymous_append _ same).elim
  · rw [anonymous, Module.symbol_anonymous] at same
    exact (anonymousSymbol_inj same).symm

/-- What is delivered with a unit has a smaller number than what is opened then. -/
theorem earlier_delivered (coupled : Coupled session excused platform evaluator generator)
    {name : String} {body : Node} {unit : Evaluator.CodeUnit}
    (rendered : Generator.Rendered name body unit generator compiledToo) :
    compiledToo.delivered.Earlier := by
  intro module member
  change module.number < compiledToo.current.number + 1
  rcases List.mem_append.mp member with older | last
  · rw [rendered.same] at older
    have less := coupled.earlier module older
    have number := rendered.number
    omega
  · rw [List.mem_singleton.mp last]
    omega

/-- A definition that compiles is handed off and recorded on both sides. -/
theorem defined_closed (coupled : Coupled session excused platform evaluator generator)
    (word : IsWord function.prototype.name) (spelled : function.body.Spelled)
    (defines : Evaluator.Defines session function evaluator handle compiled)
    (rendered : Generator.Rendered function.prototype.name function.body compiled.current generator
      compiledToo)
    (excuses : ∀ callee there, IsWord callee → session.find? callee = none →
      callee ≠ function.prototype.name → evaluator.current.functions.get? callee = some there →
      excused function.prototype.name callee) :
    Coupled (session.record function.prototype) excused platform compiled.closed
      compiledToo.delivered := by
  obtain ⟨declared, code, bears, _, calls, _⟩ := defines.bears
  have symbol := generator.current.symbol_of_isWord word
  have linking := coupled.linking_delivered (.inl word) spelled defines rendered bears calls
  have fresh := coupled.fresh (.inl word) defines
  have number := coupled.matched.number
  rw [symbol] at linking fresh
  refine ⟨coupled.keyed.record _, coupled.settled.defined_closed word spelled defines excuses, ?_,
    coupled.earlier_delivered rendered, ?_, ?_, ?_, ?_⟩
  · change Matched (.opened (compiled.current.number + 1))
      (.opened (compiledToo.current.number + 1))
    rw [defines.number, rendered.number, number]
    exact .opened _ _
  · change compiledToo.defined = compiled.defined
    rw [rendered.same, defines.same, symbol]
    exact congrArg (NameSet.insert · _) coupled.defined
  · change compiledToo.refusal = none
    rw [rendered.same]
    exact coupled.accepting
  · change Linker.Linking _ _ (compiledToo.current.number + 1) _
    rw [rendered.number]
    apply linking.congr
    intro name arity body
    have live : compiled.definition? name = evaluator.definition? name := by
      rw [defines.same]
      rfl
    rw [Evaluator.Finds, Evaluator.Finds, Evaluator.definition?_closed bears, live]
    by_cases itself : name = function.prototype.name
    · subst itself
      rw [if_pos rfl]
      have absent := fresh arity body
      rw [Evaluator.Finds] at absent
      simp only [absent, false_or, true_and, Option.some.injEq, Prod.mk.injEq]
      exact and_congr eq_comm eq_comm
    · simp [itself]
  · change Linker.Fits compiledToo.linker.image excused
    rw [rendered.same]
    exact coupled.fits

end Delivery

end Coupled

end Reckon
