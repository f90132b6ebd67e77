import Reckon.Proofs.Generator.Stock
import Reckon.Proofs.Linker.Loading

/-!
# What can be asked of a generator

A generator is asked to declare and to define functions, to hand its open module off, to
execute a function, to materialize what can be, and to release a unit, in any order and
whether or not it can do what it is asked. Its linker is left alone, or takes one unit in,
or materializes, or gives the unit of one number up.
-/

namespace Reckon

open Reckon.Action Instruction

namespace Linker

/-- Giving a unit up takes the unit of the number out of the image's live part, if it is there. -/
theorem materialized_release (number : Nat) (linker : Linker) :
    (after (release number) linker).materialized =
      linker.materialized.filter (·.number ≠ number) := by
  have kept (missed : linker.materialized.find? (·.number = number) = none) :
      linker.materialized.filter (·.number ≠ number) = linker.materialized := by
    refine List.filter_eq_self.mpr fun unit member => ?_
    simpa using List.find?_eq_none.mp missed unit member
  unfold after release
  rw [get_bind]
  cases found : linker.materialized.find? (·.number = number) with
  | some unit => rfl
  | none =>
    rw [kept found]
    cases pending : linker.pending.find? (·.number = number) <;> rfl

/-- Looking a function up materializes what can be. What is not found is reported as unresolved. -/
theorem address_ends (platform : Platform) (name : String) (linker : Linker) :
    Ensures (address platform name) linker fun
      | .ok _ last => last = (linker.materialize platform).2 ∧ name ∈ last.liveDefinitions
      | .error fault last =>
        (∃ names, last = (linker.materialize platform).2.withHostSymbols names) ∧
          ∃ error, fault = .run error ∧ error.code = "E001" := by
  unfold address
  refine ensures_modify (ensures_get ?_)
  by_cases live : name ∈ (linker.materialize platform).2.liveDefinitions
  · rw [if_pos live]
    cases position? (linker.materialize platform).2.image name with
    | some position => exact ⟨rfl, live⟩
    | none => exact ⟨⟨[], rfl⟩, _, rfl, rfl⟩
  · rw [if_neg live]
    exact ⟨⟨_, rfl⟩, _, rfl, rfl⟩

/-- Calling a function leaves what looking it up leaves. -/
theorem after_call (platform : Platform) (name : String) (arguments : List Float)
    (linker : Linker) :
    ∃ names, after (call platform name arguments) linker =
      (linker.materialize platform).2.withHostSymbols names := by
  have ends := address_ends platform name linker
  unfold Ensures at ends
  unfold after call
  cases found : address platform name linker with
  | ok position last =>
    rw [found] at ends
    obtain ⟨rfl, _⟩ := ends
    rw [bind_ok found, get_bind]
    refine ⟨[], ?_⟩
    cases run platform (linker.materialize platform).2.image (platform.depth + 1) position name
      arguments with
    | ok value => rfl
    | error fault => cases fault <;> rfl
  | error fault last =>
    rw [found] at ends
    obtain ⟨⟨names, rfl⟩, _⟩ := ends
    rw [bind_error found]
    exact ⟨names, rfl⟩

end Linker

namespace Generator

/-- What a generator can be asked. -/
inductive Request where
  | declare (session : Session) (prototype : Prototype)
  | define (session : Session) (definition : Definition)
  | handOff
  | execute (handle : Handle) (arguments : List Float)
  | materialize
  | release (number : Nat)

/-- Does what is asked, as far as it can be done. -/
def perform (platform : Platform) (generator : Generator) : Request → Generator
  | .declare session prototype => after (declare session prototype) generator
  | .define session definition => after (Reckon.define session definition) generator
  | .handOff => after handOff generator
  | .execute handle arguments => after (execute platform handle arguments) generator
  | .materialize => { generator with linker := (generator.linker.materialize platform).2 }
  | .release number => after (release number) generator

/-- Does what is asked, one request after the other. -/
def performAll (platform : Platform) (requests : List Request) (generator : Generator) :
    Generator :=
  requests.foldl (perform platform) generator

/-! ## The linker -/

/-- Declaring leaves the linker alone. -/
theorem declare_linker (session : Session) (prototype : Prototype) :
    Lengthens (fun generator : Generator => [generator.linker]) (declare session prototype) :=
  lengthens_iff_keeps.mpr fun _ => declare_keeps fun _ begins _ => begins

/-- So does compiling a body. -/
theorem defineBody_linker (session : Session) (handle : Handle) (body : Node)
    (parameters : List String) :
    Lengthens (fun generator : Generator => [generator.linker])
      (defineBody session handle body parameters) := by
  intro generator
  unfold defineBody
  refine ensures_get (ensures_check (fun _ => ?_) fun _ _ => List.prefix_rfl)
  cases generator.routine? handle with
  | none => exact ensures_pure List.prefix_rfl
  | some routine =>
    have longer := emit_lengthens (declare_linker session) (parameters.zip routine.parameters) body
      { generator, names := (routine.names.take "entry").2, instructions := [] }
    unfold Ensures at longer ⊢
    dsimp only
    cases written : emit session (parameters.zip routine.parameters) body
        { generator, names := (routine.names.take "entry").2, instructions := [] } <;>
      rw [written] at longer <;> exact longer

/-- So does defining. -/
theorem define_linker (session : Session) (definition : Definition) :
    Lengthens (fun generator : Generator => [generator.linker])
      (Reckon.define session definition) :=
  (declare_linker session definition.prototype).bind fun handle =>
    (defineBody_linker session handle definition.body definition.prototype.parameters).bind
      fun _ => lengthens_pure _

/-- Handing the open module off leaves the linker alone or adds a unit to it. -/
theorem linker_handOff (generator : Generator) :
    (after handOff generator).linker = generator.linker ∨
      ∃ unit, (after handOff generator).linker = generator.linker.add unit := by
  unfold after handOff
  rw [get_bind]
  dsimp only
  cases generator.refusalOf? generator.current with
  | some reason => exact .inl rfl
  | none => exact .inr ⟨_, rfl⟩

/-- Executing a function changes nothing, or materializes what can be. -/
theorem after_execute (platform : Platform) (handle : Handle) (arguments : List Float)
    (generator : Generator) :
    after (execute platform handle arguments) generator = generator ∨
      ∃ names, after (execute platform handle arguments) generator =
        { generator with
          linker := (generator.linker.materialize platform).2.withHostSymbols names } := by
  obtain ⟨names, called⟩ := Linker.after_call platform handle.symbol arguments generator.linker
  unfold after execute
  rw [get_bind]
  by_cases fits : arguments.length = generator.arityOf handle
  · refine .inr ⟨names, ?_⟩
    rw [if_pos fits, ← called]
    unfold linking after
    cases Linker.call platform handle.symbol arguments generator.linker <;> rfl
  · exact .inl (by rw [if_neg fits]; rfl)

/-- A unit that the linker releases goes with the names that it defines. -/
theorem release_ok {number : Nat} {generator : Generator} {names : NameSet} {linker : Linker}
    (done : Linker.release number generator.linker = .ok names linker) :
    release number generator =
      .ok () { generator with linker, defined := generator.defined.without names } := by
  have ran : linking (Linker.release number) generator = .ok names { generator with linker } := by
    simp only [linking, done]
  rw [release, bind_ok ran]
  rfl

/-- What the linker cannot release the generator cannot release, and its names still count as
defined. -/
theorem release_error {number : Nat} {generator : Generator} {fault : Fault} {linker : Linker}
    (failed : Linker.release number generator.linker = .error fault linker) :
    release number generator = .error fault { generator with linker } := by
  have ran : linking (Linker.release number) generator =
      .error fault { generator with linker } := by
    simp only [linking, failed]
  exact bind_error ran

/-- Releasing a unit releases it in the linker. -/
theorem linker_release (number : Nat) (generator : Generator) :
    (after (release number) generator).linker =
      after (Linker.release number) generator.linker := by
  unfold after
  cases released : Linker.release number generator.linker with
  | ok names last => rw [release_ok released]
  | error fault last => rw [release_error released]

/-- A request leaves the linker alone, adds a unit to it, makes it materialize, or releases a unit
in it. -/
theorem linker_perform (platform : Platform) (generator : Generator) (request : Request) :
    (perform platform generator request).linker = generator.linker ∨
      (∃ unit, (perform platform generator request).linker = generator.linker.add unit) ∨
      (∃ names, (perform platform generator request).linker =
        (generator.linker.materialize platform).2.withHostSymbols names) ∨
      ∃ number, request = .release number ∧ (perform platform generator request).linker =
        after (Linker.release number) generator.linker := by
  cases request with
  | declare session prototype =>
    exact .inl ((declare_linker session prototype).view_after generator)
  | define session definition =>
    exact .inl ((define_linker session definition).view_after generator)
  | handOff => exact (linker_handOff generator).imp_right .inl
  | execute handle arguments =>
    rcases after_execute platform handle arguments generator with same | ⟨names, same⟩
    · exact .inl (congrArg (·.linker) same)
    · exact .inr (.inr (.inl ⟨names, congrArg (·.linker) same⟩))
  | materialize => exact .inr (.inr (.inl ⟨[], rfl⟩))
  | release number => exact .inr (.inr (.inr ⟨number, rfl, linker_release number generator⟩))

end Generator

end Reckon
