import Reckon.Platform.Doubles
import Reckon.Proofs.Dialogue.Submissions
import Reckon.Proofs.Linker.Blame

/-!
# Unresolved functions in a run

Wherever a run of the generator has come, looking a function up that some unit defines either
finds it, or reports exactly what it lacks: the names that its calls lead to and that neither a
unit nor the host answers. Its calls are not followed into a function that the host has, even if
a unit defines a function of that name, too: while that unit lacks something and waits, a call of
the name goes to the host.
-/

namespace Reckon

open Reckon.Action

namespace Linker

variable {platform : Platform} {holds : String → Nat → Code → Prop} {next : Nat} {linker : Linker}

/-- What a materialized unit calls is a word, so it is not bound to the wrapped expressions of which
only the image is left. -/
theorem Linking.supported (linking : Linking platform holds next linker)
    (worded : Dialogue.Worded holds) : Supported platform (fun _ => False) linker := by
  intro unit member name requires
  obtain ⟨symbol, arity, code, held, embodies⟩ :=
    linking.embodied unit (List.mem_append_right _ member)
  obtain ⟨_, given, made⟩ := (embodies.required name).mp requires
  have word : IsWord name := worded symbol arity code held _ made
  obtain ⟨loaded, present, rfl⟩ := linking.imaged unit member
  obtain ⟨position, there⟩ := List.mem_iff_getElem?.mp present
  rcases linking.answered position loaded there name requires with bound | host
  · obtain ⟨target, found⟩ := Option.isSome_iff_exists.mp bound
    obtain ⟨other, at_, defines⟩ := definesAt_of_bound? found
    rcases linking.image other (List.mem_of_getElem? at_) with live | ⟨number, _, _, gone, _⟩
    · exact .inl (List.mem_flatMap.mpr ⟨_, live, defines⟩)
    · rw [gone.mem_defined_iff] at defines
      exact (word.ne_of_anonymous_append _ defines).elim
  · exact .inr (.inl host)

/-- A linker that holds definitions with calls of words keeps its units in order. -/
theorem Linking.tidy (linking : Linking platform holds next linker)
    (worded : Dialogue.Worded holds) : Tidy platform linker :=
  ⟨linking.distinct, linking.supported worded, linking.imaged⟩

end Linker

namespace Dialogue

/-- The states of the generator in a run from the start: between two steps, and within a step
before and after the run of what was handed off. -/
inductive Visits (reasons : Nat → Option String) (start : Dialogue Generator) : Generator → Prop
  | between {count : Nat} {dialogue : Dialogue Generator}
      (reached : stepsRefusing reasons count start = .ok () dialogue) :
      Visits reasons start dialogue.backend
  | handedOff {count : Nat} {before : Dialogue Generator} {read : ProgramUnit} {handle : Handle}
      {compiled closed : Generator} (reached : stepsRefusing reasons count start = .ok () before)
      (submits : Submission (before.facing (reasons count)) read handle compiled closed) :
      Visits reasons start closed
  | executed {count : Nat} {before : Dialogue Generator} {function : Definition} {handle : Handle}
      {compiled closed : Generator} (reached : stepsRefusing reasons count start = .ok () before)
      (submits : Submission (before.facing (reasons count)) (.expression function) handle
        compiled closed) :
      Visits reasons start (Action.after (Generator.execute before.platform handle []) closed)

/-- Steps leave the platform as it is. -/
theorem Turns.platform_eq {dialogue after : Dialogue Generator} {more : Bool}
    (turns : Turns dialogue more after) : after.platform = dialogue.platform := by
  cases turns with
  | took _ _ _ takes => cases takes <;> rfl
  | _ => rfl

/-- The platform is the same after all steps. -/
theorem Shadowed.platform_of_steps {start : Dialogue Generator} (shadowed : start.Shadowed)
    {reasons : Nat → Option String} {count : Nat} {dialogue : Dialogue Generator}
    (reached : stepsRefusing reasons count start = .ok () dialogue) :
    dialogue.platform = start.platform := by
  induction count generalizing dialogue with
  | zero =>
    cases reached
    rfl
  | succ count inductionHypothesis =>
    obtain ⟨before, more, after, output, reachedBefore, _, turns, rfl⟩ := shadowed.last_step reached
    have kept := inductionHypothesis reachedBefore
    exact turns.platform_eq.trans kept

/-- Wherever a run comes, the linker holds definitions with calls of words. -/
theorem Visits.held {reasons : Nat → Option String} {start : Dialogue Generator}
    (shadowed : start.Shadowed) {generator : Generator} (visits : Visits reasons start generator) :
    ∃ next, Held start.platform next generator.linker := by
  cases visits with
  | between reached =>
    rw [← shadowed.platform_of_steps reached]
    exact ⟨_, (shadowed.of_steps reached).held⟩
  | handedOff reached submits =>
    obtain ⟨unit, delivers⟩ := submits.delivers ((shadowed.of_steps reached).facing _)
    rw [← shadowed.platform_of_steps reached]
    exact ⟨_, delivers.held⟩
  | executed reached submits =>
    obtain ⟨unit, delivers⟩ := submits.delivers ((shadowed.of_steps reached).facing _)
    rw [← shadowed.platform_of_steps reached]
    exact ⟨_, delivers.held.execute _ _⟩

/-- **Exactly what is lacking is reported.** Wherever a run of the generator has come, a function
that a pending or materialized unit defines has a place in the image, or looking it up is an error
that lists names, each once and at least one. The names are all those that the calls of the function
lead to, going on from none that the host has, and that neither a unit nor the host answers. If
no unit defines a function that the host has, they are all that the calls lead to at all. -/
theorem unresolved_exactly (settings : Settings) (platform : Platform) (operators : Operators)
    (level : Nat) (cursor : Cursor) (reasons : Nat → Option String) {generator : Generator}
    (visits : Visits reasons (withGenerator settings platform operators level cursor) generator)
    {name : String} (handed : ∃ unit ∈ generator.linker.units, name ∈ unit.defined) :
    ∃ names : List String, names.Nodup ∧
      (∀ needed, needed ∈ names ↔ Linker.LeadsPast platform generator.linker.units name needed ∧
        (∀ unit ∈ generator.linker.units, needed ∉ unit.defined) ∧
        platform.provides needed = false) ∧
      ((∀ unit ∈ generator.linker.units, ∀ own ∈ unit.defined, platform.provides own = false) →
        ∀ needed, needed ∈ names ↔ Linker.Leads generator.linker.units name needed ∧
          (∀ unit ∈ generator.linker.units, needed ∉ unit.defined) ∧
          platform.provides needed = false) ∧
      ((names = [] ∧ ∃ position last,
          Linker.address platform name generator.linker = .ok position last ∧
          Linker.DefinesAt last.image position name) ∨
        (names ≠ [] ∧ (RunError.unresolved names name).code = "E001" ∧ ∃ last,
          Linker.address platform name generator.linker =
            .error (.run (.unresolved names name)) last)) := by
  obtain ⟨next, held⟩ :=
    visits.held (shadowed_withGenerator settings platform operators level cursor)
  obtain ⟨holds, worded, linking⟩ := held
  have distinct := Linker.nodup_pending linking.numbers
  obtain ⟨names, once, lacking, ends⟩ :=
    Linker.address_exact distinct (linking.materialize.tidy worded) handed
  have exact (needed : String) : needed ∈ names ↔
      Linker.LeadsPast platform generator.linker.units name needed ∧
        (∀ unit ∈ generator.linker.units, needed ∉ unit.defined) ∧
        platform.provides needed = false := by
    rw [lacking]
    constructor
    · exact fun lacks => ⟨lacks.leads, lacks.undefined, lacks.foreign⟩
    · rintro ⟨leads, undefined, foreign⟩
      exact ⟨leads, undefined, foreign⟩
  refine ⟨names, once, exact, fun apart needed => ?_, ?_⟩
  · rw [exact, Linker.leadsPast_iff apart]
  · rcases ends with found | ⟨listed, failed⟩
    · exact .inl found
    · exact .inr ⟨listed, rfl, failed⟩

/-- The names that nobody answers, if they are the reason that a function is not found. -/
def blamed? (platform : Platform) (name : String) (linker : Linker) : Option (List String) :=
  match Linker.address platform name linker with
  | .error (.run (.unresolved names _)) _ => some names
  | _ => none

/-- A function calls another, which waits for a function that was only declared. This one is lacking
and no other: the other calls are of a function that a unit defines and of one that the host has. -/
theorem unresolved_exactly_waiting :
    let cursor := Cursor.start ""
      "extern missing(x); extern sin(x); def f(x) missing(x)+sin(x); def g(x) f(x);".toList
    ∃ generator, Visits (fun _ => none) (withGenerator .quiet .doubles .standard 2 cursor)
        generator ∧
      (∃ unit ∈ generator.linker.units, "g" ∈ unit.defined) ∧
      (∀ needed, Linker.LeadsPast .doubles generator.linker.units "g" needed ∧
          (∀ unit ∈ generator.linker.units, needed ∉ unit.defined) ∧
          Platform.doubles.provides needed = false ↔ needed = "missing") ∧
      ∃ last, Linker.address .doubles "g" generator.linker =
        .error (.run (.unresolved ["missing"] "g")) last := by
  intro cursor
  obtain ⟨dialogue, reached, handed, computed⟩ : ∃ dialogue,
      stepsRefusing (fun _ => none) 8 (withGenerator .quiet .doubles .standard 2 cursor) =
        .ok () dialogue ∧
      (∃ unit ∈ dialogue.backend.linker.units, "g" ∈ unit.defined) ∧
      blamed? .doubles "g" dialogue.backend.linker = some ["missing"] :=
    exists_end (by decide +kernel)
  have visits := Visits.between reached
  obtain ⟨names, _, exact, _, ends⟩ :=
    unresolved_exactly .quiet .doubles .standard 2 cursor _ visits handed
  rcases ends with ⟨_, position, last, found, _⟩ | ⟨_, _, last, failed⟩
  · rw [blamed?, found] at computed
    cases computed
  · rw [blamed?, failed] at computed
    obtain rfl : names = ["missing"] := Option.some.inj computed
    refine ⟨dialogue.backend, visits, handed, fun needed => ?_, last, failed⟩
    rw [← exact, List.mem_singleton]

/-- A unit defines a function that the host has, and waits for a function that was only declared.
The function that calls it is found, although its calls lead to what nobody answers. -/
theorem host_function_hides_unresolved :
    let cursor := Cursor.start ""
      "extern missing(x); def sin(x) missing(x); def f(x) sin(x);".toList
    ∃ dialogue,
      stepsRefusing (fun _ => none) 6 (withGenerator .quiet .doubles .standard 2 cursor) =
        .ok () dialogue ∧
      (∃ unit ∈ dialogue.backend.linker.units, "f" ∈ unit.defined) ∧
      Linker.Leads dialogue.backend.linker.units "f" "missing" ∧
      (∀ unit ∈ dialogue.backend.linker.units, "missing" ∉ unit.defined) ∧
      Platform.doubles.provides "missing" = false ∧
      ∃ position last,
        Linker.address .doubles "f" dialogue.backend.linker = .ok position last := by
  intro cursor
  obtain ⟨dialogue, reached, handed, first, second, undefined, found⟩ : ∃ dialogue,
      stepsRefusing (fun _ => none) 6 (withGenerator .quiet .doubles .standard 2 cursor) =
        .ok () dialogue ∧
      (∃ unit ∈ dialogue.backend.linker.units, "f" ∈ unit.defined) ∧
      (∃ unit ∈ dialogue.backend.linker.units, "f" ∈ unit.defined ∧ "sin" ∈ unit.required) ∧
      (∃ unit ∈ dialogue.backend.linker.units, "sin" ∈ unit.defined ∧
        "missing" ∈ unit.required) ∧
      (∀ unit ∈ dialogue.backend.linker.units, "missing" ∉ unit.defined) ∧
      ((Linker.address .doubles "f").run' dialogue.backend.linker).isSome = true :=
    exists_end (by decide +kernel)
  obtain ⟨caller, there, defines, requires⟩ := first
  obtain ⟨callee, thereToo, definesToo, requiresToo⟩ := second
  refine ⟨dialogue, reached, handed, ?_, undefined, by decide, ?_⟩
  · exact .onward (.directly there defines requires) thereToo definesToo requiresToo
  · exact exists_ok found

end Dialogue

end Reckon
