import Reckon.Proofs.Evaluator.Stock
import Reckon.Proofs.Pairing.Rejections

/-!
# One outcome for each step

Whatever the program and whatever units the machine refuses, a step that finds something
to do has exactly one outcome, and one that ends in a complaint is undone: results,
prototypes, defined names and units are what they were.
-/

namespace Reckon

namespace Dialogue

section

variable {dialogue : Dialogue Evaluator}

/-- Some generator is coupled with the evaluator. -/
def Accompanied (dialogue : Dialogue Evaluator) : Prop :=
  ∃ generator, Coupled dialogue.session (fun _ _ => True) dialogue.platform dialogue.backend
    generator

/-- A step with an evaluator comes to one of its ends. -/
theorem Accompanied.turns (accompanied : dialogue.Accompanied) :
    ∃ more after output, Turns dialogue more after ∧ after.Accompanied ∧
      step dialogue = .ok more { after with output } := by
  obtain ⟨generator, coupled⟩ := accompanied
  let beside : Dialogue Generator :=
    { settings := dialogue.settings, platform := dialogue.platform, cursor := dialogue.cursor,
      started := dialogue.started, session := dialogue.session, backend := generator,
      results := dialogue.results, complaints := dialogue.complaints, output := dialogue.output }
  have paired : Paired (fun _ _ => True) dialogue beside :=
    ⟨rfl, rfl, rfl, rfl, coupled, fun _ _ _ _ => ⟨"", trivial⟩⟩
  obtain ⟨more, after, right, turns, _, pairedAfter, _⟩ := paired.step
  obtain ⟨output, stepped⟩ := turns.ends dialogue.output
  exact ⟨more, after, output, turns,
    ⟨right.backend, pairedAfter.coupled.weaken fun _ _ _ => trivial⟩, stepped⟩

/-- A step with an evaluator leads on. -/
theorem Accompanied.proceeds (accompanied : dialogue.Accompanied) :
    ∃ more after, step dialogue = .ok more after ∧ dialogue.Proceeds more after ∧
      after.Accompanied := by
  obtain ⟨more, after, output, turns, accompaniedAfter, stepped⟩ := accompanied.turns
  obtain ⟨generator, coupled⟩ := accompanied
  have orderly := coupled.settled.orderly coupled.keyed dialogue.platform
  exact ⟨more, { after with output }, stepped, (turns.proceeds orderly).withOutput output,
    accompaniedAfter⟩

/-- One more step is taken after the others. -/
theorem steps_succ_eq {count : Nat} {start before after : Dialogue Evaluator} {more : Bool}
    (reached : Dialogue.steps count start = .ok () before)
    (stepped : step before = .ok more after) :
    Dialogue.steps (count + 1) start = .ok () after :=
  steps_succ_eq_ok_iff.mpr ⟨before, more, reached, stepped⟩

/-- A number of steps with an evaluator is taken. -/
theorem Accompanied.steps (accompanied : dialogue.Accompanied) (count : Nat) :
    ∃ before, Dialogue.steps count dialogue = .ok () before ∧ before.Accompanied := by
  induction count with
  | zero => exact ⟨dialogue, rfl, accompanied⟩
  | succ count inductionHypothesis =>
    obtain ⟨before, reached, there⟩ := inductionHypothesis
    obtain ⟨more, after, stepped, _, accompaniedAfter⟩ := there.proceeds
    exact ⟨after, steps_succ_eq reached stepped, accompaniedAfter⟩

/-- Each of the steps leads on. -/
theorem Accompanied.leads (accompanied : dialogue.Accompanied) (count : Nat) :
    ∃ before more after, Dialogue.steps count dialogue = .ok () before ∧
      Dialogue.steps (count + 1) dialogue = .ok () after ∧ before.Proceeds more after := by
  obtain ⟨before, reached, there⟩ := accompanied.steps count
  obtain ⟨more, after, stepped, proceeds, _⟩ := there.proceeds
  exact ⟨before, more, after, reached, steps_succ_eq reached stepped, proceeds⟩

end

section

variable (settings : Settings) (platform : Platform) (operators : Operators) (level : Nat)
  (cursor : Cursor)

/-- A dialogue of the evaluator starts with a generator beside it. -/
theorem accompanied_withEvaluator :
    (withEvaluator settings platform operators cursor).Accompanied := by
  have keyed : (newSession operators).Keyed := Session.keyed_fresh
  exact ⟨.initial 0 none, .initial keyed _ platform 0⟩

/-- A dialogue of the generator starts as the shadow of an evaluator. -/
theorem shadowed_withGenerator :
    (withGenerator settings platform operators level cursor).Shadowed := by
  have keyed : (newSession operators).Keyed := Session.keyed_fresh
  exact ⟨.initial, .initial keyed _ platform level⟩

end

section

variable {β : Type} [Backend β] [Stocked β]

/-- Exactly one event has happened. If it is a complaint, results, prototypes, defined names and
units are as before, and the open unit is, too, except that it may have been replaced by an empty
one or have got declarations. -/
structure OneOutcome (before after : Dialogue β) : Prop where
  event : ∃! event, before.Undergoes event after
  undone (complaint : Complaint) (undergoes : before.Undergoes (.complained complaint) after) :
    after.results = before.results ∧ after.session.prototypes = before.session.prototypes ∧
      Unshaken before.backend after.backend

/-- A step that leads on and finds something to do has one outcome. -/
theorem Proceeds.oneOutcome {before after : Dialogue β} (proceeds : before.Proceeds true after) :
    OneOutcome before after := by
  cases proceeds with
  | event passes =>
    obtain ⟨undergoes, affects⟩ := passes
    constructor
    · exact ⟨_, undergoes, fun other undergoesToo => undergoesToo.unique undergoes⟩
    · intro complaint complains
      obtain rfl := undergoes.unique complains
      exact ⟨complains.results.trans (List.append_nil _), congrArg _ complains.session, affects⟩

end

/-- **Every step has one outcome, and failed steps are undone.** For every program, table of
operators and platform, and after any number of steps, the next step is taken, both with the
evaluator and with a generator whose machine refuses whatever units it likes. If the step finds
something to do, it has exactly one outcome, and if that is a complaint, nothing but the open unit
has changed. -/
theorem steps_have_one_outcome (settings : Settings) (platform : Platform) (operators : Operators)
    (level : Nat) (cursor : Cursor) (reasons : Nat → Option String) (count : Nat) :
    (∃ before more after,
      steps count (withEvaluator settings platform operators cursor) = .ok () before ∧
      step before = .ok more after ∧ (more = true → OneOutcome before after)) ∧
    ∃ before more after,
      stepsRefusing reasons count (withGenerator settings platform operators level cursor) =
        .ok () before ∧
      stepRefusing (reasons count) before = .ok more after ∧
      (more = true → OneOutcome before after) := by
  constructor
  · obtain ⟨before, reached, accompanied⟩ :=
      (accompanied_withEvaluator settings platform operators cursor).steps count
    obtain ⟨more, after, stepped, proceeds, _⟩ := accompanied.proceeds
    refine ⟨before, more, after, reached, stepped, ?_⟩
    rintro rfl
    exact proceeds.oneOutcome
  · obtain ⟨before, reached, shadowed⟩ :=
      (shadowed_withGenerator settings platform operators level cursor).steps reasons count
    obtain ⟨more, after, stepped, proceeds, _⟩ := shadowed.proceeds (reasons count)
    refine ⟨before, more, after, reached, stepped, ?_⟩
    rintro rfl
    exact proceeds.oneOutcome

end Dialogue

end Reckon
