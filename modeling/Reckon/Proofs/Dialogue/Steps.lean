import Reckon.Proofs.Dialogue.Turns

/-!
# Steps one after the other

A dialogue is taken through any number of steps; at the end of the program further steps
change nothing but what has been written.

A refused definition leaves its declaration in the open unit, where later definitions
find it, but it is recorded nowhere. Which definitions were accepted while such a
declaration was left over can be told from the states of the dialogue.
-/

namespace Reckon

namespace Dialogue

variable {β : Type} [Backend β]

/-- Takes a number of steps. -/
def steps : Nat → Turn β Unit
  | 0 => pure ()
  | count + 1 => do
    steps count
    let _ ← step

/-- One more step is taken after the others. -/
theorem steps_succ {count : Nat} {start dialogue after : Dialogue β} {more : Bool}
    (reached : steps count start = .ok () dialogue) (turns : Turns dialogue more after) :
    ∃ output, steps (count + 1) start = .ok () { after with output } := by
  obtain ⟨output, ended⟩ := turns.ends dialogue.output
  refine ⟨output, ?_⟩
  change (steps count >>= fun _ => step >>= fun _ => pure ()) start = _
  rw [Action.bind_ok reached, Action.bind_ok ended]
  rfl

/-- The last of some steps goes on from where the others have come to. -/
theorem steps_succ_eq_ok_iff {count : Nat} {start after : Dialogue β} :
    steps (count + 1) start = .ok () after ↔
      ∃ before more, steps count start = .ok () before ∧ step before = .ok more after := by
  change (steps count >>= fun _ => step >>= fun _ => pure ()) start = _ ↔ _
  constructor
  · intro done
    obtain ⟨_, before, reached, later⟩ := Action.bind_eq_ok_iff.mp done
    obtain ⟨more, last, stepped, ended⟩ := Action.bind_eq_ok_iff.mp later
    cases ended
    exact ⟨before, more, reached, stepped⟩
  · rintro ⟨before, more, reached, stepped⟩
    rw [Action.bind_ok reached, Action.bind_ok stepped]
    rfl

omit [Backend β] in
/-- A turn that ends as tested has an end. -/
theorem exists_end {turn : Turn β Unit} {start : Dialogue β} {wanted : Dialogue β → Prop}
    [∀ dialogue, Decidable (wanted dialogue)]
    (test : (match turn start with
      | .ok _ dialogue => decide (wanted dialogue)
      | .error .. => false) = true) :
    ∃ dialogue, turn start = .ok () dialogue ∧ wanted dialogue := by
  cases ended : turn start with
  | ok _ dialogue =>
    rw [ended] at test
    exact ⟨dialogue, rfl, of_decide_eq_true test⟩
  | error =>
    rw [ended] at test
    cases test

/-- A function is declared in the open unit and recorded nowhere. -/
def LeftOver (dialogue : Dialogue β) (name : String) : Prop :=
  (Declarations.lookup dialogue.backend name).isSome = true ∧ dialogue.session.find? name = none

/-- A definition is accepted while the declaration of another function is left over. -/
structure Excuses (before after : Dialogue β) (caller callee : String) : Prop where
  undefined : caller ∉ Backend.defined before.backend
  defined : caller ∈ Backend.defined after.backend
  leftOver : before.LeftOver callee
  other : callee ≠ caller

/-- One of the first steps accepts a definition while the declaration of another function is left
over. -/
def ExcusedWithin (start : Dialogue β) (count : Nat) (caller callee : String) : Prop :=
  ∃ step < count, ∃ before after, steps step start = .ok () before ∧
    steps (step + 1) start = .ok () after ∧ before.Excuses after caller callee

/-- What was excused is excused after one more step. -/
theorem ExcusedWithin.succ {start : Dialogue β} {count : Nat} {caller callee : String}
    (excused : start.ExcusedWithin count caller callee) :
    start.ExcusedWithin (count + 1) caller callee := by
  obtain ⟨step, less, rest⟩ := excused
  exact ⟨step, Nat.lt_succ_of_lt less, rest⟩

end Dialogue

end Reckon
