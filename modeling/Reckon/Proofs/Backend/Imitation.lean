import Reckon.Proofs.Backend.Contract

/-!
# Doing the same from a state that knows more

An action imitates another if it gives a value whenever the other does, with related values and
related states afterwards. Of two states one may know more functions than the other: what the
other finds it finds as well, and what has still to be declared there can be declared here or
stands here already. Then names in calls mean in it what they mean in the other.
-/

namespace Reckon

namespace Action

variable {σ τ α β γ δ : Type}

/-- If the left action gives a value, so does the right one, and the values and what is left are
related. -/
def Imitates (left : EStateM Fault σ α) (right : EStateM Fault τ β) (state : σ) (other : τ)
    (related : α → σ → β → τ → Prop) : Prop :=
  ∀ value after, left state = .ok value after →
    ∃ valueToo afterToo, right other = .ok valueToo afterToo ∧ related value after valueToo afterToo

variable {left : EStateM Fault σ α} {right : EStateM Fault τ β} {state : σ} {other : τ}
  {related : α → σ → β → τ → Prop}

/-- Two values imitate each other where they are given back. -/
theorem imitates_pure {value : α} {valueToo : β} (holds : related value state valueToo other) :
    Imitates (pure value) (pure valueToo) state other related := by
  intro given after done
  cases done
  exact ⟨valueToo, other, rfl, holds⟩

/-- Nothing has to be imitated where there is a fault. -/
theorem imitates_throw (fault : Fault) :
    Imitates (throw fault : EStateM Fault σ α) right state other related := by
  intro value after done
  cases done

/-- Actions one after the other imitate if both do. -/
theorem Imitates.bind {next : α → EStateM Fault σ γ} {nextToo : β → EStateM Fault τ δ}
    {last : γ → σ → δ → τ → Prop} (start : Imitates left right state other related)
    (continues : ∀ value after valueToo afterToo, related value after valueToo afterToo →
      Imitates (next value) (nextToo valueToo) after afterToo last) :
    Imitates (left >>= next) (right >>= nextToo) state other last := by
  intro result ended done
  obtain ⟨value, after, first, rest⟩ := bind_eq_ok_iff.mp done
  obtain ⟨valueToo, afterToo, firstToo, holds⟩ := start value after first
  obtain ⟨resultToo, endToo, restToo, holdsLast⟩ := continues _ _ _ _ holds _ _ rest
  exact ⟨resultToo, endToo, bind_eq_ok_iff.mpr ⟨valueToo, afterToo, firstToo, restToo⟩, holdsLast⟩

/-- Two actions that look at their states imitate each other if they do so with what they see. -/
theorem imitates_get {next : σ → EStateM Fault σ α} {nextToo : τ → EStateM Fault τ β}
    (continues : Imitates (next state) (nextToo other) state other related) :
    Imitates (get >>= next) (get >>= nextToo) state other related := continues

/-- A check on the right has to pass if the one on the left does. -/
theorem imitates_check {fault? faultToo? : Option Fault} {next : PUnit → EStateM Fault σ α}
    {nextToo : PUnit → EStateM Fault τ β} (passes : fault? = none → faultToo? = none)
    (continues : fault? = none → Imitates (next ⟨⟩) (nextToo ⟨⟩) state other related) :
    Imitates (check fault? >>= next) (check faultToo? >>= nextToo) state other related := by
  cases accepted : fault? with
  | some fault =>
    intro value after done
    cases done
  | none =>
    rw [passes accepted]
    exact continues accepted

end Action

open Reckon.Action

/-- A relation of states of a back end of which the right one knows more than the left one. Some
prototypes are known to agree with the functions that only the right one knows. -/
structure Covering {β : Type} [Declarations β] (session : Session) (allowed : Prototype → Prop)
    (covers : β → β → Prop) : Prop where
  found {left right : β} (covered : covers left right) {name : String} {handle : Handle}
    (there : Declarations.lookup left name = some handle) :
    Declarations.lookup right name = some handle ∧
      Declarations.arity right handle = Declarations.arity left handle
  declare {left right : β} (covered : covers left right) {prototype : Prototype}
    (may : allowed prototype) :
    Imitates (Declarations.declare session prototype) (Declarations.declare session prototype)
      left right fun handle after handleToo afterToo =>
        handleToo = handle ∧ covers after afterToo ∧
          Declarations.lookup after prototype.name = some handle
  stands {state after : β} {prototype : Prototype} {handle given : Handle}
    (there : Declarations.lookup state prototype.name = some handle)
    (done : Declarations.declare session prototype state = .ok given after) :
    given = handle ∧ after = state

section

variable {β : Type} [Declarations β] {session : Session} {allowed : Prototype → Prop}
  {covers : β → β → Prop} {left right : β}

/-- A name that finds a function on the left finds it on the right. -/
theorem Covering.resolve (covering : Covering session allowed covers)
    (recorded : ∀ name known, session.find? name = some known → known.name = name ∧ allowed known)
    (covered : covers left right) (name : String) :
    Imitates (resolve session name) (resolve session name) left right
      fun found after foundToo afterToo => ∀ handle, found = some handle →
        foundToo = some handle ∧ covers after afterToo ∧
          Declarations.arity afterToo handle = Declarations.arity after handle := by
  unfold Reckon.resolve
  apply imitates_get
  cases there : Declarations.lookup left name with
  | some handle =>
    obtain ⟨thereToo, arity⟩ := covering.found covered there
    rw [thereToo]
    refine imitates_pure ?_
    rintro _ ⟨⟩
    exact ⟨rfl, covered, arity⟩
  | none =>
    cases finds : session.find? name with
    | none =>
      rintro _ _ ⟨⟩
      cases Declarations.lookup right name with
      | none =>
        refine ⟨none, right, rfl, ?_⟩
        rintro _ ⟨⟩
      | some other =>
        refine ⟨some other, right, rfl, ?_⟩
        rintro _ ⟨⟩
    | some known =>
      obtain ⟨rfl, may⟩ := recorded name known finds
      have declares := covering.declare covered may
      cases thereToo : Declarations.lookup right known.name with
      | none =>
        apply declares.bind
        rintro handle after _ afterToo ⟨rfl, coveredToo, stands⟩
        refine imitates_pure ?_
        rintro _ ⟨⟩
        exact ⟨rfl, coveredToo, (covering.found coveredToo stands).2⟩
      | some other =>
        -- The right state knows the function already, and declaring it again changes nothing.
        intro found after done
        obtain ⟨handle, middle, declared, last⟩ := bind_eq_ok_iff.mp done
        cases last
        obtain ⟨_, _, declaredToo, rfl, coveredToo, stands⟩ := declares handle _ declared
        obtain ⟨rfl, rfl⟩ := covering.stands thereToo declaredToo
        refine ⟨some _, _, rfl, ?_⟩
        rintro _ ⟨⟩
        exact ⟨rfl, coveredToo, (covering.found coveredToo stands).2⟩

end

end Reckon
