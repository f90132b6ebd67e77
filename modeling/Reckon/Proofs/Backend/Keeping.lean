import Reckon.Proofs.Backend.Contract

/-!
# What actions keep

An action keeps a property of states if the property holds after the action whenever it
held before, whether the action gives a result or stops with a fault. Like a promise, this
is proved along the text of the action. A back end keeps what all its operations keep.
-/

namespace Reckon

namespace Action

variable {σ α β : Type} {good : σ → Prop}

/-- Whether the action gives a result or not, the property is not lost. -/
def Keeps (good : σ → Prop) (action : EStateM Fault σ α) : Prop :=
  ∀ state, good state → Ensures action state fun
    | .ok _ after | .error _ after => good after

/-- A value that is given back keeps whatever holds. -/
theorem keeps_pure (value : α) : Keeps good (pure value : EStateM Fault σ α) :=
  fun _ holds => holds

/-- A fault that is thrown keeps whatever holds. -/
theorem keeps_throw (fault : Fault) : Keeps good (throw fault : EStateM Fault σ α) :=
  fun _ holds => holds

/-- Looking at the state loses nothing. -/
theorem keeps_get {next : σ → EStateM Fault σ α} (continues : ∀ state, Keeps good (next state)) :
    Keeps good (get >>= next) :=
  fun state => continues state state

/-- A change of the state keeps what each change keeps. -/
theorem keeps_modify {change : σ → σ} (keeps : ∀ state, good state → good (change state)) :
    Keeps good (modify change : EStateM Fault σ PUnit) :=
  keeps

/-- A check does not touch the state. -/
theorem keeps_check (fault? : Option Fault) : Keeps good (check fault?) := by
  cases fault? with
  | none => exact keeps_pure _
  | some fault => exact keeps_throw _

/-- Two actions one after the other keep what both keep. -/
theorem Keeps.bind {first : EStateM Fault σ α} {next : α → EStateM Fault σ β}
    (start : Keeps good first) (continues : ∀ value, Keeps good (next value)) :
    Keeps good (first >>= next) := by
  intro state holds
  apply (start state holds).bind
  · exact fun _ _ kept => kept
  · exact fun value middle kept => continues value middle kept

/-- What an action promises says whether it keeps the property. -/
theorem keeps_of_ensures {action : EStateM Fault σ α}
    {promise : σ → EStateM.Result Fault σ α → Prop}
    (ensures : ∀ state, Ensures action state (promise state))
    (gives : ∀ state value after, good state → promise state (.ok value after) → good after)
    (stops : ∀ state fault after, good state → promise state (.error fault after) → good after) :
    Keeps good action := by
  intro state holds
  have spec := ensures state
  unfold Ensures at spec ⊢
  cases ended : action state with
  | ok value after =>
    rw [ended] at spec
    exact gives state value after holds spec
  | error fault after =>
    rw [ended] at spec
    exact stops state fault after holds spec

/-- The property holds after an action that gives a result. -/
theorem Keeps.of_ok {action : EStateM Fault σ α} (keeps : Keeps good action) {state after : σ}
    {value : α} (done : action state = .ok value after) (holds : good state) : good after := by
  have kept := keeps state holds
  rw [Ensures, done] at kept
  exact kept

/-- The property holds after an action that stops with a fault. -/
theorem Keeps.of_error {action : EStateM Fault σ α} (keeps : Keeps good action) {state after : σ}
    {fault : Fault} (failed : action state = .error fault after) (holds : good state) :
    good after := by
  have kept := keeps state holds
  rw [Ensures, failed] at kept
  exact kept

end Action

open Reckon.Action

/-- Finding a function keeps what declaring its recorded prototype keeps. -/
theorem resolve_keeps {β : Type} [Declarations β] {good : β → Prop} {session : Session}
    {name : String} (declares : ∀ known, session.find? name = some known →
      Keeps good (Declarations.declare session known)) : Keeps good (resolve session name) := by
  apply keeps_get
  intro backend
  cases Declarations.lookup backend name with
  | some handle => exact keeps_pure _
  | none =>
    cases recorded : session.find? name with
    | none => exact keeps_pure _
    | some known => exact (declares known recorded).bind fun _ => keeps_pure _

/-- All operations of the back end keep the property. -/
structure Kept {β : Type} [Backend β] (good : β → Prop) : Prop where
  declares (session : Session) (prototype : Prototype) :
    Keeps good (Declarations.declare session prototype)
  defines (session : Session) (handle : Handle) (body : Node) (parameters : List String) :
    Keeps good (Backend.defineBody session handle body parameters)
  handsOff : Keeps good (Backend.handOff : Action β Nat)
  executes (platform : Platform) (handle : Handle) (arguments : List Float) :
    Keeps good (Backend.execute platform handle arguments)
  releases (number : Nat) : Keeps good (Backend.release number)

/-- A definition keeps what its operations keep. -/
theorem Kept.define {β : Type} [Backend β] {good : β → Prop} (kept : Kept good) (session : Session)
    (definition : Definition) : Keeps good (define session definition) :=
  (kept.declares session definition.prototype).bind fun _ =>
    (kept.defines session _ _ _).bind fun _ => keeps_pure _

end Reckon
