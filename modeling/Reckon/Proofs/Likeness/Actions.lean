import Reckon.Proofs.Backend.Contract
import Reckon.Proofs.Catalog
import Reckon.Proofs.Likeness.Trees

/-!
# Actions that do not depend on places

Places are kept for reports only. An action respects likeness if, from states that are alike,
it gives the same results or the same faults, up to the places that these point to, and
leaves states that are alike. This is proved along the texts of two actions at once, as the
trees and prototypes that they are about may differ in their places.
-/

namespace Reckon

/-- Options that look the same are both empty or have values that look the same. -/
theorem both_of_map_eq {α β : Type} {look : α → β} {left right : Option α}
    (same : left.map look = right.map look) :
    left = none ∧ right = none ∨
      ∃ value valueToo, left = some value ∧ right = some valueToo ∧ look value = look valueToo := by
  cases left with
  | none =>
    cases right with
    | none => exact .inl ⟨rfl, rfl⟩
    | some valueToo => cases same
  | some value =>
    cases right with
    | none => cases same
    | some valueToo => exact .inr ⟨value, valueToo, rfl, rfl, Option.some.inj same⟩

/-- A fault without the place that it points to. -/
def Fault.bare : Fault → Fault
  | .compile error _ => .compile error none
  | fault => fault

/-- Only faults of compiling have a place. -/
theorem Fault.eq_or_compile {fault faultToo : Fault} (same : fault.bare = faultToo.bare) :
    fault = faultToo ∨ ∃ error location other,
      fault = .compile error location ∧ faultToo = .compile error other := by
  cases fault with
  | compile error location =>
    cases faultToo with
    | compile errorToo other =>
      cases same
      exact .inr ⟨error, location, other, rfl, rfl⟩
    | _ => cases same
  | _ =>
    cases faultToo with
    | compile errorToo other => cases same
    | _ => exact .inl same

namespace Action

variable {σ τ α β γ δ : Type}

/-- Values that are related, or faults that differ in their places only, and related states. -/
inductive EndsAlike (states : σ → τ → Prop) (values : α → β → Prop) :
    EStateM.Result Fault σ α → EStateM.Result Fault τ β → Prop
  | ok {value : α} {valueToo : β} {after : σ} {afterToo : τ} (related : values value valueToo)
      (alike : states after afterToo) :
      EndsAlike states values (.ok value after) (.ok valueToo afterToo)
  | error {fault faultToo : Fault} {after : σ} {afterToo : τ} (same : fault.bare = faultToo.bare)
      (alike : states after afterToo) :
      EndsAlike states values (.error fault after) (.error faultToo afterToo)

/-- From related states the actions end alike. -/
def Respects (states : σ → τ → Prop) (values : α → β → Prop) (left : EStateM Fault σ α)
    (right : EStateM Fault τ β) : Prop :=
  ∀ state stateToo, states state stateToo → EndsAlike states values (left state) (right stateToo)

variable {states : σ → τ → Prop} {values : α → β → Prop} {last : γ → δ → Prop}

/-- Related values are given back alike. -/
theorem respects_pure {value : α} {valueToo : β} (related : values value valueToo) :
    Respects states values (pure value) (pure valueToo) :=
  fun _ _ alike => .ok related alike

/-- Faults that differ in their places only are thrown alike. -/
theorem respects_throw {fault faultToo : Fault} (same : fault.bare = faultToo.bare) :
    Respects states values (throw fault) (throw faultToo) :=
  fun _ _ alike => .error same alike

/-- To look at related states is to see related states. -/
theorem respects_get : Respects states states get get := fun _ _ alike => .ok alike alike

/-- Related states may be put in place. -/
theorem respects_set {state : σ} {stateToo : τ} (alike : states state stateToo) :
    Respects states Eq (set state) (set stateToo) :=
  fun _ _ _ => .ok rfl alike

/-- Changes that keep states related may be made. -/
theorem respects_modify {change : σ → σ} {changeToo : τ → τ}
    (keeps : ∀ state stateToo, states state stateToo → states (change state) (changeToo stateToo)) :
    Respects states Eq (modify change) (modify changeToo) :=
  fun state stateToo alike => .ok rfl (keeps state stateToo alike)

/-- Actions one after the other respect likeness if both do. -/
theorem Respects.bind {left : EStateM Fault σ α} {right : EStateM Fault τ β}
    {next : α → EStateM Fault σ γ} {nextToo : β → EStateM Fault τ δ}
    (start : Respects states values left right)
    (continues : ∀ value valueToo, values value valueToo →
      Respects states last (next value) (nextToo valueToo)) :
    Respects states last (left >>= next) (right >>= nextToo) := by
  intro state stateToo alike
  change EndsAlike states last (EStateM.bind left next state) (EStateM.bind right nextToo stateToo)
  have ends := start state stateToo alike
  simp only [EStateM.bind]
  generalize left state = result at ends
  generalize right stateToo = resultToo at ends
  cases ends with
  | ok related alike => exact continues _ _ related _ _ alike
  | error same alike => exact .error same alike

/-- The same check, up to places, passes or fails on both sides. -/
theorem respects_check {fault? faultToo? : Option Fault}
    (same : fault?.map Fault.bare = faultToo?.map Fault.bare) :
    Respects states Eq (check fault? : EStateM Fault σ Unit) (check faultToo?) := by
  obtain ⟨rfl, rfl⟩ | ⟨fault, faultToo, rfl, rfl, sameFault⟩ := both_of_map_eq same
  · exact respects_pure rfl
  · exact respects_throw sameFault

/-- An action respects the equality of states. -/
theorem respects_refl (action : EStateM Fault σ α) : Respects Eq Eq action action := by
  rintro state _ rfl
  cases action state with
  | ok value after => exact .ok rfl rfl
  | error fault after => exact .error rfl rfl

end Action

/-! ## Prototypes and sessions -/

/-- The same prototypes are recorded under the same names. -/
def Session.Alike (left right : Session) : Prop :=
  left.prototypes.map Prototype.bare = right.prototypes.map Prototype.bare

namespace Session.Alike

variable {left right : Session} {prototype prototypeToo : Prototype}

/-- A name is recorded in both sessions with prototypes that are alike, or in neither. -/
theorem find? (sessions : left.Alike right) (name : String) :
    left.find? name = none ∧ right.find? name = none ∨
      ∃ prototype prototypeToo, left.find? name = some prototype ∧
        right.find? name = some prototypeToo ∧ prototype.Alike prototypeToo := by
  have same : (left.find? name).map Prototype.bare = (right.find? name).map Prototype.bare := by
    rw [Session.find?, Session.find?, ← Catalog.get?_map, ← Catalog.get?_map, sessions]
  simpa only [Prototype.alike_iff] using both_of_map_eq same

/-- Recording prototypes that are alike keeps sessions alike. -/
theorem record (sessions : left.Alike right) (alike : prototype.Alike prototypeToo) :
    (left.record prototype).Alike (right.record prototypeToo) := by
  change (left.prototypes.put _ _).map _ = (right.prototypes.put _ _).map _
  rw [Catalog.map_put, Catalog.map_put, sessions, alike.name,
    (Prototype.alike_iff _ _).mp alike]

/-- The same prototypes are refused, for the same reasons. -/
theorem prototypeFault? (sessions : left.Alike right) (alike : prototype.Alike prototypeToo) :
    (left.prototypeFault? prototype).map Fault.bare =
      (right.prototypeFault? prototypeToo).map Fault.bare := by
  unfold Session.prototypeFault?
  rw [alike.name, alike.parameters, alike.arity]
  cases firstRepeated? [] prototypeToo.parameters with
  | some parameter => rfl
  | none =>
    obtain ⟨found, foundToo⟩ | ⟨known, knownToo, found, foundToo, same⟩ :=
      sessions.find? prototypeToo.name
    · rw [found, foundToo]
    · rw [found, foundToo]
      dsimp only
      rw [same.arity]
      split <;> rfl

end Session.Alike

/-- A declaration of another arity is refused alike, wherever it is written. -/
theorem declarationFault?_alike {prototype prototypeToo : Prototype}
    (alike : prototype.Alike prototypeToo) (arity : Nat) :
    (declarationFault? prototype arity).map Fault.bare =
      (declarationFault? prototypeToo arity).map Fault.bare := by
  unfold declarationFault?
  rw [alike.arity, alike.name]
  split <;> rfl

/-- A second body is refused alike, wherever it is written. -/
theorem redefinitionFault?_alike (defined : NameSet) (name : String) (hasBody : Bool)
    (location other : Option Location) :
    (redefinitionFault? defined name hasBody location).map Fault.bare =
      (redefinitionFault? defined name hasBody other).map Fault.bare := by
  unfold redefinitionFault?
  split <;> rfl

/-! ## Back ends -/

/-- A relation of the states of a back end that the part of it that declares functions respects. -/
structure DeclaresAlike {β : Type} [Declarations β] (states : β → β → Prop) : Prop where
  lookup {state stateToo : β} (alike : states state stateToo) (name : String) :
    Declarations.lookup state name = Declarations.lookup stateToo name
  arity {state stateToo : β} (alike : states state stateToo) (handle : Handle) :
    Declarations.arity state handle = Declarations.arity stateToo handle
  declare {session sessionToo : Session} (sessions : session.Alike sessionToo)
      {prototype prototypeToo : Prototype} (alike : prototype.Alike prototypeToo) :
    Action.Respects states Eq (Declarations.declare session prototype)
      (Declarations.declare sessionToo prototypeToo)

/-- Names in calls mean the same functions. -/
theorem DeclaresAlike.resolve {β : Type} [Declarations β] {states : β → β → Prop}
    (declares : DeclaresAlike states) {session sessionToo : Session}
    (sessions : session.Alike sessionToo) (name : String) :
    Action.Respects states Eq (resolve session name) (resolve sessionToo name) := by
  unfold Reckon.resolve
  apply Action.respects_get.bind
  intro state stateToo alike
  rw [declares.lookup alike]
  cases Declarations.lookup stateToo name with
  | some handle => exact Action.respects_pure rfl
  | none =>
    obtain ⟨found, foundToo⟩ | ⟨prototype, prototypeToo, found, foundToo, alike⟩ :=
      sessions.find? name
    · rw [found, foundToo]
      exact Action.respects_pure rfl
    · rw [found, foundToo]
      apply (declares.declare sessions alike).bind
      rintro handle _ rfl
      exact Action.respects_pure rfl

/-- A back end whose results do not depend on places: states that are alike stay alike, and nothing
tells them apart. -/
class Placeless (β : Type) [Backend β] where
  Alike : β → β → Prop
  refl (state : β) : Alike state state
  declares : DeclaresAlike Alike
  defineBody {session sessionToo : Session} (sessions : session.Alike sessionToo)
      {body bodyToo : Node} (alike : body.Alike bodyToo) (handle : Handle)
      (parameters : List String) :
    Action.Respects Alike Eq (Backend.defineBody session handle body parameters)
      (Backend.defineBody sessionToo handle bodyToo parameters)
  handOff : Action.Respects Alike Eq (Backend.handOff (β := β)) Backend.handOff
  execute (platform : Platform) (handle : Handle) (arguments : List Float) :
    Action.Respects Alike Eq (Backend.execute platform handle arguments)
      (Backend.execute platform handle arguments)
  release (number : Nat) :
    Action.Respects Alike Eq (Backend.release number) (Backend.release number)
  defined {state stateToo : β} (alike : Alike state stateToo) :
    Backend.defined state = Backend.defined stateToo

/-- Functions that are alike are compiled alike. -/
theorem Placeless.define {β : Type} [Backend β] [Placeless β] {session sessionToo : Session}
    (sessions : session.Alike sessionToo) {function functionToo : Definition}
    (alike : function.Alike functionToo) :
    Action.Respects (Alike (β := β)) Eq (define session function)
      (define sessionToo functionToo) := by
  unfold Reckon.define
  apply (declares.declare sessions alike.prototype).bind
  rintro handle _ rfl
  rw [alike.prototype.parameters]
  apply (defineBody sessions alike.body handle _).bind
  rintro _ _ _
  exact Action.respects_pure rfl

end Reckon
