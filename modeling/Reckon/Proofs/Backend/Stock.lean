import Reckon.Backend

/-!
# The stock of a back end

The stock of a back end is the units that were handed off and not given up. Beside it
stands the open unit. Looking into them means seeing the functions of each unit, with
their numbers of parameters and with their bodies where they have one.

What is refused leaves the stock and the names that count as defined alone. It may have
replaced the open unit by an empty one, or brought declarations into it. A definition
that succeeds brings in one unit, with one body.
-/

namespace Reckon

/-- A function of a unit as it looks from outside. -/
structure Held (γ : Type) where
  name : String
  arity : Nat
  body : Option γ

/-- A unit as it looks from outside. -/
structure Shelved (γ : Type) where
  number : Nat
  functions : List (Held γ)

namespace Shelved

variable {γ : Type}

/-- The functions with a body. -/
def bodies (unit : Shelved γ) : List (Held γ) := unit.functions.filter (·.body.isSome)

/-- Whether the unit has a body for a name. -/
def bears (unit : Shelved γ) (name : String) : Bool := unit.bodies.any (·.name = name)

/-- All functions are declarations. -/
def Bodyless (unit : Shelved γ) : Prop := ∀ function ∈ unit.functions, function.body = none

/-- A unit with one body bears the name of this body and no other. -/
theorem bears_of_bodies {unit : Shelved γ} {function : Held γ} (only : unit.bodies = [function])
    (name : String) : unit.bears name = decide (function.name = name) := by
  simp [bears, only]

end Shelved

/-- A back end whose units can be looked into. -/
class Stocked (β : Type) where
  /-- What a body consists of. -/
  Content : Type
  /-- The units that were handed off and not given up. -/
  stock : β → List (Shelved Content)
  /-- The open unit. -/
  opened : β → Shelved Content

section

variable {β : Type} [Stocked β]

/-- The open unit holds nothing. -/
def Emptied (backend : β) : Prop := (Stocked.opened backend).functions = []

/-- The open unit has kept its functions, may have got more, and they are all declarations. -/
structure Gained (before after : β) : Prop where
  number : (Stocked.opened after).number = (Stocked.opened before).number
  kept : (Stocked.opened before).functions <+: (Stocked.opened after).functions
  bodyless : (Stocked.opened after).Bodyless

/-- Some unit of the stock holds the function, with its body. -/
def Bound (backend : β) (function : Held (Stocked.Content β)) : Prop :=
  ∃ unit ∈ Stocked.stock backend, function ∈ unit.bodies

/-- An empty open unit has no bodies. -/
theorem Emptied.bodyless {backend : β} (emptied : Emptied backend) :
    (Stocked.opened backend).Bodyless := by
  intro function member
  rw [Emptied] at emptied
  rw [emptied] at member
  cases member

variable [Backend β]

/-- The same names are defined, in the same units. Only the open unit may have been replaced by an
empty one, or have got declarations. -/
structure Unshaken (before after : β) : Prop where
  defined : Backend.defined after = Backend.defined before
  stock : (Stocked.stock after).Perm (Stocked.stock before)
  opened : Emptied after ∨ Gained before after

/-- A unit with one body has come in, that of a new name. -/
structure Grown (prototype : Prototype) (before after : β) : Prop where
  new : prototype.name ∉ Backend.defined before
  defined : Backend.defined after = (Backend.defined before).insert prototype.name
  stock : ∃ unit content,
    unit.bodies = [⟨prototype.name, prototype.arity, some content⟩] ∧
    (Stocked.stock after).Perm (unit :: Stocked.stock before)
  opened : Emptied after

namespace Unshaken

variable {before after : β}

/-- What left the back end unshaken has brought no body into the open unit. -/
theorem bodyless (unshaken : Unshaken before after) : (Stocked.opened after).Bodyless := by
  cases unshaken.opened with
  | inl emptied => exact emptied.bodyless
  | inr gained => exact gained.bodyless

/-- Nothing has happened to a back end without a body in its open unit. -/
theorem refl (bodyless : (Stocked.opened before).Bodyless) : Unshaken before before :=
  ⟨rfl, .refl _, .inr ⟨rfl, List.prefix_rfl, bodyless⟩⟩

/-- What was bound before something that left the back end unshaken is bound after it. -/
theorem bound (unshaken : Unshaken before after) {function : Held (Stocked.Content β)}
    (bound : Bound before function) : Bound after function := by
  obtain ⟨unit, member, holds⟩ := bound
  exact ⟨unit, unshaken.stock.mem_iff.mpr member, holds⟩

end Unshaken

/-- A definition that grew the stock leaves bound what was bound. -/
theorem Grown.bound {prototype : Prototype} {before after : β}
    (grown : Grown prototype before after) {function : Held (Stocked.Content β)}
    (bound : Bound before function) : Bound after function := by
  obtain ⟨unit, member, holds⟩ := bound
  obtain ⟨new, content, _, stock⟩ := grown.stock
  exact ⟨unit, stock.mem_iff.mpr (List.mem_cons_of_mem _ member), holds⟩

end

end Reckon
