import Reckon.Proofs.Backend.Lengthening
import Reckon.Proofs.Dialogue.Events
import Reckon.Proofs.Evaluator.Expressions
import Reckon.Proofs.Evaluator.Leftovers

/-!
# The stock of the evaluator

The stock of the evaluator is its live units. Between the steps of a dialogue the
evaluator is settled, and then all it does in a step is in order: what is refused only
adds declarations to the open unit, a definition adds a live unit with one body, and a
bare expression leaves the live units as they were.
-/

namespace Reckon

namespace Evaluator

open Reckon.Action

/-- A unit as it looks from outside. -/
def CodeUnit.shelved (unit : CodeUnit) : Shelved (Node × Code) :=
  { number := unit.number
    functions := unit.functions.entries.map fun entry =>
      ⟨entry.1, entry.2.prototype.arity, entry.2.body⟩ }

instance : Stocked Evaluator where
  Content := Node × Code
  stock evaluator := evaluator.live.map (·.shelved)
  opened evaluator := evaluator.current.shelved

/-- The stock of an evaluator is its live units, looked at from outside. -/
theorem stock_eq (evaluator : Evaluator) :
    Stocked.stock evaluator = evaluator.live.map (·.shelved) := rfl

/-- The open unit of an evaluator is its current one, looked at from outside. -/
theorem opened_eq (evaluator : Evaluator) :
    Stocked.opened evaluator = evaluator.current.shelved := rfl

/-- The only body of a unit is seen from outside. -/
theorem CodeUnit.Bears.bodies_shelved {unit : CodeUnit} {name : String} {prototype : Prototype}
    {body : Node} {code : Code} (bears : unit.Bears name prototype body code) :
    unit.shelved.bodies = [⟨name, prototype.arity, some (body, code)⟩] := by
  have only : unit.functions.entries.filter (fun entry => entry.2.body.isSome) =
      [(name, ⟨prototype, some (body, code)⟩)] := by
    have member : (name, (⟨prototype, some (body, code)⟩ : Function)) ∈
        unit.functions.entries.filter (fun entry => entry.2.body.isSome) :=
      List.mem_filter.mpr ⟨Catalog.mem_of_find? bears.found, rfl⟩
    have length := congrArg List.length bears.defined
    rw [CodeUnit.defined, List.length_map] at length
    obtain ⟨entry, single⟩ := List.length_eq_one_iff.mp length
    rw [single] at member ⊢
    rw [List.mem_singleton.mp member]
  rw [Shelved.bodies, shelved, List.filter_map]
  exact congrArg (List.map _) only

/-! ## The steps of a dialogue -/

variable {session : Session} {excused : String → String → Prop} {evaluator after : Evaluator}

/-- Without a body in the open unit, it looks bodyless from outside, too. -/
theorem Open.bodyless_shelved (opened : Open session evaluator) :
    (Stocked.opened evaluator).Bodyless := by
  intro function member
  obtain ⟨entry, there, rfl⟩ := List.mem_map.mp member
  exact opened.bodyless entry there

/-- What is refused has only added declarations to the open unit. -/
theorem Leaves.unshaken (leaves : Leaves session evaluator after)
    (longer : evaluator.declarations <+: after.declarations) : Unshaken evaluator after := by
  constructor
  case defined =>
    rw [leaves.same]
    rfl
  case stock =>
    rw [leaves.same]
    exact .refl _
  case opened => exact .inr ⟨leaves.number, longer.map _, leaves.opened.bodyless_shelved⟩

/-- A definition that is handed off is a new unit of the stock. -/
theorem Defines.grown {function : Definition} {handle : Handle} {compiled : Evaluator}
    (word : IsWord function.prototype.name)
    (defines : Defines session function evaluator handle compiled) :
    Grown function.prototype evaluator compiled.closed := by
  obtain ⟨declared, code, bears, arity, _⟩ := defines.bears
  constructor
  case new => exact fun member => word.ne_anonymousName (defines.new member)
  case defined =>
    change compiled.defined = _
    rw [defines.same]
    rfl
  case stock =>
    refine ⟨compiled.current.shelved, (function.body, code), ?_, ?_⟩
    · rw [bears.bodies_shelved, arity]
    · rw [stock_eq, closed, defines.same]
      simp only [List.map_append, List.map_cons, List.map_nil]
      exact List.perm_append_singleton ..
  case opened => rfl

/-- A bare expression leaves no trace in the stock. -/
theorem Wraps.unshaken {compiled closed executed released : Evaluator} {body : Node}
    {handle : Handle} {declared : Prototype} {code : Code} {platform : Platform} {number : Nat}
    (wraps : Wraps session excused evaluator body handle compiled declared code)
    (handsOff : handOff compiled = .ok number closed)
    (executes : (∃ value, execute platform handle [] closed = .ok value executed) ∨
      ∃ fault, execute platform handle [] closed = .error fault executed)
    (releases : release number executed = .ok () released) : Unshaken evaluator released := by
  rw [handOff_eq] at handsOff
  cases handsOff
  obtain ⟨outcome, comes, _⟩ := wraps.execute_comes platform
  obtain rfl : executed = compiled.closed := comes.eq_of_ends executes
  rw [wraps.release_closed] at releases
  cases releases
  exact ⟨rfl, .refl _, .inl rfl⟩

/-- **A settled evaluator does in order what a step asks of it.** -/
theorem Settled.orderly (settled : Settled session excused evaluator) (keyed : session.Keyed)
    (platform : Platform) : Orderly session platform evaluator := by
  have ensures := define_ensures keyed settled.opened settled.earlier
  constructor
  case bodyless => exact settled.opened.bodyless_shelved
  case declares =>
    intro prototype handle after word done
    have spec := declare_ensures session prototype evaluator
    change declare session prototype evaluator = _ at done
    rw [Ensures, done] at spec
    obtain ⟨_, accepted, _, shape⟩ := spec
    have adds := declare_adds session prototype evaluator
    rw [Ensures, done] at adds
    have leaves : Leaves session evaluator after := by
      rcases shape with rfl | ⟨_, rfl⟩
      · exact ⟨rfl, rfl, settled.opened⟩
      · exact ⟨rfl, rfl, settled.opened.put accepted⟩
    exact ⟨accepted, leaves.unshaken adds.extended.isPrefix⟩
  case declarationRefused =>
    intro prototype fault after word failed
    have spec := declare_ensures session prototype evaluator
    change declare session prototype evaluator = _ at failed
    rw [Ensures, failed] at spec
    obtain ⟨rfl, _⟩ := spec
    exact .refl settled.opened.bodyless_shelved
  case defines =>
    intro function handle compiled closed number word spelled done handsOff
    have defines := ensures function
    rw [Ensures, done] at defines
    change handOff compiled = _ at handsOff
    rw [handOff_eq] at handsOff
    cases handsOff
    exact ⟨defines.accepted, defines.grown word⟩
  case refuses =>
    intro function fault after named spelled failed
    have leaves := ensures function
    rw [Ensures, failed] at leaves
    exact leaves.1.unshaken (define_adds failed).extended.isPrefix
  case rejects =>
    intro function handle compiled closed fault named spelled done rejected
    change handOff compiled = _ at rejected
    rw [handOff_eq] at rejected
    cases rejected
  case evaluates =>
    intro body handle compiled closed executed released number spelled done handsOff executes
      releases
    have defines := ensures (.anonymous body)
    rw [Ensures, done] at defines
    obtain ⟨declared, code, wraps⟩ := settled.wraps spelled defines
    exact wraps.unshaken handsOff executes releases

end Evaluator

end Reckon
