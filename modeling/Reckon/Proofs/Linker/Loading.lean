import Mathlib.Data.List.Nodup
import Reckon.Proofs.Linker.Closure

/-!
# Loading chosen units

Materializing loads the greatest set of pending units in which every call is answered, as
one batch. The units that are loaded and those that stay pending are the units that were
pending.
-/

namespace Reckon

namespace Linker

/-- The unit once it is loaded. -/
def loadedUnit (unit : CompiledUnit) : CompiledUnit := { unit with state := .materialized }

/-- Loads pending units as one batch. -/
def load (linker : Linker) (ready : List CompiledUnit) : Linker :=
  { linker with
    pending := linker.pending.filter (·.number ∉ ready.map (·.number))
    materialized := linker.materialized ++ ready.map loadedUnit
    image := linker.image ++ (ready.map loadedUnit).map ({ unit := ·, batch := linker.batches })
    batches := linker.batches + 1 }

/-- What is materialized is loaded as one batch, unless it is nothing. -/
theorem materialize_eq (platform : Platform) (linker : Linker) :
    ∃ ready names, ready.Sublist linker.pending ∧
      (∀ unit ∈ ready, Answered platform (offered linker.liveDefinitions ready) unit) ∧
      (∀ chosen : List CompiledUnit, chosen ⊆ linker.pending →
        (∀ unit ∈ chosen, Answered platform (offered linker.liveDefinitions chosen) unit) →
        chosen ⊆ ready) ∧
      (linker.materialize platform).2 =
        if ready.isEmpty then linker.withHostSymbols names
        else (linker.load ready).withHostSymbols names := by
  let settled := settle platform linker.liveDefinitions
    (linker.pending.length + 1) linker.pending []
  refine ⟨settled.1, settled.2, settle_sublist .., settle_answered _ _ _ _ (by omega), ?_, ?_⟩
  · intro chosen among answered
    exact subset_settle _ _ _ _ among answered
  · unfold materialize
    change (if settled.1.isEmpty then _ else _ : List Nat × Linker).2 = _
    split <;> rfl

/-- What is materialized, seen in the lists of units. Nothing that is ready may be left out. -/
theorem units_materialize (platform : Platform) (linker : Linker) :
    ∃ ready, ready.Sublist linker.pending ∧
      (∀ unit ∈ ready, Answered platform (offered linker.liveDefinitions ready) unit) ∧
      (∀ chosen : List CompiledUnit, chosen ⊆ linker.pending →
        (∀ unit ∈ chosen, Answered platform (offered linker.liveDefinitions chosen) unit) →
        chosen ⊆ ready) ∧
      (linker.materialize platform).2.pending =
        linker.pending.filter (·.number ∉ ready.map (·.number)) ∧
      (linker.materialize platform).2.materialized =
        linker.materialized ++ ready.map loadedUnit := by
  obtain ⟨ready, names, sublist, answered, greatest, same⟩ := materialize_eq platform linker
  refine ⟨ready, sublist, answered, greatest, ?_⟩
  rw [same]
  split
  case isTrue none =>
    rw [List.isEmpty_iff] at none
    simp [none, withHostSymbols]
  case isFalse => exact ⟨rfl, rfl⟩

/-- Those that are chosen and those that are left are all of them. -/
theorem perm_of_sublist {chosen units : List CompiledUnit} (sublist : chosen.Sublist units)
    (distinct : (units.map (·.number)).Nodup) :
    (units.filter (·.number ∉ chosen.map (·.number)) ++ chosen).Perm units := by
  have picked : (units.filter (·.number ∈ chosen.map (·.number))).Perm chosen := by
    have nodup : units.Nodup := distinct.of_map _
    rw [List.perm_ext_iff_of_nodup (nodup.filter _) (nodup.sublist sublist)]
    intro unit
    rw [List.mem_filter, decide_eq_true_eq]
    constructor
    · rintro ⟨member, numbered⟩
      obtain ⟨other, among, same⟩ := List.mem_map.mp numbered
      rwa [← List.inj_on_of_nodup_map distinct (sublist.subset among) member same]
    · exact fun among => ⟨sublist.subset among, List.mem_map_of_mem among⟩
  have split := List.filter_append_perm (fun unit : CompiledUnit =>
    decide (unit.number ∈ chosen.map (·.number))) units
  refine List.perm_append_comm.trans ((picked.symm.append_right _).trans ?_)
  simpa only [decide_not] using split

/-- The unit as it was handed off, however far it has come since. -/
def handedOff (unit : CompiledUnit) : CompiledUnit := { unit with state := .pending }

/-- A pending unit is as it was handed off. -/
theorem handedOff_of_pending {unit : CompiledUnit} (waits : unit.state = .pending) :
    handedOff unit = unit := by
  cases unit
  cases waits
  rfl

/-- How far a unit has come shows neither in what it defines nor in what it requires. -/
theorem eq_of_handedOff {unit other : CompiledUnit} (same : handedOff unit = handedOff other) :
    unit.number = other.number ∧ unit.defined = other.defined ∧ unit.required = other.required := by
  cases unit
  cases other
  simp_all [handedOff]

/-- Materializing brings no unit in and takes none out. -/
theorem handedOff_materialize (platform : Platform) {linker : Linker}
    (distinct : (linker.pending.map (·.number)).Nodup) :
    (((linker.materialize platform).2.pending ++
      (linker.materialize platform).2.materialized).map handedOff).Perm
        ((linker.pending ++ linker.materialized).map handedOff) := by
  obtain ⟨ready, sublist, _, _, pending, materialized⟩ := units_materialize platform linker
  have loaded : (ready.map loadedUnit).map handedOff = ready.map handedOff := by
    rw [List.map_map]
    rfl
  rw [pending, materialized]
  simp only [List.map_append, loaded]
  have whole := (perm_of_sublist sublist distinct).map handedOff
  rw [List.map_append] at whole
  refine (List.perm_append_comm.append_left _).trans ?_
  rw [← List.append_assoc]
  exact whole.append_right _

end Linker

end Reckon
