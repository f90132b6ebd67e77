import Reckon.Platform.Doubles
import Reckon.Proofs.Linker.Loading

/-!
# When units are materialized

Units come to a linker one after the other, and in between it may be asked any number of
times to materialize what it can. A request takes in the greatest set of pending units in
which every call is answered by the set, by what is live already, or by the host. What is
live answers its own calls, so it is part of every set that a later request could have
taken in at once. In the end the materialized units are the greatest set of all units that
answers its own calls, however the requests were spread and in whatever order the units
came.
-/

namespace Reckon

namespace Linker

/-- What comes to a linker: a unit, or a request to materialize what can be. -/
inductive Delivery where
  | arrival (unit : CompiledUnit)
  | request

/-- Takes a delivery in. -/
def receive (platform : Platform) (linker : Linker) : Delivery → Linker
  | .arrival unit => linker.add unit
  | .request => (linker.materialize platform).2

/-- A linker that has taken deliveries in, the first one first. -/
def receiveAll (platform : Platform) (deliveries : List Delivery) (linker : Linker) : Linker :=
  deliveries.foldl (receive platform) linker

/-- The unit of a delivery. -/
def Delivery.unit? : Delivery → Option CompiledUnit
  | .arrival unit => some unit
  | .request => none

/-- The units among deliveries. -/
def delivered (deliveries : List Delivery) : List CompiledUnit := deliveries.filterMap (·.unit?)

/-- Every call of the units is answered by the units themselves or by the host. -/
def Closed (platform : Platform) (units : List CompiledUnit) : Prop :=
  ∀ unit ∈ units, Answered platform (units.flatMap (·.defined)) unit

/-- Of the units that came, the linker has materialized the chosen ones, which answer their
own calls. The others are pending. -/
structure Chooses (platform : Platform) (came chosen : List CompiledUnit) (linker : Linker) :
    Prop where
  materialized : linker.materialized = chosen.map loadedUnit
  shared : (linker.pending ++ chosen).Perm came
  closed : Closed platform chosen

namespace Chooses

variable {platform : Platform} {came chosen : List CompiledUnit} {linker : Linker}

/-- Where nothing came, nothing was chosen. -/
theorem initial (platform : Platform) : Chooses platform [] [] .initial :=
  ⟨rfl, .refl _, fun _ member => by cases member⟩

/-- What is live is what the chosen units define. -/
theorem liveDefinitions_eq (chooses : Chooses platform came chosen linker) :
    linker.liveDefinitions = chosen.flatMap (·.defined) := by
  rw [liveDefinitions, chooses.materialized, List.flatMap_map]
  rfl

/-- A unit that comes is pending. -/
theorem add (chooses : Chooses platform came chosen linker) (unit : CompiledUnit) :
    Chooses platform (came ++ [unit]) chosen (linker.add unit) := by
  refine ⟨chooses.materialized, ?_, chooses.closed⟩
  change (linker.pending ++ [unit] ++ chosen).Perm (came ++ [unit])
  rw [List.append_assoc]
  refine (List.perm_append_comm.append_left _).trans ?_
  rw [← List.append_assoc]
  exact chooses.shared.append_right _

/-- A request leaves the greatest choice. What was chosen before answers its own calls, so the
rest of any choice that does is answered by it and by what is live. -/
theorem materialize (chooses : Chooses platform came chosen linker)
    (distinct : (came.map (·.number)).Nodup) :
    ∃ more, Chooses platform came (chosen ++ more) (linker.materialize platform).2 ∧
      ∀ others ⊆ came, Closed platform others → others ⊆ chosen ++ more := by
  classical
  obtain ⟨ready, sublist, answered, greatest, pending, materialized⟩ :=
    units_materialize platform linker
  rw [chooses.liveDefinitions_eq] at answered greatest
  have numbers : (linker.pending.map (·.number)).Nodup := by
    have all := (chooses.shared.map (·.number)).nodup_iff.mpr distinct
    rw [List.map_append] at all
    exact (List.nodup_append.mp all).1
  refine ⟨ready, ⟨?_, ?_, ?_⟩, ?_⟩
  · rw [materialized, chooses.materialized, List.map_append]
  · rw [pending]
    refine (List.perm_append_comm.append_left _).trans ?_
    rw [← List.append_assoc]
    exact ((perm_of_sublist sublist numbers).append_right _).trans chooses.shared
  · intro unit member
    rw [List.flatMap_append]
    rcases List.mem_append.mp member with older | newer
    · exact (chooses.closed unit older).mono (List.subset_append_left _ _)
    · exact answered unit newer
  · intro others among closed unit member
    by_cases older : unit ∈ chosen
    · exact List.mem_append_left _ older
    · refine List.mem_append_right _ (greatest (others.filter (· ∉ chosen)) ?_ ?_ ?_)
      · intro other left
        obtain ⟨there, absent⟩ := List.mem_filter.mp left
        have present := chooses.shared.mem_iff.mpr (among there)
        exact (List.mem_append.mp present).resolve_right (of_decide_eq_true absent)
      · intro other left
        refine (closed other (List.mem_filter.mp left).1).mono fun name defines => ?_
        obtain ⟨definer, there, defines⟩ := List.mem_flatMap.mp defines
        by_cases live : definer ∈ chosen
        · exact List.mem_append_left _ (List.mem_flatMap.mpr ⟨definer, live, defines⟩)
        · refine List.mem_append_right _ (List.mem_flatMap.mpr ⟨definer, ?_, defines⟩)
          exact List.mem_filter.mpr ⟨there, decide_eq_true live⟩
      · exact List.mem_filter.mpr ⟨member, decide_eq_true older⟩

/-- What a linker holds after deliveries is a choice among the units that came. -/
theorem receiveAll (chooses : Chooses platform came chosen linker) (deliveries : List Delivery)
    (distinct : ((came ++ delivered deliveries).map (·.number)).Nodup) :
    ∃ chosen, Chooses platform (came ++ delivered deliveries) chosen
      (receiveAll platform deliveries linker) := by
  induction deliveries generalizing came chosen linker with
  | nil => exact ⟨chosen, (List.append_nil came).symm ▸ chooses⟩
  | cons delivery rest inductionHypothesis =>
    cases delivery with
    | arrival unit =>
      have split :
          came ++ delivered (.arrival unit :: rest) = came ++ [unit] ++ delivered rest := by
        simp [delivered, Delivery.unit?]
      rw [split] at distinct ⊢
      exact inductionHypothesis (chooses.add unit) distinct
    | request =>
      have now : (came.map (·.number)).Nodup := by
        rw [List.map_append] at distinct
        exact (List.nodup_append.mp distinct).1
      obtain ⟨more, next, _⟩ := chooses.materialize now
      exact inductionHypothesis next distinct

end Chooses

/-- After a last request the linker has materialized, each once, exactly the units that belong to
some set of units that came in which every call is answered; the other units are pending. -/
theorem chooses_greatest (platform : Platform) {deliveries : List Delivery}
    (distinct : ((delivered deliveries).map (·.number)).Nodup) :
    ∃ chosen, Chooses platform (delivered deliveries) chosen
        ((receiveAll platform deliveries .initial).materialize platform).2 ∧
      chosen.Nodup ∧ ∀ unit, unit ∈ chosen ↔
        ∃ others ⊆ delivered deliveries, Closed platform others ∧ unit ∈ others := by
  obtain ⟨before, chooses⟩ := (Chooses.initial platform).receiveAll deliveries distinct
  obtain ⟨more, last, greatest⟩ := chooses.materialize distinct
  refine ⟨before ++ more, last, ?_, fun unit => ⟨fun member => ?_, ?_⟩⟩
  · have nodup := last.shared.nodup_iff.mpr (distinct.of_map _)
    exact (List.nodup_append.mp nodup).2.1
  · refine ⟨before ++ more, fun other there => ?_, last.closed, member⟩
    exact last.shared.subset (List.mem_append_right _ there)
  · rintro ⟨others, among, closed, member⟩
    exact greatest others among closed member

/-- However requests are spread between the same units, and in whatever order the units come, a
last request leaves the same units materialized and the same units pending. -/
theorem materialized_at_any_time (platform : Platform) (deliveries others : List Delivery)
    (distinct : ((delivered deliveries).map (·.number)).Nodup)
    (same : (delivered deliveries).Perm (delivered others)) :
    ((receiveAll platform deliveries .initial).materialize platform).2.materialized.Perm
        ((receiveAll platform others .initial).materialize platform).2.materialized ∧
      ((receiveAll platform deliveries .initial).materialize platform).2.pending.Perm
        ((receiveAll platform others .initial).materialize platform).2.pending := by
  have distinctToo := (same.map (·.number)).nodup_iff.mp distinct
  obtain ⟨chosen, chooses, nodup, greatest⟩ := chooses_greatest platform distinct
  obtain ⟨chosenToo, choosesToo, nodupToo, greatestToo⟩ := chooses_greatest platform distinctToo
  have equal : chosen.Perm chosenToo := by
    rw [List.perm_ext_iff_of_nodup nodup nodupToo]
    intro unit
    rw [greatest, greatestToo]
    constructor
    · rintro ⟨set, among, closed⟩
      exact ⟨set, fun other there => same.subset (among there), closed⟩
    · rintro ⟨set, among, closed⟩
      exact ⟨set, fun other there => same.symm.subset (among there), closed⟩
  constructor
  · rw [chooses.materialized, choosesToo.materialized]
    exact equal.map loadedUnit
  · have all := chooses.shared.trans (same.trans choosesToo.shared.symm)
    exact (List.perm_append_right_iff chosen).mp (all.trans (equal.symm.append_left _))

/-- Two units that call each other, a host function and a unit whose callee never comes: once with
a request after each unit, once in the opposite order with a single request. -/
theorem materialized_at_any_time_mutual :
    let unit (number : Nat) (defined required : NameSet) : CompiledUnit :=
      { number, routines := [], defined, required, state := .pending, level := 2 }
    let first := unit 1 ["even"] ["odd"]
    let second := unit 2 ["odd"] ["even", "sin"]
    let third := unit 3 ["lone"] ["missing"]
    let deliveries :=
      [.arrival first, .request, .arrival second, .request, .arrival third, .request]
    let others := [.arrival third, .arrival second, .arrival first]
    ((delivered deliveries).map (·.number)).Nodup ∧
      (delivered deliveries).Perm (delivered others) ∧
      ((receiveAll .doubles deliveries .initial).materialize .doubles).2.materialized.Perm
        ((receiveAll .doubles others .initial).materialize .doubles).2.materialized ∧
      ((receiveAll .doubles deliveries .initial).materialize .doubles).2.pending.Perm
        ((receiveAll .doubles others .initial).materialize .doubles).2.pending ∧
      ((receiveAll .doubles deliveries .initial).materialize .doubles).2.materialized.map
        (·.number) = [1, 2] := by
  intro unit first second third deliveries others
  have distinct : ((delivered deliveries).map (·.number)).Nodup := by decide
  have same : (delivered deliveries).Perm (delivered others) := List.reverse_perm [_, _, _]
  obtain ⟨materialized, pending⟩ :=
    materialized_at_any_time .doubles deliveries others distinct same
  exact ⟨distinct, same, materialized, pending, by decide +kernel⟩

end Linker

end Reckon
