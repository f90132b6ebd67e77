import Reckon.Platform.Doubles
import Reckon.Proofs.Linker.Loading

/-!
# Which units are materialized

The candidates are gone over until none is dropped. A round drops only what no sufficient set
of pending units can contain, and it ends where nothing is left to drop. So what is moved is
the greatest sufficient set, however the units call each other. Nothing remains that a second
request could move: a set that suffices after the first would have sufficed before, together
with what the first one moved.
-/

namespace Reckon

namespace Linker

variable {platform : Platform} {linker : Linker}

/-- Every call of the units is answered by a materialized unit, by one of the units themselves,
or by the host. -/
def Suffices (platform : Platform) (linker : Linker) (units : List CompiledUnit) : Prop :=
  ∀ unit ∈ units, ∀ name ∈ unit.required,
    (∃ other ∈ linker.materialized, name ∈ other.defined) ∨
      (∃ other ∈ units, name ∈ other.defined) ∨ platform.provides name = true

/-- Units suffice exactly if each of them is answered by what is live and by what they offer. -/
theorem suffices_iff (units : List CompiledUnit) :
    Suffices platform linker units ↔
      ∀ unit ∈ units, Answered platform (offered linker.liveDefinitions units) unit := by
  simp only [Suffices, Answered, offered, liveDefinitions, List.mem_append, List.mem_flatMap,
    or_assoc]

/-- The candidates of which every call is answered while all of them are candidates. -/
def answeredAmong (platform : Platform) (live : List String) (candidates : List CompiledUnit) :
    List CompiledUnit :=
  candidates.filter fun unit => (missing platform (offered live candidates) unit).isEmpty

/-- Rounds over candidates, without a limit on their number, come to an end with these left: a
round that drops no candidate is the last one. -/
inductive Settles (platform : Platform) (live : List String) :
    List CompiledUnit → List CompiledUnit → Prop where
  | here {candidates : List CompiledUnit}
      (same : (answeredAmong platform live candidates).length = candidates.length) :
      Settles platform live candidates candidates
  | again {candidates left : List CompiledUnit}
      (fewer : (answeredAmong platform live candidates).length ≠ candidates.length)
      (rest : Settles platform live (answeredAmong platform live candidates) left) :
      Settles platform live candidates left

/-- As many rounds as there are candidates, and one more, are enough for the rounds to end: each
but the last one drops a candidate. -/
theorem settles_settle (live : List String) (limit : Nat) (candidates : List CompiledUnit)
    (found : NameSet) (enough : candidates.length < limit) :
    Settles platform live candidates (settle platform live limit candidates found).1 := by
  induction limit generalizing candidates found with
  | zero => omega
  | succ limit inductionHypothesis =>
    rw [settle]
    split
    case isTrue same => exact .here same
    case isFalse fewer =>
      have drops : (answeredAmong platform live candidates).length < candidates.length :=
        Nat.lt_of_le_of_ne (List.length_filter_le _ _) fewer
      exact .again fewer (inductionHypothesis _ _ (by omega))

/-- What is moved by a request, and how it changes the linker. -/
structure Moves (platform : Platform) (linker : Linker) (moved : List CompiledUnit) : Prop where
  settles : Settles platform linker.liveDefinitions linker.pending moved
  sublist : moved.Sublist linker.pending
  sufficient : Suffices platform linker moved
  greatest (chosen : List CompiledUnit) (among : chosen ⊆ linker.pending)
    (sufficient : Suffices platform linker chosen) : chosen ⊆ moved
  numbers : (linker.materialize platform).1 = moved.map (·.number)
  pending : (linker.materialize platform).2.pending =
    linker.pending.filter (·.number ∉ moved.map (·.number))
  materialized : (linker.materialize platform).2.materialized =
    linker.materialized ++ moved.map loadedUnit
  released : (linker.materialize platform).2.released = linker.released
  idle (nothing : moved = []) :
    ∃ names, linker.materialize platform = ([], linker.withHostSymbols names)

/-- A request moves what the rounds over the pending units leave. -/
theorem moves_settle (platform : Platform) (linker : Linker) :
    ∃ moved, Moves platform linker moved := by
  let settled := settle platform linker.liveDefinitions
    (linker.pending.length + 1) linker.pending []
  have done : linker.materialize platform = (settled.1.map (·.number),
      if settled.1.isEmpty then linker.withHostSymbols settled.2
      else (linker.load settled.1).withHostSymbols settled.2) := by
    unfold materialize
    change (if settled.1.isEmpty then _ else _ : List Nat × Linker) = _
    split
    case isTrue none => rw [List.isEmpty_iff.mp none]; rfl
    case isFalse => rfl
  refine ⟨settled.1, ?_⟩
  constructor
  case settles => exact settles_settle _ _ _ _ (by omega)
  case sublist => exact settle_sublist ..
  case sufficient => exact (suffices_iff _).mpr (settle_answered _ _ _ _ (by omega))
  case greatest =>
    intro chosen among sufficient
    exact subset_settle _ _ _ _ among ((suffices_iff _).mp sufficient)
  case numbers => exact congrArg Prod.fst done
  case idle => exact fun nothing => ⟨settled.2, by rw [done, nothing]; rfl⟩
  all_goals
    rw [done]
    dsimp only
    split
    case isTrue none =>
      rw [List.isEmpty_iff] at none
      simp [none, withHostSymbols]
    case isFalse => rfl

/-- Units that suffice after others were loaded, suffice before, together with those. -/
theorem Suffices.before {moved chosen : List CompiledUnit} {next : Linker}
    (loaded : next.materialized = linker.materialized ++ moved.map loadedUnit)
    (first : Suffices platform linker moved) (second : Suffices platform next chosen) :
    Suffices platform linker (moved ++ chosen) := by
  intro unit member name required
  rcases List.mem_append.mp member with early | late
  · refine (first unit early name required).imp_right (Or.imp_left ?_)
    exact fun ⟨other, there, defines⟩ => ⟨other, List.mem_append_left _ there, defines⟩
  · rcases second unit late name required with ⟨other, there, defines⟩ | own | host
    · rw [loaded] at there
      rcases List.mem_append.mp there with older | newer
      · exact .inl ⟨other, older, defines⟩
      · obtain ⟨origin, among, rfl⟩ := List.mem_map.mp newer
        exact .inr (.inl ⟨origin, List.mem_append_left _ among, defines⟩)
    · obtain ⟨other, there, defines⟩ := own
      exact .inr (.inl ⟨other, List.mem_append_right _ there, defines⟩)
    · exact .inr (.inr host)

/-- After a request no pending units are left that suffice. -/
theorem eq_nil_of_suffices {chosen : List CompiledUnit}
    (among : chosen ⊆ (linker.materialize platform).2.pending)
    (sufficient : Suffices platform (linker.materialize platform).2 chosen) : chosen = [] := by
  obtain ⟨moved, moves⟩ := moves_settle platform linker
  rw [moves.pending] at among
  have within : moved ++ chosen ⊆ linker.pending :=
    List.append_subset.mpr ⟨moves.sublist.subset, fun _ member =>
      (List.mem_filter.mp (among member)).1⟩
  have early := moves.greatest _ within (moves.sufficient.before moves.materialized sufficient)
  refine List.eq_nil_iff_forall_not_mem.mpr fun unit member => ?_
  have absent := of_decide_eq_true (List.mem_filter.mp (among member)).2
  exact absent (List.mem_map_of_mem (early (List.mem_append_right _ member)))

/-- **A request moves exactly the greatest set of pending units that suffices**, whatever the units
define and require. Its rounds come to an end. The moved units are appended in the order in which
they were pending, and the others stay pending in their order. A second request right after the
first one moves nothing. Units are told apart by their numbers. -/
theorem materialize_greatest (platform : Platform) (linker : Linker)
    (distinct : (linker.pending.map (·.number)).Nodup) :
    ∃ moved stays,
      Settles platform linker.liveDefinitions linker.pending moved ∧
      Suffices platform linker moved ∧
      (∀ unit, unit ∈ moved ↔
        ∃ chosen ⊆ linker.pending, Suffices platform linker chosen ∧ unit ∈ chosen) ∧
      moved.Sublist linker.pending ∧ stays.Sublist linker.pending ∧
      (stays ++ moved).Perm linker.pending ∧
      (linker.materialize platform).1 = moved.map (·.number) ∧
      (linker.materialize platform).2.pending = stays ∧
      (linker.materialize platform).2.materialized =
        linker.materialized ++ moved.map loadedUnit ∧
      (linker.materialize platform).2.released = linker.released ∧
      ∃ names, (linker.materialize platform).2.materialize platform =
        ([], (linker.materialize platform).2.withHostSymbols names) := by
  obtain ⟨moved, moves⟩ := moves_settle platform linker
  obtain ⟨more, second⟩ := moves_settle platform (linker.materialize platform).2
  have nothing : more = [] := eq_nil_of_suffices second.sublist.subset second.sufficient
  refine ⟨moved, linker.pending.filter (·.number ∉ moved.map (·.number)), moves.settles,
    moves.sufficient, fun unit => ⟨fun member => ?_, ?_⟩, moves.sublist, List.filter_sublist,
    perm_of_sublist moves.sublist distinct, moves.numbers, moves.pending, moves.materialized,
    moves.released, second.idle nothing⟩
  · exact ⟨moved, moves.sublist.subset, moves.sufficient, member⟩
  · rintro ⟨chosen, among, sufficient, member⟩
    exact moves.greatest chosen among sufficient member

/-- Two units that call each other and what is live, a caller of a host function, a unit whose
callee is missing, and a unit that calls that one. -/
theorem materialize_greatest_mutual :
    let unit (number : Nat) (defined required : NameSet) : CompiledUnit :=
      { number, routines := [], defined, required, state := .pending, level := 2 }
    let linker : Linker :=
      { Linker.initial with
        materialized := [loadedUnit (unit 0 ["base"] [])]
        pending := [unit 1 ["lone"] ["missing"], unit 2 ["even"] ["odd", "base"],
          unit 3 ["friend"] ["lone", "even"], unit 4 ["odd"] ["even"], unit 5 ["wave"] ["sin"]] }
    (linker.pending.map (·.number)).Nodup ∧
      (linker.materialize .doubles).1 = [2, 4, 5] ∧
      ∃ moved stays,
        Settles .doubles linker.liveDefinitions linker.pending moved ∧
        Suffices .doubles linker moved ∧
        (∀ unit, unit ∈ moved ↔
          ∃ chosen ⊆ linker.pending, Suffices .doubles linker chosen ∧ unit ∈ chosen) ∧
        moved.Sublist linker.pending ∧ stays.Sublist linker.pending ∧
        (stays ++ moved).Perm linker.pending ∧
        (linker.materialize .doubles).1 = moved.map (·.number) ∧
        (linker.materialize .doubles).2.pending = stays ∧
        (linker.materialize .doubles).2.materialized =
          linker.materialized ++ moved.map loadedUnit ∧
        (linker.materialize .doubles).2.released = linker.released ∧
        ∃ names, (linker.materialize .doubles).2.materialize .doubles =
          ([], (linker.materialize .doubles).2.withHostSymbols names) := by
  intro unit linker
  have distinct : (linker.pending.map (·.number)).Nodup := by decide
  exact ⟨distinct, by decide +kernel, materialize_greatest .doubles linker distinct⟩

end Linker

end Reckon
