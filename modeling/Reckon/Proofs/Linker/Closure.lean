import Reckon.Linker.Materialization

/-!
# The greatest set of answered units

Going over the candidates drops only what no set of candidates with an answer for every
call can contain, and stops when nothing is left to drop. So it ends with the greatest
such set.
-/

namespace Reckon

namespace Linker

variable {platform : Platform}

/-- Every call of the unit is answered by a provided function or by the host. -/
def Answered (platform : Platform) (provided : List String) (unit : CompiledUnit) : Prop :=
  ∀ name ∈ unit.required, name ∈ provided ∨ platform.provides name = true

/-- A unit misses nothing exactly if every call of it is answered. -/
theorem missing_isEmpty_iff (provided : List String) (unit : CompiledUnit) :
    (missing platform provided unit).isEmpty = true ↔ Answered platform provided unit := by
  rw [List.isEmpty_iff, missing, List.filter_eq_nil_iff]
  constructor
  · intro none name required
    have found := none name required
    by_cases member : name ∈ provided
    · exact .inl member
    · simp only [member, not_false_eq_true, decide_true, Bool.true_and, Bool.not_eq_true',
        Bool.not_eq_false] at found
      exact .inr found
  · intro answered name required
    rcases answered name required with member | host
    · simp [member]
    · simp [host]

/-- More functions answer more calls. -/
theorem Answered.mono {provided more : List String} {unit : CompiledUnit}
    (answered : Answered platform provided unit) (among : provided ⊆ more) :
    Answered platform more unit :=
  fun name required => (answered name required).imp (fun member => among member) id

/-- What the given units define, and what is live. -/
def offered (live : List String) (units : List CompiledUnit) : List String :=
  live ++ units.flatMap (·.defined)

/-- More units offer more. -/
theorem offered_mono (live : List String) {units others : List CompiledUnit}
    (among : units ⊆ others) : offered live units ⊆ offered live others := by
  intro name member
  rcases List.mem_append.mp member with here | there
  · exact List.mem_append_left _ here
  · obtain ⟨unit, present, defines⟩ := List.mem_flatMap.mp there
    exact List.mem_append_right _ (List.mem_flatMap.mpr ⟨unit, among present, defines⟩)

/-- Candidates are only dropped. -/
theorem settle_sublist (live : List String) (limit : Nat) (candidates : List CompiledUnit)
    (found : NameSet) : (settle platform live limit candidates found).1.Sublist candidates := by
  induction limit generalizing candidates found with
  | zero => exact List.Sublist.refl _
  | succ limit inductionHypothesis =>
    rw [settle]
    split
    · exact List.Sublist.refl _
    · exact (inductionHypothesis _ _).trans List.filter_sublist

/-- What is left is answered by what is live and by itself. -/
theorem settle_answered (live : List String) (limit : Nat) (candidates : List CompiledUnit)
    (found : NameSet) (enough : candidates.length < limit) :
    ∀ unit ∈ (settle platform live limit candidates found).1,
      Answered platform (offered live (settle platform live limit candidates found).1) unit := by
  induction limit generalizing candidates found with
  | zero => omega
  | succ limit inductionHypothesis =>
    rw [settle]
    split
    case isTrue same =>
      intro unit member
      have all := List.filter_sublist.eq_of_length same
      rw [← all] at member
      exact (missing_isEmpty_iff _ unit).mp (List.mem_filter.mp member).2
    case isFalse fewer =>
      have shorter := List.length_filter_le (fun unit =>
        (missing platform (live ++ candidates.flatMap (·.defined)) unit).isEmpty) candidates
      exact inductionHypothesis _ _ (by omega)

/-- No set of candidates that is answered by what is live and by itself loses a unit. -/
theorem subset_settle (live : List String) (limit : Nat) (candidates : List CompiledUnit)
    (found : NameSet) {chosen : List CompiledUnit} (among : chosen ⊆ candidates)
    (answered : ∀ unit ∈ chosen, Answered platform (offered live chosen) unit) :
    chosen ⊆ (settle platform live limit candidates found).1 := by
  induction limit generalizing candidates found with
  | zero => exact among
  | succ limit inductionHypothesis =>
    rw [settle]
    split
    · exact among
    · apply inductionHypothesis _ _
      intro unit member
      have kept := (answered unit member).mono (offered_mono live among)
      exact List.mem_filter.mpr ⟨among member, (missing_isEmpty_iff _ unit).mpr kept⟩

end Linker

end Reckon
