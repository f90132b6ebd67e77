import Mathlib.Data.List.Nodup
import Reckon.Instruction.Names

/-!
# Names are taken once

Asking for a name gives one that was not in use. If the wanted name is taken, as many
numbered forms of it are tried as names are in use; they all differ from one another and
from the wanted name, so they cannot all be among the names in use.
-/

namespace Reckon

/-- Numbers are written differently. -/
theorem toString_nat_inj {number other : Nat} (same : toString number = toString other) :
    number = other := by
  have digits : Nat.toDigits 10 number = Nat.toDigits 10 other := by
    have chars := congrArg String.toList same
    simpa [Nat.toString_eq_repr, Nat.repr_eq_ofList_toDigits] using chars
  rw [← Nat.ofDigitChars_ten_toDigits (n := number), digits, Nat.ofDigitChars_ten_toDigits]

namespace Instruction

namespace Names

/-- The numbered form of a name. -/
def form (wanted : String) (count : Nat) : String := wanted ++ "." ++ toString (count + 1)

/-- Different counts give different names. -/
theorem form_inj {wanted : String} {count other : Nat}
    (same : form wanted count = form wanted other) :
    count = other := by
  have suffix : toString (count + 1) = toString (other + 1) := by
    have chars := congrArg String.toList same
    simp only [form, String.toList_append, List.append_cancel_left_eq] at chars
    exact String.toList_inj.mp chars
  have numbers := toString_nat_inj suffix
  omega

/-- A numbered form is longer than the name. -/
theorem form_ne (wanted : String) (count : Nat) : form wanted count ≠ wanted := by
  intro same
  have lengths := congrArg (fun name => name.toList.length) same
  simp [form] at lengths

/-- Only if all the forms that are tried are taken can the result be. -/
theorem numbered_mem {taken : List String} {wanted : String} {limit count : Nat}
    (used : (numbered taken wanted limit count).1 ∈ taken) :
    ∀ tried < limit, form wanted (count + tried) ∈ taken := by
  induction limit generalizing count with
  | zero =>
    intro tried less
    omega
  | succ limit inductionHypothesis =>
    rw [numbered] at used
    by_cases here : wanted ++ "." ++ toString (count + 1) ∈ taken
    · rw [if_pos here] at used
      intro tried less
      cases tried with
      | zero => exact here
      | succ tried =>
        have later := inductionHypothesis used tried (by omega)
        rwa [show count + 1 + tried = count + (tried + 1) by omega] at later
    · rw [if_neg here] at used
      exact (here used).elim

/-- The name that is given was not in use. -/
theorem take_fresh (names : Names) (wanted : String) : (names.take wanted).1 ∉ names.taken := by
  unfold take
  by_cases present : wanted ∈ names.taken
  · rw [if_pos present]
    intro used
    generalize (names.counts.get? wanted).getD 0 = count at used
    have forms : ∀ tried < names.taken.length, form wanted (count + tried) ∈ names.taken :=
      numbered_mem used
    -- The wanted name and its forms are one too many to be all in use.
    let all := wanted :: (List.range names.taken.length).map fun tried =>
      form wanted (count + tried)
    have distinct : all.Nodup := by
      refine List.nodup_cons.mpr ⟨?_, ?_⟩
      · intro member
        obtain ⟨tried, _, same⟩ := List.mem_map.mp member
        exact form_ne _ _ same
      · refine List.Nodup.map ?_ List.nodup_range
        intro tried other same
        have counts := form_inj same
        omega
    have inside : all ⊆ names.taken := by
      intro name member
      rcases List.mem_cons.mp member with rfl | later
      · exact present
      · obtain ⟨tried, within, rfl⟩ := List.mem_map.mp later
        exact forms tried (List.mem_range.mp within)
    have lengths := List.Nodup.length_le_of_subset distinct inside
    simp only [all, List.length_cons, List.length_map, List.length_range] at lengths
    omega
  · rw [if_neg present]
    exact present

/-- The name that is given is in use from then on, and no other name comes in. -/
theorem taken_take (names : Names) (wanted : String) :
    (names.take wanted).2.taken = (names.take wanted).1 :: names.taken := by
  unfold take
  split <;> rfl

/-- Names that are taken together are distinct, new, and in use from then on. -/
theorem takeAll_spec (wanted : List String) (names : Names) :
    (takeAll wanted names).1.length = wanted.length ∧ (takeAll wanted names).1.Nodup ∧
      (∀ name ∈ (takeAll wanted names).1, name ∉ names.taken ∧
        name ∈ (takeAll wanted names).2.taken) ∧
      names.taken ⊆ (takeAll wanted names).2.taken := by
  induction wanted generalizing names with
  | nil => simp [takeAll]
  | cons first rest inductionHypothesis =>
    obtain ⟨lengths, distinct, new, kept⟩ := inductionHypothesis (names.take first).2
    have fresh := take_fresh names first
    rw [taken_take] at new kept
    refine ⟨?_, ?_, ?_, ?_⟩
    · simp only [takeAll, List.length_cons, lengths]
    · refine List.nodup_cons.mpr ⟨?_, distinct⟩
      intro member
      exact (new _ member).1 List.mem_cons_self
    · intro name member
      rcases List.mem_cons.mp member with rfl | later
      · exact ⟨fresh, kept List.mem_cons_self⟩
      · obtain ⟨apart, used⟩ := new name later
        exact ⟨fun old => apart (List.mem_cons_of_mem _ old), used⟩
    · intro name member
      exact kept (List.mem_cons_of_mem _ member)

/-- The registers of parameters are distinct and in use. -/
theorem ofParameters_spec (parameters : List String) :
    (ofParameters parameters).1.length = parameters.length ∧ (ofParameters parameters).1.Nodup ∧
      ∀ name ∈ (ofParameters parameters).1, name ∈ (ofParameters parameters).2.taken := by
  obtain ⟨lengths, distinct, new, _⟩ := takeAll_spec parameters
    (takeAll (parameters.map (fun _ => "") ++ [""])
      { taken := [""], counts := Catalog.empty }).2
  exact ⟨lengths, distinct, fun name member => (new name member).2⟩

end Names

end Instruction

end Reckon
