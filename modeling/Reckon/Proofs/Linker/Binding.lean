import Reckon.Linker.Execution

/-!
# What calls are bound to

A call is bound to a unit of the image that defines its function: the caller itself, a
unit loaded before, or a unit loaded at the same time. If there is such a unit, the call
is bound. Loading more units later, at another time, binds no call anew.
-/

namespace Reckon

namespace Linker

variable {image : List Loaded}

/-- The unit at the position defines the function. -/
def DefinesAt (image : List Loaded) (position : Nat) (name : String) : Prop :=
  ∃ loaded, image[position]? = some loaded ∧ name ∈ loaded.unit.defined

/-- What is defined at a position is inside the image. -/
theorem DefinesAt.lt {position : Nat} {name : String} (defines : DefinesAt image position name) :
    position < image.length := by
  obtain ⟨loaded, found, _⟩ := defines
  exact (List.getElem?_eq_some_iff.mp found).1

/-- The newest unit that defines a function does. -/
theorem definesAt_of_position? {name : String} {position : Nat}
    (found : position? image name = some position) : DefinesAt image position name := by
  obtain ⟨⟨loaded, index⟩, chosen, rfl⟩ := Option.map_eq_some_iff.mp found
  have member := List.mem_reverse.mp (List.mem_of_find?_eq_some chosen)
  have defines := List.find?_some chosen
  exact ⟨loaded, List.mk_mem_zipIdx_iff_getElem?.mp member, by simpa using defines⟩

/-- If a unit defines a function, there is a newest one. -/
theorem position?_isSome {name : String} {position : Nat}
    (defines : DefinesAt image position name) : (position? image name).isSome = true := by
  obtain ⟨loaded, found, names⟩ := defines
  rw [position?, Option.isSome_map, List.find?_isSome]
  refine ⟨(loaded, position), ?_, by simpa using names⟩
  exact List.mem_reverse.mpr (List.mk_mem_zipIdx_iff_getElem?.mpr found)

/-- A call is bound to a unit that defines its function. -/
theorem definesAt_of_bound? {caller target : Nat} {name : String}
    (found : bound? image caller name = some target) : DefinesAt image target name := by
  unfold bound? at found
  cases there : image[caller]? with
  | none =>
    rw [there] at found
    cases found
  | some loaded =>
    simp only [there] at found
    by_cases own : name ∈ loaded.unit.defined
    · rw [if_pos own] at found
      cases found
      exact ⟨loaded, there, own⟩
    · rw [if_neg own] at found
      cases earlier : position? (image.take caller) name with
      | some position =>
        rw [earlier] at found
        cases found
        obtain ⟨other, at_, names⟩ := definesAt_of_position? earlier
        have before := (List.getElem?_eq_some_iff.mp at_).1
        rw [List.length_take] at before
        rw [List.getElem?_take_of_lt (by omega)] at at_
        exact ⟨other, at_, names⟩
      | none =>
        rw [earlier] at found
        obtain ⟨⟨other, index⟩, chosen, rfl⟩ := Option.map_eq_some_iff.mp found
        have member := List.mem_of_find?_eq_some chosen
        have test := List.find?_some chosen
        simp only [Bool.and_eq_true, decide_eq_true_eq] at test
        exact ⟨other, List.mk_mem_zipIdx_iff_getElem?.mp member, test.2⟩

/-- A call is bound if its function is defined by the caller, before it, or in its batch. -/
theorem bound?_isSome {caller target : Nat} {name : String} {loaded other : Loaded}
    (there : image[caller]? = some loaded) (found : image[target]? = some other)
    (names : name ∈ other.unit.defined) (near : target ≤ caller ∨ other.batch = loaded.batch) :
    (bound? image caller name).isSome = true := by
  unfold bound?
  rw [there]
  dsimp only
  by_cases own : name ∈ loaded.unit.defined
  · rw [if_pos own]
    rfl
  · rw [if_neg own]
    cases earlier : position? (image.take caller) name with
    | some position => rfl
    | none =>
      have after : caller < target := by
        apply Classical.byContradiction
        intro notAfter
        rcases Nat.lt_or_eq_of_le (Nat.le_of_not_lt notAfter) with before | same
        · have taken : (image.take caller)[target]? = some other := by
            rw [List.getElem?_take_of_lt before]
            exact found
          have some := position?_isSome ⟨other, taken, names⟩
          rw [earlier] at some
          cases some
        · subst same
          rw [there] at found
          cases found
          exact own names
      have batch : other.batch = loaded.batch := near.resolve_left (by omega)
      rw [Option.isSome_map, List.find?_isSome]
      refine ⟨(other, target), List.mk_mem_zipIdx_iff_getElem?.mpr found, ?_⟩
      simp [after, batch, names]

/-- What is loaded at another time binds no earlier call anew. -/
theorem bound?_append {more : List Loaded} {caller : Nat} {name : String} {loaded : Loaded}
    (there : image[caller]? = some loaded) (apart : ∀ other ∈ more, other.batch ≠ loaded.batch) :
    bound? (image ++ more) caller name = bound? image caller name := by
  have before := (List.getElem?_eq_some_iff.mp there).1
  have thereToo : (image ++ more)[caller]? = some loaded := by
    rw [List.getElem?_append_left before]
    exact there
  have later : (more.zipIdx image.length).find? (fun other =>
      decide (caller < other.2) && decide (other.1.batch = loaded.batch) &&
        decide (name ∈ other.1.unit.defined)) = none := by
    refine List.find?_eq_none.mpr fun entry member => ?_
    have among : entry.1 ∈ more := List.fst_mem_of_mem_zipIdx member
    simp [apart entry.1 among]
  unfold bound?
  rw [there, thereToo, List.take_append_of_le_length (by omega), List.zipIdx_append, Nat.zero_add]
  dsimp only
  rw [List.find?_append, later, Option.or_none]

end Linker

end Reckon
