/-!
# Sets of names

A set of names is a list without repetitions, in the order of arrival. Texts shown
to a user list the names in the order of their code points instead.
-/

namespace Reckon

/-- Names without repetitions. -/
abbrev NameSet := List String

namespace NameSet

/-- Adds a name at the end, unless it is there. -/
def insert (names : NameSet) (name : String) : NameSet :=
  if name ∈ names then names else names ++ [name]

/-- Adds several names. -/
def union (names others : NameSet) : NameSet := others.foldl insert names

/-- The names that are not among the given ones. -/
def without (names others : NameSet) : NameSet := names.filter (fun name => name ∉ others)

/-- The names by code point. -/
def sorted (names : List String) : List String := names.mergeSort (fun left right => left ≤ right)

/-- A name that is added is the only new member. -/
@[simp] theorem mem_insert (names : NameSet) (name sought : String) :
    sought ∈ names.insert name ↔ sought ∈ names ∨ sought = name := by
  unfold insert
  split
  · rename_i present
    constructor
    · exact Or.inl
    · rintro (member | rfl)
      · exact member
      · exact present
  · simp

/-- A union has the members of both sides. -/
@[simp] theorem mem_union (names others : NameSet) (sought : String) :
    sought ∈ names.union others ↔ sought ∈ names ∨ sought ∈ others := by
  unfold union
  induction others generalizing names with
  | nil => simp
  | cons other rest inductionHypothesis =>
    rw [List.foldl_cons, inductionHypothesis, mem_insert, List.mem_cons, or_assoc]

/-- What is taken away is no member any more, and nothing else is lost. -/
@[simp] theorem mem_without (names others : NameSet) (sought : String) :
    sought ∈ names.without others ↔ sought ∈ names ∧ sought ∉ others := by
  simp [without]

/-- Sorting keeps the names. -/
@[simp] theorem mem_sorted (names : List String) (sought : String) :
    sought ∈ sorted names ↔ sought ∈ names := by
  simp [sorted]

/-- Adding a name keeps the names without repetitions. -/
theorem nodup_insert {names : NameSet} (distinct : names.Nodup) (name : String) :
    (names.insert name).Nodup := by
  unfold insert
  split
  · exact distinct
  · rename_i absent
    refine List.nodup_append.mpr ⟨distinct, by simp, ?_⟩
    rintro old present new added rfl
    exact absent (List.mem_singleton.mp added ▸ present)

/-- Adding several names does, too. -/
theorem nodup_union {names : NameSet} (distinct : names.Nodup) (others : NameSet) :
    (names.union others).Nodup := by
  unfold union
  induction others generalizing names with
  | nil => exact distinct
  | cons other rest inductionHypothesis =>
    exact inductionHypothesis (nodup_insert distinct other)

end NameSet

end Reckon
