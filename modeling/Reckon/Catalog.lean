/-!
# Catalogs

A catalog keeps one value per key and remembers in which order the keys first
came in. Replacing a value leaves its key where it stands.
-/

namespace Reckon

universe u v

/-- Values by key, in the order in which the keys first came in. -/
structure Catalog (κ : Type u) (α : Type v) where
  entries : List (κ × α)
  deriving Repr

namespace Catalog

variable {κ : Type u} {α : Type v} [DecidableEq κ]

/-- A catalog without entries. -/
def empty : Catalog κ α := ⟨[]⟩

instance : EmptyCollection (Catalog κ α) := ⟨empty⟩

instance : Inhabited (Catalog κ α) := ⟨empty⟩

/-- The value filed under a key in a list of entries. -/
def find? (key : κ) : List (κ × α) → Option α
  | [] => none
  | (filed, value) :: rest => if filed = key then some value else find? key rest

/-- Files a value in a list of entries: in the key's place, or at the end. -/
def file (key : κ) (value : α) : List (κ × α) → List (κ × α)
  | [] => [(key, value)]
  | (filed, old) :: rest =>
    if filed = key then (key, value) :: rest else (filed, old) :: file key value rest

/-- The value of a key. -/
def get? (catalog : Catalog κ α) (key : κ) : Option α := find? key catalog.entries

/-- Gives a key a value. -/
def put (catalog : Catalog κ α) (key : κ) (value : α) : Catalog κ α :=
  ⟨file key value catalog.entries⟩

/-- The keys in the order of their arrival. -/
def keys (catalog : Catalog κ α) : List κ := catalog.entries.map Prod.fst

/-- The values in the order of their keys. -/
def values (catalog : Catalog κ α) : List α := catalog.entries.map Prod.snd

/-- Once an entry has been filed under a key, its value is what is found there; other keys find what
they found before. -/
theorem find?_file (key sought : κ) (value : α) (entries : List (κ × α)) :
    find? sought (file key value entries) =
      if key = sought then some value else find? sought entries := by
  induction entries with
  | nil => rfl
  | cons entry rest inductionHypothesis =>
    obtain ⟨filed, old⟩ := entry
    by_cases same : filed = key
    · subst same
      by_cases wanted : filed = sought <;> simp [file, find?, wanted]
    · by_cases wanted : filed = sought
      · subst wanted
        simp [file, find?, same, Ne.symm same]
      · simp [file, find?, same, wanted, inductionHypothesis]

/-- A look-up after filing sees the new value, and the old ones of other keys. -/
theorem get?_put (catalog : Catalog κ α) (key sought : κ) (value : α) :
    (catalog.put key value).get? sought =
      if key = sought then some value else catalog.get? sought :=
  find?_file key sought value catalog.entries

/-- What has just been put under a key is what the key has. -/
@[simp] theorem get?_put_self (catalog : Catalog κ α) (key : κ) (value : α) :
    (catalog.put key value).get? key = some value := by
  simp [get?_put]

/-- Something is found exactly for the keys of the entries. -/
theorem find?_isSome_iff (key : κ) (entries : List (κ × α)) :
    (find? key entries).isSome = true ↔ key ∈ entries.map Prod.fst := by
  induction entries with
  | nil => simp [find?]
  | cons entry rest inductionHypothesis =>
    obtain ⟨filed, value⟩ := entry
    by_cases same : filed = key
    · simp [find?, same]
    · simp [find?, same, inductionHypothesis, Ne.symm same]

/-- A key has a value exactly if it is listed. -/
theorem get?_isSome_iff (catalog : Catalog κ α) (key : κ) :
    (catalog.get? key).isSome = true ↔ key ∈ catalog.keys :=
  find?_isSome_iff key catalog.entries

/-- Filing keeps the order of the keys. A new key comes last. -/
theorem map_fst_file (key : κ) (value : α) (entries : List (κ × α)) :
    (file key value entries).map Prod.fst =
      if key ∈ entries.map Prod.fst then entries.map Prod.fst
      else entries.map Prod.fst ++ [key] := by
  induction entries with
  | nil => simp [file]
  | cons entry rest inductionHypothesis =>
    obtain ⟨filed, old⟩ := entry
    by_cases same : filed = key
    · simp [file, same]
    · by_cases later : key ∈ rest.map Prod.fst
      · rw [if_pos later] at inductionHypothesis
        rw [if_pos (by simp only [List.map_cons]; exact List.mem_cons_of_mem _ later)]
        simp [file, same, inductionHypothesis]
      · rw [if_neg later] at inductionHypothesis
        rw [if_neg (by
          simp only [List.map_cons, List.mem_cons, not_or]
          exact ⟨Ne.symm same, later⟩)]
        simp [file, same, inductionHypothesis]

/-- A new key is listed last; an old one keeps its place. -/
theorem keys_put (catalog : Catalog κ α) (key : κ) (value : α) :
    (catalog.put key value).keys =
      if key ∈ catalog.keys then catalog.keys else catalog.keys ++ [key] :=
  map_fst_file key value catalog.entries

end Catalog

end Reckon
