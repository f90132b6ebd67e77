import Reckon.Catalog

/-!
# Entries of catalogs

What is found in a catalog is one of its entries, and what is filed changes no other one.
-/

namespace Reckon

universe u v

/-- Looking for a key finds the only element that has it. -/
theorem find?_eq_of_sole {κ : Type u} [DecidableEq κ] {α : Type v} {among : List α} {key : α → κ}
    {wanted : κ} {element : α} (member : element ∈ among) (own : key element = wanted)
    (sole : ∀ other ∈ among, key other = wanted → other = element) :
    among.find? (key · = wanted) = some element := by
  cases found : among.find? (key · = wanted) with
  | none =>
    have missed := List.find?_eq_none.mp found element member
    simp [own] at missed
  | some other =>
    have ownToo : key other = wanted := by simpa using List.find?_some found
    rw [sole other (List.mem_of_find?_eq_some found) ownToo]

/-- The element with a key is found changed if those with the key are changed and keep it. -/
theorem find?_map_if {κ : Type u} [DecidableEq κ] {α : Type v} {key : α → κ} {change : α → α}
    (keeps : ∀ element, key (change element) = key element) (wanted : κ) (among : List α) :
    (among.map fun element => if key element = wanted then change element else element).find?
      (key · = wanted) = (among.find? (key · = wanted)).map change := by
  induction among with
  | nil => rfl
  | cons first rest inductionHypothesis =>
    by_cases own : key first = wanted
    · simp [own, keeps]
    · simpa [own] using inductionHypothesis

namespace Catalog

variable {κ : Type u} {α : Type v} [DecidableEq κ]

/-- A value that is found is filed under its key. -/
theorem mem_of_find? {key : κ} {value : α} {entries : List (κ × α)}
    (found : find? key entries = some value) : (key, value) ∈ entries := by
  induction entries with
  | nil => cases found
  | cons entry rest inductionHypothesis =>
    obtain ⟨filed, old⟩ := entry
    rw [find?] at found
    by_cases same : filed = key
    · rw [if_pos same] at found
      cases found
      exact same ▸ List.mem_cons_self
    · rw [if_neg same] at found
      exact List.mem_cons_of_mem _ (inductionHypothesis found)

/-- An entry whose key is listed once is found. -/
theorem get?_of_mem {catalog : Catalog κ α} (once : catalog.keys.Nodup) {entry : κ × α}
    (member : entry ∈ catalog.entries) : catalog.get? entry.1 = some entry.2 := by
  obtain ⟨entries⟩ := catalog
  change (entries.map Prod.fst).Nodup at once
  change entry ∈ entries at member
  change find? entry.1 entries = some entry.2
  induction entries with
  | nil => cases member
  | cons first rest inductionHypothesis =>
    obtain ⟨filed, old⟩ := first
    obtain ⟨new, onceMore⟩ := List.nodup_cons.mp once
    rcases List.mem_cons.mp member with rfl | later
    · simp [find?]
    · have listed : entry.1 ∈ rest.map Prod.fst := List.mem_map_of_mem later
      have differs : filed ≠ entry.1 := fun same => new (same ▸ listed)
      rw [find?, if_neg differs]
      exact inductionHypothesis onceMore later

/-- Filing a value lists no key twice. -/
theorem nodup_keys_put {catalog : Catalog κ α} (once : catalog.keys.Nodup) (key : κ) (value : α) :
    (catalog.put key value).keys.Nodup := by
  rw [keys_put]
  split
  · exact once
  · rename_i absent
    refine List.nodup_append.mpr ⟨once, by simp, ?_⟩
    rintro old present new added rfl
    exact absent (List.mem_singleton.mp added ▸ present)

/-- Filing brings one entry in at most. -/
theorem mem_file {entry : κ × α} {key : κ} {value : α} {entries : List (κ × α)}
    (member : entry ∈ file key value entries) : entry = (key, value) ∨ entry ∈ entries := by
  induction entries with
  | nil => exact .inl (List.mem_singleton.mp member)
  | cons first rest inductionHypothesis =>
    obtain ⟨filed, old⟩ := first
    rw [file] at member
    split at member
    · rcases List.mem_cons.mp member with new | later
      · exact .inl new
      · exact .inr (List.mem_cons_of_mem _ later)
    · rcases List.mem_cons.mp member with here | later
      · exact .inr (here ▸ List.mem_cons_self)
      · exact (inductionHypothesis later).imp id (List.mem_cons_of_mem _)

/-- The entries after something was put are the new one and old ones. -/
theorem mem_entries_put {catalog : Catalog κ α} {entry : κ × α} {key : κ} {value : α}
    (member : entry ∈ (catalog.put key value).entries) :
    entry = (key, value) ∨ entry ∈ catalog.entries :=
  mem_file member

/-- Filing leaves the entries of other keys alone. -/
theorem mem_entries_put_of_ne {catalog : Catalog κ α} {entry : κ × α} {key : κ} (value : α)
    (other : entry.1 ≠ key) :
    entry ∈ (catalog.put key value).entries ↔ entry ∈ catalog.entries := by
  obtain ⟨entries⟩ := catalog
  change entry ∈ file key value entries ↔ entry ∈ entries
  have differs (value : α) : entry ≠ (key, value) := fun same => other (congrArg Prod.fst same)
  induction entries with
  | nil => simp [file, differs]
  | cons first rest inductionHypothesis =>
    obtain ⟨filed, old⟩ := first
    rw [file]
    split
    · rename_i same
      subst same
      simp [differs]
    · simp [inductionHypothesis]

/-- Of the entries that pass a test, a value that passes is the only one if none did before. -/
theorem filter_entries_put (test : α → Bool) (catalog : Catalog κ α) (key : κ) {value : α}
    (passes : test value = true) (none : ∀ entry ∈ catalog.entries, test entry.2 = false) :
    (catalog.put key value).entries.filter (fun entry => test entry.2) = [(key, value)] := by
  obtain ⟨entries⟩ := catalog
  change (file key value entries).filter _ = _
  induction entries with
  | nil => simp [file, passes]
  | cons first rest inductionHypothesis =>
    obtain ⟨filed, old⟩ := first
    have fails : test old = false := none _ List.mem_cons_self
    have later : ∀ entry ∈ rest, test entry.2 = false :=
      fun entry member => none entry (List.mem_cons_of_mem _ member)
    have nothing : rest.filter (fun entry => test entry.2) = [] := by
      apply List.filter_eq_nil_iff.mpr
      intro entry member
      rw [later entry member]
      decide
    rw [file]
    split
    · simp only [List.filter_cons, passes, if_true, nothing]
    · simp only [List.filter_cons, fails, Bool.false_eq_true, if_false]
      exact inductionHypothesis later

/-- A value for a new key is filed at the end. -/
theorem entries_put_of_none {catalog : Catalog κ α} {key : κ} (absent : catalog.get? key = none)
    (value : α) : (catalog.put key value).entries = catalog.entries ++ [(key, value)] := by
  obtain ⟨entries⟩ := catalog
  change find? key entries = none at absent
  change file key value entries = _
  induction entries with
  | nil => rfl
  | cons first rest inductionHypothesis =>
    obtain ⟨filed, old⟩ := first
    rw [find?] at absent
    by_cases same : filed = key
    · simp [same] at absent
    · rw [if_neg same] at absent
      simp [file, same, inductionHypothesis absent]

/-- A value is filed among the first entries if its key is there, and behind them if not. -/
theorem file_append (key : κ) (value : α) (front tail : List (κ × α)) :
    file key value (front ++ tail) =
      if key ∈ front.map Prod.fst then file key value front ++ tail
      else front ++ file key value tail := by
  induction front with
  | nil => rfl
  | cons first rest inductionHypothesis =>
    obtain ⟨filed, old⟩ := first
    rw [List.cons_append, file, file, inductionHypothesis]
    by_cases same : filed = key
    · simp [same]
    · simp only [if_neg same, List.map_cons, List.mem_cons, Ne.symm same, false_or]
      split <;> rfl

/-- A value that looks like the one it replaces changes nothing in how the values look. -/
theorem map_values_put {γ : Type v} {catalog : Catalog κ α} {key : κ} {old value : α}
    (found : catalog.get? key = some old) (look : α → γ) (alike : look value = look old) :
    (catalog.put key value).values.map look = catalog.values.map look := by
  obtain ⟨entries⟩ := catalog
  change find? key entries = some old at found
  change ((file key value entries).map Prod.snd).map look = (entries.map Prod.snd).map look
  induction entries with
  | nil => cases found
  | cons first rest inductionHypothesis =>
    obtain ⟨filed, there⟩ := first
    rw [find?] at found
    by_cases same : filed = key
    · rw [if_pos same, Option.some.injEq] at found
      simp [file, same, alike, found]
    · rw [if_neg same] at found
      simpa [file, same] using inductionHypothesis found

/-- What is found among the first entries is found among all. -/
theorem get?_of_prefix {catalog longer : Catalog κ α} (starts : catalog.entries <+: longer.entries)
    {key : κ} {value : α} (found : catalog.get? key = some value) :
    longer.get? key = some value := by
  obtain ⟨entries⟩ := catalog
  obtain ⟨others⟩ := longer
  obtain ⟨more, rfl⟩ := starts
  change find? key entries = some value at found
  change find? key (entries ++ more) = some value
  induction entries with
  | nil => cases found
  | cons first rest inductionHypothesis =>
    obtain ⟨filed, there⟩ := first
    rw [find?] at found
    rw [List.cons_append, find?]
    by_cases same : filed = key
    · rwa [if_pos same] at found ⊢
    · rw [if_neg same] at found ⊢
      exact inductionHypothesis found

/-! ## Views of the values -/

/-- The catalog with each value changed. -/
def map {γ : Type v} (change : α → γ) (catalog : Catalog κ α) : Catalog κ γ :=
  ⟨catalog.entries.map fun entry => (entry.1, change entry.2)⟩

/-- Changing all values changes what every key finds. -/
theorem get?_map {γ : Type v} (change : α → γ) (catalog : Catalog κ α) (key : κ) :
    (catalog.map change).get? key = (catalog.get? key).map change := by
  obtain ⟨entries⟩ := catalog
  change find? key (entries.map _) = (find? key entries).map change
  induction entries with
  | nil => rfl
  | cons first rest inductionHypothesis =>
    obtain ⟨filed, there⟩ := first
    by_cases same : filed = key
    · simp [find?, same]
    · simp [find?, same, inductionHypothesis]

/-- To put a value and then change all is to change all and then put the changed value. -/
theorem map_put {γ : Type v} (change : α → γ) (catalog : Catalog κ α) (key : κ) (value : α) :
    (catalog.put key value).map change = (catalog.map change).put key (change value) := by
  obtain ⟨entries⟩ := catalog
  change Catalog.mk ((file key value entries).map _) =
    Catalog.mk (file key (change value) (entries.map _))
  congr 1
  induction entries with
  | nil => rfl
  | cons first rest inductionHypothesis =>
    obtain ⟨filed, there⟩ := first
    by_cases same : filed = key
    · simp [file, same]
    · simp [file, same, inductionHypothesis]

end Catalog

end Reckon
