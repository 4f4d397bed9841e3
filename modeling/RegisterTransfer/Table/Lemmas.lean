import RegisterTransfer.Table

/-!
# Looking up what was stored

The two views of a table, its listing and its look-up, determine each other, and every operation is described
by what it does to both.
-/

namespace RegisterTransfer.Table

variable {κ α β : Type}

@[simp] theorem entries_empty : (∅ : Table κ α).entries = [] := rfl

@[simp] theorem keys_empty : (∅ : Table κ α).keys = [] := rfl

theorem keys_eq_nil_iff (table : Table κ α) : table.keys = [] ↔ table.isEmpty = true := by
  simp [keys, isEmpty]

section Lookup

variable [DecidableEq κ]

@[simp] theorem get?_empty (key : κ) : (∅ : Table κ α).get? key = none := rfl

theorem lookup_eq_some_iff {entries : List (κ × α)} (distinct : (entries.map Prod.fst).Nodup)
    (key : κ) (value : α) : lookup key entries = some value ↔ (key, value) ∈ entries := by
  induction entries with
  | nil => simp [lookup]
  | cons entry rest ih =>
    obtain ⟨other, found⟩ := entry
    rw [List.map_cons, List.nodup_cons] at distinct
    by_cases h : other = key
    · subst h
      have absent : (other, value) ∉ rest := fun hmem ↦
        distinct.1 (List.mem_map.2 ⟨_, hmem, rfl⟩)
      simp [lookup, absent, eq_comm]
    · have h' : ¬key = other := fun hk ↦ h hk.symm
      simp [lookup, h, h', ih distinct.2]

/-- A key leads to a value if and only if the two are listed together. -/
theorem get?_eq_some_iff (table : Table κ α) (key : κ) (value : α) :
    table.get? key = some value ↔ (key, value) ∈ table.entries :=
  lookup_eq_some_iff table.distinct key value

theorem contains_iff_mem_keys (table : Table κ α) (key : κ) :
    table.contains key = true ↔ key ∈ table.keys := by
  rw [contains, Option.isSome_iff_exists, keys, List.mem_map]
  constructor
  · rintro ⟨value, h⟩
    exact ⟨(key, value), (table.get?_eq_some_iff key value).1 h, rfl⟩
  · rintro ⟨⟨other, value⟩, h, rfl⟩
    exact ⟨value, (table.get?_eq_some_iff _ _).2 h⟩

theorem get?_eq_none_iff (table : Table κ α) (key : κ) :
    table.get? key = none ↔ key ∉ table.keys := by
  rw [← contains_iff_mem_keys, contains]
  cases table.get? key <;> simp

theorem lookup_upsertEntries (key other : κ) (f : Option α → α) (entries : List (κ × α)) :
    lookup other (upsertEntries key f entries) =
      if other = key then some (f (lookup key entries)) else lookup other entries := by
  induction entries with
  | nil =>
    by_cases h : other = key
    · simp [upsertEntries, lookup, h]
    · have h' : ¬key = other := fun hk ↦ h hk.symm
      simp [upsertEntries, lookup, h, h']
  | cons entry rest ih =>
    obtain ⟨found, value⟩ := entry
    by_cases hf : found = key
    · subst hf
      by_cases h : other = found
      · simp [upsertEntries, lookup, h]
      · have h' : ¬found = other := fun hk ↦ h hk.symm
        simp [upsertEntries, lookup, h, h']
    · by_cases h : found = other
      · have h' : ¬other = key := fun hk ↦ hf (h.trans hk)
        simp [upsertEntries, lookup, h, h']
      · simp [upsertEntries, lookup, hf, h, ih]

/-- Only the look-up of the changed key changes. -/
theorem get?_upsert (table : Table κ α) (key other : κ) (f : Option α → α) :
    (table.upsert key f).get? other =
      if other = key then some (f (table.get? key)) else table.get? other :=
  lookup_upsertEntries key other f table.entries

theorem get?_insert (table : Table κ α) (key other : κ) (value : α) :
    (table.insert key value).get? other = if other = key then some value else table.get? other :=
  table.get?_upsert key other fun _ ↦ value

theorem keys_insert (table : Table κ α) (key : κ) (value : α) :
    (table.insert key value).keys = if key ∈ table.keys then table.keys else table.keys ++ [key] :=
  table.keys_upsert key fun _ ↦ value

theorem upsertEntries_of_notMem (key : κ) (f : Option α → α) {entries : List (κ × α)}
    (absent : key ∉ entries.map Prod.fst) : upsertEntries key f entries = entries ++ [(key, f none)] := by
  induction entries with
  | nil => rfl
  | cons entry rest ih =>
    obtain ⟨other, value⟩ := entry
    rw [List.map_cons, List.mem_cons, not_or] at absent
    simp [upsertEntries, Ne.symm absent.1, ih absent.2]

/-- A new key is listed last. -/
theorem entries_insert_of_notMem (table : Table κ α) (key : κ) (value : α) (absent : key ∉ table.keys) :
    (table.insert key value).entries = table.entries ++ [(key, value)] :=
  upsertEntries_of_notMem key (fun _ ↦ value) absent

/-! ## The first insertion wins -/

theorem get?_insertIfAbsent (table : Table κ α) (key other : κ) (value : α) :
    (table.insertIfAbsent key value).get? other =
      if other = key then some ((table.get? key).getD value) else table.get? other :=
  table.get?_upsert key other fun earlier ↦ earlier.getD value

theorem upsertEntries_getD_of_mem (key : κ) (value : α) {entries : List (κ × α)}
    (present : key ∈ entries.map Prod.fst) :
    upsertEntries key (fun earlier ↦ earlier.getD value) entries = entries := by
  induction entries with
  | nil => simp at present
  | cons entry rest ih =>
    obtain ⟨other, found⟩ := entry
    by_cases h : other = key
    · simp [upsertEntries, h]
    · rw [List.map_cons, List.mem_cons] at present
      have hr : key ∈ rest.map Prod.fst := present.resolve_left fun hk ↦ h hk.symm
      simp [upsertEntries, h, ih hr]

/-- A key that is already there stays as it is. -/
theorem insertIfAbsent_of_mem (table : Table κ α) (key : κ) (value : α) (present : key ∈ table.keys) :
    table.insertIfAbsent key value = table :=
  ext_entries (upsertEntries_getD_of_mem key value present)

theorem entries_insertIfAbsent_of_notMem (table : Table κ α) (key : κ) (value : α)
    (absent : key ∉ table.keys) :
    (table.insertIfAbsent key value).entries = table.entries ++ [(key, value)] :=
  upsertEntries_of_notMem key (fun earlier ↦ earlier.getD value) absent

theorem insertFirst_eq_ok_iff (table other : Table κ α) (key : κ) (value : α) :
    table.insertFirst key value = .ok other ↔ key ∉ table.keys ∧ other = table.insert key value := by
  rw [insertFirst, ← contains_iff_mem_keys]
  cases table.contains key
  · simp [eq_comm]
  · simp

/-! ## Changing every value -/

theorem get?_map (f : κ → α → β) (table : Table κ α) (key : κ) :
    (table.map f).get? key = (table.get? key).map (f key) := by
  obtain ⟨entries, distinct⟩ := table
  show lookup key (entries.map fun entry ↦ (entry.1, f entry.1 entry.2)) = (lookup key entries).map (f key)
  clear distinct
  induction entries with
  | nil => rfl
  | cons entry rest ih =>
    obtain ⟨other, value⟩ := entry
    by_cases h : other = key
    · simp [lookup, h]
    · simp [lookup, h, ih]

end Lookup

end RegisterTransfer.Table
