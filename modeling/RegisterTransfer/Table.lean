import RegisterTransfer.Fault

/-!
# Ordered tables

A table is a finite map that remembers the order in which its keys first came in. Storing under a key
that is already there changes the value and keeps the place, so the listing of a table never depends on
anything but the order of first insertions. No key occurs twice, and every operation keeps it so.
-/

namespace RegisterTransfer

/-- A finite map, listed in the order in which its keys were first inserted. -/
structure Table (κ α : Type) where
  entries : List (κ × α)
  distinct : (entries.map Prod.fst).Nodup

namespace Table

variable {κ α β : Type}

theorem ext_entries {table other : Table κ α} (h : table.entries = other.entries) : table = other := by
  cases table
  cases other
  cases h
  rfl

def empty : Table κ α := ⟨[], List.nodup_nil⟩

instance : EmptyCollection (Table κ α) := ⟨empty⟩

instance : Inhabited (Table κ α) := ⟨empty⟩

def keys (table : Table κ α) : List κ := table.entries.map Prod.fst

def values (table : Table κ α) : List α := table.entries.map Prod.snd

def size (table : Table κ α) : Nat := table.entries.length

def isEmpty (table : Table κ α) : Bool := table.entries.isEmpty

theorem keys_nodup (table : Table κ α) : table.keys.Nodup := table.distinct

/-- Change every value and keep keys and order. -/
def map (f : κ → α → β) (table : Table κ α) : Table κ β where
  entries := table.entries.map fun entry ↦ (entry.1, f entry.1 entry.2)
  distinct := by simpa [List.map_map, Function.comp_def] using table.distinct

@[simp] theorem keys_map (f : κ → α → β) (table : Table κ α) : (table.map f).keys = table.keys := by
  simp [keys, map, List.map_map, Function.comp_def]

section Lookup

variable [DecidableEq κ]

/-- The value listed with a key. -/
def lookup (key : κ) : List (κ × α) → Option α
  | [] => none
  | (other, value) :: rest => if other = key then some value else lookup key rest

def get? (table : Table κ α) (key : κ) : Option α := lookup key table.entries

def contains (table : Table κ α) (key : κ) : Bool := (table.get? key).isSome

/-- The value under a key that has to be there. -/
def fetch (table : Table String α) (key : String) : Except Fault α :=
  match table.get? key with
  | some value => .ok value
  | none => .error (.missingEntry key)

/-- Replace the value under `key` where it stands, or add the key at the end. -/
def upsertEntries (key : κ) (f : Option α → α) : List (κ × α) → List (κ × α)
  | [] => [(key, f none)]
  | (other, value) :: rest =>
    if other = key then (other, f (some value)) :: rest else (other, value) :: upsertEntries key f rest

theorem upsertEntries_keys (key : κ) (f : Option α → α) (entries : List (κ × α)) :
    (upsertEntries key f entries).map Prod.fst =
      if key ∈ entries.map Prod.fst then entries.map Prod.fst else entries.map Prod.fst ++ [key] := by
  induction entries with
  | nil => simp [upsertEntries]
  | cons entry rest ih =>
    obtain ⟨other, value⟩ := entry
    by_cases h : other = key
    · simp [upsertEntries, h]
    · have h' : ¬key = other := fun hk ↦ h hk.symm
      by_cases hr : key ∈ rest.map Prod.fst
      · simp only [upsertEntries, h, ↓reduceIte, List.map_cons, ih, hr, List.mem_cons, or_true]
      · simp only [upsertEntries, h, ↓reduceIte, List.map_cons, ih, hr, List.mem_cons, h', or_self,
          List.cons_append]

theorem upsertEntries_nodup (key : κ) (f : Option α → α) {entries : List (κ × α)}
    (h : (entries.map Prod.fst).Nodup) : ((upsertEntries key f entries).map Prod.fst).Nodup := by
  rw [upsertEntries_keys]
  split
  · exact h
  · rename_i hk
    refine List.nodup_append.2 ⟨h, by simp, ?_⟩
    intro a ha b hb hab
    simp only [List.mem_singleton] at hb
    exact hk (hb ▸ hab ▸ ha)

/-- Replace the value under `key` by what `f` makes of it; a new key goes to the end. -/
def upsert (table : Table κ α) (key : κ) (f : Option α → α) : Table κ α where
  entries := upsertEntries key f table.entries
  distinct := upsertEntries_nodup key f table.distinct

theorem keys_upsert (table : Table κ α) (key : κ) (f : Option α → α) :
    (table.upsert key f).keys = if key ∈ table.keys then table.keys else table.keys ++ [key] :=
  upsertEntries_keys key f table.entries

/-- Store `value` under `key`; an earlier value under that key is replaced in its place. -/
def insert (table : Table κ α) (key : κ) (value : α) : Table κ α :=
  table.upsert key fun _ ↦ value

/-- Store `value` under `key` unless the key is already there. -/
def insertIfAbsent (table : Table κ α) (key : κ) (value : α) : Table κ α :=
  table.upsert key fun earlier ↦ earlier.getD value

/-- Store under a key that must be new. -/
def insertFirst (table : Table κ α) (key : κ) (value : α) : Except Fault (Table κ α) :=
  if table.contains key then .error .entryExists else .ok (table.insert key value)

def ofList (entries : List (κ × α)) : Table κ α :=
  entries.foldl (fun table entry ↦ table.insert entry.1 entry.2) empty

end Lookup

end Table

end RegisterTransfer
