import RegisterTransfer.Arena

/-!
# Keys and what they name

A key names the same thing for good: what arrives later gets keys of its own, and a change through one key is not
seen through another.
-/

namespace RegisterTransfer.Arena

variable {α : Type}

theorem contains_iff (arena : Arena α) (key : Key) :
    arena.contains key = true ↔ key.tag = arena.tag ∧ key.index < arena.size := by
  simp [contains]

theorem contains_eq_isSome (arena : Arena α) (key : Key) :
    arena.contains key = (arena.get? key).isSome := by
  by_cases h : key.tag = arena.tag
  · by_cases hi : key.index < arena.items.length
    · simp [contains, get?, size, h, hi]
    · simp [contains, get?, size, h, hi]
  · simp [contains, get?, h]

@[simp] theorem tag_push (arena : Arena α) (item : α) : (arena.push item).tag = arena.tag := rfl

@[simp] theorem size_push (arena : Arena α) (item : α) : (arena.push item).size = arena.size + 1 := by
  simp [push, size]

/-- The key handed out for a thing names that thing. -/
theorem get?_push_nextKey (arena : Arena α) (item : α) :
    (arena.push item).get? arena.nextKey = some item := by
  simp [get?, push, nextKey, size]

/-- What was there before keeps its key. -/
theorem get?_push_of_contains (arena : Arena α) (item : α) (key : Key) (h : arena.contains key = true) :
    (arena.push item).get? key = arena.get? key := by
  obtain ⟨ht, hi⟩ := (arena.contains_iff key).1 h
  have hi' : key.index < arena.items.length := hi
  simp [get?, push, ht, List.getElem?_append_left hi']

@[simp] theorem tag_modify (arena : Arena α) (key : Key) (f : α → α) :
    (arena.modify key f).tag = arena.tag := by
  unfold modify
  split <;> rfl

@[simp] theorem size_modify (arena : Arena α) (key : Key) (f : α → α) :
    (arena.modify key f).size = arena.size := by
  unfold modify
  split <;> simp [size]

/-- A change is seen through the changed key and through no other. -/
theorem get?_modify (arena : Arena α) (key other : Key) (f : α → α) :
    (arena.modify key f).get? other = if other = key then (arena.get? key).map f else arena.get? other := by
  by_cases ht : key.tag = arena.tag
  · by_cases ho : other.tag = arena.tag
    · have hiff : other = key ↔ other.index = key.index := by
        constructor
        · intro h
          rw [h]
        · intro h
          cases other
          cases key
          simp_all
      by_cases h : other.index = key.index
      · simp [modify, get?, ht, hiff.2 h]
      · have hne : ¬other = key := fun hk ↦ h (hiff.1 hk)
        have h' : ¬key.index = other.index := fun hk ↦ h hk.symm
        simp [modify, get?, ht, ho, hne, h']
    · have hne : ¬other = key := fun hk ↦ ho (hk ▸ ht)
      simp [modify, get?, ht, ho, hne]
  · by_cases h : other = key
    · subst h
      simp [modify, get?, ht]
    · simp [modify, ht, h]

/-- To put a thing where it lies already changes nothing. -/
theorem modify_of_get? {arena : Arena α} {key : Key} {item : α} (found : arena.get? key = some item) :
    arena.modify key (fun _ ↦ item) = arena := by
  obtain ⟨tag, items⟩ := arena
  simp only [get?, Option.ite_none_right_eq_some] at found
  obtain ⟨rfl, here⟩ := found
  have same : items.modify key.index (fun _ ↦ item) = items := by
    refine List.ext_getElem? fun index ↦ ?_
    rw [List.getElem?_modify]
    by_cases at_key : key.index = index
    · subst at_key
      simp [here]
    · simp [at_key]
  simp only [modify, if_true, same]

theorem modify?_eq_some_iff {arena changed : Arena α} {key : Key} {f : α → α} :
    arena.modify? key f = some changed ↔ arena.contains key = true ∧ changed = arena.modify key f := by
  rw [modify?, Option.ite_none_right_eq_some, Option.some.injEq, eq_comm (a := changed)]

theorem fetch_of_contains {arena : Arena α} {key : Key} (mine : arena.contains key = true) :
    ∃ item, arena.get? key = some item ∧ arena.fetch key = .ok item := by
  rw [contains_eq_isSome, Option.isSome_iff_exists] at mine
  obtain ⟨item, found⟩ := mine
  exact ⟨item, found, by rw [fetch, found]⟩

theorem fetch_of_not_contains {arena : Arena α} {key : Key} (foreign : ¬arena.contains key = true) :
    arena.get? key = none ∧ arena.fetch key = .error (.foreignKey key.index) := by
  rw [contains_eq_isSome, Option.not_isSome_iff_eq_none] at foreign
  exact ⟨foreign, by rw [fetch, foreign]⟩

theorem amend_eq_ok_iff {arena changed : Arena α} {key : Key} {f : α → α} :
    arena.amend key f = .ok changed ↔ arena.contains key = true ∧ changed = arena.modify key f := by
  by_cases mine : arena.contains key = true
  · obtain ⟨item, -, found⟩ := fetch_of_contains mine
    simp [amend, found, Except.map, mine, eq_comm]
  · obtain ⟨-, missing⟩ := fetch_of_not_contains mine
    simp [amend, missing, Except.map, mine]

/-- The keys of an arena number its things in the order of arrival. -/
theorem toList_eq (arena : Arena α) : (arena.toList.map fun entry ↦ (entry.1, some entry.2)) =
    (List.range arena.size).map fun index ↦ (⟨arena.tag, index⟩, arena.items[index]?) := by
  refine List.ext_getElem (by simp [toList, size]) fun index inside _ ↦ ?_
  have small : index < arena.items.length := by simpa [toList] using inside
  simp [toList, small]

end RegisterTransfer.Arena
