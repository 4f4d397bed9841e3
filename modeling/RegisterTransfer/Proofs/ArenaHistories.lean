import RegisterTransfer.Arena.Lemmas
import Mathlib.Data.List.Nodup

/-!
# Keys of several arenas

Several arenas with tags of their own are filled and changed in any order. Of all that is done with them, one thing is
written down: which arena handed out which key for what, and what was changed through which key. Whatever the order, a
key is one of the arena that handed it out and of no other, it names there what was last stored under it, and the arena
lists just its own keys in the order in which it handed them out.
-/

namespace RegisterTransfer.Arena

variable {α : Type}

/-! ## Histories -/

/-- One use of several arenas, of which each is named by its place. Look-ups are left out, for they change nothing. -/
inductive Access (α : Type)
  | push (place : Nat) (item : α)
  /-- Change what a key names if the arena has it. -/
  | modify (place : Nat) (key : Key) (f : α → α)
  /-- Change what a key names that has to be one of the arena. -/
  | amend (place : Nat) (key : Key) (f : α → α)

/-- The key that a thing is changed through. -/
def Access.key? : Access α → Option Key
  | .push _ _ => none
  | .modify _ key _ | .amend _ key _ => some key

/-- What a use of an arena came to. -/
inductive Deed (α : Type)
  | handed (place : Nat) (key : Key) (item : α)
  | changed (key : Key) (f : α → α)

/-- What is stored under a key behind a deed. -/
def Deed.store (key : Key) (current : Option α) : Deed α → Option α
  | .handed _ other item => if other = key then some item else current
  | .changed other f => if other = key then current.map f else current

def Deed.handed? : Deed α → Option (Nat × Key)
  | .handed place key _ => some (place, key)
  | .changed _ _ => none

/-- Several arenas with all that was done to them. -/
structure History (α : Type) where
  arenas : List (Arena α)
  deeds : List (Deed α)

namespace History

/-- Empty arenas with given tags. -/
def start (tags : List Nat) : History α := ⟨tags.map Arena.empty, []⟩

/-- Every key that was handed out, with the place of its arena. -/
def handed (history : History α) : List (Nat × Key) := history.deeds.filterMap Deed.handed?

/-- The keys that one arena handed out. -/
def handedBy (history : History α) (place : Nat) : List Key :=
  (history.handed.filter fun entry ↦ entry.1 = place).map Prod.snd

/-- What was last stored under a key. -/
def stored (history : History α) (key : Key) : Option α := history.deeds.foldl (Deed.store key) none

/-- Put another arena at a place and write down what was done. -/
def put (history : History α) (place : Nat) (arena : Arena α) (deed : Deed α) : History α :=
  ⟨history.arenas.set place arena, history.deeds ++ [deed]⟩

/-- Use one of the arenas; a use that an arena does not allow leaves everything as it is. -/
def step (history : History α) : Access α → History α
  | .push place item =>
    match history.arenas[place]? with
    | some arena => history.put place (arena.push item) (.handed place arena.nextKey item)
    | none => history
  | .modify place key f =>
    match history.arenas[place]? with
    | some arena =>
      match arena.modify? key f with
      | some changed => history.put place changed (.changed key f)
      | none => history
    | none => history
  | .amend place key f =>
    match history.arenas[place]? with
    | some arena =>
      match arena.amend key f with
      | .ok changed => history.put place changed (.changed key f)
      | .error _ => history
    | none => history

def run (history : History α) (accesses : List (Access α)) : History α := accesses.foldl step history

/-! ## What one use does -/

variable {history : History α} {place : Nat} {arena : Arena α}

/-- A use hands out the next key of an arena, changes a thing through a key of its arena, or does nothing. -/
theorem step_cases (history : History α) (access : Access α) :
    history.step access = history ∨
    (∃ place arena item, access = .push place item ∧ history.arenas[place]? = some arena ∧
      history.step access = history.put place (arena.push item) (.handed place arena.nextKey item)) ∨
    ∃ place arena key f, access.key? = some key ∧ history.arenas[place]? = some arena ∧ arena.contains key = true ∧
      history.step access = history.put place (arena.modify key f) (.changed key f) := by
  cases access with
  | push place item =>
    cases found : history.arenas[place]? with
    | none => exact .inl (by simp only [step, found])
    | some arena => exact .inr (.inl ⟨place, arena, item, rfl, found, by simp only [step, found]⟩)
  | modify place key f =>
    cases found : history.arenas[place]? with
    | none => exact .inl (by simp only [step, found])
    | some arena =>
      cases modified : arena.modify? key f with
      | none => exact .inl (by simp only [step, found, modified])
      | some changed =>
        obtain ⟨mine, rfl⟩ := modify?_eq_some_iff.1 modified
        exact .inr (.inr ⟨place, arena, key, f, rfl, found, mine, by simp only [step, found, modified]⟩)
  | amend place key f =>
    cases found : history.arenas[place]? with
    | none => exact .inl (by simp only [step, found])
    | some arena =>
      cases modified : arena.amend key f with
      | error fault => exact .inl (by simp only [step, found, modified])
      | ok changed =>
        obtain ⟨mine, rfl⟩ := amend_eq_ok_iff.1 modified
        exact .inr (.inr ⟨place, arena, key, f, rfl, found, mine, by simp only [step, found, modified]⟩)

theorem getElem?_arenas_put (found : history.arenas[place]? = some arena) (changed : Arena α) (deed : Deed α)
    (other : Nat) : (history.put place changed deed).arenas[other]? =
      if other = place then some changed else history.arenas[other]? := by
  have inside : place < history.arenas.length := (List.getElem?_eq_some_iff.1 found).1
  rw [put, List.getElem?_set]
  by_cases same : other = place
  · simp [same, inside]
  · rw [if_neg same, if_neg fun equal ↦ same equal.symm]

@[simp] theorem stored_put (history : History α) (place : Nat) (changed : Arena α) (deed : Deed α) (key : Key) :
    (history.put place changed deed).stored key = deed.store key (history.stored key) := by
  simp [stored, put]

/-- After a change another arena stands at its place and nothing else has moved. -/
theorem arenas_put_cases {changed another : Arena α} {deed : Deed α} {other : Nat}
    (found : history.arenas[place]? = some arena)
    (there : (history.put place changed deed).arenas[other]? = some another) :
    (other = place ∧ another = changed) ∨ other ≠ place ∧ history.arenas[other]? = some another := by
  rw [getElem?_arenas_put found] at there
  by_cases same : other = place
  · rw [if_pos same, Option.some.injEq] at there
    exact .inl ⟨same, there.symm⟩
  · rw [if_neg same] at there
    exact .inr ⟨same, there⟩

theorem handed_put (history : History α) (place : Nat) (changed : Arena α) (deed : Deed α) :
    (history.put place changed deed).handed = history.handed ++ deed.handed?.toList := by
  rw [handed, put, List.filterMap_append]
  cases deed <;> rfl

theorem length_arenas_put (history : History α) (place : Nat) (changed : Arena α) (deed : Deed α) :
    (history.put place changed deed).arenas.length = history.arenas.length := List.length_set

theorem handedBy_put_handed (history : History α) (place source : Nat) (changed : Arena α) (key : Key) (item : α)
    (other : Nat) : (history.put place changed (.handed source key item)).handedBy other =
      history.handedBy other ++ if source = other then [key] else [] := by
  rw [handedBy, handed_put, List.filter_append, List.map_append]
  by_cases same : source = other
  · simp [Deed.handed?, same, handedBy]
  · simp [Deed.handed?, same, handedBy]

theorem handedBy_put_changed (history : History α) (place : Nat) (changed : Arena α) (key : Key) (f : α → α)
    (other : Nat) : (history.put place changed (.changed key f)).handedBy other = history.handedBy other := by
  rw [handedBy, handed_put, Deed.handed?, Option.toList_none, List.append_nil, handedBy]

/-! ## What stays true -/

/-- The arenas tell their keys apart, every arena has handed out a key for each of its things, and what a key names is
what was last stored under it. -/
structure Tidy (history : History α) : Prop where
  apart : ∀ (place other : Nat) (arena another : Arena α), history.arenas[place]? = some arena →
    history.arenas[other]? = some another → arena.tag = another.tag → place = other
  placed : ∀ entry ∈ history.handed, entry.1 < history.arenas.length
  issued : ∀ (place : Nat) (arena : Arena α), history.arenas[place]? = some arena →
    history.handedBy place = (List.range arena.size).map (Key.mk arena.tag)
  distinct : (history.handed.map Prod.snd).Nodup
  current : ∀ (place : Nat) (arena : Arena α) (key : Key), history.arenas[place]? = some arena →
    arena.contains key = true → arena.get? key = history.stored key

theorem tidy_start {tags : List Nat} (apart : tags.Nodup) : Tidy (start tags : History α) where
  apart place other arena another found further same := by
    simp only [start, List.getElem?_map, Option.map_eq_some_iff] at found further
    obtain ⟨tag, here, rfl⟩ := found
    obtain ⟨_, there, rfl⟩ := further
    obtain rfl : tag = _ := same
    obtain ⟨inside, _⟩ := List.getElem?_eq_some_iff.1 here
    exact (List.getElem?_inj inside apart).1 (here.trans there.symm)
  placed := by simp [handed, start]
  issued place arena found := by
    simp only [start, List.getElem?_map, Option.map_eq_some_iff] at found
    obtain ⟨tag, -, rfl⟩ := found
    rfl
  distinct := List.nodup_nil
  current place arena key found mine := by
    simp only [start, List.getElem?_map, Option.map_eq_some_iff] at found
    obtain ⟨tag, -, rfl⟩ := found
    simp [contains, size, Arena.empty] at mine

namespace Tidy

variable (tidy : Tidy history)

include tidy

/-- A key is handed out by an arena if and only if the arena has it. -/
theorem mem_handed_iff (found : history.arenas[place]? = some arena) (key : Key) :
    (place, key) ∈ history.handed ↔ arena.contains key = true := by
  have listed : (place, key) ∈ history.handed ↔ key ∈ history.handedBy place := by
    simp [handedBy]
  rw [listed, tidy.issued place arena found, contains_iff, List.mem_map]
  constructor
  · rintro ⟨index, inside, rfl⟩
    exact ⟨rfl, List.mem_range.1 inside⟩
  · rintro ⟨tag, inside⟩
    exact ⟨key.index, List.mem_range.2 inside, by rw [← tag]⟩

/-- No arena has handed out the next key of one of them. -/
theorem nextKey_not_mem (found : history.arenas[place]? = some arena) :
    arena.nextKey ∉ history.handed.map Prod.snd := by
  intro mem
  obtain ⟨⟨other, key⟩, listed, same⟩ := List.mem_map.1 mem
  obtain rfl : key = arena.nextKey := same
  obtain ⟨another, further⟩ : ∃ another, history.arenas[other]? = some another :=
    ⟨_, List.getElem?_eq_getElem (tidy.placed _ listed)⟩
  have mine := (tidy.mem_handed_iff further arena.nextKey).1 listed
  obtain ⟨tag, inside⟩ := (contains_iff _ _).1 mine
  obtain rfl : place = other := tidy.apart place other arena another found further tag
  obtain rfl : arena = another := Option.some.inj (found.symm.trans further)
  exact absurd inside (Nat.lt_irrefl arena.size)

/-- A key that one arena has is no key of another one. -/
theorem place_eq {other : Nat} {another : Arena α} {key : Key} (found : history.arenas[place]? = some arena)
    (further : history.arenas[other]? = some another) (mine : arena.contains key = true)
    (theirs : another.contains key = true) : other = place := by
  have tag := ((contains_iff _ _).1 mine).1.symm.trans ((contains_iff _ _).1 theirs).1
  exact (tidy.apart place other arena another found further tag).symm

theorem apart_put {changed : Arena α} (found : history.arenas[place]? = some arena) (same_tag : changed.tag = arena.tag)
    (deed : Deed α) (first second : Nat) (one two : Arena α)
    (here : (history.put place changed deed).arenas[first]? = some one)
    (there : (history.put place changed deed).arenas[second]? = some two) (same : one.tag = two.tag) :
    first = second := by
  rcases arenas_put_cases found here with ⟨rfl, rfl⟩ | ⟨-, before⟩ <;>
    rcases arenas_put_cases found there with ⟨rfl, rfl⟩ | ⟨-, earlier⟩
  · rfl
  · exact tidy.apart first second arena two found earlier (same_tag ▸ same)
  · exact tidy.apart first second one arena before found (same.trans same_tag)
  · exact tidy.apart first second one two before earlier same

/-- A push leaves everything in order. -/
theorem put_push (found : history.arenas[place]? = some arena) (item : α) :
    Tidy (history.put place (arena.push item) (.handed place arena.nextKey item)) where
  apart := tidy.apart_put found (tag_push arena item) _
  placed entry mem := by
    rw [length_arenas_put]
    rw [handed_put, List.mem_append] at mem
    rcases mem with before | here
    · exact tidy.placed entry before
    · obtain rfl : entry = (place, arena.nextKey) := by simpa [Deed.handed?] using here
      exact (List.getElem?_eq_some_iff.1 found).1
  issued other another there := by
    rw [handedBy_put_handed]
    rcases arenas_put_cases found there with ⟨rfl, rfl⟩ | ⟨different, before⟩
    · rw [tidy.issued other arena found, if_pos rfl, size_push, List.range_succ, List.map_append]
      rfl
    · rw [tidy.issued other another before, if_neg fun same ↦ different same.symm, List.append_nil]
  distinct := by
    rw [handed_put, List.map_append]
    exact List.nodup_append.2 ⟨tidy.distinct, List.nodup_singleton _, fun key mem other last same ↦ by
      obtain rfl : other = arena.nextKey := by simpa [Deed.handed?] using last
      exact tidy.nextKey_not_mem found (same ▸ mem)⟩
  current other another key there mine := by
    rw [stored_put, Deed.store]
    rcases arenas_put_cases found there with ⟨rfl, rfl⟩ | ⟨different, before⟩
    · by_cases next : arena.nextKey = key
      · rw [if_pos next, ← next, get?_push_nextKey]
      · have earlier : arena.contains key = true := by
          rw [contains_iff, size_push] at mine
          rw [contains_iff]
          refine ⟨mine.1, Nat.lt_of_le_of_ne (Nat.le_of_lt_succ mine.2) fun last ↦ next ?_⟩
          rw [nextKey, ← last, ← show key.tag = arena.tag from mine.1]
        rw [if_neg next, get?_push_of_contains arena item key earlier, tidy.current other arena key found earlier]
    · have foreign : arena.nextKey ≠ key := by
        rintro rfl
        exact different (tidy.apart place other arena another found before ((contains_iff _ _).1 mine).1).symm
      rw [if_neg foreign, tidy.current other another key before mine]

/-- A change through a key of its arena leaves everything in order. -/
theorem put_modify {key : Key} (found : history.arenas[place]? = some arena) (mine : arena.contains key = true)
    (f : α → α) : Tidy (history.put place (arena.modify key f) (.changed key f)) where
  apart := tidy.apart_put found (tag_modify arena key f) _
  placed entry mem := by
    rw [handed_put, Deed.handed?, Option.toList_none, List.append_nil] at mem
    rw [length_arenas_put]
    exact tidy.placed entry mem
  issued other another there := by
    rw [handedBy_put_changed]
    rcases arenas_put_cases found there with ⟨rfl, rfl⟩ | ⟨-, before⟩
    · rw [tidy.issued other arena found, size_modify, tag_modify]
    · exact tidy.issued other another before
  distinct := by
    rw [handed_put, Deed.handed?, Option.toList_none, List.append_nil]
    exact tidy.distinct
  current other another asked there theirs := by
    rw [stored_put, Deed.store]
    rcases arenas_put_cases found there with ⟨rfl, rfl⟩ | ⟨different, before⟩
    · have earlier : arena.contains asked = true := by simpa [contains_iff] using theirs
      rw [get?_modify]
      by_cases same : key = asked
      · rw [if_pos same, if_pos same.symm, tidy.current other arena key found mine, same]
      · rw [if_neg same, if_neg fun equal ↦ same equal.symm, tidy.current other arena asked found earlier]
    · have foreign : key ≠ asked := by
        rintro rfl
        exact different (tidy.place_eq found before mine theirs)
      rw [if_neg foreign, tidy.current other another asked before theirs]

theorem step (access : Access α) : Tidy (history.step access) := by
  rcases history.step_cases access with same | ⟨place, arena, item, -, found, pushed⟩ |
    ⟨place, arena, key, f, -, found, mine, changed⟩
  · rwa [same]
  · rw [pushed]
    exact tidy.put_push found item
  · rw [changed]
    exact tidy.put_modify found mine f

theorem run (accesses : List (Access α)) : Tidy (history.run accesses) := by
  induction accesses generalizing history with
  | nil => exact tidy
  | cons access rest ih => exact ih (tidy.step access)

end Tidy

/-! ## What is never taken back -/

/-- A use takes no key back, and only a change through a key is seen through it. -/
theorem step_keeps (tidy : Tidy history) (access : Access α) : history.handed <+: (history.step access).handed ∧
    ∀ key ∈ history.handed.map Prod.snd, access.key? ≠ some key →
      (history.step access).stored key = history.stored key := by
  rcases history.step_cases access with same | ⟨place, arena, item, -, found, pushed⟩ |
    ⟨place, arena, other, f, through, -, -, changed⟩
  · rw [same]
    exact ⟨List.prefix_rfl, fun _ _ _ ↦ rfl⟩
  · rw [pushed, handed_put]
    refine ⟨List.prefix_append .., fun key mem _ ↦ ?_⟩
    have older : arena.nextKey ≠ key := by
      rintro rfl
      exact tidy.nextKey_not_mem found mem
    rw [stored_put, Deed.store, if_neg older]
  · rw [changed, handed_put]
    refine ⟨List.prefix_append .., fun key _ elsewhere ↦ ?_⟩
    have foreign : other ≠ key := by
      rintro rfl
      exact elsewhere through
    rw [stored_put, Deed.store, if_neg foreign]

theorem run_keeps (tidy : Tidy history) (accesses : List (Access α)) :
    history.handed <+: (history.run accesses).handed ∧
    ∀ key ∈ history.handed.map Prod.snd, (∀ access ∈ accesses, access.key? ≠ some key) →
      (history.run accesses).stored key = history.stored key := by
  induction accesses generalizing history with
  | nil => exact ⟨List.prefix_rfl, fun _ _ _ ↦ rfl⟩
  | cons access rest ih =>
    obtain ⟨grows, keeps⟩ := step_keeps tidy access
    obtain ⟨grows_on, keeps_on⟩ := ih (tidy.step access)
    refine ⟨grows.trans grows_on, fun key mem elsewhere ↦ ?_⟩
    rw [List.forall_mem_cons] at elsewhere
    have still : key ∈ (history.step access).handed.map Prod.snd := (grows.map Prod.snd).subset mem
    exact (keeps_on key still elsewhere.2).trans (keeps key mem elsewhere.1)

/-! ## Keys of several arenas -/

/-- What a key that was handed out at a place means to the arenas. -/
structure Means (history : History α) (place : Nat) (key : Key) : Prop where
  contained : ∀ (other : Nat) (arena : Arena α), history.arenas[other]? = some arena →
    (arena.contains key = true ↔ other = place)
  named : ∃ (arena : Arena α) (item : α), history.arenas[place]? = some arena ∧ history.stored key = some item ∧
    arena.get? key = some item ∧ arena.fetch key = .ok item ∧
      ∀ f, ∃ changed, arena.modify? key f = some changed ∧ arena.amend key f = .ok changed ∧
        changed.get? key = some (f item)
  foreign : ∀ (other : Nat) (arena : Arena α), history.arenas[other]? = some arena → other ≠ place →
    arena.get? key = none ∧ arena.fetch key = .error (.foreignKey key.index) ∧
      ∀ f, arena.modify? key f = none ∧ arena.amend key f = .error (.foreignKey key.index)

theorem Tidy.means (tidy : Tidy history) {key : Key} (mem : (place, key) ∈ history.handed) :
    Means history place key := by
  obtain ⟨arena, found⟩ : ∃ arena, history.arenas[place]? = some arena :=
    ⟨_, List.getElem?_eq_getElem (tidy.placed _ mem)⟩
  have mine : arena.contains key = true := (tidy.mem_handed_iff found key).1 mem
  have contained (other : Nat) (another : Arena α) (further : history.arenas[other]? = some another) :
      another.contains key = true ↔ other = place := by
    constructor
    · exact tidy.place_eq found further mine
    · rintro rfl
      rwa [← Option.some.inj (found.symm.trans further)]
  refine ⟨contained, ?_, fun other another further different ↦ ?_⟩
  · obtain ⟨item, named, fetched⟩ := fetch_of_contains mine
    refine ⟨arena, item, found, (tidy.current place arena key found mine).symm.trans named, named, fetched, fun f ↦ ?_⟩
    refine ⟨arena.modify key f, modify?_eq_some_iff.2 ⟨mine, rfl⟩, amend_eq_ok_iff.2 ⟨mine, rfl⟩, ?_⟩
    rw [get?_modify, if_pos rfl, named, Option.map_some]
  · have not_theirs : ¬another.contains key = true :=
      fun theirs ↦ different ((contained other another further).1 theirs)
    obtain ⟨absent, refused⟩ := fetch_of_not_contains not_theirs
    refine ⟨absent, refused, fun f ↦ ⟨if_neg not_theirs, ?_⟩⟩
    rw [amend, refused, Except.map]

/-- An arena lists its own keys in the order in which it handed them out, with what is stored under them. -/
theorem Tidy.toList_eq (tidy : Tidy history) (found : history.arenas[place]? = some arena) :
    (arena.toList.map fun entry ↦ (entry.1, some entry.2)) =
      (history.handedBy place).map fun key ↦ (key, history.stored key) := by
  rw [Arena.toList_eq, tidy.issued place arena found, List.map_map]
  refine List.map_congr_left fun index inside ↦ ?_
  have mine : arena.contains ⟨arena.tag, index⟩ = true := (contains_iff ..).2 ⟨rfl, List.mem_range.1 inside⟩
  rw [Function.comp, ← tidy.current place arena _ found mine, get?, if_pos rfl]

/-- However several arenas with tags of their own are filled and changed, all keys differ, each is one of the arena that
handed it out and of no other for good, and names there what was last stored under it, which nothing but a change
through that key affects. -/
theorem keys_keep {tags : List Nat} (apart : tags.Nodup) (accesses : List (Access α)) :
    (((start tags).run accesses).handed.map Prod.snd).Nodup ∧
    (∀ place key, (place, key) ∈ ((start tags).run accesses).handed →
      Means ((start tags).run accesses) place key ∧
      ∀ more, Means (((start tags).run accesses).run more) place key ∧
        ((∀ access ∈ more, access.key? ≠ some key) →
          (((start tags).run accesses).run more).stored key = ((start tags).run accesses).stored key)) ∧
    ∀ (place : Nat) (arena : Arena α), ((start tags).run accesses).arenas[place]? = some arena →
      (arena.toList.map fun entry ↦ (entry.1, some entry.2)) =
        (((start tags).run accesses).handedBy place).map fun key ↦ (key, ((start tags).run accesses).stored key) := by
  have tidy : Tidy ((start tags).run accesses) := (tidy_start apart).run accesses
  refine ⟨tidy.distinct, fun place key mem ↦ ⟨tidy.means mem, fun more ↦ ?_⟩, fun place arena ↦ tidy.toList_eq⟩
  obtain ⟨grows, keeps⟩ := run_keeps tidy more
  exact ⟨(tidy.run more).means (grows.subset mem), keeps key (List.mem_map_of_mem mem)⟩

/-- Two arenas that are filled in turns, with a change through a key of each, and one through a key of the other. -/
def mixed : List (Access Nat) := [.push 0 10, .push 1 50, .push 0 20, .modify 0 ⟨3, 1⟩ (· + 1), .amend 1 ⟨3, 0⟩ (· + 1),
  .amend 1 ⟨8, 0⟩ (· + 1)]

theorem mixed_keys_keep : [3, 8].Nodup ∧ (0, ⟨3, 1⟩) ∈ ((start [3, 8]).run mixed).handed ∧
    Means ((start [3, 8]).run mixed) 0 ⟨3, 1⟩ ∧
    ((((start [3, 8]).run mixed).run [.push 0 30, .amend 0 ⟨3, 0⟩ (· * 2)]).stored ⟨3, 1⟩ = some 21) ∧
    ∃ arena, ((start [3, 8]).run mixed).arenas[0]? = some arena ∧
      (arena.toList.map fun entry ↦ (entry.1, some entry.2)) = [(⟨3, 0⟩, some 10), (⟨3, 1⟩, some 21)] := by
  have apart : [3, 8].Nodup := by decide
  have handed : (0, ⟨3, 1⟩) ∈ ((start [3, 8]).run mixed).handed := by decide
  obtain ⟨-, keys, lists⟩ := keys_keep apart mixed
  obtain ⟨means, later⟩ := keys 0 ⟨3, 1⟩ handed
  refine ⟨apart, handed, means, ?_, ⟨3, [10, 21]⟩, rfl, lists 0 ⟨3, [10, 21]⟩ rfl⟩
  exact (later [.push 0 30, .amend 0 ⟨3, 0⟩ (· * 2)]).2 (by simp [Access.key?])

end History

end RegisterTransfer.Arena
