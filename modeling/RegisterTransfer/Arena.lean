import RegisterTransfer.Fault

/-!
# Arenas

An arena only grows, and hands out a key for everything put into it. Arenas carry different tags, and a
key carries the tag of the arena that made it, so a key that reaches another arena is recognised there
instead of naming something else.
-/

namespace RegisterTransfer

/-- Names one thing in one arena. -/
structure Arena.Key where
  tag : Nat
  index : Nat
  deriving DecidableEq, Inhabited

/-- Things stored in the order of arrival, reached by key. -/
structure Arena (α : Type) where
  tag : Nat
  items : List α

namespace Arena

variable {α : Type}

def empty (tag : Nat) : Arena α := ⟨tag, []⟩

def size (arena : Arena α) : Nat := arena.items.length

/-- The key that the next thing put into the arena receives. -/
def nextKey (arena : Arena α) : Key := ⟨arena.tag, arena.size⟩

def push (arena : Arena α) (item : α) : Arena α :=
  { arena with items := arena.items ++ [item] }

def contains (arena : Arena α) (key : Key) : Bool :=
  key.tag == arena.tag && decide (key.index < arena.size)

def get? (arena : Arena α) (key : Key) : Option α :=
  if key.tag = arena.tag then arena.items[key.index]? else none

/-- The thing named by a key that has to be one of this arena. -/
def fetch (arena : Arena α) (key : Key) : Except Fault α :=
  match arena.get? key with
  | some item => .ok item
  | none => .error (.foreignKey key.index)

/-- Change the thing named by `key`; a key of another arena changes nothing. -/
def modify (arena : Arena α) (key : Key) (f : α → α) : Arena α :=
  if key.tag = arena.tag then { arena with items := arena.items.modify key.index f } else arena

/-- Change the thing named by `key` if the arena has it. -/
def modify? (arena : Arena α) (key : Key) (f : α → α) : Option (Arena α) :=
  if arena.contains key then some (arena.modify key f) else none

/-- Change the thing named by a key that has to be one of this arena. -/
def amend (arena : Arena α) (key : Key) (f : α → α) : Except Fault (Arena α) :=
  (arena.fetch key).map fun _ ↦ arena.modify key f

/-- Everything in the arena with its key, in the order of arrival. -/
def toList (arena : Arena α) : List (Key × α) :=
  arena.items.zipIdx.map fun entry ↦ (⟨arena.tag, entry.2⟩, entry.1)

end Arena

end RegisterTransfer
