/-!
# TOML values

A document is a table of values in the order in which its keys first appear, except that a table with a header of
its own has its place where that header stands. A table remembers how it came about, since that decides in which
ways it may be extended later.
-/

namespace RegisterTransfer.Toml

/-- A decimal number as it is written. -/
inductive Number
  /-- The number `digits * 10 ^ exponent`, or its negative. -/
  | finite (negative : Bool) (digits : Nat) (exponent : Int)
  | infinite (negative : Bool)
  | notANumber
  deriving DecidableEq

/-- How a table came about. -/
inductive TableKind
  /-- Written between braces; complete. -/
  | inline
  /-- Named by a header of its own. -/
  | header
  /-- Named by a part of the header of another table. -/
  | implied
  /-- Named by a part of a dotted key. -/
  | dotted
  deriving DecidableEq

inductive Value
  | string (text : String)
  /-- An integer, or nothing if what was written makes none, which is no mistake in the document. -/
  | integer (value : Option Int)
  | float (number : Number)
  | boolean (value : Bool)
  /-- A date, a time of day, or both. -/
  | time (text : String)
  | array (items : List Value)
  | table (kind : TableKind) (members : List (String × Value))
  /-- An array whose tables are named by headers. -/
  | tables (elements : List (List (String × Value)))

/-- The members of a table in their order. -/
abbrev Members := List (String × Value)

namespace Members

/-- Change the value under a key, or add the key at the end; the change may be refused. -/
def update (key : String) (change : Option Value → Option Value) : Members → Option Members
  | [] => do return [(key, ← change none)]
  | (other, value) :: rest =>
    if other = key then do return (other, ← change (some value)) :: rest
    else do return (other, value) :: (← update key change rest)

/-- Change the last of several tables. -/
def updateLast (change : Members → Option Members) : List Members → Option (List Members)
  | [] => none
  | [last] => do return [← change last]
  | first :: rest => do return first :: (← updateLast change rest)

/-- Enter a value under a dotted key, whose parts but the last one name tables. A table with a header of its own
cannot be extended by a dotted key, nor one between braces, and no key is given twice. -/
def assign (value : Value) : List String → Members → Option Members
  | [], _ => none
  | [key], members => update key (fun earlier ↦ if earlier.isSome then none else some value) members
  | key :: rest, members =>
    update key
      (fun
        | none => do return .table .dotted (← assign value rest [])
        | some (.table .dotted inner) => do return .table .dotted (← assign value rest inner)
        | some (.table .implied inner) =>
          if rest.length = 1 then none else do return .table .implied (← assign value rest inner)
        | some (.tables elements) =>
          if rest.length = 1 then none else do return .tables (← updateLast (assign value rest) elements)
        | some _ => none)
      members

/-- Follow the path of a header to the table of its last part, which is left to `change`; missing tables on the way
are implied. -/
def descend (change : String → Members → Option Members) : List String → Members → Option Members
  | [], _ => none
  | [key], members => change key members
  | key :: rest, members =>
    update key
      (fun
        | none => do return .table .implied (← descend change rest [])
        | some (.table .inline _) => none
        | some (.table kind inner) => do return .table kind (← descend change rest inner)
        | some (.tables elements) => do return .tables (← updateLast (descend change rest) elements)
        | some _ => none)
      members

/-- Open the table of a header, which is new or was only implied. Either way it becomes the last member. -/
def openTable (key : String) (members : Members) : Option Members :=
  match members.lookup key with
  | none => some (members ++ [(key, .table .header [])])
  | some (.table .implied inner) =>
    some ((members.filter fun member ↦ member.1 != key) ++ [(key, .table .header inner)])
  | some _ => none

/-- Add a table to the array of a header. -/
def openElement (key : String) (members : Members) : Option Members :=
  update key
    (fun
      | none => some (.tables [[]])
      | some (.tables elements) => some (.tables (elements ++ [[]]))
      | some _ => none)
    members

/-- Enter a value into the table that a header has opened. -/
def assignIn (key : List String) (value : Value) : List String → Members → Option Members
  | [], members => assign value key members
  | part :: rest, members =>
    update part
      (fun
        | some (.table kind inner) => do return .table kind (← assignIn key value rest inner)
        | some (.tables elements) => do return .tables (← updateLast (assignIn key value rest) elements)
        | _ => none)
      members

end Members

end RegisterTransfer.Toml
