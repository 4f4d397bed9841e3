/-!
# Classes of characters

A class of characters is an array of ranges of code points in ascending order, so membership is a search by
halves.
-/

namespace RegisterTransfer.Text

/-- Search the ranges from position `low` up to and without `high`; `fuel` bounds the number of halvings. -/
def searchRanges (ranges : Array (Nat × Nat)) (code : Nat) : Nat → Nat → Nat → Bool
  | 0, _, _ => false
  | fuel + 1, low, high =>
    if low < high then
      let middle := (low + high) / 2
      match ranges[middle]? with
      | none => false
      | some (first, last) =>
        if code < first then searchRanges ranges code fuel low middle
        else if last < code then searchRanges ranges code fuel (middle + 1) high
        else true
    else false

/-- Whether a character lies in one of the ranges. -/
def inRanges (ranges : Array (Nat × Nat)) (c : Char) : Bool :=
  searchRanges ranges c.toNat (ranges.size + 1) 0 ranges.size

end RegisterTransfer.Text
