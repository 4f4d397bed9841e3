/-!
# Shapes

The shape of a value is its width in bits and whether the top bit counts as a sign. Widths are natural
numbers of any size.
-/

namespace RegisterTransfer

/-- The number of binary digits of a natural number, none for zero. -/
def bitLength (n : Nat) : Nat :=
  if n = 0 then 0 else n.log2 + 1

/-- The number of words of a width. -/
def wordCount (width : Nat) : Nat := Nat.pow 2 width

structure Shape where
  width : Nat
  signed : Bool
  deriving DecidableEq, Inhabited

namespace Shape

def unsigned (width : Nat) : Shape := ⟨width, false⟩

/-- The unsigned shape that holds every number below `count`. -/
def forRange (count : Nat) : Shape := unsigned (bitLength (count - 1))

/-- The widest of several shapes, signed if there is one and all are. -/
def widest (operands : List Shape) : Shape where
  width := (operands.map Shape.width).foldl max 0
  signed := !operands.isEmpty && operands.all Shape.signed

/-- The width of several shapes side by side. -/
def totalWidth : List Shape → Nat
  | [] => 0
  | shape :: rest => shape.width + totalWidth rest

end Shape

end RegisterTransfer
