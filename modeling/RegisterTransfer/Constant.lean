import RegisterTransfer.Shape

/-!
# Constants

A constant is an integer in a shape. An integer too large for the shape is taken modulo two to the width,
and a signed shape reads the upper half of the range as negative numbers.
-/

namespace RegisterTransfer

/-- The bits needed to write an integer: a positive one without a sign bit, zero and negative ones
with it. -/
def bitsNeeded (value : Int) : Nat :=
  if 0 < value then bitLength value.toNat else bitLength ((-value).toNat - 1) + 1

/-- The bits that are counted for an integer. The counter has 32 bits, and starts over with an integer that needs
more bits than it can count. -/
def bitsFor (value : Int) : Nat := bitsNeeded value % wordCount 32

structure Constant where
  value : Int
  shape : Shape
  deriving DecidableEq

namespace Constant

/-- The integer that the low bits of `value` stand for in a shape. -/
def wrap (value : Int) (shape : Shape) : Int :=
  if shape.signed then value.bmod (wordCount shape.width) else value % wordCount shape.width

/-- The constant of a given shape, wrapped into its range. -/
def ofShape (value : Int) (shape : Shape) : Constant := ⟨wrap value shape, shape⟩

/-- The constant of the smallest shape that holds the integer, as far as its bits can be counted. -/
def cast (value : Int) : Constant := ⟨value, bitsFor value, decide (value < 0)⟩

def ofBool (value : Bool) : Constant := ofShape (if value then 1 else 0) (Shape.unsigned 1)

def width (constant : Constant) : Nat := constant.shape.width

/-- The bits of the constant, read as a natural number. -/
def bits (constant : Constant) : Nat := (constant.value % wordCount constant.width).toNat

/-- Several constants side by side, the first one in the least significant bits. -/
def joinedBits : List Constant → Nat
  | [] => 0
  | constant :: rest => constant.bits + wordCount constant.width * joinedBits rest

def join (constants : List Constant) : Constant :=
  ofShape (joinedBits constants) (Shape.unsigned (Shape.totalWidth (constants.map shape)))

/-- The bits from `start` up to and without `stop`. -/
def slice (constant : Constant) (start stop : Nat) : Constant :=
  ofShape (constant.bits >>> start) (Shape.unsigned (stop - start))

/-- Width, mark of a sign, and value in decimal. -/
def text (constant : Constant) : String :=
  let sign := if constant.shape.signed then "s" else ""
  s!"(const {constant.width}'{sign}d{constant.value})"

end Constant

end RegisterTransfer
