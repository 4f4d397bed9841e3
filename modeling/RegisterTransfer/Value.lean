import RegisterTransfer.Constant
import RegisterTransfer.Signal

/-!
# Values

A value is an expression over signals and constants: an operator with its operands, a concatenation that
starts with the least significant part, or a slice. Its shape, the constant it folds to and the signals it
writes as the target of an assignment are read off its form.
-/

namespace RegisterTransfer

inductive Operator
  /-- One bit that is set if any bit of the operand is. -/
  | bool
  | not
  | and
  | or
  | xor
  | eq
  | ne
  deriving DecidableEq

def Operator.symbol : Operator → String
  | .bool => "b"
  | .not => "~"
  | .and => "&"
  | .or => "|"
  | .xor => "^"
  | .eq => "=="
  | .ne => "!="

inductive Value
  | const (constant : Constant)
  | signal (source : Signal)
  | operator (op : Operator) (operands : List Value)
  /-- Side by side, the first part in the least significant bits. -/
  | cat (parts : List Value)
  /-- The bits from `start` up to and without `stop`. -/
  | slice (value : Value) (start stop : Nat)

namespace Value

mutual

def decEq : (a b : Value) → Decidable (a = b)
  | .const x, .const y =>
    if h : x = y then isTrue (by rw [h]) else isFalse (by simpa using h)
  | .signal x, .signal y =>
    if h : x = y then isTrue (by rw [h]) else isFalse (by simpa using h)
  | .operator x xs, .operator y ys =>
    if h : x = y then
      match decEqList xs ys with
      | isTrue hs => isTrue (by rw [h, hs])
      | isFalse hs => isFalse (by simpa [h] using hs)
    else isFalse (by simp [h])
  | .cat xs, .cat ys =>
    match decEqList xs ys with
    | isTrue hs => isTrue (by rw [hs])
    | isFalse hs => isFalse (by simpa using hs)
  | .slice x i j, .slice y k l =>
    if h : i = k ∧ j = l then
      match decEq x y with
      | isTrue hv => isTrue (by rw [h.1, h.2, hv])
      | isFalse hv => isFalse (by simpa [h] using hv)
    else isFalse (by simpa using fun _ ↦ by simpa using h)
  | .const _, .signal _ => isFalse nofun
  | .const _, .operator _ _ => isFalse nofun
  | .const _, .cat _ => isFalse nofun
  | .const _, .slice _ _ _ => isFalse nofun
  | .signal _, .const _ => isFalse nofun
  | .signal _, .operator _ _ => isFalse nofun
  | .signal _, .cat _ => isFalse nofun
  | .signal _, .slice _ _ _ => isFalse nofun
  | .operator _ _, .const _ => isFalse nofun
  | .operator _ _, .signal _ => isFalse nofun
  | .operator _ _, .cat _ => isFalse nofun
  | .operator _ _, .slice _ _ _ => isFalse nofun
  | .cat _, .const _ => isFalse nofun
  | .cat _, .signal _ => isFalse nofun
  | .cat _, .operator _ _ => isFalse nofun
  | .cat _, .slice _ _ _ => isFalse nofun
  | .slice _ _ _, .const _ => isFalse nofun
  | .slice _ _ _, .signal _ => isFalse nofun
  | .slice _ _ _, .operator _ _ => isFalse nofun
  | .slice _ _ _, .cat _ => isFalse nofun

def decEqList : (as bs : List Value) → Decidable (as = bs)
  | [], [] => isTrue rfl
  | [], _ :: _ => isFalse nofun
  | _ :: _, [] => isFalse nofun
  | a :: as, b :: bs =>
    match decEq a b with
    | isTrue h =>
      match decEqList as bs with
      | isTrue hs => isTrue (by rw [h, hs])
      | isFalse hs => isFalse (by simpa [h] using hs)
    | isFalse h => isFalse (by simp [h])

end

instance : DecidableEq Value := decEq

/-! ## Shape -/

mutual

def shape : Value → Shape
  | .const constant => constant.shape
  | .signal source => source.shape
  | .operator op operands =>
    match op with
    | .bool | .eq | .ne => Shape.unsigned 1
    | .not => (shapes operands).head?.getD (Shape.unsigned 0)
    | .and | .or | .xor => Shape.widest (shapes operands)
  | .cat parts => Shape.unsigned (Shape.totalWidth (shapes parts))
  | .slice _ start stop => Shape.unsigned (stop - start)

def shapes : List Value → List Shape
  | [] => []
  | value :: rest => value.shape :: shapes rest

end

theorem shapes_eq_map (values : List Value) : shapes values = values.map shape := by
  induction values with
  | nil => simp [shapes]
  | cons value rest ih => simp [shapes, ih]

def width (value : Value) : Nat := value.shape.width

/-- A single bit that is set if any bit of the value is; a value of one bit stays as it is. -/
def asBool (value : Value) : Value :=
  if value.width = 1 then value else .operator .bool [value]

def equals (left right : Value) : Value := .operator .eq [left, right]

/-- The slice of a value whose ends have to lie in order inside of it. -/
def checkedSlice (value : Value) (start stop : Nat) : Except Fault Value :=
  if start ≤ stop ∧ stop ≤ value.width then .ok (.slice value start stop)
  else .error (.sliceRange start stop value.width)

/-! ## Constant folding -/

mutual

/-- The constant a value stands for, if no signal and no operator occurs in it. -/
def asConst : Value → Option Constant
  | .const constant => some constant
  | .signal _ => none
  | .operator _ _ => none
  | .cat parts => (asConsts parts).map Constant.join
  | .slice value start stop => value.asConst.map fun constant ↦ constant.slice start stop

def asConsts : List Value → Option (List Constant)
  | [] => some []
  | value :: rest =>
    match value.asConst with
    | none => none
    | some constant => (asConsts rest).map (constant :: ·)

end

/-! ## Written signals -/

mutual

/-- The signals written by an assignment to this value, one for every mention. -/
def targets : Value → List Signal
  | .const _ => []
  | .signal source => [source]
  | .operator _ _ => []
  | .cat parts => targetsAll parts
  | .slice value _ _ => value.targets

def targetsAll : List Value → List Signal
  | [] => []
  | value :: rest => value.targets ++ targetsAll rest

end

/-- The signals written by an assignment to this value, in the order of first mention. -/
def written (value : Value) : List Signal := value.targets.eraseDups

/-! ## Text -/

mutual

def text : Value → String
  | .const constant => constant.text
  | .signal source => source.text
  | .operator op operands => s!"({op.symbol}{textAll operands})"
  | .cat parts => s!"(cat{textAll parts})"
  | .slice value start stop => s!"(slice {value.text} {start}:{stop})"

def textAll : List Value → String
  | [] => ""
  | value :: rest => s!" {value.text}{textAll rest}"

end

end Value

end RegisterTransfer
