import RegisterTransfer.Proofs.ShapeArithmetic
import RegisterTransfer.Proofs.Valuation
import RegisterTransfer.Statement.Lemmas
import Mathlib.Data.Int.Bitwise

/-!
# Values that fold to constants

A value folds if and only if no signal and no operator occurs in it. The constant that it folds to has the width of the
value and, bit for bit, what the value is made of: constants in two's complement, parts side by side from the least
significant one on, and slices cut out of the bits of what they are slices of.
-/

namespace RegisterTransfer

/-! ## Words as lists of bits -/

/-- The bits of a word, the least significant one first. -/
def bitsOf (width word : Nat) : List Bool := (List.range width).map word.testBit

@[simp] theorem length_bitsOf (width word : Nat) : (bitsOf width word).length = width := by simp [bitsOf]

theorem getElem?_bitsOf (width word index : Nat) :
    (bitsOf width word)[index]? = if index < width then some (word.testBit index) else none := by
  rw [bitsOf, List.getElem?_map]
  split
  · rename_i inside
    rw [List.getElem?_range inside, Option.map_some]
  · rename_i outside
    rw [List.getElem?_eq_none (by simpa using outside), Option.map_none]

/-- A word above another one of some width is written behind it. -/
theorem bitsOf_append {width word : Nat} (small : word < wordCount width) (more high : Nat) :
    bitsOf (width + more) (word + wordCount width * high) = bitsOf width word ++ bitsOf more high := by
  have bit (index : Nat) : (word + wordCount width * high).testBit index =
      if index < width then word.testBit index else high.testBit (index - width) := by
    rw [Nat.add_comm]
    exact Nat.testBit_two_pow_mul_add high small index
  refine List.ext_getElem? fun index ↦ ?_
  rw [List.getElem?_append, length_bitsOf]
  simp only [getElem?_bitsOf, bit]
  by_cases low : index < width
  · have inside : index < width + more := by omega
    simp only [low, inside, ↓reduceIte]
  · have same : index < width + more ↔ index - width < more := by omega
    simp only [low, same, ↓reduceIte]

/-- The bits between two positions are those of the word shifted down to the first one. -/
theorem drop_take_bitsOf {start stop width : Nat} (inside : stop ≤ width) (word : Nat) :
    ((bitsOf width word).take stop).drop start =
      bitsOf (stop - start) ((word >>> start) % wordCount (stop - start)) := by
  refine List.ext_getElem? fun index ↦ ?_
  have bit : ((word >>> start) % wordCount (stop - start)).testBit index =
      (decide (index < stop - start) && word.testBit (start + index)) := by
    rw [wordCount, Nat.pow_eq, Nat.testBit_mod_two_pow, Nat.testBit_shiftRight]
  simp only [List.getElem?_drop, List.getElem?_take, getElem?_bitsOf, bit]
  grind

/-! ## Constants -/

namespace Constant

theorem bits_lt (constant : Constant) : constant.bits < wordCount constant.width := by
  have positive : (0 : Int) < wordCount constant.width := by exact_mod_cast wordCount_pos constant.width
  have small := Int.emod_lt_of_pos constant.value positive
  rw [bits]
  omega

/-- The bits of a constant are those of its value in two's complement. -/
theorem testBit_bits (constant : Constant) (index : Nat) :
    constant.bits.testBit index = (decide (index < constant.width) && constant.value.testBit index) := by
  obtain ⟨value, width, signed⟩ := constant
  change (value % wordCount width).toNat.testBit index = (decide (index < width) && value.testBit index)
  cases value with
  | ofNat number =>
    rw [Int.ofNat_eq_natCast, ← Int.natCast_emod, Int.toNat_natCast]
    exact Nat.testBit_mod_two_pow number width index
  | negSucc number =>
    have positive : (0 : Int) < wordCount width := by exact_mod_cast wordCount_pos width
    have small : number % wordCount width < wordCount width := Nat.mod_lt _ (wordCount_pos width)
    have complement :
        (Int.negSucc number % wordCount width).toNat = wordCount width - (number % wordCount width + 1) := by
      rw [Int.negSucc_emod number positive, ← Int.natCast_emod]
      omega
    have flipped := Nat.testBit_two_pow_sub_succ small index
    have low : (number % wordCount width).testBit index = (decide (index < width) && number.testBit index) :=
      Nat.testBit_mod_two_pow number width index
    rw [complement]
    change (2 ^ width - (number % wordCount width + 1)).testBit index = _
    rw [flipped, low]
    change _ = (decide (index < width) && !number.testBit index)
    cases decide (index < width) <;> simp

theorem bits_ofShape_natCast (number : Nat) (shape : Shape) :
    (ofShape number shape).bits = number % wordCount shape.width := by
  rw [bits_ofShape, ← Int.natCast_emod, Int.toNat_natCast]

theorem joinedBits_lt (constants : List Constant) :
    joinedBits constants < wordCount (Shape.totalWidth (constants.map shape)) := by
  induction constants with
  | nil => exact Nat.one_pos
  | cons constant rest ih =>
    have first := constant.bits_lt
    rw [joinedBits, List.map_cons, Shape.totalWidth, wordCount_add]
    calc constant.bits + wordCount constant.width * joinedBits rest
        < wordCount constant.width * (joinedBits rest + 1) := by rw [Nat.mul_add_one]; omega
      _ ≤ wordCount constant.width * wordCount (Shape.totalWidth (rest.map shape)) := Nat.mul_le_mul_left _ ih

theorem bits_join (constants : List Constant) : (join constants).bits = joinedBits constants := by
  rw [join, bits_ofShape_natCast]
  exact Nat.mod_eq_of_lt (joinedBits_lt constants)

theorem bits_slice (constant : Constant) (start stop : Nat) :
    (constant.slice start stop).bits = (constant.bits >>> start) % wordCount (stop - start) :=
  bits_ofShape_natCast _ _

end Constant

/-! ## What a value is made of -/

namespace Value

mutual

/-- A value and all that occurs in it. -/
def nodes : Value → List Value
  | .const constant => [.const constant]
  | .signal source => [.signal source]
  | .operator op operands => .operator op operands :: nodesAll operands
  | .cat parts => .cat parts :: nodesAll parts
  | .slice value start stop => .slice value start stop :: value.nodes

def nodesAll : List Value → List Value
  | [] => []
  | value :: rest => value.nodes ++ nodesAll rest

end

/-- A node that is neither a signal nor an operator. -/
def isPlain : Value → Bool
  | .signal _ | .operator _ _ => false
  | _ => true

/-- A slice whose ends lie in order inside of what it is a slice of; other nodes always fit. -/
def Fits : Value → Prop
  | .slice value start stop => start ≤ stop ∧ stop ≤ value.width
  | _ => True

instance : DecidablePred Fits
  | .slice value start stop => inferInstanceAs (Decidable (start ≤ stop ∧ stop ≤ value.width))
  | .const _ | .signal _ | .operator _ _ | .cat _ => .isTrue trivial

mutual

/-- The bits of a value, the least significant one first, where `free` gives those of signals and operators. -/
def bitList (free : Value → List Bool) : Value → List Bool
  | .const constant => (List.range constant.width).map constant.value.testBit
  | .signal source => free (.signal source)
  | .operator op operands => free (.operator op operands)
  | .cat parts => bitListAll free parts
  | .slice value start stop => ((bitList free value).take stop).drop start

def bitListAll (free : Value → List Bool) : List Value → List Bool
  | [] => []
  | value :: rest => bitList free value ++ bitListAll free rest

end

/-! ## Folding -/

mutual

theorem isSome_asConst : (value : Value) → value.asConst.isSome = value.nodes.all isPlain
  | .const _ | .signal _ | .operator _ _ => rfl
  | .cat parts => by
    rw [asConst, Option.isSome_map, isSome_asConsts parts]
    rfl
  | .slice value start stop => by
    rw [asConst, Option.isSome_map, isSome_asConst value]
    rfl

theorem isSome_asConsts : (values : List Value) → (asConsts values).isSome = (nodesAll values).all isPlain
  | [] => rfl
  | value :: rest => by
    rw [nodesAll, List.all_append, ← isSome_asConst value, ← isSome_asConsts rest, asConsts]
    cases value.asConst with
    | none => rfl
    | some constant => simp

end

/-- A constant spells a value if it has the width and, whatever signals and operators stand for, the bits of it. -/
def SpelledBy (value : Value) (constant : Constant) : Prop :=
  constant.width = value.width ∧ ∀ free, value.bitList free = bitsOf constant.width constant.bits

mutual

theorem spelledBy_of_asConst : (value : Value) → (∀ node ∈ value.nodes, node.Fits) → ∀ {constant},
    value.asConst = some constant → value.SpelledBy constant
  | .const constant, _, found, folds => by
    rw [asConst, Option.some.injEq] at folds
    subst folds
    refine ⟨rfl, fun free ↦ List.map_congr_left fun index inside ↦ ?_⟩
    rw [constant.testBit_bits, decide_eq_true (List.mem_range.1 inside), Bool.true_and]
  | .signal _, _, _, folds => nomatch folds
  | .operator _ _, _, _, folds => nomatch folds
  | .cat parts, fits, _, folds => by
    rw [asConst, Option.map_eq_some_iff] at folds
    obtain ⟨constants, folded, rfl⟩ := folds
    have inner : ∀ node ∈ nodesAll parts, node.Fits := fun node mem ↦ fits node (List.mem_cons_of_mem _ mem)
    obtain ⟨widths, bits⟩ := spelledBy_of_asConsts parts inner folded
    refine ⟨widths, fun free ↦ ?_⟩
    rw [bitList, bits free, Constant.bits_join]
    rfl
  | .slice value start stop, fits, _, folds => by
    rw [asConst, Option.map_eq_some_iff] at folds
    obtain ⟨constant, folded, rfl⟩ := folds
    have inner : ∀ node ∈ value.nodes, node.Fits := fun node mem ↦ fits node (List.mem_cons_of_mem _ mem)
    obtain ⟨width, bits⟩ := spelledBy_of_asConst value inner folded
    have inside : stop ≤ constant.width := width ▸ (fits _ (List.mem_cons_self ..)).2
    refine ⟨rfl, fun free ↦ ?_⟩
    rw [bitList, bits free, drop_take_bitsOf inside, Constant.bits_slice]
    rfl

theorem spelledBy_of_asConsts : (values : List Value) → (∀ node ∈ nodesAll values, node.Fits) → ∀ {constants},
    asConsts values = some constants →
      Shape.totalWidth (constants.map Constant.shape) = Shape.totalWidth (shapes values) ∧
      ∀ free, bitListAll free values =
        bitsOf (Shape.totalWidth (constants.map Constant.shape)) (Constant.joinedBits constants)
  | [], _, _, folds => by
    rw [asConsts, Option.some.injEq] at folds
    subst folds
    exact ⟨rfl, fun free ↦ rfl⟩
  | value :: rest, fits, constants, folds => by
    rw [asConsts_eq_some_iff] at folds
    cases constants with
    | nil => simp at folds
    | cons constant others =>
      rw [List.map_cons, List.map_cons, List.cons.injEq, ← asConsts_eq_some_iff] at folds
      obtain ⟨width, bits⟩ := spelledBy_of_asConst value (fun node mem ↦ fits node (List.mem_append_left _ mem)) folds.1
      obtain ⟨widths, others_bits⟩ :=
        spelledBy_of_asConsts rest (fun node mem ↦ fits node (List.mem_append_right _ mem)) folds.2
      refine ⟨?_, fun free ↦ ?_⟩
      · exact congrArg₂ (· + ·) width widths
      · rw [bitListAll, bits free, others_bits free, ← bitsOf_append constant.bits_lt]
        rfl

end

theorem isPlain_iff (node : Value) :
    node.isPlain = true ↔ (∀ source, node ≠ .signal source) ∧ ∀ op operands, node ≠ .operator op operands := by
  cases node <;> simp [isPlain]

/-- Beyond its width, a word has no bits that are set. -/
theorem testBit_eq_getD_bitsOf {width word : Nat} (small : word < wordCount width) (index : Nat) :
    word.testBit index = (bitsOf width word).getD index false := by
  rw [List.getD_eq_getElem?_getD, getElem?_bitsOf]
  split
  · rfl
  · rename_i beyond
    exact Nat.testBit_lt_two_pow (small.trans_le (Nat.pow_le_pow_right two_pos (not_lt.1 beyond)))

/-- What a concatenation or a slice folds to has no sign. -/
theorem unsigned_of_asConst {value : Value} {constant : Constant} (folds : value.asConst = some constant)
    (made : (∃ parts, value = .cat parts) ∨ ∃ operand start stop, value = .slice operand start stop) :
    constant.shape.signed = false ∧ 0 ≤ constant.value ∧ constant.value < 2 ^ constant.width := by
  obtain ⟨number, width, rfl⟩ : ∃ (number width : Nat), constant = .ofShape number (.unsigned width) := by
    rcases made with ⟨parts, rfl⟩ | ⟨operand, start, stop, rfl⟩
    · rw [asConst, Option.map_eq_some_iff] at folds
      obtain ⟨constants, -, rfl⟩ := folds
      exact ⟨_, _, rfl⟩
    · rw [asConst, Option.map_eq_some_iff] at folds
      obtain ⟨inner, -, rfl⟩ := folds
      exact ⟨_, _, rfl⟩
  have unsigned : (Shape.unsigned width).signed = false := rfl
  exact ⟨unsigned, Constant.wrap_unsigned_range unsigned number⟩

/-- A value folds if and only if neither a signal nor an operator occurs in it; the constant has the width of the value
and its bits, and no sign if the value is a concatenation or a slice. -/
theorem asConst_exact (value : Value) :
    (value.asConst.isSome = true ↔
      ∀ node ∈ value.nodes, (∀ source, node ≠ .signal source) ∧ ∀ op operands, node ≠ .operator op operands) ∧
    ((∀ node ∈ value.nodes, node.Fits) → ∀ constant, value.asConst = some constant →
      constant.width = value.width ∧
      (∀ free, (value.bitList free).length = value.width ∧
        ∀ index, constant.bits.testBit index = (value.bitList free).getD index false) ∧
      ((∃ parts, value = .cat parts) ∨ (∃ operand start stop, value = .slice operand start stop) →
        constant.shape.signed = false ∧ 0 ≤ constant.value ∧ constant.value < 2 ^ value.width)) := by
  refine ⟨?_, fun fits constant folds ↦ ?_⟩
  · rw [isSome_asConst, List.all_eq_true]
    exact forall₂_congr fun node _ ↦ isPlain_iff node
  · obtain ⟨width, bits⟩ := spelledBy_of_asConst value fits folds
    refine ⟨width, fun free ↦ ⟨?_, fun index ↦ ?_⟩, fun made ↦ ?_⟩
    · rw [bits free, length_bitsOf, width]
    · rw [bits free]
      exact testBit_eq_getD_bitsOf constant.bits_lt index
    · rw [← width]
      exact unsigned_of_asConst folds made

/-- Signed constants, a part of no width and a slice of a negative number side by side, without the outermost bits. -/
def spliced : Value :=
  .slice (.cat [.const (.ofShape (-3) ⟨4, true⟩), .const (.ofShape 1 ⟨0, false⟩), .slice (.const (.cast (-6))) 1 4,
    .const (.cast 5)]) 2 9

theorem spliced_asConst : (∀ node ∈ spliced.nodes, node.Fits) ∧ spliced.asConst = some ⟨55, .unsigned 7⟩ ∧
    ∀ free index, (55 : Nat).testBit index = (spliced.bitList free).getD index false := by
  have fits : ∀ node ∈ spliced.nodes, node.Fits := by decide +kernel
  have folds : spliced.asConst = some ⟨55, .unsigned 7⟩ := by decide +kernel
  obtain ⟨-, spelled, -⟩ := spliced.asConst_exact.2 fits _ folds
  exact ⟨fits, folds, fun free ↦ (spelled free).2⟩

end Value

end RegisterTransfer
