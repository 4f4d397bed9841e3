import RegisterTransfer.Proofs.Machines
import Mathlib.Data.Int.ModEq
import Mathlib.Order.Bounds.Basic
import Mathlib.Tactic.Positivity

/-!
# Integers in shapes

A shape takes an integer modulo two to its width into its range, where a sign makes the upper half of the range
negative. The bits that are counted for an integer are the fewest that hold it, as long as 32 bits are enough to
count them. The shape that goes with them keeps the integer as it is, and the shape that is made for a count is the
narrowest one with as many words.
-/

namespace RegisterTransfer

theorem intCast_wordCount (width : Nat) : (wordCount width : Int) = 2 ^ width := Nat.cast_pow 2 width

/-- A number that lies below just those with a property is the least of them. -/
theorem isLeast_of_le_iff {holds : ℕ → Prop} {least : ℕ} (iff : ∀ width, least ≤ width ↔ holds width) :
    IsLeast {width : ℕ | holds width} least :=
  ⟨(iff least).1 le_rfl, fun width ↦ (iff width).2⟩

/-! ## Wrapping -/

namespace Constant

/-- The constant that a shape makes of an integer: congruent to it, in the range of the shape, and the same again when
it is put into the shape once more. -/
structure Wrapped (value : Int) (shape : Shape) : Prop where
  shape_eq : (ofShape value shape).shape = shape
  congruent : (ofShape value shape).value ≡ value [ZMOD 2 ^ shape.width]
  unsigned : shape.signed = false → 0 ≤ (ofShape value shape).value ∧ (ofShape value shape).value < 2 ^ shape.width
  signed : shape.signed = true → 0 < shape.width →
    -2 ^ (shape.width - 1) ≤ (ofShape value shape).value ∧ (ofShape value shape).value < 2 ^ (shape.width - 1)
  vanishes : shape.width = 0 → (ofShape value shape).value = 0
  settled : ofShape (ofShape value shape).value shape = ofShape value shape
  bits_eq : ((ofShape value shape).bits : Int) = value % 2 ^ shape.width

theorem wrap_emod (value : Int) (shape : Shape) :
    wrap value shape % wordCount shape.width = value % wordCount shape.width := by
  rw [wrap]
  split
  · exact Int.bmod_emod
  · exact Int.emod_emod_of_dvd _ dvd_rfl

theorem wrap_wrap (value : Int) (shape : Shape) : wrap (wrap value shape) shape = wrap value shape := by
  unfold wrap
  split
  · exact Int.bmod_bmod
  · exact Int.emod_emod_of_dvd _ dvd_rfl

/-- A shape does not tell an integer from its remainder by the number of words. -/
theorem wrap_emod_left (value : Int) (shape : Shape) :
    wrap (value % wordCount shape.width) shape = wrap value shape := by
  unfold wrap
  split
  · exact Int.emod_bmod value _
  · exact Int.emod_emod_of_dvd _ dvd_rfl

/-- Without a sign, a shape holds the numbers below the number of its words. -/
theorem wrap_unsigned_range {shape : Shape} (unsigned : shape.signed = false) (value : Int) :
    0 ≤ wrap value shape ∧ wrap value shape < 2 ^ shape.width := by
  have positive : (0 : Int) < 2 ^ shape.width := by positivity
  simp only [wrap, unsigned, Bool.false_eq_true, ↓reduceIte, intCast_wordCount]
  exact ⟨Int.emod_nonneg _ positive.ne', Int.emod_lt_of_pos _ positive⟩

/-- With a sign, the numbers of a shape reach as far down as up. -/
theorem wrap_signed_range {shape : Shape} (signed : shape.signed = true) (wide : 0 < shape.width) (value : Int) :
    -2 ^ (shape.width - 1) ≤ wrap value shape ∧ wrap value shape < 2 ^ (shape.width - 1) := by
  have double : (wordCount shape.width : Int) = 2 * 2 ^ (shape.width - 1) := by
    rw [intCast_wordCount, ← pow_succ', Nat.sub_add_cancel wide]
  have low : -((wordCount shape.width : Int) / 2) ≤ value.bmod (wordCount shape.width) :=
    Int.le_bmod (Nat.two_pow_pos shape.width)
  have high : value.bmod (wordCount shape.width) < ((wordCount shape.width : Int) + 1) / 2 :=
    Int.bmod_lt (Nat.two_pow_pos shape.width)
  simp only [wrap, signed, ↓reduceIte]
  constructor <;> omega

/-- A shape of no width holds nothing but zero. -/
theorem wrap_of_width_zero {shape : Shape} (empty : shape.width = 0) (value : Int) : wrap value shape = 0 := by
  have one : wordCount shape.width = 1 := by rw [empty]; rfl
  rw [wrap, one]
  split
  · exact Int.bmod_one value
  · exact Int.emod_one value

theorem bits_ofShape (value : Int) (shape : Shape) :
    (ofShape value shape).bits = (value % wordCount shape.width).toNat :=
  congrArg Int.toNat (wrap_emod value shape)

theorem wrapped (value : Int) (shape : Shape) : Wrapped value shape where
  shape_eq := rfl
  congruent := by
    rw [Int.ModEq, ← intCast_wordCount]
    exact wrap_emod value shape
  unsigned none := wrap_unsigned_range none value
  signed some wide := wrap_signed_range some wide value
  vanishes empty := wrap_of_width_zero empty value
  settled := congrArg (Constant.mk · shape) (wrap_wrap value shape)
  bits_eq := by
    have nonneg : 0 ≤ value % (2 : Int) ^ shape.width := Int.emod_nonneg _ (by positivity)
    rw [bits_ofShape, intCast_wordCount, Int.toNat_of_nonneg nonneg]

end Constant

/-! ## Bits that an integer needs -/

theorem bitsNeeded_le_iff_of_pos {value : Int} (positive : 0 < value) (width : Nat) :
    bitsNeeded value ≤ width ↔ value < 2 ^ width := by
  have small : value.toNat < wordCount width ↔ value < 2 ^ width := by
    rw [Int.toNat_lt positive.le, intCast_wordCount]
  rw [bitsNeeded, if_pos positive, bitLength_le_iff, small]

theorem bitsNeeded_le_iff_of_nonpos {value : Int} (nonpos : value ≤ 0) (width : Nat) :
    bitsNeeded value ≤ width ↔ 1 ≤ width ∧ -2 ^ (width - 1) ≤ value := by
  rw [bitsNeeded, if_neg (by omega)]
  cases width with
  | zero => omega
  | succ width =>
    have positive : (0 : Int) < 2 ^ width := by positivity
    have small : (-value).toNat - 1 < wordCount width ↔ -2 ^ width ≤ value := by
      have power := intCast_wordCount width
      omega
    rw [Nat.add_le_add_iff_right, bitLength_le_iff, small, Nat.add_sub_cancel]
    omega

/-- A sign takes one bit more than the digits. -/
theorem bitsNeeded_le (value : Int) : bitsNeeded value ≤ bitLength value.natAbs + 1 := by
  have digits : value.natAbs < wordCount (bitLength value.natAbs) := (bitLength_le_iff _ _).1 le_rfl
  rw [bitsNeeded]
  split
  · exact Nat.le_succ_of_le ((bitLength_le_iff _ _).2 (by omega))
  · exact Nat.succ_le_succ ((bitLength_le_iff _ _).2 (by omega))

/-- The counter shows the bits of an integer as long as it need not start over. -/
theorem bitsFor_eq {value : Int} (countable : bitsNeeded value < 2 ^ 32) : bitsFor value = bitsNeeded value :=
  Nat.mod_eq_of_lt countable

namespace Constant

/-- The bits that are counted for an integer are the fewest that hold it, and the constant of that width holds it in the
narrowest shape there is for it. -/
structure Sized (value : Int) : Prop where
  positive : 0 < value → IsLeast {width : ℕ | value < 2 ^ width} (bitsFor value)
  nonpos : value ≤ 0 → IsLeast {width : ℕ | 1 ≤ width ∧ -2 ^ (width - 1) ≤ value} (bitsFor value)
  width_cast : (cast value).shape.width = bitsFor value
  kept : ofShape value (cast value).shape = cast value
  narrowest : value ≠ 0 → ∀ shape, (ofShape value shape).value = value → (cast value).shape.width ≤ shape.width

theorem wrap_eq_self_of_unsigned {value : Int} {shape : Shape} (unsigned : shape.signed = false) (nonneg : 0 ≤ value)
    (small : value < 2 ^ shape.width) : wrap value shape = value := by
  simp only [wrap, unsigned, Bool.false_eq_true, ↓reduceIte]
  exact Int.emod_eq_of_lt nonneg (by rwa [intCast_wordCount])

theorem wrap_eq_self_of_signed {value : Int} {shape : Shape} (signed : shape.signed = true) (wide : 0 < shape.width)
    (low : -2 ^ (shape.width - 1) ≤ value) (high : value < 2 ^ (shape.width - 1)) : wrap value shape = value := by
  have double : (wordCount shape.width : Int) = 2 * 2 ^ (shape.width - 1) := by
    rw [intCast_wordCount, ← pow_succ', Nat.sub_add_cancel wide]
  simp only [wrap, signed, ↓reduceIte]
  exact Int.bmod_eq_of_le_mul_two (by omega) (by omega)

/-- The shape of the fewest bits keeps an integer as it is. -/
theorem ofShape_cast {value : Int} (countable : bitsNeeded value < 2 ^ 32) :
    ofShape value (cast value).shape = cast value := by
  have width := bitsFor_eq countable
  have kept : wrap value (cast value).shape = value := by
    by_cases negative : value < 0
    · obtain ⟨wide, low⟩ := (bitsNeeded_le_iff_of_nonpos negative.le (bitsFor value)).1 width.ge
      have high : (0 : Int) < 2 ^ (bitsFor value - 1) := by positivity
      exact wrap_eq_self_of_signed (decide_eq_true negative) wide low (negative.trans high)
    · refine wrap_eq_self_of_unsigned (decide_eq_false negative) (not_lt.1 negative) ?_
      change value < 2 ^ bitsFor value
      by_cases positive : 0 < value
      · exact (bitsNeeded_le_iff_of_pos positive _).1 width.ge
      · calc value ≤ 0 := not_lt.1 positive
          _ < 2 ^ bitsFor value := by positivity
  exact congrArg (Constant.mk · (cast value).shape) kept

/-- An integer other than zero needs its bits in every shape. -/
theorem bitsNeeded_le_of_kept {value : Int} (nonzero : value ≠ 0) {shape : Shape} (kept : wrap value shape = value) :
    bitsNeeded value ≤ shape.width := by
  have wide : 0 < shape.width := by
    by_contra empty
    rw [wrap_of_width_zero (by omega)] at kept
    exact nonzero kept.symm
  have half : (2 : Int) ^ shape.width = 2 * 2 ^ (shape.width - 1) := by rw [← pow_succ', Nat.sub_add_cancel wide]
  have positive : (0 : Int) < 2 ^ (shape.width - 1) := by positivity
  have range : -2 ^ (shape.width - 1) ≤ value ∧ value < 2 ^ shape.width := by
    cases sign : shape.signed with
    | false =>
      obtain ⟨nonneg, small⟩ := wrap_unsigned_range sign value
      rw [kept] at nonneg small
      omega
    | true =>
      obtain ⟨low, high⟩ := wrap_signed_range sign wide value
      rw [kept] at low high
      omega
  rcases lt_or_gt_of_ne nonzero with negative | above
  · exact (bitsNeeded_le_iff_of_nonpos negative.le _).2 ⟨wide, range.1⟩
  · exact (bitsNeeded_le_iff_of_pos above _).2 range.2

theorem sized {value : Int} (countable : bitsNeeded value < 2 ^ 32) : Sized value where
  positive above := bitsFor_eq countable ▸ isLeast_of_le_iff (bitsNeeded_le_iff_of_pos above)
  nonpos below := bitsFor_eq countable ▸ isLeast_of_le_iff (bitsNeeded_le_iff_of_nonpos below)
  width_cast := rfl
  kept := ofShape_cast countable
  narrowest nonzero _ kept := (bitsFor_eq countable).trans_le (bitsNeeded_le_of_kept nonzero kept)

end Constant

/-! ## Shapes for a count -/

theorem Shape.width_forRange_le_iff (count width : Nat) : (forRange count).width ≤ width ↔ count ≤ 2 ^ width := by
  have positive : 0 < wordCount width := Nat.two_pow_pos width
  have below : count - 1 < wordCount width ↔ count ≤ wordCount width := by omega
  exact (bitLength_le_iff _ _).trans below

/-- Every shape takes an integer into its range, the bits counted for an integer are the fewest that hold it unless they
are too many for the counter, and a shape for a count is the narrowest without a sign that has a word for each number
below the count. -/
theorem Constant.integers_in_shapes :
    (∀ value shape, Wrapped value shape) ∧ (∀ value, bitLength value.natAbs < 2 ^ 32 - 1 → Sized value) ∧
    ∀ count, (Shape.forRange count).signed = false ∧
      IsLeast {width : ℕ | count ≤ 2 ^ width} (Shape.forRange count).width := by
  refine ⟨wrapped, fun value short ↦ sized ?_, fun count ↦ ⟨rfl, isLeast_of_le_iff (Shape.width_forRange_le_iff count)⟩⟩
  calc bitsNeeded value ≤ bitLength value.natAbs + 1 := bitsNeeded_le value
    _ < 2 ^ 32 := Nat.add_lt_of_lt_sub short

/-- Minus five takes four bits, and three are not enough. -/
theorem Constant.minusFive_in_shapes : bitLength (-5 : Int).natAbs < 2 ^ 32 - 1 ∧
    IsLeast {width : ℕ | 1 ≤ width ∧ -2 ^ (width - 1) ≤ (-5 : Int)} 4 ∧ ofShape (-5) ⟨4, true⟩ = cast (-5) ∧
    ofShape (-5) ⟨3, true⟩ ≠ cast (-5) := by
  obtain ⟨-, counted, -⟩ := integers_in_shapes
  have short : bitLength (-5 : Int).natAbs < 2 ^ 32 - 1 := by decide
  have sized := counted (-5) short
  exact ⟨short, sized.nonpos (by decide), sized.kept, by decide⟩

end RegisterTransfer
