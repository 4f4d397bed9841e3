import RegisterTransfer.Proofs.PatternChecks
import RegisterTransfer.Proofs.ShapeArithmetic
import RegisterTransfer.Proofs.Valuation
import RegisterTransfer.Statement.Text
import Mathlib

/-!
# What the text of a pattern tells

The digits of a pattern are printed as they are and an integer in decimal, so both kinds use some of the same
characters. A decimal text is too short for the bits of most switches: for the patterns that a switch takes and that fit
its width, equal texts mean the same words, but for the switch of two bits, where `-1` is an open bit before a set one
and minus one as well.
-/

namespace RegisterTransfer

/-! ## Patterns that are kept -/

/-- Bits that are kept are the digits of the bits that were written. -/
theorem WrittenPattern.read_eq_bits {width : Nat} {loc : Location} {written : WrittenPattern Value} {kept : String}
    (read : written.read width loc = .ok (.pattern (.bits kept))) :
    ∃ digits, (bits digits).Taken width ∧ kept = String.ofList (digitsOf digits) := by
  have exactly := read_exactly width loc written
  have taken := exactly.taken_iff.1 ⟨_, read⟩
  cases written with
  | bits digits =>
    have same := exactly.bits digits rfl taken
    rw [read, Except.ok.injEq, Reading.pattern.injEq, Pattern.bits.injEq] at same
    exact ⟨digits, taken, same⟩
  | value source =>
    obtain ⟨constant, folds⟩ := taken
    by_cases counted : Constant.Kept width constant.value
    · have int := exactly.int source constant rfl folds counted
      rw [read] at int
      simp at int
    · obtain ⟨advice, dead, -⟩ := exactly.dead source constant rfl folds counted
      rw [read] at dead
      simp at dead

namespace Pattern

/-- A pattern that a switch of some width keeps when it reads a written one: bits, or an integer that some word of the
width reads as. -/
structure Stored (width : Nat) (pattern : Pattern) : Prop where
  read : ∃ written loc, WrittenPattern.read width loc written = .ok (.pattern pattern)
  fits : ∀ value, pattern = .int value → Constant.Readable width value

theorem stored_bits_iff (width : Nat) (digits : String) : Stored width (.bits digits) ↔
    (∀ c ∈ digits.toList, c ∈ ['0', '1', '-']) ∧ digits.toList.length = width := by
  constructor
  · rintro ⟨⟨written, loc, read⟩, -⟩
    obtain ⟨source, ⟨kinds, fits⟩, same⟩ := WrittenPattern.read_eq_bits read
    rw [same, String.toList_ofList]
    refine ⟨fun c mem ↦ ?_, fits⟩
    rw [WrittenPattern.digitsOf, List.mem_filter, decide_eq_true_iff] at mem
    have kind := kinds c mem.1
    simp only [List.mem_cons, List.not_mem_nil, or_false] at kind mem ⊢
    tauto
  · rintro ⟨kinds, fits⟩
    have whole : WrittenPattern.digitsOf digits = digits.toList := by
      refine List.filter_eq_self.2 fun c mem ↦ ?_
      have kind := kinds c mem
      simp only [List.mem_cons, List.not_mem_nil, or_false] at kind
      rcases kind with rfl | rfl | rfl <;> rfl
    have taken : (WrittenPattern.bits digits : WrittenPattern Value).Taken width :=
      ⟨fun c mem ↦ List.mem_append_left [' ', '\t'] (kinds c mem), by rw [whole, fits]⟩
    refine ⟨⟨.bits digits, default, ?_⟩, fun _ int ↦ by contradiction⟩
    rw [WrittenPattern.read_bits_of_taken taken, whole, String.ofList_toList]

theorem stored_int_iff (width : Nat) (value : Int) : Stored width (.int value) ↔ Constant.Readable width value := by
  refine ⟨fun stored ↦ stored.fits value rfl, fun readable ↦ ⟨?_, ?_⟩⟩
  · have folds : (Value.const (.cast value)).asConst = some (.cast value) := rfl
    exact ⟨.value (.const (.cast value)), default, WrittenPattern.read_value_of_kept folds default (.inl readable)⟩
  · rintro _ ⟨⟩
    exact readable

/-! ## The words of a pattern -/

/-- An integer that a switch keeps matches the one word that it comes to modulo the number of words. -/
theorem matchesWord_int {width : Nat} {value : Int} (readable : Constant.Readable width value) {word : Nat}
    (small : word < wordCount width) :
    matchesWord width word (.int value) = decide ((word : Int) = value % 2 ^ width) := by
  have below : (word : Int) % wordCount width = word := Int.emod_eq_of_lt (by omega) (by omega)
  rw [matchesWord, isReading, Bool.eq_iff_iff, Bool.or_eq_true, decide_eq_true_iff, decide_eq_true_iff,
    decide_eq_true_iff, ← intCast_wordCount]
  constructor
  · rintro (unsigned | signed)
    · rw [unsigned, Constant.wrap_emod, below]
    · rw [signed, Constant.wrap_emod, below]
  · intro same
    have wraps (signed : Bool) (kept : Constant.wrap value ⟨width, signed⟩ = value) :
        value = Constant.wrap word ⟨width, signed⟩ := by
      rw [same]
      exact (kept.symm.trans (Constant.wrap_emod_left value ⟨width, signed⟩).symm)
    rcases (Constant.readable_iff width value).1 readable with rfl | ⟨positive, high⟩ | ⟨wide, low, negative⟩
    · exact .inl (wraps false (Constant.wrap_eq_self_of_unsigned rfl le_rfl (by positivity)))
    · exact .inl (wraps false (Constant.wrap_eq_self_of_unsigned rfl positive.le high))
    · exact .inr (wraps true (Constant.wrap_eq_self_of_signed rfl wide low (negative.trans (by positivity))))

/-- Digits match a word from its most significant bit on. -/
theorem matchesWord_bits {width : Nat} {digits : String} (fits : digits.toList.length = width) (word : Nat) :
    matchesWord width word (.bits digits) = true ↔ ∀ place (inside : place < digits.toList.length),
      (digits.toList[place] = '0' → word.testBit (width - 1 - place) = false) ∧
      (digits.toList[place] = '1' → word.testBit (width - 1 - place) = true) := by
  rw [matchesWord, digitsMatch_iff]
  constructor
  · intro all place inside
    refine all (width - 1 - place) _ ?_
    rw [List.getElem?_reverse (by omega), List.getElem?_eq_getElem (by omega)]
    congr 2
    omega
  · intro all bit digit found
    have inside : bit < digits.toList.length := by
      rw [← List.length_reverse]
      exact (List.getElem?_eq_some_iff.1 found).1
    rw [List.getElem?_reverse inside, List.getElem?_eq_getElem (by omega), Option.some.injEq] at found
    have place : width - 1 - (digits.toList.length - 1 - bit) = bit := by omega
    have told := all (digits.toList.length - 1 - bit) (by omega)
    rwa [found, place] at told

/-! ## Texts of equal length -/

theorem length_repr_pos (number : Nat) : 0 < number.repr.toList.length := by
  rw [Nat.repr_eq_ofList_toDigits, String.toList_ofList]
  exact Nat.length_toDigits_pos

theorem length_repr_le_iff (number : Nat) {length : Nat} (positive : 0 < length) :
    number.repr.toList.length ≤ length ↔ number < 10 ^ length := by
  rw [Nat.repr_eq_ofList_toDigits, String.toList_ofList]
  exact Nat.length_toDigits_le_iff (by decide) positive

theorem two_pow_lt_ten_pow (number : Nat) : 2 ^ (number + 2) < 10 ^ (number + 1) :=
  calc 2 ^ (number + 2) ≤ 2 ^ (2 * (number + 1)) := Nat.pow_le_pow_right two_pos (by omega)
    _ = 4 ^ (number + 1) := Nat.pow_mul 2 2 (number + 1)
    _ < 10 ^ (number + 1) := Nat.pow_lt_pow_left (by decide) (Nat.succ_ne_zero number)

/-- A number has fewer decimal digits than the words that it is one of have bits, but for words of one bit. -/
theorem length_repr_of_lt {width number : Nat} (small : number < 2 ^ width) (fits : number.repr.toList.length = width) :
    width = 1 := by
  have some_digit := length_repr_pos number
  match width with
  | 0 => omega
  | 1 => rfl
  | more + 2 =>
    have long : ¬number.repr.toList.length ≤ more + 1 := by omega
    rw [length_repr_le_iff number (Nat.succ_pos more)] at long
    have short := two_pow_lt_ten_pow more
    omega

/-- A sign takes up one more character, which makes the difference for words of two bits and for no others. -/
theorem length_repr_of_le {width number : Nat} (small : number ≤ 2 ^ (width - 1))
    (fits : 1 + number.repr.toList.length = width) : width = 2 := by
  have some_digit := length_repr_pos number
  match width with
  | 0 | 1 => omega
  | 2 => rfl
  | more + 3 =>
    have long : ¬number.repr.toList.length ≤ more + 1 := by omega
    rw [length_repr_le_iff number (Nat.succ_pos more)] at long
    have short : 2 ^ (more + 2) < 10 ^ (more + 1) := two_pow_lt_ten_pow more
    have half : more + 3 - 1 = more + 2 := rfl
    rw [half] at small
    omega

/-- The decimal text of an integer that a switch keeps is one of its digit patterns only for one bit and for two. -/
theorem width_of_text {width : Nat} {value : Int} (readable : Constant.Readable width value)
    (kinds : ∀ c ∈ (toString value).toList, c ∈ ['0', '1', '-']) (fits : (toString value).toList.length = width) :
    (width = 1 ∧ (value = 0 ∨ value = 1)) ∨ width = 2 ∧ value = -1 := by
  rw [Constant.readable_iff] at readable
  by_cases nonneg : 0 ≤ value
  · obtain ⟨number, rfl⟩ := Int.eq_ofNat_of_zero_le nonneg
    have written : toString (number : Int) = number.repr := rfl
    rw [written] at fits
    have small : number < 2 ^ width := by
      have positive : 0 < 2 ^ width := Nat.two_pow_pos width
      rcases readable with zero | ⟨-, high⟩ | ⟨-, -, negative⟩
      · omega
      · exact_mod_cast high
      · omega
    have single := length_repr_of_lt small fits
    subst single
    exact .inl ⟨rfl, by omega⟩
  · obtain ⟨number, rfl⟩ : ∃ number : Nat, value = Int.negSucc number := Int.eq_negSucc_of_lt_zero (not_le.1 nonneg)
    have written : toString (Int.negSucc number) = "-" ++ (number + 1).repr := rfl
    have low : number + 1 ≤ 2 ^ (width - 1) := by
      rcases readable with zero | ⟨positive, -⟩ | ⟨-, low, -⟩
      · omega
      · omega
      · have reaches : ((number + 1 : Nat) : Int) ≤ 2 ^ (width - 1) := by omega
        exact_mod_cast reaches
    rw [written, String.toList_append] at kinds fits
    rw [List.length_append] at fits
    have double := length_repr_of_le low fits
    rw [double] at low
    have short : number = 0 ∨ number = 1 := by
      change number + 1 ≤ 2 at low
      omega
    rcases short with rfl | rfl
    · exact .inr ⟨double, rfl⟩
    · have other := kinds '2' (by decide)
      simp at other

/-! ## Patterns with the same text -/

/-- An open bit before a set one and minus one, for a switch of two bits. -/
def Clash (width : Nat) (first second : Pattern) : Prop :=
  width = 2 ∧ (first = .bits "-1" ∧ second = .int (-1) ∨ first = .int (-1) ∧ second = .bits "-1")

instance (width : Nat) (first second : Pattern) : Decidable (Clash width first second) :=
  inferInstanceAs (Decidable (_ ∧ _))

/-- Patterns that match the same words of a width. -/
def Agree (width : Nat) (first second : Pattern) : Prop :=
  ∀ word < wordCount width, first.matchesWord width word = second.matchesWord width word

instance (width : Nat) (first second : Pattern) : Decidable (Agree width first second) :=
  inferInstanceAs (Decidable (∀ word < wordCount width, _))

theorem Clash.symm {width : Nat} {first second : Pattern} (clash : Clash width first second) :
    Clash width second first :=
  ⟨clash.1, clash.2.symm.imp And.symm And.symm⟩

theorem Clash.not_agree {width : Nat} {first second : Pattern} (clash : Clash width first second) :
    ¬Agree width first second := by
  intro agree
  obtain ⟨rfl, ⟨rfl, rfl⟩ | ⟨rfl, rfl⟩⟩ := clash
  · exact absurd (agree 1 (by decide)) (by decide)
  · exact absurd (agree 1 (by decide)) (by decide)

/-- Digits and an integer with the same text mean the same words, or they are the one clash. -/
theorem agree_or_clash {width : Nat} {digits : String} {value : Int} (first : Stored width (.bits digits))
    (second : Stored width (.int value)) (same : digits = toString value) :
    Agree width (.bits digits) (.int value) ∨ Clash width (.bits digits) (.int value) := by
  obtain ⟨kinds, fits⟩ := (stored_bits_iff width digits).1 first
  subst same
  rcases width_of_text ((stored_int_iff width value).1 second) kinds fits with ⟨rfl, rfl | rfl⟩ | ⟨rfl, rfl⟩
  · exact .inl (by decide +kernel)
  · exact .inl (by decide +kernel)
  · exact .inr ⟨rfl, .inl ⟨rfl, rfl⟩⟩

theorem Stored.agree_iff {width : Nat} {first second : Pattern} (stored : Stored width first)
    (other : Stored width second) (same : first.text = second.text) :
    Agree width first second ↔ ¬Clash width first second := by
  refine ⟨fun agree clash ↦ clash.not_agree agree, fun clear ↦ ?_⟩
  cases first with
  | bits digits =>
    cases second with
    | bits others =>
      have equal : digits = others := same
      subst equal
      exact fun word _ ↦ rfl
    | int value => exact (agree_or_clash stored other same).resolve_right clear
  | int value =>
    cases second with
    | bits digits =>
      have agree := (agree_or_clash other stored same.symm).resolve_right fun clash ↦ clear clash.symm
      exact fun word small ↦ (agree word small).symm
    | int others =>
      have equal : value = others := Int.repr_inj.1 same
      subst equal
      exact fun word _ ↦ rfl

/-! ## Cases with the same head -/

/-- Whether a case is taken by a word: it has no patterns, or one that matches. -/
def takenBy (width word : Nat) (patterns : List Pattern) : Bool :=
  patterns.isEmpty || patterns.any (matchesWord width word)

theorem not_blank_of_mem_repr {number : Nat} {c : Char} (mem : c ∈ number.repr.toList) : c ≠ ' ' := by
  rw [Nat.repr_eq_ofList_toDigits, String.toList_ofList] at mem
  have digit := Nat.isDigit_of_mem_toDigits (by decide) (by decide) mem
  rintro rfl
  exact absurd digit (by decide)

/-- There are no blanks in the text of a pattern that is kept. -/
theorem Stored.no_blank {width : Nat} {pattern : Pattern} (stored : Stored width pattern) :
    ' ' ∉ pattern.text.toList := by
  intro mem
  cases pattern with
  | bits digits =>
    have kind := ((stored_bits_iff width digits).1 stored).1 ' ' mem
    exact absurd kind (by decide)
  | int value =>
    cases value with
    | ofNat number => exact not_blank_of_mem_repr mem rfl
    | negSucc number =>
      have written : (int (Int.negSucc number)).text = "-" ++ (number + 1).repr := rfl
      rw [written, String.toList_append, List.mem_append] at mem
      rcases mem with sign | digits
      · exact absurd sign (by decide)
      · exact not_blank_of_mem_repr digits rfl

/-- The texts of patterns that are kept can be told apart where they stand side by side. -/
theorem texts_eq_of_intercalate {width : Nat} {first second : List Pattern}
    (stored : ∀ pattern ∈ first, Stored width pattern) (others : ∀ pattern ∈ second, Stored width pattern)
    (some_first : first ≠ []) (some_second : second ≠ [])
    (same : " ".intercalate (first.map text) = " ".intercalate (second.map text)) :
    first.map text = second.map text := by
  have split {patterns : List Pattern} (kept : ∀ pattern ∈ patterns, Stored width pattern)
      (some_pattern : patterns ≠ []) :
      (" ".intercalate (patterns.map text)).toList.splitOn ' ' =
        (patterns.map text).map String.toList := by
    rw [String.toList_intercalate]
    refine List.splitOn_intercalate ' ' (fun word mem ↦ ?_) (by simpa using some_pattern)
    rw [List.map_map, List.mem_map] at mem
    obtain ⟨pattern, mem, rfl⟩ := mem
    exact (kept pattern mem).no_blank
  have lists := split stored some_first
  rw [same, split others some_second] at lists
  exact (List.map_injective_iff.2 (fun _ _ ↦ String.toList_inj.1) lists).symm

theorem texts_eq_of_headText {body : Type} {width : Nat} {first second : Case body}
    (stored : ∀ pattern ∈ first.patterns, Stored width pattern)
    (others : ∀ pattern ∈ second.patterns, Stored width pattern)
    (same : first.headText = second.headText) : first.patterns.map text = second.patterns.map text := by
  obtain ⟨patterns, _, _⟩ := first
  obtain ⟨further, _, _⟩ := second
  have apart (rest : String) : "default" ≠ "case " ++ rest := by
    intro equal
    have starts := congrArg (fun written ↦ written.toList.head?) equal
    simp at starts
  unfold Case.headText at same
  match patterns, further with
  | [], [] => rfl
  | [], _ :: _ => exact absurd same (apart _)
  | _ :: _, [] => exact absurd same.symm (apart _)
  | _ :: _, _ :: _ =>
    refine texts_eq_of_intercalate stored others (List.cons_ne_nil _ _) (List.cons_ne_nil _ _) ?_
    have lists := congrArg String.toList same
    simp only [List.isEmpty_cons, Bool.false_eq_true, ↓reduceIte, String.toList_append] at lists
    exact String.toList_inj.1 (List.append_cancel_left lists)

theorem any_eq_of_texts {width : Nat} {first second : List Pattern} (stored : ∀ pattern ∈ first, Stored width pattern)
    (others : ∀ pattern ∈ second, Stored width pattern) (same : first.map text = second.map text)
    (clear : ∀ pair ∈ first.zip second, ¬Clash width pair.1 pair.2) {word : Nat} (small : word < wordCount width) :
    first.any (matchesWord width word) = second.any (matchesWord width word) := by
  induction first generalizing second with
  | nil =>
    rw [List.map_nil, eq_comm, List.map_eq_nil_iff] at same
    rw [same]
  | cons pattern rest ih =>
    cases second with
    | nil => exact nomatch same
    | cons other further =>
      rw [List.map_cons, List.map_cons, List.cons.injEq] at same
      rw [List.forall_mem_cons] at stored others
      rw [List.zip_cons_cons, List.forall_mem_cons] at clear
      have agree := (stored.1.agree_iff others.1 same.1).2 clear.1
      rw [List.any_cons, List.any_cons, agree word small, ih stored.2 others.2 same.2 clear.2]

/-- Of patterns that a switch keeps and that fit it, those with the same text match the same words but for the one clash,
an integer matches its own word, digits match from the most significant bit on, and cases that are printed alike without
a clash are taken alike. -/
theorem text_tells_words (width : Nat) :
    (∀ first second, Stored width first → Stored width second → first.text = second.text →
      (Agree width first second ↔ ¬Clash width first second)) ∧
    (∀ value, Stored width (.int value) → ∀ word < wordCount width,
      matchesWord width word (.int value) = decide ((word : Int) = value % 2 ^ width)) ∧
    (∀ digits, Stored width (.bits digits) → ∀ word, matchesWord width word (.bits digits) = true ↔
      ∀ place (inside : place < digits.toList.length),
        (digits.toList[place] = '0' → word.testBit (width - 1 - place) = false) ∧
        (digits.toList[place] = '1' → word.testBit (width - 1 - place) = true)) ∧
    ∀ first second : Case (List Statement), (∀ pattern ∈ first.patterns, Stored width pattern) →
      (∀ pattern ∈ second.patterns, Stored width pattern) → first.headText = second.headText →
      (∀ pair ∈ first.patterns.zip second.patterns, ¬Clash width pair.1 pair.2) → ∀ word < wordCount width,
        takenBy width word first.patterns = takenBy width word second.patterns := by
  refine ⟨fun first second stored other same ↦ stored.agree_iff other same, fun value stored word small ↦ ?_,
    fun digits stored word ↦ ?_, fun first second stored others same clear word small ↦ ?_⟩
  · exact matchesWord_int ((stored_int_iff width value).1 stored) small
  · exact matchesWord_bits ((stored_bits_iff width digits).1 stored).2 word
  · have texts := texts_eq_of_headText stored others same
    have empty : first.patterns.isEmpty = second.patterns.isEmpty := by
      rw [← List.isEmpty_map (f := text), texts, List.isEmpty_map]
    rw [takenBy, takenBy, empty, any_eq_of_texts stored others texts clear small]

theorem stored_int_minusOne : Stored 2 (.int (-1)) := (stored_int_iff 2 (-1)).2 ⟨3, .inr (by decide)⟩

theorem stored_bits_minusOne : Stored 2 (.bits "-1") := (stored_bits_iff 2 "-1").2 (by simp)

theorem text_minusOne : text (.int (-1)) = text (.bits "-1") := by decide +kernel

/-- Minus one in decimal and an open bit before a set one are printed alike, and a switch of two bits keeps both, but of
its words the first one matches only the last and the second one every odd one. -/
theorem minusOne_ambiguous : Stored 2 (.int (-1)) ∧ Stored 2 (.bits "-1") ∧
    text (.int (-1)) = text (.bits "-1") ∧
    (∀ word < wordCount 2, matchesWord 2 word (.int (-1)) = decide (word = 3)) ∧
    (∀ word < wordCount 2, matchesWord 2 word (.bits "-1") = decide (word % 2 = 1)) ∧
    ¬∀ width first second, Stored width first → Stored width second → first.text = second.text →
      Agree width first second := by
  refine ⟨stored_int_minusOne, stored_bits_minusOne, text_minusOne, by decide +kernel, by decide +kernel,
    fun agree ↦ ?_⟩
  exact Clash.not_agree ⟨rfl, .inr ⟨rfl, rfl⟩⟩ (agree 2 _ _ stored_int_minusOne stored_bits_minusOne text_minusOne)

/-- For a switch of one bit, digits and integers may stand for each other. -/
theorem singleBits_tell_words : Stored 1 (.bits "1") ∧ Stored 1 (.int 1) ∧ Agree 1 (.bits "1") (.int 1) ∧
    ¬Agree 2 (.int (-1)) (.bits "-1") ∧
    ∀ word < wordCount 1, takenBy 1 word [.bits "1", .int 0] = takenBy 1 word [.int 1, .bits "0"] := by
  have ints (value : Int) (bit : BitVec 1) (reads : (bit.toNat : Int) = value) : Stored 1 (.int value) :=
    (stored_int_iff 1 value).2 ⟨bit, .inl reads⟩
  have one : Stored 1 (.bits "1") := (stored_bits_iff 1 "1").2 (by simp)
  have zero : Stored 1 (.bits "0") := (stored_bits_iff 1 "0").2 (by simp)
  have int_one := ints 1 1 rfl
  have int_zero := ints 0 0 rfl
  obtain ⟨alike, -, -, cases⟩ := text_tells_words 1
  have same : text (.bits "1") = text (.int 1) := by decide +kernel
  have clear : ¬Clash 1 (.bits "1") (.int 1) := fun clash ↦ absurd clash.1 (by decide)
  refine ⟨one, int_one, (alike _ _ one int_one same).2 clear, ?_, ?_⟩
  · obtain ⟨alike, -⟩ := text_tells_words 2
    exact fun agree ↦ (alike _ _ stored_int_minusOne stored_bits_minusOne text_minusOne).1 agree (by decide)
  · exact cases ⟨[.bits "1", .int 0], [], none⟩ ⟨[.int 1, .bits "0"], [], none⟩ (by simp [one, int_zero])
      (by simp [int_one, zero]) (by decide +kernel) (by decide)

end Pattern

end RegisterTransfer
