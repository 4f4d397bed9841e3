import RegisterTransfer.Proofs.Description
import Mathlib.Data.Nat.Bitwise

/-!
# What runs reach

Where every value stands for a word, a list of statements reaches some assignments and property checks in order: a
switch runs its first case that matches. A description is run as it is written: a chain runs the body of its first
condition that is not zero, a switch the first case of which a written pattern matches, and a machine the state whose
number its register holds.
-/

namespace RegisterTransfer

/-! ## Values -/

theorem wordCount_pos (width : Nat) : 0 < wordCount width := Nat.two_pow_pos width

theorem wordCount_add (first second : Nat) : wordCount (first + second) = wordCount first * wordCount second :=
  Nat.pow_add 2 first second

theorem Value.width_cat (parts : List Value) : (Value.cat parts).width = Shape.totalWidth (parts.map Value.shape) := by
  rw [width, shape, shapes_eq_map]
  rfl

theorem Value.width_asBool (value : Value) : value.asBool.width = 1 := by
  rw [asBool]
  split
  · assumption
  · rfl

/-- Words side by side, the first one in the least significant bits. -/
def joinedWords (word : Value → Nat) : List Value → Nat
  | [] => 0
  | value :: rest => word value + wordCount value.width * joinedWords word rest

/-- The word that every value stands for at some moment. What signals and operators stand for is free, but for
single bits that tell whether any bit is set, and for values side by side. -/
structure Valuation where
  word : Value → Nat
  word_lt : ∀ value, word value < wordCount value.width
  asBool : ∀ value, word value.asBool = if word value = 0 then 0 else 1
  cat : ∀ parts, word (.cat parts) = joinedWords word parts

namespace Valuation

mutual

/-- The words that values come to if `leaf` gives those of signals, constants, slices and other operators. -/
def wordOf (leaf : Value → Nat) : Value → Nat
  | .operator .bool [value] => if wordOf leaf value = 0 then 0 else 1
  | .cat parts => wordOfCat leaf parts
  | value => leaf value % wordCount value.width

def wordOfCat (leaf : Value → Nat) : List Value → Nat
  | [] => 0
  | value :: rest => wordOf leaf value + wordCount value.width * wordOfCat leaf rest

end

theorem wordOfCat_eq_joinedWords (leaf : Value → Nat) (parts : List Value) :
    wordOfCat leaf parts = joinedWords (wordOf leaf) parts := by
  induction parts with
  | nil => rfl
  | cons value rest ih => rw [wordOfCat, joinedWords, ih]

mutual

theorem wordOf_lt (leaf : Value → Nat) : ∀ value, wordOf leaf value < wordCount value.width
  | .const _ | .signal _ | .slice _ _ _ => by
    simp only [wordOf]
    exact Nat.mod_lt _ (wordCount_pos _)
  | .operator op operands => by
    unfold wordOf
    split
    · rename_i value same
      rw [Value.operator.injEq] at same
      rw [same.1]
      change _ < 2
      split <;> omega
    · contradiction
    · exact Nat.mod_lt _ (wordCount_pos _)
  | .cat parts => by
    rw [Value.width_cat, wordOf]
    exact wordOfCat_lt leaf parts

theorem wordOfCat_lt (leaf : Value → Nat) :
    ∀ parts, wordOfCat leaf parts < wordCount (Shape.totalWidth (parts.map Value.shape))
  | [] => Nat.one_pos
  | value :: rest => by
    have first := wordOf_lt leaf value
    have others := wordOfCat_lt leaf rest
    rw [wordOfCat, List.map_cons, Shape.totalWidth, wordCount_add]
    calc wordOf leaf value + wordCount value.width * wordOfCat leaf rest
        < wordCount value.width * (wordOfCat leaf rest + 1) := by rw [Nat.mul_add_one]; omega
      _ ≤ wordCount value.width * wordCount (Shape.totalWidth (rest.map Value.shape)) := Nat.mul_le_mul_left _ others

end

theorem wordOf_asBool (leaf : Value → Nat) (value : Value) :
    wordOf leaf value.asBool = if wordOf leaf value = 0 then 0 else 1 := by
  rw [Value.asBool]
  split
  · rename_i single
    have small := wordOf_lt leaf value
    rw [single] at small
    have bit : wordOf leaf value < 2 := small
    split <;> omega
  · rw [wordOf]

/-- Every choice for what is free gives a valuation. -/
def ofLeaves (leaf : Value → Nat) : Valuation where
  word := wordOf leaf
  word_lt := wordOf_lt leaf
  asBool := wordOf_asBool leaf
  cat parts := by rw [wordOf, wordOfCat_eq_joinedWords]

/-- The bits of conditions side by side tell which of them are not zero. -/
theorem testBit_word_cat (valuation : Valuation) (tests : List Value) (index : Nat) :
    (valuation.word (.cat (tests.map Value.asBool))).testBit index =
      (tests[index]?).any fun test ↦ valuation.word test ≠ 0 := by
  rw [valuation.cat]
  induction tests generalizing index with
  | nil => simp [joinedWords]
  | cons test rest ih =>
    rw [List.map_cons, joinedWords, Value.width_asBool, valuation.asBool]
    have two : wordCount 1 = 2 := rfl
    rw [two]
    cases index with
    | zero =>
      rw [List.getElem?_cons_zero, Option.any_some, Nat.testBit_zero]
      by_cases zero : valuation.word test = 0
      · simp [zero]
      · simp [zero]
    | succ index =>
      rw [List.getElem?_cons_succ, ← ih, Nat.testBit_succ]
      congr 1
      split <;> omega

end Valuation

/-! ## Patterns -/

/-- Whether the digits, from least to most significant, are those of a word; every digit but `0` and `1` leaves its
bit open. -/
def digitsMatch : List Char → Nat → Bool
  | [], _ => true
  | digit :: rest, word =>
    (if digit = '0' then !word.testBit 0 else if digit = '1' then word.testBit 0 else true) &&
      digitsMatch rest (word / 2)

theorem digitsMatch_iff (digits : List Char) (word : Nat) : digitsMatch digits word = true ↔
    ∀ bit digit, digits[bit]? = some digit →
      (digit = '0' → word.testBit bit = false) ∧ (digit = '1' → word.testBit bit = true) := by
  induction digits generalizing word with
  | nil => simp [digitsMatch]
  | cons first rest ih =>
    rw [digitsMatch, Bool.and_eq_true, ih]
    constructor
    · rintro ⟨here, others⟩ bit digit found
      cases bit with
      | zero =>
        rw [List.getElem?_cons_zero, Option.some.injEq] at found
        subst found
        refine ⟨fun zero ↦ ?_, fun one ↦ ?_⟩
        · simpa [zero] using here
        · simpa [one] using here
      | succ bit =>
        rw [List.getElem?_cons_succ] at found
        rw [Nat.testBit_succ]
        exact others bit digit found
    · intro all
      refine ⟨?_, fun bit digit found ↦ ?_⟩
      · obtain ⟨zero, one⟩ := all 0 first rfl
        split
        · rename_i same
          simp [zero same]
        · split
          · rename_i same
            exact one same
          · rfl
      · have next := all (bit + 1) digit (by rwa [List.getElem?_cons_succ])
        rwa [Nat.testBit_succ] at next

/-- Whether an integer is what a word stands for, read without or with a sign. -/
def isReading (width word : Nat) (value : Int) : Bool :=
  value = Constant.wrap word ⟨width, false⟩ || value = Constant.wrap word ⟨width, true⟩

def Pattern.matchesWord (width word : Nat) : Pattern → Bool
  | .bits digits => digitsMatch digits.toList.reverse word
  | .int value => isReading width word value

/-- A priority pattern asks for one bit. -/
theorem matchesWord_priorityDigits {index count : Nat} (inside : index < count) (width word : Nat) :
    (Pattern.bits (priorityDigits index count)).matchesWord width word = word.testBit index := by
  rw [Bool.eq_iff_iff, Pattern.matchesWord, priorityDigits, String.toList_ofList, ← List.map_reverse,
    List.reverse_reverse, digitsMatch_iff]
  constructor
  · intro all
    exact (all index '1' (by simp [inside])).2 rfl
  · intro set bit digit found
    rw [List.getElem?_map, Option.map_eq_some_iff] at found
    obtain ⟨place, listed, rfl⟩ := found
    have same : place = bit := by
      rw [List.getElem?_eq_some_iff] at listed
      obtain ⟨-, rfl⟩ := listed
      rw [List.getElem_range]
    subst same
    by_cases here : place = index
    · subst here
      simp [set]
    · simp [here]

/-- A number from zero up is what a word stands for only without a sign. -/
theorem isReading_natCast {width word : Nat} (small : word < wordCount width) (number : Nat) :
    isReading width word number = decide (number = word) := by
  have unsigned : ((word : Int) % wordCount width) = word := Int.emod_eq_of_lt (by omega) (by omega)
  rw [isReading, Bool.eq_iff_iff, Bool.or_eq_true, decide_eq_true_iff, decide_eq_true_iff, decide_eq_true_iff]
  simp only [Constant.wrap, Bool.false_eq_true, ↓reduceIte, unsigned, Int.bmod_def]
  constructor
  · rintro (same | same)
    · omega
    · split at same <;> omega
  · exact fun same ↦ .inl (by omega)

/-- A word stands for no constant that needs more bits than the word has. -/
theorem constantLength_le_of_isReading {width word : Nat} (small : word < wordCount width) {value : Int}
    (reading : isReading width word value = true) : WrittenPattern.constantLength value ≤ width := by
  rw [WrittenPattern.constantLength]
  split
  · exact Nat.zero_le _
  · refine (Nat.mod_le ..).trans ?_
    rw [bitsNeeded]
    split
    · rename_i positive
      obtain ⟨number, rfl⟩ := Int.eq_ofNat_of_zero_le (Int.le_of_lt positive)
      rw [isReading_natCast small, decide_eq_true_iff] at reading
      rw [Int.toNat_natCast, bitLength_le_iff, reading]
      exact small
    · rename_i nonzero negative
      have unsigned : ((word : Int) % wordCount width) = word := Int.emod_eq_of_lt (by omega) (by omega)
      rw [isReading, Bool.or_eq_true, decide_eq_true_iff, decide_eq_true_iff] at reading
      simp only [Constant.wrap, Bool.false_eq_true, ↓reduceIte, unsigned, Int.bmod_def] at reading
      cases width with
      | zero =>
        have none : wordCount 0 = 1 := rfl
        rw [none] at reading small
        split at reading <;> omega
      | succ width =>
        have double : wordCount (width + 1) = 2 * wordCount width := by rw [Nat.add_comm, wordCount_add]; rfl
        rw [double] at reading small
        have fits : (-value).toNat - 1 < wordCount width := by split at reading <;> omega
        exact Nat.succ_le_succ ((bitLength_le_iff _ _).2 fits)

namespace WrittenPattern

/-- Whether a pattern matches a word as it is written: as bits of the width of the word, or as a constant. -/
def matchesWord (width word : Nat) : WrittenPattern Value → Bool
  | .bits digits =>
    let kept := digits.toList.filter fun c ↦ !isBlank c
    digits.toList.all isDigit && kept.length = width && digitsMatch kept.reverse word
  | .value source => source.asConst.any fun constant ↦ isReading width word constant.value

/-- A pattern matches as it is written if and only if it is one that can match and is matched. -/
theorem matchesWord_eq {width word : Nat} (small : word < wordCount width) (loc : Location)
    (written : WrittenPattern Value) : written.matchesWord width word =
      match written.read width loc with
      | .ok (.pattern pattern) => pattern.matchesWord width word
      | _ => false := by
  cases written with
  | bits digits =>
    simp only [matchesWord, read, readBits]
    by_cases kinds : digits.toList.all isDigit = true
    · simp only [kinds, Bool.true_and, ↓reduceIte]
      by_cases fits : (digits.toList.filter fun c ↦ !isBlank c).length = width
      · simp [fits, Pattern.matchesWord]
      · simp [fits]
    · simp [kinds]
  | value source =>
    simp only [matchesWord, read, readValue]
    cases source.asConst with
    | none => rfl
    | some constant =>
      simp only [Option.any_some]
      by_cases wide : width < constantLength constant.value
      · simp only [wide, ↓reduceIte]
        by_contra reading
        rw [Bool.not_eq_false] at reading
        exact absurd (constantLength_le_of_isReading small reading) (Nat.not_le.2 wide)
      · simp only [wide, ↓reduceIte, Pattern.matchesWord]

theorem any_live {width word : Nat} (small : word < wordCount width) (loc : Location)
    (written : List (WrittenPattern Value)) :
    (live width loc written).any (Pattern.matchesWord width word) = written.any (matchesWord width word) := by
  rw [live, List.any_filterMap]
  congr 1
  funext pattern
  rw [matchesWord_eq small loc]
  rcases pattern.read width loc with _ | _ | _ <;> rfl

end WrittenPattern

/-! ## Statements -/

namespace Valuation

variable (valuation : Valuation)

/-- Whether a case is taken: it has no patterns, or one that matches. -/
def takes (test : Value) (patterns : List Pattern) : Bool :=
  patterns.isEmpty || patterns.any (Pattern.matchesWord test.width (valuation.word test))

mutual

/-- The assignments and property checks that a statement reaches. -/
def reach : Statement → List Statement
  | .switch test cases _ => reachCases test cases
  | .assign target source => [.assign target source]
  | .property kind test name => [.property kind test name]
  | .transition id state loc => [.transition id state loc]

def reachCases (test : Value) : List (Case (List Statement)) → List Statement
  | [] => []
  | ⟨patterns, body, _⟩ :: rest => if valuation.takes test patterns then reachAll body else reachCases test rest

def reachAll : List Statement → List Statement
  | [] => []
  | statement :: rest => reach statement ++ reachAll rest

end

end Valuation

/-! ## Descriptions -/

namespace Block

section Exec

variable (valuation : Valuation) (machines : Arena Machine) (domain : String)

mutual

/-- The assignments and property checks of a domain that a block reaches. -/
def exec : Block → List Statement
  | .file filed statements _ => if filed = domain then statements else []
  | .goto filed id state loc =>
    if filed = domain then [(Statement.transition id state loc).settled machines] else []
  | .chain arms otherwise _ => execArms (execLast otherwise) arms
  | .switch test arms _ => execCases test arms
  | .machine register encoding arms _ => execStates register encoding arms

def execAll : List Block → List Statement
  | [] => []
  | block :: rest => exec block ++ execAll rest

/-- The first condition that is not zero decides; `otherwise` is what is reached if there is none. -/
def execArms (otherwise : List Statement) : List (Arm Value (List Block)) → List Statement
  | [] => otherwise
  | ⟨test, blocks, _⟩ :: rest => if valuation.word test ≠ 0 then execAll blocks else execArms otherwise rest

def execLast : Option (Arm Unit (List Block)) → List Statement
  | none => []
  | some ⟨_, blocks, _⟩ => execAll blocks

/-- The first case decides that has a matching pattern, or that needs none. -/
def execCases (test : Value) : List (Arm (Option (List (WrittenPattern Value))) (List Block)) → List Statement
  | [] => []
  | ⟨none, blocks, _⟩ :: _ => execAll blocks
  | ⟨some written, blocks, _⟩ :: rest =>
    if written.any (WrittenPattern.matchesWord test.width (valuation.word test)) then execAll blocks
    else execCases test rest

/-- The state whose number is that of the register. -/
def execStates (register : Signal) (encoding : Table String Nat) : List (Arm String (List Block)) → List Statement
  | [] => []
  | ⟨name, blocks, _⟩ :: rest =>
    if encoding.get? name = some (valuation.word (.signal register)) then execAll blocks
    else execStates register encoding rest

end

end Exec

end Block

/-- What a module reaches in a domain: its blocks in order, and then the indicators of its machines. -/
def Description.exec (description : Description) (valuation : Valuation) (domain : String) : List Statement :=
  Block.execAll valuation description.machines domain description.blocks ++
    if domain = combinational then description.indicators else []

end RegisterTransfer
