import RegisterTransfer.Proofs.Additions
import RegisterTransfer.Proofs.ShapeArithmetic

/-!
# Which patterns a switch takes

Bits are taken if they consist of digits and blanks and have one digit for every bit of the switch. A value is taken if
it folds to a constant, but a constant that no word of the width reads as, neither without nor with a sign, is left out
with advice, unless its bits are so many that the counter of 32 bits has started over and stands at the width or below.
A pattern that is not taken refuses the whole case before its body starts.
-/

namespace RegisterTransfer

/-! ## Words that read as an integer -/

/-- Some word of a width reads as an integer, without or with a sign. -/
def Constant.Readable (width : Nat) (value : Int) : Prop :=
  ∃ word : BitVec width, (word.toNat : Int) = value ∨ word.toInt = value

namespace Constant

/-- Words without a sign reach up to the number of words, and words with a sign down to its negative half. -/
theorem readable_iff (width : Nat) (value : Int) : Readable width value ↔
    value = 0 ∨ (0 < value ∧ value < 2 ^ width) ∨ (1 ≤ width ∧ -2 ^ (width - 1) ≤ value ∧ value < 0) := by
  constructor
  · intro ⟨word, reading⟩
    have below : (word.toNat : Int) < 2 ^ width := by exact_mod_cast word.isLt
    rcases reading with unsigned | signed
    · omega
    · have high := word.toInt_lt
      have low := word.le_toInt
      cases width with
      | zero =>
        have none : word.toInt = 0 := by rw [BitVec.eq_nil word]; rfl
        omega
      | succ width =>
        have half : (2 : Int) ^ (width + 1) = 2 * 2 ^ width := by rw [pow_succ, mul_comm]
        rw [Nat.add_sub_cancel] at low high ⊢
        omega
  · intro range
    rcases range with rfl | ⟨positive, below⟩ | ⟨wide, low, negative⟩
    · exact ⟨0, .inl (by simp)⟩
    · have small : value.toNat < 2 ^ width := by
        rw [Int.toNat_lt positive.le]
        exact_mod_cast below
      refine ⟨BitVec.ofNat width value.toNat, .inl ?_⟩
      rw [BitVec.toNat_ofNat, Nat.mod_eq_of_lt small]
      omega
    · refine ⟨BitVec.ofInt width value, .inr ?_⟩
      exact BitVec.toInt_ofInt_eq_self wide low (lt_trans negative (by positivity))

/-- An integer other than zero needs as many bits as the narrowest word has that reads as it. -/
theorem bitsNeeded_le_iff {value : Int} (nonzero : value ≠ 0) (width : Nat) :
    bitsNeeded value ≤ width ↔ Readable width value := by
  rw [readable_iff]
  rcases lt_or_gt_of_ne nonzero with negative | positive
  · rw [bitsNeeded_le_iff_of_nonpos negative.le]
    omega
  · rw [bitsNeeded_le_iff_of_pos positive]
    omega

/-- A constant that a switch of a given width keeps as a pattern. Some word reads as it, or the counter of its bits has
started over and stands at the width or below. -/
def Kept (width : Nat) (value : Int) : Prop :=
  Readable width value ∨ 2 ^ 32 ≤ bitsNeeded value ∧ bitsNeeded value % 2 ^ 32 ≤ width

end Constant

namespace WrittenPattern

/-- The bits that are counted for a constant are no more than the width just for the constants that are kept. -/
theorem constantLength_le_iff (value : Int) (width : Nat) :
    constantLength value ≤ width ↔ Constant.Kept width value := by
  rw [constantLength]
  split
  · rename_i zero
    exact iff_of_true (Nat.zero_le _) (.inl ((Constant.readable_iff ..).2 (.inl zero)))
  · rename_i nonzero
    rw [Constant.Kept, ← Constant.bitsNeeded_le_iff nonzero]
    change bitsNeeded value % 2 ^ 32 ≤ width ↔ _
    omega

/-! ## Single patterns -/

/-- The digits of a pattern without its blanks. -/
def digitsOf (digits : String) : List Char := digits.toList.filter fun c ↦ c ∉ [' ', '\t']

/-- A pattern that a switch of a given width takes. -/
def Taken (width : Nat) : WrittenPattern Value → Prop
  | .bits digits => (∀ c ∈ digits.toList, c ∈ ['0', '1', '-', ' ', '\t']) ∧ (digitsOf digits).length = width
  | .value source => ∃ constant, source.asConst = some constant

theorem all_isDigit_iff (digits : String) :
    digits.toList.all isDigit = true ↔ ∀ c ∈ digits.toList, c ∈ ['0', '1', '-', ' ', '\t'] := by
  rw [List.all_eq_true]
  apply forall₂_congr
  intro c _
  simp [isDigit, isBlank, or_assoc]

instance (width : Nat) : (written : WrittenPattern Value) → Decidable (written.Taken width)
  | .bits digits => decidable_of_iff (digits.toList.all isDigit = true ∧ (digitsOf digits).length = width)
      (and_congr_left' (all_isDigit_iff digits))
  | .value source => decidable_of_iff (source.asConst.isSome = true) Option.isSome_iff_exists

/-- A pattern is taken as it is written, left out with advice, or refused. -/
structure ReadExactly (width : Nat) (loc : Location) (written : WrittenPattern Value) : Prop where
  taken_iff : (∃ reading, written.read width loc = .ok reading) ↔ written.Taken width
  refused : ¬written.Taken width → ∃ error, written.read width loc = .error error ∧ error.kind = .pattern ∧ error.loc = loc
  bits : ∀ digits, written = .bits digits → written.Taken width →
    written.read width loc = .ok (.pattern (.bits (String.ofList (digitsOf digits))))
  int : ∀ source constant, written = .value source → source.asConst = some constant →
    Constant.Kept width constant.value → written.read width loc = .ok (.pattern (.int constant.value))
  dead : ∀ source constant, written = .value source → source.asConst = some constant →
    ¬Constant.Kept width constant.value →
      ∃ advice, written.read width loc = .ok (.dead advice) ∧ advice.kind = .deadCase ∧ advice.loc = loc

theorem filter_isBlank (digits : String) : (digits.toList.filter fun c ↦ !isBlank c) = digitsOf digits := by
  apply List.filter_congr
  intro c _
  rw [Bool.eq_iff_iff]
  simp [isBlank]

theorem read_bits_of_taken {width : Nat} {digits : String} (taken : (bits digits).Taken width) (loc : Location) :
    (bits digits).read width loc = .ok (.pattern (.bits (String.ofList (digitsOf digits)))) := by
  obtain ⟨kinds, fits⟩ := taken
  simp only [read, readBits, (all_isDigit_iff digits).2 kinds, filter_isBlank, fits, ↓reduceIte]

theorem read_bits_of_not_taken {width : Nat} {digits : String} (refused : ¬(bits digits).Taken width)
    (loc : Location) : ∃ cause, cause.kind = .pattern ∧ (bits digits).read width loc = .error ⟨cause, loc⟩ := by
  by_cases kinds : digits.toList.all isDigit = true
  · have other : (digitsOf digits).length ≠ width := fun fits ↦ refused ⟨(all_isDigit_iff digits).1 kinds, fits⟩
    refine ⟨.patternWidth digits width, rfl, ?_⟩
    simp only [read, readBits, kinds, filter_isBlank, other, ↓reduceIte]
  · exact ⟨.patternDigits digits, rfl, by simp only [read, readBits, kinds, Bool.false_eq_true, ↓reduceIte]⟩

section Values

variable {width : Nat} {source : Value} {constant : Constant} (folds : source.asConst = some constant) (loc : Location)

include folds

theorem read_value_of_kept (kept : Constant.Kept width constant.value) :
    (value source).read width loc = .ok (.pattern (.int constant.value)) := by
  have fits := Nat.not_lt.2 ((constantLength_le_iff constant.value width).2 kept)
  simp only [read, readValue, folds, fits, ↓reduceIte]

theorem read_value_of_not_kept (dead : ¬Constant.Kept width constant.value) :
    ∃ advice, advice.kind = .deadCase ∧ advice.loc = loc ∧ (value source).read width loc = .ok (.dead advice) := by
  have wide : width < constantLength constant.value := by
    rwa [← constantLength_le_iff, Nat.not_le] at dead
  refine ⟨.deadCase source.text (constantLength constant.value) (binaryText constant.value) width loc, rfl, rfl, ?_⟩
  simp only [read, readValue, folds, wide, ↓reduceIte]

end Values

theorem read_exactly (width : Nat) (loc : Location) (written : WrittenPattern Value) :
    ReadExactly width loc written := by
  have refused : ¬written.Taken width →
      ∃ cause, cause.kind = .pattern ∧ written.read width loc = .error ⟨cause, loc⟩ := by
    intro not_taken
    cases written with
    | bits digits => exact read_bits_of_not_taken not_taken loc
    | value source =>
      have unfolded : source.asConst = none := by
        rw [Option.eq_none_iff_forall_ne_some]
        exact fun constant folds ↦ not_taken ⟨constant, folds⟩
      exact ⟨.patternValue source, rfl, by simp only [read, readValue, unfolded]⟩
  refine ⟨⟨?_, fun taken ↦ ?_⟩, fun not_taken ↦ ?_, ?_, ?_, ?_⟩
  · rintro ⟨reading, returned⟩
    by_contra not_taken
    obtain ⟨cause, -, error⟩ := refused not_taken
    rw [returned] at error
    contradiction
  · cases written with
    | bits digits => exact ⟨_, read_bits_of_taken taken loc⟩
    | value source =>
      obtain ⟨constant, folds⟩ := taken
      by_cases kept : Constant.Kept width constant.value
      · exact ⟨_, read_value_of_kept folds loc kept⟩
      · obtain ⟨advice, -, -, dead⟩ := read_value_of_not_kept folds loc kept
        exact ⟨_, dead⟩
  · obtain ⟨cause, kind, error⟩ := refused not_taken
    exact ⟨_, error, kind, rfl⟩
  · rintro digits rfl taken
    exact read_bits_of_taken taken loc
  · rintro source constant rfl folds kept
    exact read_value_of_kept folds loc kept
  · rintro source constant rfl folds dead
    obtain ⟨advice, kind, place, read⟩ := read_value_of_not_kept folds loc dead
    exact ⟨advice, read, kind, place⟩

/-- The advice on a pattern, for one that is left out. -/
def advice? (width : Nat) (loc : Location) (written : WrittenPattern Value) : Option Diagnostic :=
  match written.read width loc with
  | .ok (.dead advice) => some advice
  | _ => none

end WrittenPattern

/-! ## All patterns of a case -/

namespace Build

open WrittenPattern

variable {builder : Builder} {width : Nat} {loc : Location}

theorem readPatterns_of_pattern {written : WrittenPattern Value} {pattern : Pattern}
    (read : written.read width loc = .ok (.pattern pattern)) (rest : List (WrittenPattern Value)) :
    readPatterns width loc (written :: rest) = (readPatterns width loc rest >>= fun others ↦ pure (pattern :: others)) := by
  simp only [readPatterns, read, accepted, pure_bind]

theorem readPatterns_of_dead {written : WrittenPattern Value} {advice : Diagnostic}
    (read : written.read width loc = .ok (.dead advice)) (rest : List (WrittenPattern Value)) :
    readPatterns width loc (written :: rest) = (report advice >>= fun _ ↦ readPatterns width loc rest) := by
  simp only [readPatterns, read, accepted, pure_bind]

theorem readPatterns_of_error {written : WrittenPattern Value} {error : BuildError}
    (read : written.read width loc = .error error) (rest : List (WrittenPattern Value)) (builder : Builder) :
    readPatterns width loc (written :: rest) builder = .error (.refused error) builder := by
  simp only [readPatterns, read, accepted, bind, EStateM.bind, throw_apply]

/-- Patterns that are all taken are read, with one advice for each that is left out. -/
theorem readPatterns_of_taken {patterns : List (WrittenPattern Value)}
    (taken : ∀ written ∈ patterns, written.Taken width) (loc : Location) (builder : Builder) :
    readPatterns width loc patterns builder =
      .ok (live width loc patterns) (builder.noted (patterns.filterMap (advice? width loc))) := by
  induction patterns generalizing builder with
  | nil =>
    rw [List.filterMap_nil, Builder.noted_nil]
    rfl
  | cons written rest ih =>
    have others := ih fun other mem ↦ taken other (List.mem_cons_of_mem _ mem)
    obtain ⟨reading, read⟩ := (read_exactly width loc written).taken_iff.2 (taken written (List.mem_cons_self ..))
    cases reading with
    | pattern pattern =>
      rw [readPatterns_of_pattern read]
      simp only [bind, EStateM.bind, others, pure, EStateM.pure, live, advice?, List.filterMap_cons, read]
    | dead advice =>
      have first : report advice builder = .ok () (builder.noted [advice]) := rfl
      rw [readPatterns_of_dead read]
      simp only [bind, EStateM.bind, first, others, Builder.noted_noted, live, advice?, List.filterMap_cons, read,
        List.singleton_append]

/-- One pattern that is not taken refuses all of them. -/
theorem readPatterns_of_not_taken {patterns : List (WrittenPattern Value)}
    (refused : ∃ written ∈ patterns, ¬written.Taken width) (loc : Location) (builder : Builder) : ∃ error advice,
      error.kind = .pattern ∧ error.loc = loc ∧
        readPatterns width loc patterns builder = .error (.refused error) (builder.noted advice) := by
  induction patterns generalizing builder with
  | nil => simp at refused
  | cons written rest ih =>
    by_cases taken : written.Taken width
    · have later : ∃ other ∈ rest, ¬other.Taken width := by
        obtain ⟨other, mem, not_taken⟩ := refused
        refine ⟨other, (List.mem_cons.1 mem).resolve_left ?_, not_taken⟩
        rintro rfl
        exact not_taken taken
      obtain ⟨reading, read⟩ := (read_exactly width loc written).taken_iff.2 taken
      cases reading with
      | pattern pattern =>
        obtain ⟨error, advice, kind, place, others⟩ := ih later builder
        refine ⟨error, advice, kind, place, ?_⟩
        rw [readPatterns_of_pattern read]
        simp only [bind, EStateM.bind, others]
      | dead first =>
        obtain ⟨error, advice, kind, place, others⟩ := ih later (builder.noted [first])
        refine ⟨error, [first] ++ advice, kind, place, ?_⟩
        rw [Builder.noted_noted] at others
        rw [readPatterns_of_dead read]
        exact others
    · obtain ⟨error, read, kind, place⟩ := (read_exactly width loc written).refused taken
      refine ⟨error, [], kind, place, ?_⟩
      rw [Builder.noted_nil]
      exact readPatterns_of_error read rest builder

end Build

/-! ## Cases of a switch -/

namespace Build

variable {builder : Builder} {switch : OpenSwitch} {base : List Frame}
  (place : builder.control.AtConstruct (.switch switch) base)

/-- The advice on a case behind the default case. -/
def defaultAdvice (switch : OpenSwitch) (loc : Location) : List Diagnostic :=
  if switch.cases.contains [] then [.caseAfterDefault loc] else []

include place

theorem topSwitch_of_atConstruct : topSwitch builder = .ok switch builder := by
  simp only [topSwitch, bind, EStateM.bind, get_apply, Control.top?, place.frames, List.head?_cons, pure, EStateM.pure]

theorem adviseAfterDefault_of_atConstruct (loc : Location) :
    adviseAfterDefault loc builder = .ok () (builder.noted (defaultAdvice switch loc)) := by
  simp only [adviseAfterDefault, bind, EStateM.bind, topSwitch_of_atConstruct place, defaultAdvice]
  split
  · rfl
  · rw [Builder.noted_nil]
    rfl

/-- Directly inside of a switch, a case only advises before its patterns are read. -/
theorem startCase_eq (patterns : List (WrittenPattern Value)) (loc : Location) : startCase patterns loc builder =
    readPatterns switch.test.width loc patterns (builder.noted (defaultAdvice switch loc)) := by
  have inside : checkPlace .case loc builder = .ok () builder := checkPlace_of_place place.context loc
  simp only [startCase, bind, EStateM.bind, inside, topSwitch_of_atConstruct place,
    adviseAfterDefault_of_atConstruct place loc]

/-- Directly inside of a switch, a default case only advises. -/
theorem startDefault_eq (loc : Location) :
    startDefault loc builder = .ok () (builder.noted (defaultAdvice switch loc)) := by
  have inside : checkPlace .default loc builder = .ok () builder := checkPlace_of_place place.context loc
  simp only [startDefault, bind, EStateM.bind, inside, adviseAfterDefault_of_atConstruct place loc]

end Build

namespace Run

variable {session : Session} {switch : OpenSwitch} {base : List Frame}
  (place : session.builder.control.AtConstruct (.switch switch) base)

include place

/-- A case whose patterns are all taken goes on with those that are kept. -/
theorem case_of_taken {patterns : List (WrittenPattern Value)}
    (taken : ∀ written ∈ patterns, written.Taken switch.test.width) (loc : Location) (body : Run Unit) :
    Run.case patterns loc body session =
      (do
        let recorded ← Run.capture 0 body
        unless (WrittenPattern.live switch.test.width loc patterns).isEmpty do
          Run.build (Build.addCase (WrittenPattern.live switch.test.width loc patterns) recorded loc))
      (session.withBuilder (session.builder.noted (Build.defaultAdvice switch loc ++
        patterns.filterMap (WrittenPattern.advice? switch.test.width loc)))) := by
  have read := Build.readPatterns_of_taken taken loc (session.builder.noted (Build.defaultAdvice switch loc))
  rw [Builder.noted_noted] at read
  simp only [Run.case, bind, EStateM.bind, Run.build, Build.startCase_eq place, read]
  rfl

/-- A constant that is kept is the only pattern of its case, and goes without advice. -/
theorem case_of_kept {value : Int} (kept : Constant.Kept switch.test.width value)
    (growing : switch.cases.contains [] = false) (loc : Location) (body : Run Unit) :
    Run.case [.value (.const (.cast value))] loc body session =
      (do Run.build (Build.addCase [.int value] (← Run.capture 0 body) loc)) session := by
  have folds : (Value.const (.cast value)).asConst = some (.cast value) := rfl
  have read := WrittenPattern.read_value_of_kept folds loc kept
  have taken : ∀ written ∈ [WrittenPattern.value (Value.const (.cast value))], written.Taken switch.test.width := by
    rw [List.forall_mem_singleton]
    exact ⟨_, folds⟩
  rw [case_of_taken place taken]
  simp only [WrittenPattern.live, WrittenPattern.advice?, List.filterMap_cons, List.filterMap_nil, read,
    Build.defaultAdvice, growing, Bool.false_eq_true, ↓reduceIte, List.append_nil, Builder.noted_nil]
  rfl

end Run

/-- Directly inside of a switch, a case whose patterns are all taken goes on with those that are kept, and each that is
left out has been advised against once. A constant is kept if some word of the width reads as it, and otherwise only if
it needs 2 ^ 32 bits or more and their number modulo 2 ^ 32 is no more than the width. A case with a pattern that is not
taken is refused whatever its body is, and nothing but advice is new. -/
theorem Reached.case_patterns {session : Session} (reached : Reached session)
    (within : session.builder.control.context = some .switch) :
    (∀ width loc written, WrittenPattern.ReadExactly width loc written) ∧
    (∀ width value, Constant.Readable width value ↔
      value = 0 ∨ (0 < value ∧ value < 2 ^ width) ∨ (1 ≤ width ∧ -2 ^ (width - 1) ≤ value ∧ value < 0)) ∧
    (∀ value, value ≠ 0 → IsLeast {width : ℕ | Constant.Readable width value} (bitsNeeded value)) ∧
    ∃ switch base, session.builder.control.frames = .switch switch :: base ∧ ∀ patterns loc,
      ((∀ written ∈ patterns, written.Taken switch.test.width) → ∀ body, Run.case patterns loc body session =
        (do
          let recorded ← Run.capture 0 body
          unless (WrittenPattern.live switch.test.width loc patterns).isEmpty do
            Run.build (Build.addCase (WrittenPattern.live switch.test.width loc patterns) recorded loc))
        (session.withBuilder (session.builder.noted (Build.defaultAdvice switch loc ++
          patterns.filterMap (WrittenPattern.advice? switch.test.width loc))))) ∧
      ((∃ written ∈ patterns, ¬written.Taken switch.test.width) → ∃ error advice,
        error.kind = .pattern ∧ error.loc = loc ∧ ∀ body, Run.case patterns loc body session =
          .error (.refused error) (session.withBuilder (session.builder.noted advice))) := by
  obtain ⟨sound, placed⟩ := reached.sound
  obtain ⟨switch, base, inside⟩ := placed.topSwitch
  have place := inside within
  refine ⟨WrittenPattern.read_exactly, Constant.readable_iff,
    fun value nonzero ↦ isLeast_of_le_iff (Constant.bitsNeeded_le_iff nonzero), switch, base, place.frames,
    fun patterns loc ↦ ⟨fun taken body ↦ Run.case_of_taken place taken loc body, fun refused ↦ ?_⟩⟩
  obtain ⟨error, advice, kind, location, read⟩ := Build.readPatterns_of_not_taken refused loc
    (session.builder.noted (Build.defaultAdvice switch loc))
  rw [Builder.noted_noted] at read
  refine ⟨error, Build.defaultAdvice switch loc ++ advice, kind, location, fun body ↦ ?_⟩
  simp only [Run.case, bind, EStateM.bind, Run.build, Build.startCase_eq place, read]
  rfl

/-- A module, into a switch of three bits. -/
def intoSelection : List (Location × Call (List Step)) := [
  (⟨"design", 1, 1⟩, .switch (.literal (.signal ⟨.declared "select", "select", .unsigned 3, 0, none⟩)) [])]

theorem intoSelection_entered : ∃ session, Reached session ∧ session.builder.control.context = some .switch ∧
    ∃ switch base, session.builder.control.frames = .switch switch :: base ∧ switch.test.width = 3 ∧
      switch.cases.contains [] = false := by
  have computed : (vacant.start.entered? intoSelection).any (fun session ↦
      decide (session.builder.control.context = some .switch) &&
        match session.builder.control.frames with
        | .switch switch :: _ => switch.test.width == 3 && !switch.cases.contains []
        | [] | .chain _ :: _ | .machine .. :: _ => false) = true := by decide +kernel
  obtain ⟨session, entered, holds⟩ := (Option.any_eq_true _ _).1 computed
  obtain ⟨within, top⟩ := Bool.and_eq_true_iff.1 holds
  refine ⟨session, .of_entered? (.start vacant) entered, of_decide_eq_true within, ?_⟩
  split at top
  case h_1 switch base frames =>
    obtain ⟨width, absent⟩ := Bool.and_eq_true_iff.1 top
    exact ⟨switch, base, frames, beq_iff_eq.1 width, by simpa using absent⟩
  all_goals contradiction

/-- Bits with blanks, the least and the greatest constant of three bits, and one that they cannot reach. -/
def selected : List (WrittenPattern Value) :=
  [.bits "1 -\t0", .value (.const (.cast (-4))), .value (.const (.cast 8)), .value (.const (.cast 7))]

/-- Bits of another width behind a constant. -/
def overlong : List (WrittenPattern Value) := [.value (.const (.cast 7)), .bits "1-01"]

theorem selected_taken : ∀ written ∈ selected, written.Taken 3 := by decide +kernel

theorem overlong_not_taken : ∃ written ∈ overlong, ¬written.Taken 3 := by decide +kernel

theorem intoSelection_case_patterns : ∃ session, Reached session ∧ session.builder.control.context = some .switch ∧
    (∃ advice, ∀ body, Run.case selected default body session =
      (do Run.build (Build.addCase [.bits "1-0", .int (-4), .int 7] (← Run.capture 0 body) default))
        (session.withBuilder (session.builder.noted [advice]))) ∧
    ∃ error advice, error.kind = .pattern ∧ ∀ body, Run.case overlong default body session =
      .error (.refused error) (session.withBuilder (session.builder.noted advice)) := by
  obtain ⟨session, reached, within, switch, base, frames, width, absent⟩ := intoSelection_entered
  obtain ⟨-, -, -, top, below, same, reads⟩ := reached.case_patterns within
  rw [frames, List.cons.injEq, Frame.switch.injEq] at same
  obtain ⟨rfl, rfl⟩ := same
  rw [width] at reads
  obtain ⟨goes_on, -⟩ := reads selected default
  obtain ⟨-, refused⟩ := reads overlong default
  have live : WrittenPattern.live 3 default selected = [.bits "1-0", .int (-4), .int 7] := by decide +kernel
  have once : (selected.filterMap (WrittenPattern.advice? 3 default)).length = 1 := by decide +kernel
  obtain ⟨advice, noted⟩ := List.length_eq_one_iff.1 once
  obtain ⟨error, first, kind, -, refused⟩ := refused overlong_not_taken
  refine ⟨session, reached, within, ⟨advice, fun body ↦ ?_⟩, error, first, kind, refused⟩
  rw [goes_on selected_taken body, live, noted, Build.defaultAdvice, absent]
  rfl

/-! ## Constants with more bits than can be counted -/

namespace Constant

theorem bitsNeeded_two_pow (exponent : Nat) : bitsNeeded (2 ^ exponent) = exponent + 1 := by
  have positive : (0 : Int) < 2 ^ exponent := by positivity
  apply le_antisymm
  · exact (bitsNeeded_le_iff_of_pos positive _).2 (pow_lt_pow_right₀ one_lt_two (Nat.lt_succ_self exponent))
  · rw [Nat.succ_le_iff, ← not_le, bitsNeeded_le_iff_of_pos positive]
    exact lt_irrefl _

theorem not_readable_two_pow {width exponent : Nat} (narrow : width ≤ exponent) : ¬Readable width (2 ^ exponent) := by
  rw [← bitsNeeded_le_iff (by positivity), bitsNeeded_two_pow, not_le]
  exact Nat.lt_succ_of_le narrow

theorem kept_two_pow {width exponent : Nat} (many : 2 ^ 32 ≤ exponent + 1) (shown : (exponent + 1) % 2 ^ 32 ≤ width) :
    Kept width (2 ^ exponent) := by
  rw [Kept, bitsNeeded_two_pow]
  exact .inr ⟨many, shown⟩

end Constant

/-- No word of three bits reads as a number of 2 ^ 32 + 1 bits. Its bits are counted as one, so that it is kept without
advice. -/
theorem intoSelection_keeps_vast : ∃ session switch base, Reached session ∧
    session.builder.control.frames = .switch switch :: base ∧ switch.test.width = 3 ∧
    ¬Constant.Readable 3 (2 ^ 2 ^ 32) ∧ ∀ body,
      Run.case [.value (.const (.cast (2 ^ 2 ^ 32)))] default body session =
        (do Run.build (Build.addCase [.int (2 ^ 2 ^ 32)] (← Run.capture 0 body) default)) session := by
  obtain ⟨session, reached, within, switch, base, frames, width, absent⟩ := intoSelection_entered
  obtain ⟨top, below, inside⟩ := reached.sound.2.topSwitch
  have place := inside within
  have same := frames.symm.trans place.frames
  rw [List.cons.injEq, Frame.switch.injEq] at same
  obtain ⟨rfl, rfl⟩ := same
  have kept : Constant.Kept switch.test.width (2 ^ 2 ^ 32) := by
    rw [width]
    exact Constant.kept_two_pow (by decide) (by decide)
  exact ⟨session, switch, base, reached, frames, width, Constant.not_readable_two_pow (by decide),
    fun body ↦ Run.case_of_kept place kept absent default body⟩

end RegisterTransfer
