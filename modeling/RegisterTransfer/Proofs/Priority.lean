import RegisterTransfer.Proofs.Meaning

/-!
# The priority of conditions

A chain of conditions runs the branch of its first test that is not zero. Its tests lie side by side with the first one
lowest, while digits are read from the top, and a pattern leaves the bits of all other tests open: only the order of
the cases puts earlier tests first. Every domain gets all branches, and so every domain takes the same one.
-/

namespace RegisterTransfer

/-- Running the cases of a switch runs the first one that is taken. -/
theorem Valuation.reachCases_eq_find? (valuation : Valuation) (test : Value) (cases : List (Case (List Statement))) :
    valuation.reachCases test cases =
      ((cases.find? fun branch ↦ valuation.takes test branch.patterns).map fun branch ↦
        valuation.reachAll branch.body).getD [] := by
  induction cases with
  | nil => rfl
  | cons branch rest ih =>
    obtain ⟨patterns, body, loc⟩ := branch
    rw [reachCases, List.find?_cons, ih]
    cases valuation.takes test patterns <;> rfl

theorem Value.width_cat_asBool (tests : List Value) : (Value.cat (tests.map asBool)).width = tests.length := by
  rw [width_cat]
  induction tests with
  | nil => rfl
  | cons test rest ih =>
    have single : test.asBool.shape.width = 1 := test.width_asBool
    rw [List.map_cons, List.map_cons, Shape.totalWidth, ih, single, List.length_cons, Nat.add_comm]

theorem length_priorityDigits (index count : Nat) : (priorityDigits index count).toList.length = count := by
  simp [priorityDigits]

namespace IfChain

/-- The position of the branch to run: that of the first test that is not zero, or else of the branch without one. -/
def chosen? (valuation : Valuation) (branches : List Branch) : Option Nat :=
  (branches.findIdx? fun branch ↦ branch.test.any fun test ↦ valuation.word test ≠ 0).or
    (branches.findIdx? fun branch ↦ branch.test.isNone)

section Chosen

variable (valuation : Valuation) (test : Value) (body : Body) (loc : Location) (rest : List Branch)

theorem chosen?_cons_of_ne_zero (set : valuation.word test ≠ 0) :
    chosen? valuation (⟨some test, body, loc⟩ :: rest) = some 0 := by
  simp [chosen?, List.findIdx?_cons, set]

theorem chosen?_cons_of_eq_zero (zero : valuation.word test = 0) :
    chosen? valuation (⟨some test, body, loc⟩ :: rest) = (chosen? valuation rest).map (· + 1) := by
  simp [chosen?, List.findIdx?_cons, zero, Option.map_or]

end Chosen

/-- Of the branches that follow the tests `before`, the first case to be taken is that of the branch to run. -/
theorem findIdx?_caseListFrom (valuation : Valuation) (before : List Value) {branches : List Branch}
    (ordered : Ordered branches) :
    ((caseListFrom (before ++ branches.filterMap Branch.test).length before.length branches).findIdx? fun branch ↦
        valuation.takes (.cat ((before ++ branches.filterMap Branch.test).map Value.asBool)) branch.patterns) =
      chosen? valuation branches := by
  induction branches generalizing before with
  | nil => rfl
  | cons branch rest ih =>
    obtain ⟨test, body, loc⟩ := branch
    cases test with
    | none =>
      rw [ordered.eq_nil rfl]
      rfl
    | some test =>
      have others := ih (before ++ [test]) ordered.tail
      have next : (before ++ [test]).length = before.length + 1 := List.length_append
      rw [List.append_assoc, next] at others
      have listed : (⟨some test, body, loc⟩ :: rest : List Branch).filterMap Branch.test =
        test :: rest.filterMap Branch.test := rfl
      rw [listed, caseListFrom, List.findIdx?_cons]
      change (if valuation.takes _ [.bits _] = true then _ else _) = _
      rw [valuation.takes_priorityDigits]
      by_cases zero : valuation.word test = 0
      · rw [chosen?_cons_of_eq_zero _ _ _ _ _ zero, ← others]
        simp [zero]
      · rw [chosen?_cons_of_ne_zero _ _ _ _ _ zero]
        simp [zero]

theorem patterns_caseListFrom {count index : Nat} {branches : List Branch} {branch : Case Body}
    (mem : branch ∈ caseListFrom count index branches) {pattern : Pattern} (listed : pattern ∈ branch.patterns) :
    ∃ digits, pattern = .bits digits ∧ digits.toList.length = count := by
  induction branches generalizing index with
  | nil => simp [caseListFrom] at mem
  | cons first rest ih =>
    rw [caseListFrom, List.mem_cons] at mem
    rcases mem with rfl | mem
    · split at listed
      · exact ⟨_, List.mem_singleton.1 listed, length_priorityDigits index count⟩
      · simp at listed
    · exact ih mem

/-- A switch that runs, in one domain, the branch of a chain that is to run. -/
structure Prioritized (chain : IfChain) (domain : String) (test : Value) (cases : List (Case (List Statement))) :
    Prop where
  width : test.width = chain.tests.length
  /-- Each bit of the test tells whether one test of the chain is not zero. -/
  bits : ∀ (valuation : Valuation) (index : Nat), (valuation.word test).testBit index =
    (chain.tests[index]?).any fun condition ↦ valuation.word condition ≠ 0
  /-- Every pattern has one digit for every bit. -/
  patterns : ∀ branch ∈ cases, ∀ pattern ∈ branch.patterns,
    ∃ digits, pattern = .bits digits ∧ digits.toList.length = chain.tests.length
  /-- Every branch has its case, also if it holds nothing for the domain. -/
  bodies : cases.map Case.body = chain.branches.map fun branch ↦ branch.body.statementsOf domain
  /-- The first case that is taken is the one of the branch to run. -/
  selects : ∀ valuation : Valuation,
    (cases.findIdx? fun branch ↦ valuation.takes test branch.patterns) = chosen? valuation chain.branches
  reaches : ∀ valuation : Valuation, valuation.reachCases test cases =
    (((chosen? valuation chain.branches).bind (chain.branches[·]?)).map fun branch ↦
      valuation.reachAll (branch.body.statementsOf domain)).getD []

section Cases

variable (chain : IfChain) (domain : String)

/-- The cases of a chain in one domain. -/
def casesIn : List (Case (List Statement)) :=
  chain.caseList.map fun branch ↦ branch.map fun body ↦ body.statementsOf domain

theorem map_body_casesIn : (chain.casesIn domain).map Case.body =
    chain.branches.map fun branch ↦ branch.body.statementsOf domain := by
  have kept := congrArg (List.map fun body : Body ↦ body.statementsOf domain)
    (map_body_caseListFrom chain.tests.length 0 chain.branches)
  rw [List.map_map, List.map_map] at kept
  rw [casesIn, List.map_map]
  exact kept

end Cases

theorem prioritized {chain : IfChain} (ordered : Ordered chain.branches) (domain : String) :
    chain.Prioritized domain chain.test (chain.casesIn domain) := by
  have selects (valuation : Valuation) :
      ((chain.casesIn domain).findIdx? fun branch ↦ valuation.takes chain.test branch.patterns) =
        chosen? valuation chain.branches := by
    rw [casesIn, List.findIdx?_map]
    exact findIdx?_caseListFrom valuation [] ordered
  refine ⟨Value.width_cat_asBool _, fun valuation index ↦ valuation.testBit_word_cat _ index, ?_,
    chain.map_body_casesIn domain, selects, fun valuation ↦ ?_⟩
  · intro branch mem pattern listed
    obtain ⟨source, held, rfl⟩ := List.mem_map.1 mem
    exact patterns_caseListFrom held listed
  · rw [valuation.reachCases_eq_find?, List.find?_eq_bind_findIdx?_getElem?, selects]
    cases chosen? valuation chain.branches with
    | none => rfl
    | some index =>
      have held := congrArg (fun bodies ↦ (bodies[index]?).map valuation.reachAll) (chain.map_body_casesIn domain)
      simp only [List.getElem?_map, Option.map_map] at held
      exact congrArg (Option.getD · []) held

/-- A chain comes to one switch for every domain that a branch touches, and each of them runs the branch of the first
test that is not zero, or else the one without a test. -/
theorem lower_prioritized {chain : IfChain} (ordered : Ordered chain.branches) :
    ∃ emitted, chain.lower = .ok emitted ∧
      (∀ domain, domain ∈ emitted.map Prod.fst ↔ ∃ branch ∈ chain.branches, domain ∈ branch.body.keys) ∧
      ∀ domain statement, (domain, statement) ∈ emitted →
        ∃ test cases, statement = .switch test cases chain.loc ∧ chain.Prioritized domain test cases := by
  refine ⟨_, lower_eq_split ordered, fun domain ↦ ?_, fun domain statement mem ↦ ?_⟩
  · rw [Lowering.map_fst_split, Lowering.mem_domains_iff]
    have bodies := map_body_caseListFrom chain.tests.length 0 chain.branches
    constructor
    · rintro ⟨branch, mem, key⟩
      have body : branch.body ∈ chain.branches.map Branch.body := bodies ▸ List.mem_map_of_mem mem
      obtain ⟨source, listed, same⟩ := List.mem_map.1 body
      exact ⟨source, listed, same ▸ key⟩
    · rintro ⟨source, mem, key⟩
      have body : source.body ∈ chain.caseList.map Case.body := bodies ▸ List.mem_map_of_mem mem
      obtain ⟨branch, listed, same⟩ := List.mem_map.1 body
      exact ⟨branch, listed, same ▸ key⟩
  · obtain ⟨-, rfl⟩ := (Lowering.mem_split_iff _ _ _ _ _).1 mem
    exact ⟨chain.test, _, rfl, prioritized ordered domain⟩

/-- A chain on a signed test and one without any bits. Only the first branch touches one domain, and only the last one
the other. -/
def steering : IfChain where
  depth := 0
  loc := ⟨"design", 1, 1⟩
  branches := [
    ⟨some (.signal ⟨.declared "lean", "lean", ⟨3, true⟩, 0, none⟩), Body.append ∅ synchronous [.assign turn turn],
      ⟨"design", 1, 1⟩⟩,
    ⟨some (.signal ⟨.declared "none", "none", .unsigned 0, 0, none⟩), ∅, ⟨"design", 2, 1⟩⟩,
    ⟨none, Body.append ∅ combinational [.assign turn turn], ⟨"design", 3, 1⟩⟩]
where
  turn : Value := .signal ⟨.declared "turn", "turn", .unsigned 1, 0, none⟩

theorem steering_prioritized : Ordered steering.branches ∧
    (∃ emitted, steering.lower = .ok emitted ∧ emitted.map Prod.fst = [synchronous, combinational] ∧
      ∀ domain statement, (domain, statement) ∈ emitted →
        ∃ test cases, statement = .switch test cases steering.loc ∧ steering.Prioritized domain test cases) ∧
    chosen? (.ofLeaves fun _ ↦ 7) steering.branches = some 0 ∧
    chosen? (.ofLeaves fun _ ↦ 0) steering.branches = some 2 := by
  have ordered : Ordered steering.branches := by simp [Ordered, steering]
  obtain ⟨emitted, lowered, -, prioritized⟩ := lower_prioritized ordered
  have domains : emitted.map Prod.fst = [synchronous, combinational] := by
    have listed := (lower_eq_split ordered).symm.trans lowered
    rw [Except.ok.injEq] at listed
    rw [← listed, Lowering.map_fst_split]
    decide +kernel
  refine ⟨ordered, ⟨emitted, lowered, domains, prioritized⟩, ?_, ?_⟩
  · simp [steering, chosen?, List.findIdx?_cons, Valuation.ofLeaves, Valuation.wordOf, Value.width, Value.shape,
      wordCount]
  · simp [steering, chosen?, List.findIdx?_cons, Valuation.ofLeaves, Valuation.wordOf]

end IfChain

end RegisterTransfer
