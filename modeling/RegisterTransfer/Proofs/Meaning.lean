import RegisterTransfer.Proofs.StructuralLowering
import RegisterTransfer.Proofs.Valuation

/-!
# The meaning of a program

Running the statements of a domain reaches what the description reaches. Every construct becomes a switch whose first
case that is taken is the one of the arm that the construct itself would choose, and the rest of the body is left as
it was.
-/

namespace RegisterTransfer

namespace Block

/-- The bodies of the arms, for a block that has any. -/
def bodies : Block → List (List Block)
  | .chain arms otherwise _ => arms.map Arm.body ++ otherwise.toList.map Arm.body
  | .switch _ arms _ => arms.map Arm.body
  | .machine _ _ arms _ => arms.map Arm.body
  | _ => []

/-- Lists of blocks, by induction on the bodies of their first block and on the others. -/
theorem list_induction {motive : List Block → Prop} (nil : motive [])
    (cons : ∀ block rest, (∀ body ∈ block.bodies, motive body) → motive rest → motive (block :: rest))
    (blocks : List Block) : motive blocks := by
  have arms : ∀ {guard : Type} (head : Arm guard (List Block)) (tail : List (Arm guard (List Block))),
      motive head.body → (∀ body ∈ tail.map Arm.body, motive body) →
        ∀ body ∈ (head :: tail).map Arm.body, motive body := by
    intro guard head tail first others
    rw [List.map_cons]
    exact List.forall_mem_cons.2 ⟨first, others⟩
  refine @Block.rec_9 (fun block ↦ ∀ body ∈ block.bodies, motive body)
    (fun arms ↦ ∀ body ∈ arms.map Arm.body, motive body) (fun arm ↦ ∀ body ∈ arm.toList.map Arm.body, motive body)
    (fun arms ↦ ∀ body ∈ arms.map Arm.body, motive body) (fun arms ↦ ∀ body ∈ arms.map Arm.body, motive body)
    (fun arm ↦ motive arm.body) (fun arm ↦ motive arm.body) (fun arm ↦ motive arm.body) (fun arm ↦ motive arm.body)
    motive ?_ ?_ ?_ ?_ ?_ ?_ arms ?_ ?_ ?_ arms ?_ arms ?_ ?_ ?_ ?_ nil cons blocks
  · simp [bodies]
  · simp [bodies]
  · exact fun _ _ _ first last body mem ↦ (List.mem_append.1 mem).elim (first body) (last body)
  · exact fun _ _ _ inner ↦ inner
  · exact fun _ _ _ _ inner ↦ inner
  · simp
  · simp
  · exact fun arm inner ↦ arms arm [] inner (by simp)
  · simp
  · simp
  · exact fun _ _ _ inner ↦ inner
  · exact fun _ _ _ inner ↦ inner
  · exact fun _ _ _ inner ↦ inner
  · exact fun _ _ _ inner ↦ inner

end Block

/-! ## What bodies reach -/

theorem Statement.settledAll_of_isPlain {machines : Arena Machine} {statements : List Statement}
    (plain : statements.all isPlain = true) : settledAll machines statements = statements := by
  induction statements with
  | nil => rfl
  | cons statement rest ih =>
    rw [List.all_cons, Bool.and_eq_true] at plain
    rw [settledAll, ih plain.2]
    cases statement with
    | assign target source => rfl
    | property kind test name => rfl
    | switch test cases loc => simp [isPlain] at plain
    | transition id state loc => simp [isPlain] at plain

namespace Valuation

variable (valuation : Valuation)

theorem reachAll_append (first second : List Statement) :
    valuation.reachAll (first ++ second) = valuation.reachAll first ++ valuation.reachAll second := by
  induction first with
  | nil => rfl
  | cons statement rest ih => rw [List.cons_append, reachAll, ih, reachAll, List.append_assoc]

theorem reach_of_isPlain {statement : Statement} (plain : statement.isPlain = true) :
    valuation.reach statement = [statement] := by
  cases statement with
  | assign target source => rfl
  | property kind test name => rfl
  | switch test cases loc => simp [Statement.isPlain] at plain
  | transition id state loc => simp [Statement.isPlain] at plain

theorem reachAll_of_isPlain {statements : List Statement} (plain : statements.all Statement.isPlain = true) :
    valuation.reachAll statements = statements := by
  induction statements with
  | nil => rfl
  | cons statement rest ih =>
    rw [List.all_cons, Bool.and_eq_true] at plain
    rw [reachAll, ih plain.2, valuation.reach_of_isPlain plain.1]
    rfl

theorem takes_singleton (test : Value) (pattern : Pattern) :
    valuation.takes test [pattern] = pattern.matchesWord test.width (valuation.word test) := by
  rw [takes, List.isEmpty_cons, Bool.false_or, List.any_cons, List.any_nil, Bool.or_false]

/-- The case of a condition is taken if the condition is not zero. -/
theorem takes_priorityDigits (before : List Value) (test : Value) (after : List Value) :
    valuation.takes (.cat ((before ++ test :: after).map Value.asBool))
        [.bits (priorityDigits before.length (before ++ test :: after).length)] =
      decide (valuation.word test ≠ 0) := by
  have inside : before.length < (before ++ test :: after).length := by
    rw [List.length_append, List.length_cons]
    omega
  rw [takes_singleton, matchesWord_priorityDigits inside, testBit_word_cat,
    List.getElem?_append_right (Nat.le_refl _), Nat.sub_self, List.getElem?_cons_zero, Option.any_some]

theorem reach_settled_transition (machines : Arena Machine) (id : MachineId) (state : String) (loc : Location) :
    valuation.reach ((Statement.transition id state loc).settled machines) =
      [(Statement.transition id state loc).settled machines] := by
  rw [Statement.settled]
  cases found : (machines.get? id).bind fun machine ↦ machine.assignment? state with
  | none => rfl
  | some assignment =>
    obtain ⟨machine, -, assigned⟩ := Option.bind_eq_some_iff.1 found
    exact valuation.reach_of_isPlain (Machine.isPlain_of_assignment? assigned)

section Settled

variable (machines : Arena Machine) (domain : String)

/-- What a body reaches in a domain, once its transitions are settled. -/
def reachIn (body : Body) : List Statement :=
  valuation.reachAll (Statement.settledAll machines (body.statementsOf domain))

/-- What the first case reaches that is taken. -/
def choose (test : Value) (cases : List (Case Body)) : List Statement :=
  ((cases.find? fun branch ↦ valuation.takes test branch.patterns).map fun branch ↦
    valuation.reachIn machines domain branch.body).getD []

theorem choose_cons (test : Value) (patterns : List Pattern) (body : Body) (loc : Option Location)
    (rest : List (Case Body)) : valuation.choose machines domain test (⟨patterns, body, loc⟩ :: rest) =
      if valuation.takes test patterns then valuation.reachIn machines domain body
      else valuation.choose machines domain test rest := by
  rw [choose, List.find?_cons]
  cases valuation.takes test patterns <;> rfl

theorem choose_entries (test : Value) (entries : List (List Pattern × SwitchCase)) :
    valuation.choose machines domain test (entries.map fun entry ↦ ⟨entry.1, entry.2.body, some entry.2.loc⟩) =
      ((entries.find? fun entry ↦ valuation.takes test entry.1).map fun entry ↦
        valuation.reachIn machines domain entry.2.body).getD [] := by
  rw [choose, List.find?_map, Option.map_map]
  rfl

theorem reachIn_of_statementsOf_eq_nil {body : Body} (untouched : body.statementsOf domain = []) :
    valuation.reachIn machines domain body = [] := by
  rw [reachIn, untouched]
  rfl

theorem reachIn_append (body : Body) (filed : String) (statements : List Statement) :
    valuation.reachIn machines domain (body.append filed statements) = valuation.reachIn machines domain body ++
      if filed = domain then valuation.reachAll (Statement.settledAll machines statements) else [] := by
  rw [reachIn, reachIn, Body.statementsOf_append]
  by_cases same : filed = domain
  · subst same
    rw [if_pos rfl, if_pos rfl, Statement.settledAll_eq_map, List.map_append, reachAll_append,
      Statement.settledAll_eq_map, Statement.settledAll_eq_map]
  · rw [if_neg (Ne.symm same), if_neg same, List.append_nil]

theorem reachCases_settledCases (test : Value) (cases : List (Case Body)) :
    valuation.reachCases test (Statement.settledCases machines
      (cases.map fun branch ↦ branch.map fun body ↦ body.statementsOf domain)) =
        valuation.choose machines domain test cases := by
  induction cases with
  | nil => rfl
  | cons branch rest ih =>
    obtain ⟨patterns, body, loc⟩ := branch
    rw [choose_cons, ← ih]
    rfl

/-- A construct reaches what its first case reaches that is taken, whether or not it touches the domain. -/
theorem reachIn_appendAll_split (body : Body) (test : Value) (cases : List (Case Body)) (loc : Location) :
    valuation.reachIn machines domain (body.appendAll (Lowering.split test cases loc)) =
      valuation.reachIn machines domain body ++ valuation.choose machines domain test cases := by
  rw [reachIn, Body.statementsOf_appendAll, Lowering.filter_split, Statement.settledAll_eq_map, List.map_append,
    reachAll_append, ← Statement.settledAll_eq_map, ← Statement.settledAll_eq_map, ← reachIn]
  congr 1
  split
  · rw [Statement.settledAll, Statement.settledAll, reachAll, reachAll, List.append_nil, Lowering.branchIn,
      Statement.settled, reach, reachCases_settledCases]
  · rename_i untouched
    rw [choose]
    cases found : cases.find? fun branch ↦ valuation.takes test branch.patterns with
    | none => rfl
    | some branch =>
      have empty := Lowering.statementsOf_of_notMem_domains untouched (List.mem_of_find?_eq_some found)
      exact (valuation.reachIn_of_statementsOf_eq_nil machines domain empty).symm

end Settled

end Valuation

/-! ## What blocks reach -/

namespace Block

/-- Of several cases with the same patterns the first one counts, which is also the first one that is taken. -/
theorem find?_firstCases (taken : List Pattern → Bool) (entries : List (List Pattern × SwitchCase)) :
    ((firstCases entries).entries.find? fun entry ↦ taken entry.1) = entries.find? fun entry ↦ taken entry.1 := by
  have from_table : ∀ table : Table (List Pattern) SwitchCase,
      ((entries.foldl (fun table entry ↦ table.insertIfAbsent entry.1 entry.2) table).entries.find?
        fun entry ↦ taken entry.1) = (table.entries ++ entries).find? fun entry ↦ taken entry.1 := by
    induction entries with
    | nil => simp
    | cons entry rest ih =>
      intro table
      rw [List.foldl_cons, ih]
      by_cases present : entry.1 ∈ table.keys
      · rw [Table.insertIfAbsent_of_mem _ _ _ present, List.find?_append, List.find?_append, List.find?_cons]
        cases first : taken entry.1 with
        | false => rfl
        | true =>
          obtain ⟨earlier, listed, same⟩ := List.mem_map.1 present
          have some : (table.entries.find? fun entry ↦ taken entry.1).isSome = true :=
            List.find?_isSome.2 ⟨earlier, listed, by rw [same, first]⟩
          rw [Option.or_of_isSome some, Option.or_of_isSome some]
      · rw [Table.entries_insertIfAbsent_of_notMem _ _ _ present, List.append_assoc]
        rfl
  exact from_table ∅

section Arms

variable (valuation : Valuation) (machines : Arena Machine) (domain : String)

/-- The branches of a chain that follow `before` choose the first condition that is not zero. -/
theorem choose_branches (before : List Value) (otherwise : Option (Arm Unit (List Block)))
    (arms : List (Arm Value (List Block)))
    (inner : ∀ body ∈ arms.map Arm.body ++ otherwise.toList.map Arm.body,
      valuation.reachIn machines domain (lowerAll body ∅) = execAll valuation machines domain body) :
    valuation.choose machines domain (.cat ((before ++ arms.map Arm.guard).map Value.asBool))
        (IfChain.caseListFrom (before ++ arms.map Arm.guard).length before.length
          (branches arms ++ lastBranch otherwise)) =
      execArms valuation machines domain (execLast valuation machines domain otherwise) arms := by
  induction arms generalizing before with
  | nil =>
    cases otherwise with
    | none => rfl
    | some arm =>
      obtain ⟨_, blocks, loc⟩ := arm
      exact inner blocks (by simp)
  | cons arm rest ih =>
    obtain ⟨test, blocks, loc⟩ := arm
    have first := inner blocks (by simp)
    have others := ih (before ++ [test]) fun body mem ↦ inner body (by
      rw [List.map_cons, List.cons_append]
      exact List.mem_cons_of_mem _ mem)
    have next : (before ++ [test]).length = before.length + 1 := List.length_append
    rw [List.append_assoc, next] at others
    change valuation.choose machines domain (.cat ((before ++ test :: rest.map Arm.guard).map Value.asBool))
      (⟨[.bits (priorityDigits before.length (before ++ test :: rest.map Arm.guard).length)], lowerAll blocks ∅,
          some loc⟩ ::
        IfChain.caseListFrom (before ++ test :: rest.map Arm.guard).length (before.length + 1)
          (branches rest ++ lastBranch otherwise)) = _
    rw [Valuation.choose_cons, Valuation.takes_priorityDigits, first, execArms]
    by_cases zero : valuation.word test = 0
    · simpa [zero] using others
    · simp [zero]

/-- The cases that can match choose as they are written. -/
theorem choose_cases (test : Value) (arms : List (Arm (Option (List (WrittenPattern Value))) (List Block)))
    (inner : ∀ body ∈ arms.map Arm.body,
      valuation.reachIn machines domain (lowerAll body ∅) = execAll valuation machines domain body) :
    valuation.choose machines domain test
        ((cases test.width arms).map fun entry ↦ ⟨entry.1, entry.2.body, some entry.2.loc⟩) =
      execCases valuation machines domain test arms := by
  induction arms with
  | nil => rfl
  | cons arm rest ih =>
    obtain ⟨guard, blocks, loc⟩ := arm
    have first := inner blocks (List.mem_cons_self ..)
    have others := ih fun body mem ↦ inner body (List.mem_cons_of_mem _ mem)
    cases guard with
    | none =>
      rw [cases, List.map_cons, Valuation.choose_cons]
      exact first
    | some written =>
      have live := WrittenPattern.any_live (valuation.word_lt test) loc written
      rw [cases, execCases, ← live]
      split
      · rename_i none
        rw [List.isEmpty_iff.1 none]
        exact others
      · rename_i some
        rw [List.map_cons, Valuation.choose_cons, Valuation.takes, Bool.eq_false_iff.2 some, Bool.false_or, first,
          others]

/-- The states choose by their numbers. -/
theorem choose_stateCases (register : Signal) (encoding : Table String Nat) (arms : List (Arm String (List Block)))
    (inner : ∀ body ∈ arms.map Arm.body,
      valuation.reachIn machines domain (lowerAll body ∅) = execAll valuation machines domain body) :
    valuation.choose machines domain (.signal register) (stateCases encoding arms) =
      execStates valuation machines domain register encoding arms := by
  induction arms with
  | nil => rfl
  | cons arm rest ih =>
    obtain ⟨name, blocks, loc⟩ := arm
    have first := inner blocks (List.mem_cons_self ..)
    have others := ih fun body mem ↦ inner body (List.mem_cons_of_mem _ mem)
    rw [stateCases, execStates]
    cases known : encoding.get? name with
    | none => exact others
    | some code =>
      rw [Valuation.choose_cons, Valuation.takes_singleton, Pattern.matchesWord,
        isReading_natCast (valuation.word_lt _), first, others]
      simp only [decide_eq_true_iff, Option.some.injEq]

theorem tests_chain (arms : List (Arm Value (List Block))) (otherwise : Option (Arm Unit (List Block))) :
    (branches arms ++ lastBranch otherwise).filterMap Branch.test = arms.map Arm.guard := by
  induction arms with
  | nil =>
    cases otherwise with
    | none => rfl
    | some arm => rfl
  | cons arm rest ih =>
    rw [List.map_cons, ← ih]
    rfl

/-- A block reaches, behind what was there, what it is to reach as it is written. -/
theorem reachIn_lower (block : Block) (inner : ∀ body ∈ block.bodies,
    valuation.reachIn machines domain (lowerAll body ∅) = execAll valuation machines domain body) (body : Body) :
    valuation.reachIn machines domain (block.lower body) =
      valuation.reachIn machines domain body ++ exec valuation machines domain block := by
  cases block with
  | file filed statements plain =>
    rw [lower, Valuation.reachIn_append, exec, Statement.settledAll_of_isPlain plain,
      valuation.reachAll_of_isPlain plain]
  | goto filed id state loc =>
    rw [lower, Valuation.reachIn_append, exec, Statement.settledAll, Statement.settledAll, Valuation.reachAll,
      Valuation.reachAll, List.append_nil, valuation.reach_settled_transition]
  | chain arms otherwise loc =>
    have chosen := choose_branches valuation machines domain [] otherwise arms inner
    rw [List.nil_append] at chosen
    calc valuation.reachIn machines domain (IfChain.close ⟨0, loc, branches arms ++ lastBranch otherwise⟩ body)
        = valuation.reachIn machines domain body ++ valuation.choose machines domain
            (.cat ((arms.map Arm.guard).map Value.asBool))
              (IfChain.caseListFrom (arms.map Arm.guard).length 0 (branches arms ++ lastBranch otherwise)) := by
          rw [IfChain.close, Valuation.reachIn_appendAll_split, IfChain.test, IfChain.caseList, IfChain.tests,
            tests_chain]
      _ = valuation.reachIn machines domain body ++ execArms valuation machines domain
            (execLast valuation machines domain otherwise) arms := congrArg _ chosen
  | switch test arms loc =>
    have chosen := choose_cases valuation machines domain test arms inner
    rw [Valuation.choose_entries] at chosen
    calc valuation.reachIn machines domain
          (body.appendAll (OpenSwitch.lower ⟨test, loc, firstCases (cases test.width arms)⟩))
        = valuation.reachIn machines domain body ++
            (((cases test.width arms).find? fun entry ↦ valuation.takes test entry.1).map fun entry ↦
              valuation.reachIn machines domain entry.2.body).getD [] := by
          rw [OpenSwitch.lower, Valuation.reachIn_appendAll_split, OpenSwitch.caseList, Valuation.choose_entries,
            find?_firstCases]
      _ = valuation.reachIn machines domain body ++ execCases valuation machines domain test arms :=
          congrArg _ chosen
  | machine register encoding arms loc =>
    have chosen := choose_stateCases valuation machines domain register encoding arms inner
    rw [lower, Valuation.reachIn_appendAll_split, exec, chosen]

theorem reachIn_lowerAll (blocks : List Block) (body : Body) :
    valuation.reachIn machines domain (lowerAll blocks body) =
      valuation.reachIn machines domain body ++ execAll valuation machines domain blocks := by
  induction blocks using list_induction generalizing body with
  | nil => rw [lowerAll, execAll, List.append_nil]
  | cons block rest bodies ih =>
    have inner : ∀ body ∈ block.bodies,
        valuation.reachIn machines domain (lowerAll body ∅) = execAll valuation machines domain body := by
      intro body mem
      rw [bodies body mem ∅, valuation.reachIn_of_statementsOf_eq_nil machines domain (Body.statementsOf_empty domain),
        List.nil_append]
    calc valuation.reachIn machines domain (lowerAll rest (block.lower body))
        = valuation.reachIn machines domain (block.lower body) ++ execAll valuation machines domain rest :=
          ih (block.lower body)
      _ = (valuation.reachIn machines domain body ++ exec valuation machines domain block) ++
            execAll valuation machines domain rest := by rw [reachIn_lower valuation machines domain block inner]
      _ = valuation.reachIn machines domain body ++ execAll valuation machines domain (block :: rest) := by
          rw [List.append_assoc, execAll]

end Arms

end Block

/-! ## What programs reach -/

namespace Valuation

variable (valuation : Valuation)

theorem mem_reachCases {test : Value} {cases : List (Case (List Statement))} {reached : Statement}
    (mem : reached ∈ valuation.reachCases test cases) : ∃ branch ∈ cases, reached ∈ valuation.reachAll branch.body := by
  induction cases with
  | nil => simp [reachCases] at mem
  | cons branch rest ih =>
    obtain ⟨patterns, body, loc⟩ := branch
    rw [reachCases] at mem
    split at mem
    · exact ⟨_, List.mem_cons_self .., mem⟩
    · obtain ⟨branch, listed, inner⟩ := ih mem
      exact ⟨branch, List.mem_cons_of_mem _ listed, inner⟩

/-- Once all transitions are settled, only assignments and property checks are reached. -/
theorem isPlain_of_mem_reachAll {machines : Arena Machine} {statements : List Statement}
    (settles : ∀ leaf ∈ Statement.leavesAll statements, leaf.Settles machines) {reached : Statement}
    (mem : reached ∈ valuation.reachAll (Statement.settledAll machines statements)) : reached.isPlain = true := by
  induction statements using Statement.list_induction with
  | nil => simp [Statement.settledAll, reachAll] at mem
  | cons statement rest bodies ih =>
    rw [Statement.leavesAll] at settles
    rw [Statement.settledAll, reachAll, List.mem_append] at mem
    have others := ih fun leaf inner ↦ settles leaf (List.mem_append_right _ inner)
    refine mem.elim (fun mem ↦ ?_) others
    cases statement with
    | assign target source =>
      rw [List.mem_singleton.1 mem]
      rfl
    | property kind test name =>
      rw [List.mem_singleton.1 mem]
      rfl
    | switch test cases loc =>
      rw [Statement.settled, Statement.settledCases_eq_map, reach] at mem
      obtain ⟨_, mapped, inner⟩ := valuation.mem_reachCases mem
      obtain ⟨branch, listed, rfl⟩ := List.mem_map.1 mapped
      refine bodies branch.body (List.mem_map_of_mem listed) (fun leaf within ↦ settles leaf ?_) inner
      apply List.mem_append_left _
      rw [Statement.leaves, Statement.leavesCases_eq_flatMap, List.mem_flatMap]
      exact ⟨branch, listed, within⟩
    | transition id state loc =>
      rw [reach_settled_transition, List.mem_singleton] at mem
      obtain ⟨machine, found, known⟩ := settles _ (List.mem_append_left _ (List.mem_singleton.2 rfl))
      obtain ⟨assignment, assigned⟩ := Option.isSome_iff_exists.1 known
      rw [mem, Statement.settled, found, Option.bind_some, assigned]
      exact Machine.isPlain_of_assignment? assigned

end Valuation

namespace Description

variable {description : Description} (settled : description.Settled) (valuation : Valuation) (domain : String)

omit settled in
/-- Running the lowered blocks reaches what the blocks reach as they are written. -/
theorem reachIn_blocks : valuation.reachIn description.machines domain (Block.lowerAll description.blocks ∅) =
    Block.execAll valuation description.machines domain description.blocks := by
  rw [Block.reachIn_lowerAll, valuation.reachIn_of_statementsOf_eq_nil _ _ (Body.statementsOf_empty domain),
    List.nil_append]

include settled

theorem reachAll_statementsOf :
    valuation.reachAll (description.statements.statementsOf domain) = description.exec valuation domain := by
  rw [statements, Body.statementsOf_append, exec, ← reachIn_blocks, Valuation.reachIn]
  by_cases here : domain = combinational
  · rw [if_pos here, if_pos here, ← here, valuation.reachAll_append, Builder.statementsOf_map_settledAll,
      valuation.reachAll_of_isPlain settled.indicators]
  · rw [if_neg here, if_neg here, List.append_nil, Builder.statementsOf_map_settledAll]

theorem isPlain_of_mem_exec {reached : Statement} (mem : reached ∈ description.exec valuation domain) :
    reached.isPlain = true := by
  rw [exec, ← reachIn_blocks, List.mem_append] at mem
  apply mem.elim (valuation.isPlain_of_mem_reachAll (settled.transitions domain))
  intro mem
  split at mem
  · exact List.all_eq_true.1 settled.indicators reached mem
  · simp at mem

end Description

/-- Running the statements of an accepted program reaches, in every domain and whatever values stand for, what the
program reaches as it is written: assignments and property checks, in the same order. -/
theorem Program.elaborates_meaning {program : Program} {session : Session}
    (accepted : program.accepted? = some session) (tidy : tidyAll program.steps = true) :
    ∃ description, program.description? = some description ∧
      session.builder.Elaborates program.platform fun fragment ↦ ∀ valuation domain,
        valuation.reachAll (fragment.statements.statementsOf domain) = description.exec valuation domain ∧
          ∀ reached ∈ description.exec valuation domain, reached.isPlain = true := by
  obtain ⟨sound, ⟨behind, place⟩, description, read, settled, same⟩ := Program.described accepted tidy
  have elaborates := sound.elaborates place program.platform
  refine ⟨description, read, elaborates.mono fun fragment made valuation domain ↦ ⟨?_, fun reached mem ↦ ?_⟩⟩
  · calc valuation.reachAll (fragment.statements.statementsOf domain)
        = valuation.reachAll (description.statements.statementsOf domain) := by rw [made, same]
      _ = description.exec valuation domain := description.reachAll_statementsOf settled valuation domain
  · exact description.isPlain_of_mem_exec settled valuation domain mem

/-! ## The crossing, once everything is one -/

/-- The register holds the number of `green`, the mode matches its case, and the timer has run out. -/
def rushHour : Valuation := .ofLeaves fun _ ↦ 1

theorem crossing_reaches : ∃ session fragment, crossing.accepted? = some session ∧
    session.builder.elaborate none = .ok fragment ∧
    (rushHour.reachAll (fragment.statements.statementsOf synchronous)).length = 2 := by
  have computed : crossing.accepted?.any (fun session ↦ (session.builder.fragment? none).any fun fragment ↦
      decide ((rushHour.reachAll (fragment.statements.statementsOf synchronous)).length = 2)) = true := by
    decide +kernel
  obtain ⟨session, accepted, made⟩ := (Option.any_eq_true _ _).1 computed
  obtain ⟨fragment, made, count⟩ := (Option.any_eq_true _ _).1 made
  exact ⟨session, fragment, accepted, Builder.elaborate_of_fragment? made, of_decide_eq_true count⟩

theorem crossing_meaning : ∃ session description fragment, crossing.accepted? = some session ∧
    crossing.description? = some description ∧ session.builder.elaborate none = .ok fragment ∧
      rushHour.reachAll (fragment.statements.statementsOf synchronous) = description.exec rushHour synchronous ∧
        (description.exec rushHour synchronous).length = 2 := by
  obtain ⟨session, fragment, accepted, elaborated, count⟩ := crossing_reaches
  obtain ⟨description, read, elaborates⟩ := Program.elaborates_meaning accepted (by decide +kernel)
  have same := (elaborates.of_eq_ok elaborated rushHour synchronous).1
  exact ⟨session, description, fragment, accepted, read, elaborated, same, same ▸ count⟩

end RegisterTransfer
