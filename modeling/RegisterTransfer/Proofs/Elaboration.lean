import RegisterTransfer.Builder.Elaborate
import RegisterTransfer.Proofs.Reached

/-!
# Elaboration

A fragment holds, domain by domain, what the builder has recorded, with every transition settled, and the
indicators behind the combinational statements. A domain drives exactly the signals that its statements write.
Elaboration is refused only if a part is.
-/

namespace RegisterTransfer

theorem Machine.isPlain_of_assignment? {machine : Machine} {state : String} {assignment : Statement}
    (assigned : machine.assignment? state = some assignment) : assignment.isPlain = true := by
  rw [assignment?] at assigned
  split at assigned
  · rw [Option.some.injEq] at assigned
    rw [← assigned]
    rfl
  · simp at assigned

/-! ## Settled transitions -/

namespace Statement

mutual

/-- A statement whose transitions are the assignments they stand for. -/
def settled (machines : Arena Machine) : Statement → Statement
  | .assign target source => .assign target source
  | .property kind test name => .property kind test name
  | .switch test cases loc => .switch test (settledCases machines cases) loc
  | .transition id state loc =>
    ((machines.get? id).bind fun machine ↦ machine.assignment? state).getD (.transition id state loc)

def settledCases (machines : Arena Machine) : List (Case (List Statement)) → List (Case (List Statement))
  | [] => []
  | branch :: rest => settledCase machines branch :: settledCases machines rest

def settledCase (machines : Arena Machine) : Case (List Statement) → Case (List Statement)
  | ⟨patterns, body, loc⟩ => ⟨patterns, settledAll machines body, loc⟩

def settledAll (machines : Arena Machine) : List Statement → List Statement
  | [] => []
  | statement :: rest => statement.settled machines :: settledAll machines rest

end

theorem settledAll_eq_map (machines : Arena Machine) (statements : List Statement) :
    settledAll machines statements = statements.map (settled machines) := by
  induction statements with
  | nil => rfl
  | cons statement rest ih => simp [settledAll, ih]

theorem settledCases_eq_map (machines : Arena Machine) (cases : List (Case (List Statement))) :
    settledCases machines cases = cases.map fun branch ↦ branch.map (settledAll machines) := by
  induction cases with
  | nil => rfl
  | cons branch rest ih =>
    obtain ⟨patterns, body, loc⟩ := branch
    simp [settledCases, settledCase, ih, Case.map]

/-- Whether a statement is no transition, or one to a state with a number, of a machine with a register. -/
def Settles (machines : Arena Machine) : Statement → Prop
  | .transition id state _ => ∃ machine, machines.get? id = some machine ∧ (machine.assignment? state).isSome = true
  | _ => True

theorem Settles.statement_eq {machines : Arena Machine} {statement : Statement}
    (settles : ∀ leaf ∈ statement.leaves, leaf.Settles machines)
    (bodies : ∀ body ∈ statement.bodies, Resolution.statements machines body = .ok (settledAll machines body)) :
    Resolution.statement machines statement = .ok (statement.settled machines) := by
  cases statement with
  | assign target source => rfl
  | property kind test name => rfl
  | switch test cases loc =>
    have listed : Resolution.caseList machines cases = .ok (settledCases machines cases) := by
      have inner : ∀ branch ∈ cases,
          Resolution.statements machines branch.body = .ok (settledAll machines branch.body) :=
        fun branch mem ↦ bodies branch.body (List.mem_map_of_mem mem)
      clear settles bodies
      induction cases with
      | nil => rfl
      | cons branch rest ih =>
        obtain ⟨patterns, body, place⟩ := branch
        have first := inner _ (List.mem_cons_self ..)
        have others := ih fun branch mem ↦ inner branch (List.mem_cons_of_mem _ mem)
        simp only at first
        simp only [Resolution.caseList, Resolution.singleCase, first, others, settledCases, settledCase, bind,
          Except.bind, pure, Except.pure]
    simp only [Resolution.statement, listed, settled, bind, Except.bind, pure, Except.pure]
  | transition id state loc =>
    obtain ⟨machine, found, known⟩ := settles _ (List.mem_singleton.2 rfl)
    obtain ⟨assignment, same⟩ := Option.isSome_iff_exists.1 known
    simp only [Resolution.statement, Resolution.transition, (Arena.fetch_eq_ok_iff ..).2 found, same, settled, found,
      Option.bind_some, Option.getD_some]

/-- Statements resolve if all their leaves settle. -/
theorem resolve_eq_settledAll {machines : Arena Machine} {statements : List Statement}
    (settles : ∀ leaf ∈ leavesAll statements, leaf.Settles machines) :
    Resolution.statements machines statements = .ok (settledAll machines statements) := by
  induction statements using list_induction with
  | nil => rfl
  | cons statement rest bodies ih =>
    rw [leavesAll] at settles
    have others := ih fun leaf mem ↦ settles leaf (List.mem_append_right _ mem)
    have first : Resolution.statement machines statement = .ok (statement.settled machines) := by
      refine Settles.statement_eq (fun leaf mem ↦ settles leaf (List.mem_append_left _ mem)) fun body mem ↦ ?_
      refine bodies body mem fun leaf inner ↦ settles leaf (List.mem_append_left _ ?_)
      cases statement with
      | switch test cases loc =>
        obtain ⟨branch, listed, rfl⟩ := List.mem_map.1 mem
        rw [leaves, leavesCases_eq_flatMap, List.mem_flatMap]
        exact ⟨branch, listed, inner⟩
      | assign => simp [Statement.bodies] at mem
      | property => simp [Statement.bodies] at mem
      | transition => simp [Statement.bodies] at mem
    simp only [Resolution.statements, first, others, settledAll, bind, Except.bind, pure, Except.pure]

/-- Settling transitions settles the leaves, each where it stands. -/
theorem leavesAll_settledAll (machines : Arena Machine) (statements : List Statement) :
    leavesAll (settledAll machines statements) = (leavesAll statements).map (settled machines) := by
  induction statements using list_induction with
  | nil => rfl
  | cons statement rest bodies ih =>
    have first : (statement.settled machines).leaves = statement.leaves.map (settled machines) := by
      cases statement with
      | switch test cases loc =>
        rw [settled, leaves, leaves, leavesCases_eq_flatMap, leavesCases_eq_flatMap, settledCases_eq_map,
          List.flatMap_map, List.map_flatMap]
        exact List.flatMap_congr fun branch mem ↦ bodies branch.body (List.mem_map_of_mem mem)
      | transition id state loc =>
        simp only [settled, leaves, List.map_cons, List.map_nil]
        cases found : (machines.get? id).bind fun machine ↦ machine.assignment? state with
        | none => rfl
        | some assignment =>
          obtain ⟨machine, -, assigned⟩ := Option.bind_eq_some_iff.1 found
          exact leaves_of_isPlain (Machine.isPlain_of_assignment? assigned)
      | assign target source => rfl
      | property kind test name => rfl
    rw [settledAll, leavesAll, leavesAll, List.map_append, ih, first]

/-- Settled statements write what their settled leaves write. -/
theorem targetsAll_settledAll (machines : Arena Machine) (statements : List Statement) :
    targetsAll (settledAll machines statements) =
      (leavesAll statements).flatMap fun leaf ↦ (leaf.settled machines).targets := by
  rw [targetsAll_eq_leavesAll, leavesAll_settledAll, List.flatMap_map]

/-- Statements settle alike if the transitions in them do. -/
theorem settledAll_congr {machines others : Arena Machine} {statements : List Statement}
    (same : ∀ id state loc, .transition id state loc ∈ leavesAll statements →
      (Statement.transition id state loc).settled others = (Statement.transition id state loc).settled machines) :
    settledAll others statements = settledAll machines statements := by
  induction statements using list_induction with
  | nil => rfl
  | cons statement rest bodies ih =>
    rw [leavesAll] at same
    have first : statement.settled others = statement.settled machines := by
      cases statement with
      | switch test cases loc =>
        rw [settled, settled, settledCases_eq_map, settledCases_eq_map, Statement.switch.injEq]
        refine ⟨rfl, List.map_congr_left fun branch mem ↦ ?_, rfl⟩
        rw [Case.map, bodies branch.body (List.mem_map_of_mem mem) fun id state loc inner ↦ same id state loc ?_,
          Case.map]
        apply List.mem_append_left _
        rw [leaves, leavesCases_eq_flatMap, List.mem_flatMap]
        exact ⟨branch, mem, inner⟩
      | assign => rfl
      | property => rfl
      | transition => exact same _ _ _ (List.mem_append_left _ (List.mem_singleton.2 rfl))
    rw [settledAll, settledAll, first, ih fun id state loc mem ↦ same id state loc (List.mem_append_right _ mem)]

end Statement

/-! ## Fragments -/

namespace Fragment

/-- Every domain drives the signals that its statements write, and no others. -/
def Driven (fragment : Fragment) : Prop :=
  ∀ domain signal, signal ∈ (fragment.drivers.get? domain).getD [] ↔
    signal ∈ Statement.targetsAll (fragment.statements.statementsOf domain)

theorem driven_empty (loc : Location) : (Fragment.empty loc).Driven := by
  intro domain signal
  simp [Fragment.empty, Body.statementsOf, Statement.targetsAll]

theorem foldl_addDriver (signals : List Signal) (domain : String) (fragment : Fragment) :
    (signals.foldl (fun result signal ↦ result.addDriver signal domain) fragment).statements = fragment.statements ∧
      ∀ other signal,
        signal ∈
            ((signals.foldl (fun result signal ↦ result.addDriver signal domain) fragment).drivers.get? other).getD [] ↔
          signal ∈ (fragment.drivers.get? other).getD [] ∨ other = domain ∧ signal ∈ signals := by
  induction signals generalizing fragment with
  | nil => simp
  | cons first rest ih =>
    obtain ⟨statements, drivers⟩ := ih (fragment.addDriver first domain)
    refine ⟨statements.trans rfl, fun other signal ↦ ?_⟩
    rw [List.foldl_cons, drivers, addDriver, Table.get?_upsert]
    by_cases same : other = domain
    · subst same
      simp only [↓reduceIte, Option.getD_some, true_and, List.mem_cons]
      split
      · rename_i present
        constructor
        · rintro (mem | mem)
          · exact .inl mem
          · exact .inr (.inr mem)
        · rintro (mem | rfl | mem)
          · exact .inl mem
          · exact .inl present
          · exact .inr mem
      · simp [or_assoc]
    · simp [same]

theorem statements_addDriving (fragment : Fragment) (domain : String) (statements : List Statement) :
    (fragment.addDriving domain statements).statements =
      fragment.statements.upsert domain fun earlier ↦ earlier.getD [] ++ statements :=
  (foldl_addDriver ..).1

theorem statementsOf_addDriving (fragment : Fragment) (domain other : String) (statements : List Statement) :
    (fragment.addDriving domain statements).statements.statementsOf other =
      if other = domain then fragment.statements.statementsOf domain ++ statements
      else fragment.statements.statementsOf other := by
  rw [statements_addDriving, Body.statementsOf, Table.get?_upsert]
  split
  · rfl
  · rfl

theorem mem_drivers_addDriving (fragment : Fragment) (domain other : String) (statements : List Statement)
    (signal : Signal) : signal ∈ ((fragment.addDriving domain statements).drivers.get? other).getD [] ↔
      signal ∈ (fragment.drivers.get? other).getD [] ∨
        other = domain ∧ signal ∈ Statement.targetsAll statements := by
  have filed := (foldl_addDriver (Statement.writtenAll statements) domain
    (fragment.addStatements domain statements)).2 other signal
  rw [Statement.writtenAll, List.mem_eraseDups] at filed
  exact filed

theorem Driven.addDriving {fragment : Fragment} (driven : fragment.Driven) (domain : String)
    (statements : List Statement) : (fragment.addDriving domain statements).Driven := by
  intro other signal
  rw [mem_drivers_addDriving, statementsOf_addDriving, driven other signal]
  by_cases same : other = domain
  · subst same
    simp [Statement.targetsAll_append]
  · simp [same]

end Fragment

namespace Builder

/-- The parts leave the fragment's own statements and drivers alone. -/
theorem elaborateParts_keeps {platform : Option Platform} {parts : List (Option String × Component × Location)}
    {before after : Fragment} (elaborated : elaborateParts platform parts before = .ok after) :
    after.statements = before.statements ∧ after.drivers = before.drivers ∧ after.machines = before.machines := by
  induction parts generalizing before with
  | nil =>
    have same : before = after := by simpa [elaborateParts] using elaborated
    exact same ▸ ⟨rfl, rfl, rfl⟩
  | cons part rest ih =>
    obtain ⟨name, component, loc⟩ := part
    obtain ⟨fragment, -, elaborated⟩ := bind_eq_ok_iff.1 elaborated
    exact @ih (before.addPart fragment name loc) elaborated

theorem enterMachines_keeps {machines : Arena Machine} {entries : List (String × MachineId)}
    (known : ∀ entry ∈ entries, ∃ machine, machines.get? entry.2 = some machine) (before : Fragment) :
    ∃ after, enterMachines machines entries before = .ok after ∧ after.statements = before.statements ∧
      after.drivers = before.drivers := by
  induction entries generalizing before with
  | nil => exact ⟨before, rfl, rfl, rfl⟩
  | cons entry rest ih =>
    obtain ⟨name, id⟩ := entry
    obtain ⟨machine, found⟩ := known _ (List.mem_cons_self ..)
    have others := fun entry mem ↦ known entry (List.mem_cons_of_mem _ mem)
    simp only [enterMachines, (Arena.fetch_eq_ok_iff ..).2 found]
    cases machine.register with
    | none => exact ih others before
    | some register => exact ih others _

/-- What every domain of the fragment holds, the indicators behind the combinational statements. -/
def settledStatements (builder : Builder) : Body :=
  let settled := builder.statements.map fun _ statements ↦ Statement.settledAll builder.machines statements
  if builder.indicators.isEmpty then settled
  else settled.upsert combinational fun earlier ↦ earlier.getD [] ++ builder.indicators

theorem statementsOf_map_settledAll (machines : Arena Machine) (body : Body) (domain : String) :
    Body.statementsOf (body.map fun _ statements ↦ Statement.settledAll machines statements) domain =
      Statement.settledAll machines (body.statementsOf domain) := by
  rw [Body.statementsOf, Table.get?_map, Body.statementsOf]
  cases body.get? domain <;> rfl

theorem statementsOf_settledStatements (builder : Builder) (domain : String) :
    builder.settledStatements.statementsOf domain =
      Statement.settledAll builder.machines (builder.statements.statementsOf domain) ++
        if domain = combinational then builder.indicators else [] := by
  have settled := statementsOf_map_settledAll builder.machines builder.statements
  rw [settledStatements]
  split
  · rename_i none
    rw [List.isEmpty_iff.1 none, settled]
    simp
  · rw [Body.statementsOf, Table.get?_upsert]
    split
    · rename_i same
      subst same
      rw [Option.getD_some, ← settled]
      rfl
    · rw [List.append_nil, ← settled]
      rfl

theorem resolveDomains_of {machines : Arena Machine} {entries : List (String × List Statement)} {before : Fragment}
    (settles : ∀ entry ∈ entries, ∀ leaf ∈ Statement.leavesAll entry.2, leaf.Settles machines)
    (distinct : (before.statements.keys ++ entries.map Prod.fst).Nodup) (driven : before.Driven) :
    ∃ after, resolveDomains machines entries before = .ok after ∧ after.Driven ∧
      after.statements.entries = before.statements.entries ++
        entries.map fun entry ↦ (entry.1, Statement.settledAll machines entry.2) := by
  induction entries generalizing before with
  | nil => exact ⟨before, rfl, driven, by simp⟩
  | cons entry rest ih =>
    obtain ⟨domain, statements⟩ := entry
    have resolved := Statement.resolve_eq_settledAll (settles _ (List.mem_cons_self ..))
    have absent : domain ∉ before.statements.keys := by
      rw [List.nodup_append] at distinct
      exact fun mem ↦ distinct.2.2 domain mem domain (by simp) rfl
    have entries : (before.addDriving domain (Statement.settledAll machines statements)).statements.entries =
        before.statements.entries ++ [(domain, Statement.settledAll machines statements)] := by
      rw [Fragment.statements_addDriving]
      exact Table.upsertEntries_of_notMem domain _ absent
    have keys : (before.addDriving domain (Statement.settledAll machines statements)).statements.keys =
        before.statements.keys ++ [domain] := by
      rw [Table.keys, entries, List.map_append]
      rfl
    obtain ⟨after, ran, driven, listed⟩ := ih (fun entry mem ↦ settles entry (List.mem_cons_of_mem _ mem))
      (by rw [keys]; simpa using distinct) (driven.addDriving domain (Statement.settledAll machines statements))
    refine ⟨after, ?_, driven, ?_⟩
    · simp only [resolveDomains, resolved, bind, Except.bind]
      exact ran
    · rw [listed, entries]
      simp

/-- Clock domains change nothing that does not depend on them. -/
theorem view_foldl_addDomain {γ : Type} (view : Fragment → γ)
    (blind : ∀ (fragment : Fragment) (domains : Table String ClockDomain),
      view { fragment with domains := domains } = view fragment)
    (domains : List ClockDomain) (fragment : Fragment) :
    view (domains.foldl Fragment.addDomain fragment) = view fragment := by
  induction domains generalizing fragment with
  | nil => rfl
  | cons domain rest ih => exact (ih (fragment.addDomain domain)).trans (blind fragment _)

/-- A fragment once the indicators of the machines are driven as well. -/
def indicated (builder : Builder) (driving : Fragment) : Fragment :=
  if builder.indicators.isEmpty then driving else driving.addDriving combinational builder.indicators

/-- The fragment of a builder whose transitions all settle, if its parts elaborate. -/
theorem assemble_eq {builder : Builder} (platform : Option Platform)
    (settles : builder.statements.Holds fun _ leaf ↦ leaf.Settles builder.machines)
    (known : ∀ name id, builder.complete.get? name = some id → builder.Completed id) :
    match elaborateParts platform builder.parts (.empty builder.loc) with
    | .error failure => builder.assemble platform = .error failure
    | .ok _ => ∃ fragment, builder.assemble platform = .ok fragment ∧
        fragment.statements = builder.settledStatements ∧ fragment.Driven := by
  split
  · rename_i failure refused
    simp only [assemble, refused, bind, Except.bind]
  · rename_i parts elaborated
    obtain ⟨statements, drivers, -⟩ := elaborateParts_keeps elaborated
    have parts_driven : parts.Driven := by
      intro domain signal
      rw [statements, drivers]
      exact Fragment.driven_empty builder.loc domain signal
    have leaves : ∀ entry ∈ builder.statements.entries, ∀ leaf ∈ Statement.leavesAll entry.2,
        leaf.Settles builder.machines := by
      rintro ⟨domain, listed⟩ mem leaf inner
      apply settles domain leaf
      rw [Body.statementsOf_of_mem mem]
      exact inner
    have distinct : (parts.statements.keys ++ builder.statements.entries.map Prod.fst).Nodup := by
      rw [statements]
      exact builder.statements.distinct
    obtain ⟨resolved, ran, driven, entries⟩ := resolveDomains_of leaves distinct parts_driven
    have same : resolved.statements =
        builder.statements.map fun _ statements ↦ Statement.settledAll builder.machines statements := by
      apply Table.ext_entries
      rw [entries, statements]
      rfl
    set driving := builder.indicated resolved with driving_def
    have driving_driven : driving.Driven := by
      rw [driving_def, indicated]
      split
      · exact driven
      · exact driven.addDriving _ _
    have driving_statements : driving.statements = builder.settledStatements := by
      rw [driving_def, indicated, settledStatements, ← same]
      split
      · rfl
      · exact Fragment.statements_addDriving ..
    have kept := view_foldl_addDomain (fun fragment ↦ (fragment.statements, fragment.drivers))
      (fun _ _ ↦ rfl) builder.domains.values driving
    rw [Prod.mk.injEq] at kept
    obtain ⟨entered, entering, statements_kept, drivers_kept⟩ := enterMachines_keeps
      (fun entry mem ↦ (known entry.1 entry.2 ((Table.get?_eq_some_iff ..).2 mem)).imp fun _ found ↦ found.1)
      (builder.domains.values.foldl Fragment.addDomain driving)
    refine ⟨{ entered with diagnostics := builder.diagnostics }, ?_, ?_, ?_⟩
    · refine bind_eq_ok_iff.2 ⟨parts, elaborated, bind_eq_ok_iff.2 ⟨resolved, ran, ?_⟩⟩
      exact bind_eq_ok_iff.2 ⟨entered, entering, rfl⟩
    · calc entered.statements
          = (builder.domains.values.foldl Fragment.addDomain driving).statements := statements_kept
        _ = driving.statements := kept.1
        _ = builder.settledStatements := driving_statements
    · intro domain signal
      change signal ∈ (entered.drivers.get? domain).getD [] ↔
        signal ∈ Statement.targetsAll (entered.statements.statementsOf domain)
      rw [drivers_kept, kept.2, statements_kept, kept.1]
      exact driving_driven domain signal

/-- The machines of a fragment are those that were entered, as far as they are entered. -/
theorem enterMachines_congr {machines others : Arena Machine} {entries : List (String × MachineId)}
    (same : ∀ entry ∈ entries, others.get? entry.2 = machines.get? entry.2) {start other fragment last : Fragment}
    (level : other.machines = start.machines) (entered : enterMachines machines entries start = .ok fragment)
    (again : enterMachines others entries other = .ok last) : last.machines = fragment.machines := by
  induction entries generalizing start other with
  | nil =>
    rw [enterMachines, Except.ok.injEq] at entered again
    rw [← entered, ← again, level]
  | cons entry rest ih =>
    obtain ⟨name, id⟩ := entry
    have others_same := fun entry mem ↦ same entry (List.mem_cons_of_mem _ mem)
    have fetched : others.fetch id = machines.fetch id := by
      rw [Arena.fetch, Arena.fetch, same _ (List.mem_cons_self ..)]
    rw [enterMachines] at entered again
    rw [fetched] at again
    cases found : machines.fetch id with
    | error fault => simp [found] at entered
    | ok machine =>
      simp only [found] at entered again
      cases register : machine.register with
      | none =>
        simp only [register] at entered again
        exact ih others_same level entered again
      | some signal =>
        simp only [register] at entered again
        refine ih others_same ?_ entered again
        rw [Fragment.addMachine, Fragment.addMachine, level]

section View

/-! What depends on neither the statements of a fragment nor its drivers is left alone by them. -/

variable {γ : Type} (view : Fragment → γ)
  (blind : ∀ (fragment : Fragment) (statements : Body) (drivers : Table String (List Signal)),
    view { fragment with statements := statements, drivers := drivers } = view fragment)

include blind

theorem view_addDriving (fragment : Fragment) (domain : String) (statements : List Statement) :
    view (fragment.addDriving domain statements) = view fragment := by
  have kept : ∀ (signals : List Signal) (fragment : Fragment),
      view (signals.foldl (fun result signal ↦ result.addDriver signal domain) fragment) = view fragment := by
    intro signals
    induction signals with
    | nil => exact fun _ ↦ rfl
    | cons signal rest ih => exact fun fragment ↦ (ih (fragment.addDriver signal domain)).trans (blind fragment _ _)
  exact (kept ..).trans (blind fragment _ _)

theorem view_resolveDomains {machines : Arena Machine} {entries : List (String × List Statement)}
    {before after : Fragment} (resolved : resolveDomains machines entries before = .ok after) :
    view after = view before := by
  induction entries generalizing before with
  | nil =>
    rw [resolveDomains, Except.ok.injEq] at resolved
    rw [resolved]
  | cons entry rest ih =>
    obtain ⟨domain, statements⟩ := entry
    obtain ⟨settled, -, resolved⟩ := bind_eq_ok_iff.1 resolved
    rw [ih resolved, view_addDriving view blind]

end View

/-- The stages that a fragment has gone through: parts, statements, indicators, clock domains and machines. -/
theorem stages_of_assemble {builder : Builder} {platform : Option Platform} {fragment : Fragment}
    (assembled : builder.assemble platform = .ok fragment) : ∃ parts driving entered,
      elaborateParts platform builder.parts (.empty builder.loc) = .ok parts ∧
      resolveDomains builder.machines builder.statements.entries parts = .ok driving ∧
      enterMachines builder.machines builder.complete.entries
        (builder.domains.values.foldl Fragment.addDomain (builder.indicated driving)) = .ok entered ∧
      fragment = { entered with diagnostics := builder.diagnostics } := by
  obtain ⟨parts, elaborated, assembled⟩ := bind_eq_ok_iff.1 assembled
  obtain ⟨driving, resolved, assembled⟩ := bind_eq_ok_iff.1 assembled
  obtain ⟨entered, entering, assembled⟩ := bind_eq_ok_iff.1 assembled
  exact ⟨parts, driving, entered, elaborated, resolved, entering, (Except.ok.inj assembled).symm⟩

/-- A fragment starts with its parts and ends with its machines. -/
theorem steps_of_assemble {builder : Builder} {platform : Option Platform} {fragment : Fragment}
    (assembled : builder.assemble platform = .ok fragment) : ∃ parts start entered,
      elaborateParts platform builder.parts (.empty builder.loc) = .ok parts ∧ start.parts = parts.parts ∧
        start.machines = ∅ ∧ enterMachines builder.machines builder.complete.entries start = .ok entered ∧
          fragment = { entered with diagnostics := builder.diagnostics } := by
  obtain ⟨parts, driving, entered, elaborated, resolved, entering, same⟩ := stages_of_assemble assembled
  have rest : ∀ {γ : Type} (view : Fragment → γ),
      (∀ (fragment : Fragment) (statements : Body) (drivers : Table String (List Signal)),
        view { fragment with statements := statements, drivers := drivers } = view fragment) →
      view (builder.indicated driving) = view parts := by
    intro γ view blind
    rw [indicated]
    split
    · exact view_resolveDomains view blind resolved
    · exact (view_addDriving view blind ..).trans (view_resolveDomains view blind resolved)
  refine ⟨parts, _, entered, elaborated, ?_, ?_, entering, same⟩
  · exact (view_foldl_addDomain Fragment.parts (fun _ _ ↦ rfl) _ _).trans (rest Fragment.parts fun _ _ _ ↦ rfl)
  · have bare : parts.machines = ∅ := (elaborateParts_keeps elaborated).2.2
    rw [view_foldl_addDomain Fragment.machines (fun _ _ ↦ rfl)]
    exact (rest Fragment.machines fun _ _ _ ↦ rfl).trans bare

/-! ## Between the steps of a module -/

theorem Filed.settles {builder : Builder} {domain : String} {leaf : Statement} (filed : builder.Filed [] domain leaf) :
    leaf.Settles builder.machines := by
  cases leaf with
  | assign target source => trivial
  | property kind test name => trivial
  | switch test cases loc => trivial
  | transition id state loc =>
    obtain ⟨machine, found, -, known, complete⟩ := filed
    refine ⟨machine, found, ?_⟩
    obtain ⟨code, numbered⟩ := Option.isSome_iff_exists.1 ((Table.contains_iff_mem_keys ..).2 known)
    cases register : machine.register with
    | none => simpa using complete register
    | some signal => simp [Machine.assignment?, register, numbered]

theorem flushAll_of_atBody {builder : Builder} {behind : Option IfChain} (sound : builder.Sound)
    (place : builder.control.AtBody behind []) : Build.flushAll builder = .ok () builder.flushed := by
  have stale : builder.control.staleCount = builder.control.height := by
    rw [Control.staleCount, place.depth]
    rfl
  calc Build.flushAll builder
      = Build.closeFrames builder.control.height builder := rfl
    _ = Build.closeFrames builder.control.staleCount builder := by rw [stale]
    _ = Build.flush builder := rfl
    _ = .ok () builder.flushed := Build.flush_of_placed sound.stacked (.inl ⟨_, _, place⟩)

theorem Sound.settles_flushed {builder : Builder} {behind : Option IfChain} (sound : builder.Sound)
    (place : builder.control.AtBody behind []) :
    builder.flushed.statements.Holds fun _ leaf ↦ leaf.Settles builder.flushed.machines := by
  have filed := (sound.leads_flushed (.inl ⟨_, _, place⟩)).sound.filed
  rw [control_flushed sound.stacked place] at filed
  exact Body.Holds.mono filed fun _ _ filed ↦ filed.settles

/-- Between the steps of a module, elaboration is refused if and only if a part is. -/
theorem elaborate_eq {builder : Builder} {behind : Option IfChain} (sound : builder.Sound)
    (place : builder.control.AtBody behind []) (platform : Option Platform) :
    match elaborateParts platform builder.parts (.empty builder.loc) with
    | .error failure => builder.elaborate platform = .error failure
    | .ok _ => ∃ fragment, builder.elaborate platform = .ok fragment ∧
        fragment.statements = builder.flushed.settledStatements ∧ fragment.Driven := by
  have flushed := sound.leads_flushed (.inl ⟨_, _, place⟩)
  have assembled := assemble_eq platform (sound.settles_flushed place) flushed.sound.entered
  have run : builder.elaborate platform = builder.flushed.assemble platform := by
    simp only [elaborate, flushAll_of_atBody sound place]
  have parts : builder.flushed.parts = builder.parts := by
    rw [flushed_eq]
    rfl
  have loc : builder.flushed.loc = builder.loc := by rw [flushed_eq]
  rw [run, ← parts, ← loc]
  exact assembled

theorem Sound.isPlain_indicators {builder : Builder} (sound : builder.Sound) :
    builder.indicators.all Statement.isPlain = true := by
  apply List.all_eq_true.2
  intro statement mem
  obtain ⟨id, state, signal, source, rfl, -⟩ := sound.indicators statement mem
  rfl

theorem statements_of_elaborate {builder : Builder} {behind : Option IfChain} (sound : builder.Sound)
    (place : builder.control.AtBody behind []) {platform : Option Platform} {fragment : Fragment}
    (elaborated : builder.elaborate platform = .ok fragment) :
    fragment.statements = builder.flushed.settledStatements := by
  have made := elaborate_eq sound place platform
  split at made
  · rw [made] at elaborated
    contradiction
  · obtain ⟨other, again, statements, -⟩ := made
    rw [again, Except.ok.injEq] at elaborated
    rw [← elaborated, statements]

end Builder

/-- The fragment of a builder that can be elaborated. -/
def Builder.fragment? (builder : Builder) (platform : Option Platform) : Option Fragment :=
  (builder.elaborate platform).toOption

theorem Builder.elaborate_of_fragment? {builder : Builder} {platform : Option Platform} {fragment : Fragment}
    (made : builder.fragment? platform = some fragment) : builder.elaborate platform = .ok fragment := by
  unfold fragment? at made
  cases elaborated : builder.elaborate platform with
  | error failure => simp [elaborated, Except.toOption] at made
  | ok other =>
    rw [elaborated] at made
    exact congrArg Except.ok (Option.some.inj made)

/-- A builder at the level of its module, with no frame but that of a chain that may still go on. -/
theorem Control.Placed.atModule {control : Control} (placed : control.Placed) (level : control.depth = 0) :
    ∃ behind, control.AtBody behind [] := by
  rcases placed with ⟨behind, base, place⟩ | ⟨frame, base, place⟩
  · have none : base.length = 0 := by
      calc base.length
          = control.depth := place.depth.symm
        _ = 0 := level
    rw [List.length_eq_zero_iff.1 none] at place
    exact ⟨behind, place⟩
  · have depth := place.depth
    rw [level] at depth
    omega

/-! ## What programs come to -/

/-- The session in which all steps of a program have run, with the fragment of its module. -/
def Program.outcome? (program : Program) : Option (Session × Fragment) :=
  match runAll program.steps program.start with
  | .ok () session =>
    match session.builder.elaborate program.platform with
    | .ok fragment => some (session, fragment)
    | .error _ => none
  | .error _ _ => none

theorem Program.outcome?_eq_some {program : Program} {session : Session} {fragment : Fragment}
    (outcome : program.outcome? = some (session, fragment)) :
    runAll program.steps program.start = .ok () session ∧
      session.builder.elaborate program.platform = .ok fragment := by
  unfold outcome? at outcome
  split at outcome
  · rename_i ran
    split at outcome
    · rename_i elaborated
      rw [Option.some.injEq, Prod.mk.injEq] at outcome
      rw [← outcome.1, ← outcome.2]
      exact ⟨ran, elaborated⟩
    · simp at outcome
  · simp at outcome

theorem Program.outcome?_of_elaborate {program : Program} {session : Session} {fragment : Fragment}
    (ran : runAll program.steps program.start = .ok () session)
    (elaborated : session.builder.elaborate program.platform = .ok fragment) :
    program.outcome? = some (session, fragment) := by
  rw [outcome?, ran]
  simp only [elaborated]

theorem Reached.of_outcome? {program : Program} {session : Session} {fragment : Fragment}
    (outcome : program.outcome? = some (session, fragment)) : Reached session :=
  (Reached.start program).of_runAll (Program.outcome?_eq_some outcome).1

end RegisterTransfer
