import RegisterTransfer.Proofs.TransitionResolution
import Mathlib.Data.List.Induction

/-!
# The drivers of a fragment

The table of drivers is filled from two sources, the recorded statements of a domain after their transitions have been
resolved and the indicators of the machines, while the fragment lists the statements themselves. Both lists grow
together, so the table says of every domain which signals its statements write, each once and in the order of first
mention, and a domain that writes nothing is not in the table.
-/

namespace RegisterTransfer

/-! ## Lists without repetition -/

section OrderedUnion

variable {α : Type} [DecidableEq α]

/-- A list with an item behind it, unless the item is there. -/
def appendNew (items : List α) (item : α) : List α := if item ∈ items then items else items ++ [item]

theorem eraseDups_concat (items : List α) (item : α) :
    (items ++ [item]).eraseDups = appendNew items.eraseDups item := by
  rw [List.eraseDups_append, appendNew]
  by_cases mem : item ∈ items
  · rw [if_pos (List.mem_eraseDups.2 mem)]
    simp [List.removeAll, mem]
  · rw [if_neg fun listed ↦ mem (List.mem_eraseDups.1 listed)]
    simp [List.removeAll, mem, List.eraseDups_cons]

/-- Items that are added to a list without repetition one after the other, each unless it is there. -/
theorem foldl_appendNew (items new : List α) :
    new.foldl appendNew items.eraseDups = (items ++ new).eraseDups := by
  induction new using List.reverseRecOn with
  | nil => rw [List.append_nil, List.foldl_nil]
  | append_singleton earlier item ih =>
    rw [List.foldl_append, ih, List.foldl_cons, List.foldl_nil, ← List.append_assoc, eraseDups_concat]

/-- Whether repetitions are removed from what is added makes no difference. -/
theorem eraseDups_append_eraseDups (items new : List α) :
    (items ++ new.eraseDups).eraseDups = (items ++ new).eraseDups := by
  induction new using List.reverseRecOn with
  | nil => rw [List.eraseDups_nil]
  | append_singleton earlier item ih =>
    rw [eraseDups_concat earlier, appendNew, ← List.append_assoc, eraseDups_concat (items ++ earlier), appendNew]
    split
    · rename_i listed
      have mem : item ∈ (items ++ earlier).eraseDups :=
        List.mem_eraseDups.2 (List.mem_append_right _ (List.mem_eraseDups.1 listed))
      rw [ih, if_pos mem]
    · rw [← List.append_assoc, eraseDups_concat, ih, appendNew]

end OrderedUnion

/-! ## What a target writes -/

/-- An assignment to the value writes the signal: the value is the signal, joins a value that an assignment to writes
it, or is cut from one. -/
inductive Value.Writes : Value → Signal → Prop
  | signal (source : Signal) : Writes (.signal source) source
  | cat {part : Value} {parts : List Value} {source : Signal} : part ∈ parts → Writes part source →
      Writes (.cat parts) source
  | slice {value : Value} {source : Signal} (start stop : Nat) : Writes value source →
      Writes (.slice value start stop) source

namespace Value

mutual

theorem mem_targets_iff (source : Signal) : ∀ value : Value, source ∈ value.targets ↔ value.Writes source
  | .const constant => by
    constructor
    · intro mem
      simp [targets] at mem
    · rintro ⟨⟩
  | .signal other => by
    rw [targets, List.mem_singleton]
    constructor
    · rintro rfl
      exact .signal source
    · rintro ⟨⟩
      rfl
  | .operator op operands => by
    constructor
    · intro mem
      simp [targets] at mem
    · rintro ⟨⟩
  | .cat parts => by
    rw [targets, mem_targetsAll_iff source parts]
    constructor
    · rintro ⟨part, mem, writes⟩
      exact .cat mem writes
    · rintro (_ | ⟨mem, writes⟩)
      exact ⟨_, mem, writes⟩
  | .slice value start stop => by
    rw [targets, mem_targets_iff source value]
    constructor
    · exact .slice start stop
    · rintro (_ | _ | ⟨_, _, writes⟩)
      exact writes

theorem mem_targetsAll_iff (source : Signal) : ∀ values : List Value,
    source ∈ targetsAll values ↔ ∃ part ∈ values, part.Writes source
  | [] => by simp [targetsAll]
  | value :: rest => by
    rw [targetsAll, List.mem_append, mem_targets_iff source value, mem_targetsAll_iff source rest]
    simp

end

end Value

namespace Statement

theorem switch_notMem_leavesAll (test : Value) (cases : List (Case (List Statement))) (loc : Location)
    (statements : List Statement) : .switch test cases loc ∉ leavesAll statements := by
  induction statements using list_induction with
  | nil => simp [leavesAll]
  | cons statement rest bodies ih =>
    rw [leavesAll, List.mem_append, not_or]
    refine ⟨?_, ih⟩
    cases statement with
    | assign target source => simp [leaves]
    | property kind test name => simp [leaves]
    | transition id state loc => simp [leaves]
    | switch test cases loc =>
      rw [leaves, leavesCases_eq_flatMap, List.mem_flatMap]
      rintro ⟨branch, mem, inner⟩
      exact bodies branch.body (List.mem_map_of_mem mem) inner

/-- Statements write a signal exactly if an assignment in them does, however deep it is nested. -/
theorem mem_writtenAll_iff (statements : List Statement) (signal : Signal) :
    signal ∈ writtenAll statements ↔
      ∃ target source, .assign target source ∈ leavesAll statements ∧ target.Writes signal := by
  rw [writtenAll, List.mem_eraseDups, targetsAll_eq_leavesAll, List.mem_flatMap]
  constructor
  · rintro ⟨leaf, mem, written⟩
    cases leaf with
    | assign target source => exact ⟨target, source, mem, (Value.mem_targets_iff signal target).1 written⟩
    | property kind test name => simp [targets] at written
    | switch test cases loc => exact absurd mem (switch_notMem_leavesAll test cases loc statements)
    | transition id state loc => simp [targets] at written
  · rintro ⟨target, source, mem, writes⟩
    exact ⟨_, mem, (Value.mem_targets_iff signal target).2 writes⟩

end Statement

/-! ## The table of drivers -/

namespace Fragment

/-- What a table of drivers holds for a domain that drives the given signals. -/
def listed? (signals : List Signal) : Option (List Signal) := if signals = [] then none else some signals

/-- The drivers of every domain are the signals that its statements write, each once, in the order of first mention. -/
def Mirrored (fragment : Fragment) : Prop :=
  ∀ domain, fragment.drivers.get? domain =
    listed? (Statement.writtenAll (fragment.statements.statementsOf domain))

theorem mirrored_empty (loc : Location) : (Fragment.empty loc).Mirrored := by
  intro domain
  rfl

/-- Driving signals one after the other puts the new ones behind those that the domain drives. -/
theorem get?_foldl_addDriver (signals : List Signal) (domain other : String) (fragment : Fragment) :
    (signals.foldl (fun result signal ↦ result.addDriver signal domain) fragment).drivers.get? other =
      if other = domain ∧ signals ≠ [] then
        some (signals.foldl appendNew ((fragment.drivers.get? domain).getD []))
      else fragment.drivers.get? other := by
  induction signals generalizing fragment with
  | nil => simp
  | cons first rest ih =>
    have added : ∀ name, (fragment.addDriver first domain).drivers.get? name =
        if name = domain then some (appendNew ((fragment.drivers.get? domain).getD []) first)
        else fragment.drivers.get? name := fun name ↦ Table.get?_upsert ..
    rw [List.foldl_cons, ih, added domain, added other, if_pos rfl, Option.getD_some]
    by_cases same : other = domain
    · cases rest with
      | nil => simp [same]
      | cons second rest => simp [same]
    · simp [same]

/-- A domain that drives what its statements write does so with more statements. -/
theorem Mirrored.addDriving {fragment : Fragment} (mirrored : fragment.Mirrored) (domain : String)
    (statements : List Statement) : (fragment.addDriving domain statements).Mirrored := by
  intro other
  rw [statementsOf_addDriving, Fragment.addDriving, get?_foldl_addDriver]
  change (if other = domain ∧ Statement.writtenAll statements ≠ [] then
    some ((Statement.writtenAll statements).foldl appendNew ((fragment.drivers.get? domain).getD []))
    else fragment.drivers.get? other) = _
  by_cases same : other = domain
  · subst same
    have before : (fragment.drivers.get? other).getD [] =
        (Statement.targetsAll (fragment.statements.statementsOf other)).eraseDups := by
      rw [mirrored, listed?, Statement.writtenAll]
      split
      · rename_i none
        rw [none, Option.getD_none]
      · rw [Option.getD_some]
    have joined : (Statement.writtenAll statements).foldl appendNew ((fragment.drivers.get? other).getD []) =
        Statement.writtenAll (fragment.statements.statementsOf other ++ statements) := by
      rw [before, foldl_appendNew, Statement.writtenAll, eraseDups_append_eraseDups, Statement.writtenAll,
        Statement.targetsAll_append]
    rw [if_pos rfl]
    by_cases none : Statement.writtenAll statements = []
    · rw [if_neg fun nonempty ↦ nonempty.2 none, ← joined, none, List.foldl_nil, before, mirrored]
      rfl
    · have nonempty : Statement.writtenAll (fragment.statements.statementsOf other ++ statements) ≠ [] := by
        obtain ⟨signal, mem⟩ := List.exists_mem_of_ne_nil _ none
        rw [Statement.writtenAll, List.mem_eraseDups] at mem
        have kept : signal ∈ Statement.writtenAll (fragment.statements.statementsOf other ++ statements) := by
          rw [Statement.writtenAll, List.mem_eraseDups, Statement.targetsAll_append]
          exact List.mem_append_right _ mem
        exact List.ne_nil_of_mem kept
      rw [if_pos ⟨rfl, none⟩, joined, listed?, if_neg nonempty]
  · rw [if_neg fun both ↦ same both.1, if_neg same, mirrored]

end Fragment

/-! ## From the builder to the fragment -/

namespace Builder

variable {machines : Arena Machine}

/-- Each domain gets what was recorded for it, its transitions replaced by their assignments. -/
theorem resolveDomains_mirrored {entries : List (String × List Statement)} {before after : Fragment}
    (resolved : resolveDomains machines entries before = .ok after) (mirrored : before.Mirrored) :
    after.Mirrored ∧ (∀ entry ∈ entries, ∀ leaf ∈ Statement.leavesAll entry.2, leaf.Settles machines) ∧
      ∀ domain, after.statements.statementsOf domain = before.statements.statementsOf domain ++
        (entries.filter fun entry ↦ entry.1 = domain).flatMap fun entry ↦ Statement.settledAll machines entry.2 := by
  induction entries generalizing before with
  | nil =>
    rw [resolveDomains, Except.ok.injEq] at resolved
    subst resolved
    simpa using mirrored
  | cons entry rest ih =>
    obtain ⟨name, statements⟩ := entry
    obtain ⟨settled, here, resolved⟩ := bind_eq_ok_iff.1 resolved
    rw [Statement.statements_eq_barring, Resolution.barring_eq_ok_iff] at here
    obtain ⟨stops, rfl⟩ := here
    obtain ⟨last, settles, filed⟩ := ih resolved (mirrored.addDriving name (Statement.settledAll machines statements))
    refine ⟨last, ?_, fun domain ↦ ?_⟩
    · intro entry mem
      rcases List.mem_cons.1 mem with rfl | mem
      · exact (Statement.firstObstacle?_eq_none_iff ..).1 stops
      · exact settles entry mem
    · rw [filed, Fragment.statementsOf_addDriving]
      by_cases same : domain = name
      · simp [same]
      · simp [same, Ne.symm same]

theorem statements_of_enterMachines {entries : List (String × MachineId)} {before after : Fragment}
    (entered : enterMachines machines entries before = .ok after) :
    after.statements = before.statements ∧ after.drivers = before.drivers := by
  induction entries generalizing before with
  | nil =>
    rw [enterMachines, Except.ok.injEq] at entered
    rw [entered]
    exact ⟨rfl, rfl⟩
  | cons entry rest ih =>
    obtain ⟨name, id⟩ := entry
    rw [enterMachines] at entered
    split at entered
    · contradiction
    · split at entered
      · exact ih entered
      · have kept := ih entered
        exact kept

/-- The one entry of a body for a domain holds the statements of the domain. -/
theorem flatMap_settledAll_filter (body : Body) (domain : String) :
    ((body.entries.filter fun entry ↦ entry.1 = domain).flatMap fun entry ↦
      Statement.settledAll machines entry.2) = Statement.settledAll machines (body.statementsOf domain) := by
  rw [Table.filter_entries, Body.statementsOf]
  cases body.get? domain with
  | none => rfl
  | some statements => simp

/-- What an assembled fragment says and drives is resolved from what was recorded, behind the parts, and ends with the
indicators. -/
theorem assembled_from {builder : Builder} {platform : Option Platform} {fragment : Fragment}
    (assembled : builder.assemble platform = .ok fragment) : ∃ parts driving,
      elaborateParts platform builder.parts (.empty builder.loc) = .ok parts ∧
      resolveDomains builder.machines builder.statements.entries parts = .ok driving ∧
      (fragment.statements, fragment.drivers) =
        if builder.indicators.isEmpty then (driving.statements, driving.drivers) else
          ((driving.addDriving combinational builder.indicators).statements,
            (driving.addDriving combinational builder.indicators).drivers) := by
  obtain ⟨parts, driving, entered, elaborated, resolved, entering, rfl⟩ := stages_of_assemble assembled
  obtain ⟨statements, drivers⟩ := statements_of_enterMachines entering
  have kept := view_foldl_addDomain (fun fragment ↦ (fragment.statements, fragment.drivers)) (fun _ _ ↦ rfl)
    builder.domains.values (builder.indicated driving)
  refine ⟨parts, driving, elaborated, resolved, (Prod.ext statements drivers).trans (kept.trans ?_)⟩
  rw [indicated]
  split <;> rfl

/-- A fragment that is assembled drives what it says, and what it says is what was recorded. -/
theorem assemble_mirrored {builder : Builder} {platform : Option Platform} {fragment : Fragment}
    (assembled : builder.assemble platform = .ok fragment) :
    fragment.Mirrored ∧ (builder.statements.Holds fun _ leaf ↦ leaf.Settles builder.machines) ∧
      ∀ domain, fragment.statements.statementsOf domain = builder.settledStatements.statementsOf domain := by
  obtain ⟨parts, driving, elaborated, resolved, made⟩ := assembled_from assembled
  obtain ⟨bare, undriven, -⟩ := elaborateParts_keeps elaborated
  have start : parts.Mirrored := by
    intro domain
    rw [bare, undriven]
    exact Fragment.mirrored_empty builder.loc domain
  obtain ⟨mirrored, settles, filed⟩ := resolveDomains_mirrored resolved start
  have recorded : ∀ domain, driving.statements.statementsOf domain =
      Statement.settledAll builder.machines (builder.statements.statementsOf domain) := by
    intro domain
    rw [filed, flatMap_settledAll_filter, bare]
    rfl
  have holds : builder.statements.Holds fun _ leaf ↦ leaf.Settles builder.machines := by
    intro domain leaf mem
    cases listed : builder.statements.get? domain with
    | none => simp [Body.statementsOf, listed, Statement.leavesAll] at mem
    | some statements =>
      rw [Body.statementsOf, listed, Option.getD_some] at mem
      exact settles _ ((Table.get?_eq_some_iff ..).1 listed) leaf mem
  by_cases none : builder.indicators.isEmpty = true
  · rw [if_pos none, Prod.mk.injEq] at made
    refine ⟨fun domain ↦ ?_, holds, fun domain ↦ ?_⟩
    · rw [made.1, made.2]
      exact mirrored domain
    · rw [made.1, statementsOf_settledStatements, recorded, List.isEmpty_iff.1 none, ite_self, List.append_nil]
  · rw [if_neg none, Prod.mk.injEq] at made
    refine ⟨fun domain ↦ ?_, holds, fun domain ↦ ?_⟩
    · rw [made.1, made.2]
      exact mirrored.addDriving combinational builder.indicators domain
    · rw [made.1, statementsOf_settledStatements, Fragment.statementsOf_addDriving, recorded, recorded]
      by_cases same : domain = combinational
      · rw [if_pos same, if_pos same, same]
      · rw [if_neg same, if_neg same, List.append_nil]

/-! ## Indicators of complete machines -/

/-- The indicators of every complete machine are assigned. -/
def Indicates (builder : Builder) : Prop :=
  ∀ id machine, builder.machines.get? id = some machine → machine.Proper id ∧
    ∀ register, machine.register = some register → ∀ entry ∈ machine.indicators.entries,
      Machine.indication register machine.encoding entry ∈ builder.indicators

theorem Sound.indicates {builder : Builder} (sound : builder.Sound) : builder.Indicates := by
  intro id machine found
  have proper := sound.proper id machine found
  refine ⟨proper, fun register complete entry mem ↦ ?_⟩
  obtain ⟨state, signal⟩ := entry
  have mentioned := (proper.listed state).1 (Table.mem_keys_of_mem_entries mem)
  obtain ⟨code, numbered⟩ := Table.exists_get?_of_mem_keys mentioned
  have assigned : builder.indicators.filter (Machine.indicates id state) =
      [Machine.indication register machine.encoding (state, Machine.indicator id machine.name state)] := by
    rw [sound.assigned, found, Option.map_some, Option.getD_some, Machine.indications, complete, numbered]
  rw [proper.indicators state signal mem]
  have listed := List.mem_singleton_self
    (Machine.indication register machine.encoding (state, Machine.indicator id machine.name state))
  rw [← assigned] at listed
  exact (List.mem_filter.1 listed).1

/-- Where nothing is done to the machines and their indicators, these stay assigned. -/
theorem Indicates.congr {before after : Builder} (indicates : before.Indicates)
    (machines : after.machines = before.machines) (indicators : after.indicators = before.indicators) :
    after.Indicates := by
  rw [Indicates, machines, indicators]
  exact indicates

/-- A machine that closes assigns its indicators. -/
theorem Indicates.closed {builder : Builder} (indicates : builder.Indicates) {id : MachineId} {machine : Machine}
    {loc : Location} {closing : Machine.Closing} (found : builder.machines.get? id = some machine)
    (closed : machine.close id loc = .ok closing) :
    Indicates { builder with
      machines := builder.machines.modify id fun _ ↦ closing.machine
      indicators := builder.indicators ++ closing.indicators } := by
  intro other later present
  have proper := (indicates id machine found).1
  obtain ⟨register, encoding, closes⟩ := proper.closes_of_close closed
  dsimp only at present ⊢
  rw [Arena.get?_modify] at present
  split at present
  · rename_i same
    rw [found, Option.map_some, Option.some.injEq] at present
    subst same
    subst present
    refine ⟨closes.keeps_proper proper, fun signal complete entry mem ↦ ?_⟩
    rw [closes.after] at complete mem ⊢
    rw [Option.some.injEq] at complete
    subst complete
    apply List.mem_append_right
    rw [closes.indicators]
    exact List.mem_map_of_mem mem
  · obtain ⟨known, assigned⟩ := indicates other later present
    exact ⟨known, fun signal complete entry mem ↦ List.mem_append_left _ (assigned signal complete entry mem)⟩

theorem Indicates.closeTop {builder : Builder} (indicates : builder.Indicates) :
    Ends Build.closeTop builder ⟨fun _ after ↦ after.Indicates, fun _ _ ↦ True⟩ := by
  simp only [Build.closeTop, ends_bind, ends_get]
  cases popped : builder.control.pop? with
  | none => exact indicates
  | some top =>
    obtain ⟨frame, control⟩ := top
    simp only [ends_bind, ends_modify]
    have filed : ∀ branches (later : Builder), later.Indicates →
        Ends (Build.appendBranches branches) later ⟨fun _ after ↦ after.Indicates, fun _ _ ↦ True⟩ := by
      intro branches later held
      rw [Ends, Build.appendBranches_eq]
      exact held.congr rfl rfl
    cases frame with
    | chain chain =>
      rw [Build.lowerFrame, Build.ends_sound]
      exact fun branches _ ↦ filed branches _ (indicates.congr rfl rfl)
    | switch switch => exact filed _ _ (indicates.congr rfl rfl)
    | machine id loc =>
      simp only [Build.lowerFrame, ends_bind, ends_get, Build.ends_sound, Build.ends_settled, ends_modify, ends_pure]
      intro machine fetched
      have found := (Arena.fetch_eq_ok_iff ..).1 fetched
      refine ⟨fun closing closed ↦ ?_, fun _ _ ↦ trivial⟩
      exact filed _ _ ((indicates.closed found closed).congr rfl rfl)

theorem Indicates.closeFrames (count : Nat) {builder : Builder} (indicates : builder.Indicates) :
    Ends (Build.closeFrames count) builder ⟨fun _ after ↦ after.Indicates, fun _ _ ↦ True⟩ := by
  induction count generalizing builder with
  | zero => exact indicates
  | succ count ih =>
    rw [Build.closeFrames, ends_bind]
    exact indicates.closeTop.mono (fun _ _ closed ↦ ih closed) fun _ _ _ ↦ trivial

end Builder

/-- In a fragment, the table of drivers lists for every domain the signals that its statements write, each once and in
the order of first mention, and leaves out a domain that writes none. A signal is written exactly by the assignments to
it or to a value that is joined or cut from it, at any depth of branches. Among them are the assignments that the
transitions of the closed module have become, and, in the combinational domain, those of the indicators of its complete
machines. -/
theorem Reached.drivers_mirrored {session : Session} (reached : Reached session) {platform : Option Platform}
    {fragment : Fragment} (elaborated : session.builder.elaborate platform = .ok fragment) (domain : String) :
    fragment.drivers.get? domain =
        (if Statement.writtenAll (fragment.statements.statementsOf domain) = [] then none
        else some (Statement.writtenAll (fragment.statements.statementsOf domain))) ∧
    (∀ signal, signal ∈ Statement.writtenAll (fragment.statements.statementsOf domain) ↔
      ∃ target source, .assign target source ∈ Statement.leavesAll (fragment.statements.statementsOf domain) ∧
        target.Writes signal) ∧
    ∃ closed, Build.flushAll session.builder = .ok () closed ∧
      fragment.statements.statementsOf domain =
        Statement.settledAll closed.machines (closed.statements.statementsOf domain) ++
          (if domain = combinational then closed.indicators else []) ∧
      (∀ id state loc, .transition id state loc ∈ Statement.leavesAll (closed.statements.statementsOf domain) →
        ∃ machine register, closed.machines.get? id = some machine ∧ machine.register = some register ∧
          register ∈ Statement.writtenAll (fragment.statements.statementsOf domain)) ∧
      (domain = combinational → ∀ id machine, closed.machines.get? id = some machine →
        machine.register.isSome = true → ∀ state signal, machine.indicators.get? state = some signal →
          signal ∈ Statement.writtenAll (fragment.statements.statementsOf domain)) := by
  rw [Builder.elaborate] at elaborated
  split at elaborated
  · rename_i closed ended
    obtain ⟨mirrored, settles, filed⟩ := Builder.assemble_mirrored elaborated
    have content := filed domain
    rw [Builder.statementsOf_settledStatements] at content
    refine ⟨mirrored domain, Statement.mem_writtenAll_iff _, closed, ended, content, ?_, ?_⟩
    · intro id state loc mem
      obtain ⟨machine, register, code, found, complete, -, becomes⟩ := (settles domain _ mem).settled_eq
      refine ⟨machine, register, found, complete, ?_⟩
      have assigned := List.mem_map_of_mem (f := Statement.settled closed.machines) mem
      rw [becomes, ← Statement.leavesAll_settledAll] at assigned
      rw [Statement.mem_writtenAll_iff, content, Statement.leavesAll_append]
      exact ⟨_, _, List.mem_append_left _ assigned, .signal register⟩
    · rintro rfl id machine found complete state signal listed
      obtain ⟨register, complete⟩ := Option.isSome_iff_exists.1 complete
      have indicates : closed.Indicates := (reached.sound.1.indicates.closeFrames _).of_ok ended
      have assigned := (indicates id machine found).2 register complete _ ((Table.get?_eq_some_iff ..).1 listed)
      rw [content, if_pos rfl, Statement.writtenAll, List.mem_eraseDups, Statement.targetsAll_append,
        Statement.targetsAll_eq_flatMap closed.indicators]
      apply List.mem_append_right
      rw [List.mem_flatMap]
      exact ⟨_, assigned, List.mem_singleton_self signal⟩
  · contradiction

/-! ## A machine beside a joined target -/

/-- A machine that goes on inside of a branch, and an assignment to a word of two bits and a bit cut from another. -/
def joinedTargets : Program where
  settings := {}
  loc := ⟨"design", 0, 1⟩
  steps := [
    ⟨.machine none none none "m" [⟨.state "A" [⟨.ifThen (.literal (.signal word)) [
      ⟨.goto "A", "next", ⟨"design", 4, 1⟩, false⟩], "if", ⟨"design", 3, 1⟩, false⟩], "state", ⟨"design", 2, 1⟩,
      false⟩], "fsm", ⟨"design", 1, 1⟩, false⟩,
    ⟨.switch (.literal (.signal word)) [⟨.default [⟨.add combinational [
      .property .assert (.literal (.signal word)) none,
      .assign (.cat [.literal (.signal word), .slice (.literal (.signal other)) 0 1]) (.literal (.signal word))],
      "comb", ⟨"design", 7, 1⟩, false⟩], "default", ⟨"design", 6, 1⟩, false⟩], "switch", ⟨"design", 5, 1⟩, false⟩]
  platform := none
where
  word : Signal := ⟨.declared "word", "word", .unsigned 2, 0, none⟩
  other : Signal := ⟨.declared "other", "other", .unsigned 2, 0, none⟩
  indicator : Signal := Machine.indicator ⟨0, 0⟩ "fsm" "A"
  register : Signal := Machine.stateRegister ⟨0, 0⟩ "fsm" (Machine.numbered ["A"])

theorem joinedTargets_drivers : ∃ session fragment, Reached session ∧
    session.builder.elaborate none = .ok fragment ∧
    Statement.writtenAll (fragment.statements.statementsOf combinational) =
      [joinedTargets.word, joinedTargets.other, joinedTargets.indicator] ∧
    Statement.writtenAll (fragment.statements.statementsOf synchronous) = [joinedTargets.register] ∧
    ∃ target source,
      .assign target source ∈ Statement.leavesAll (fragment.statements.statementsOf combinational) ∧
      target.Writes joinedTargets.other := by
  have computed : joinedTargets.outcome?.any (fun outcome ↦ decide (
      outcome.2.drivers.get? combinational =
        some [joinedTargets.word, joinedTargets.other, joinedTargets.indicator] ∧
      outcome.2.drivers.get? synchronous = some [joinedTargets.register])) = true := by decide +kernel
  obtain ⟨⟨session, fragment⟩, outcome, listed⟩ := (Option.any_eq_true _ _).1 computed
  obtain ⟨comb, sync⟩ := of_decide_eq_true listed
  have reached := Reached.of_outcome? outcome
  have elaborated := (Program.outcome?_eq_some outcome).2
  have written : ∀ domain signals, fragment.drivers.get? domain = some signals →
      Statement.writtenAll (fragment.statements.statementsOf domain) = signals := by
    intro domain signals drives
    rw [(reached.drivers_mirrored elaborated domain).1] at drives
    split at drives
    · simp at drives
    · exact Option.some.inj drives
  have both := written _ _ comb
  refine ⟨session, fragment, reached, elaborated, both, written _ _ sync, ?_⟩
  apply ((reached.drivers_mirrored elaborated combinational).2.1 joinedTargets.other).1
  rw [both]
  decide

end RegisterTransfer
