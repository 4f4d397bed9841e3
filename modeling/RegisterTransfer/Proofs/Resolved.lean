import RegisterTransfer.Proofs.Parts

/-!
# Resolved fragments

By the time a module is elaborated, every transition that is still filed belongs to a complete machine that has the
state, so that all of them become assignments. Nothing but a part can keep a module from being elaborated.
-/

namespace RegisterTransfer

/-- What is left of statements that settle are assignments and property checks. -/
theorem Statement.isPlain_of_settledAll {machines : Arena Machine} {statements : List Statement}
    (settles : ∀ leaf ∈ leavesAll statements, leaf.Settles machines) :
    ∀ leaf ∈ leavesAll (settledAll machines statements), leaf.isPlain = true := by
  induction statements using list_induction with
  | nil => simp [settledAll, leavesAll]
  | cons statement rest bodies ih =>
    rw [leavesAll] at settles
    have first : ∀ leaf ∈ (statement.settled machines).leaves, leaf.isPlain = true := by
      cases statement with
      | assign target source => simp [settled, leaves, isPlain]
      | property kind test name => simp [settled, leaves, isPlain]
      | switch test cases loc =>
        intro leaf mem
        rw [settled, leaves, settledCases_eq_map, leavesCases_eq_flatMap, List.flatMap_map, List.mem_flatMap] at mem
        obtain ⟨branch, listed, inner⟩ := mem
        refine bodies branch.body (List.mem_map_of_mem listed) (fun other within ↦ ?_) leaf inner
        apply settles other (List.mem_append_left _ _)
        rw [leaves, leavesCases_eq_flatMap, List.mem_flatMap]
        exact ⟨branch, listed, within⟩
      | transition id state loc =>
        obtain ⟨machine, found, numbered⟩ := settles _ (List.mem_append_left _ (List.mem_singleton.2 rfl))
        obtain ⟨assignment, same⟩ := Option.isSome_iff_exists.1 numbered
        have assigns : assignment.isPlain = true ∧ assignment.leaves = [assignment] := by
          unfold Machine.assignment? at same
          split at same
          · rw [Option.some.injEq] at same
            subst same
            exact ⟨rfl, rfl⟩
          · contradiction
        rw [settled, found, Option.bind_some, same, Option.getD_some, assigns.2]
        simpa using assigns.1
    intro leaf mem
    rw [settledAll, leavesAll, List.mem_append] at mem
    rcases mem with mem | mem
    · exact first leaf mem
    · exact ih (fun other within ↦ settles other (List.mem_append_right _ within)) leaf mem

namespace Builder

theorem isPlain_of_settledStatements {builder : Builder} {behind : Option IfChain} (sound : builder.Sound)
    (place : builder.control.AtBody behind []) (domain : String) :
    ∀ leaf ∈ Statement.leavesAll (builder.flushed.settledStatements.statementsOf domain), leaf.isPlain = true := by
  have flushed := (sound.leads_flushed (.inl ⟨_, _, place⟩)).sound
  intro leaf mem
  rw [statementsOf_settledStatements, Statement.leavesAll_append, List.mem_append] at mem
  rcases mem with mem | mem
  · exact Statement.isPlain_of_settledAll (sound.settles_flushed place domain) leaf mem
  · have plain : ∀ statement ∈ if domain = combinational then builder.flushed.indicators else [],
        statement.isPlain = true := by
      intro statement listed
      split at listed
      · obtain ⟨id, state, signal, source, rfl, -⟩ := flushed.indicators statement listed
        rfl
      · contradiction
    rw [Statement.leavesAll_of_isPlain (List.all_eq_true.2 plain)] at mem
    exact plain leaf mem

theorem parts_of_enterMachines {machines : Arena Machine} {entries : List (String × MachineId)}
    {before after : Fragment} (entered : enterMachines machines entries before = .ok after) :
    after.parts = before.parts := by
  induction entries generalizing before with
  | nil =>
    rw [enterMachines, Except.ok.injEq] at entered
    rw [entered]
  | cons entry rest ih =>
    rw [enterMachines] at entered
    split at entered
    · contradiction
    · split at entered
      · exact ih entered
      · have kept := ih entered
        exact kept

/-- A fragment has one part for every part of the module, in their order. -/
theorem parts_of_elaborate {builder : Builder} {behind : Option IfChain} (sound : builder.Sound)
    (place : builder.control.AtBody behind []) {platform : Option Platform} {fragment : Fragment}
    (elaborated : builder.elaborate platform = .ok fragment) :
    List.Forall₂ (Becomes platform) builder.parts fragment.parts := by
  have assembled : builder.flushed.assemble platform = .ok fragment := by
    rw [← elaborated, elaborate, flushAll_of_atBody sound place]
  obtain ⟨last, start, entered, parts, kept, -, entering, rfl⟩ := steps_of_assemble assembled
  obtain ⟨made, listed, becomes⟩ := parts_of_elaborateParts parts
  have same : entered.parts = made := by
    calc entered.parts
        = start.parts := parts_of_enterMachines entering
      _ = last.parts := kept
      _ = made := listed
  have known : builder.flushed.parts = builder.parts := by
    rw [flushed_eq]
    rfl
  rw [known] at becomes
  exact same ▸ becomes

end Builder

/-! ## The order of parts -/

section Order

variable {session later : Session} {loc : Location}

/-- Whatever is called, the parts of the module stay in front of those that the call adds. -/
theorem runCall_retains (loc : Location) (call : Call (List Step)) :
    Run.Keeps (fun session later ↦ session.builder.Retains (fun _ ↦ True) later.builder) (runCall loc call) := by
  have adding : Adding (fun session later ↦ session.builder.Retains (fun _ ↦ True) later.builder) fun _ ↦ True :=
    adding_retains fun _ _ _ _ _ ↦ trivial
  exact runCall_keeps adding loc (fun body _ ↦ keeps_steps adding body fun _ _ ↦ trivial) fun _ _ _ ↦ trivial

theorem joins_of_component {name : Option String} {component : Component} {answer : Answer}
    (returned : runCall loc (.component name component) session = .ok answer later) :
    session.builder.Joins name component loc later.builder.namedParts later.builder.anonymousParts := by
  have ends : Ends (runCall loc (.component name component)) session ⟨fun _ after ↦
      session.builder.Joins name component loc after.builder.namedParts after.builder.anonymousParts,
      fun _ _ ↦ True⟩ := by
    simp only [runCall, ends_bind, Run.ends_build, ends_pure]
    exact Build.addPart_ends _ _ _ (fun named anonymous joins ↦ joins) fun _ ↦ trivial
  exact Ends.of_ok returned ends

/-- A module is added as what its own steps have come to. -/
theorem joins_of_module {name : Option String} {settings : Settings} {body : List Step} {answer : Answer}
    (reached : Reached session) (returned : runCall loc (.module name settings body) session = .ok answer later) :
    ∃ inner : Session, Reached inner ∧ inner.builder.control.depth = 0 ∧
      session.builder.Joins name inner.builder.toComponent loc later.builder.namedParts
        later.builder.anonymousParts := by
  have ends : Ends (runCall loc (.module name settings body)) session ⟨fun _ after ↦ ∃ inner : Session,
      Reached inner ∧ inner.builder.control.depth = 0 ∧ session.builder.Joins name inner.builder.toComponent loc
        after.builder.namedParts after.builder.anonymousParts, fun _ _ ↦ True⟩ := by
    simp only [runCall, Run.module, ends_bind, ends_get, ends_modify, Run.ends_build, ends_pure]
    set entered : Session :=
      { session with builder := .start settings session.started loc, started := session.started + 1 }
    have enters : Call.enter loc (.module name settings body) = some (modify fun session ↦ { session with
        builder := .start settings session.started loc
        started := session.started + 1 }) := rfl
    have started : Reached entered := .entered reached enters rfl
    have proceeds := (proceed body).2 entered (Builder.sound_start ..) (Builder.placed_start ..)
    refine ((Ends.self (runAll body) entered).and proceeds).mono ?_ fun _ _ impossible ↦ impossible.2.elim
    rintro _ inner ⟨ran, stays⟩
    refine Build.addPart_ends _ _ _ (fun named anonymous joins ↦ ?_) fun _ ↦ trivial
    exact ⟨inner, started.of_runAll ran, stays.level.depth, joins⟩
  exact Ends.of_ok returned ends

end Order

/-- A module fails to elaborate exactly if one of its parts does, and then like the first that does. Otherwise its
fragment has one part for each of them, and no transition is left in it at any depth. The parts come in the order in
which they were added, those with a name in front. -/
theorem Reached.elaboration_resolved {session : Session} (reached : Reached session) :
    (session.builder.control.depth = 0 → ∀ platform,
      (∀ failure, session.builder.elaborate platform = .error failure ↔
        Builder.FirstFails platform session.builder.parts failure) ∧
      ∀ fragment, session.builder.elaborate platform = .ok fragment →
        List.Forall₂ (Builder.Becomes platform) session.builder.parts fragment.parts ∧
          ∀ domain, ∀ leaf ∈ Statement.leavesAll (fragment.statements.statementsOf domain), leaf.isPlain = true) ∧
    (∀ loc call later, (∃ answer, runCall loc call session = .ok answer later) ∨
        (∃ error, runCall loc call session = .error (.refused error) later) →
      session.builder.namedParts.entries <+: later.builder.namedParts.entries ∧
        session.builder.anonymousParts <+: later.builder.anonymousParts) ∧
    (∀ loc name component answer later, runCall loc (.component name component) session = .ok answer later →
      session.builder.Joins name component loc later.builder.namedParts later.builder.anonymousParts) ∧
    ∀ loc name settings body answer later, runCall loc (.module name settings body) session = .ok answer later →
      ∃ inner : Session, Reached inner ∧ inner.builder.control.depth = 0 ∧
        session.builder.Joins name inner.builder.toComponent loc later.builder.namedParts
          later.builder.anonymousParts := by
  obtain ⟨sound, placed⟩ := reached.sound
  refine ⟨fun level platform ↦ ?_, fun loc call later ended ↦ ?_,
    fun loc name component answer later returned ↦ joins_of_component returned,
    fun loc name settings body answer later returned ↦ joins_of_module reached returned⟩
  · obtain ⟨behind, place⟩ := placed.atModule level
    refine ⟨Builder.elaborate_eq_error_iff sound place, fun fragment made ↦ ?_⟩
    refine ⟨Builder.parts_of_elaborate sound place made, ?_⟩
    rw [Builder.statements_of_elaborate sound place made]
    exact Builder.isPlain_of_settledStatements sound place
  · have keeps := runCall_retains loc call session
    have retains : session.builder.Retains (fun _ ↦ True) later.builder := by
      rcases ended with ⟨answer, returned⟩ | ⟨error, refused⟩
      · exact Ends.of_ok returned keeps
      · exact Ends.of_refused refused keeps
    exact ⟨retains.named.imp fun _ added ↦ added.1.symm, retains.anonymous.imp fun _ added ↦ added.1.symm⟩

/-! ## Parts with and without names -/

/-- A module with three parts, the second of them a module with a transition. For a platform named like the
combinational domain, the other two fail. -/
def mixedParts : Program where
  settings := {}
  loc := ⟨"design", 0, 1⟩
  steps := [
    ⟨.component none (.clockOfPlatform ⟨"clock", 1, 1⟩), "submodule", ⟨"design", 1, 1⟩, false⟩,
    ⟨.module (some "counter") {} [
      ⟨.machine none none none "m" [⟨.state "A" [⟨.goto "A", "next", ⟨"design", 5, 1⟩, false⟩], "state",
        ⟨"design", 4, 1⟩, false⟩], "fsm", ⟨"design", 3, 1⟩, false⟩], "module", ⟨"design", 2, 1⟩, false⟩,
    ⟨.component (some "clock") (.clockOfPlatform ⟨"clock", 1, 1⟩), "submodule", ⟨"design", 6, 1⟩, false⟩]
  platform := none

theorem mixedParts_outcome : ∃ session fragment, mixedParts.outcome? = some (session, fragment) ∧
    session.builder.control.depth = 0 ∧ fragment.parts.map Part.name = [some "counter", some "clock", none] ∧
      (session.builder.elaborate (some ⟨combinational⟩)).toOption = none := by
  have computed : mixedParts.outcome?.any (fun outcome ↦ decide (outcome.1.builder.control.depth = 0 ∧
      outcome.2.parts.map Part.name = [some "counter", some "clock", none]) &&
      (outcome.1.builder.elaborate (some ⟨combinational⟩)).toOption.isNone) = true := by decide +kernel
  obtain ⟨⟨session, fragment⟩, outcome, holds⟩ := (Option.any_eq_true _ _).1 computed
  rw [Bool.and_eq_true, Option.isNone_iff_eq_none, decide_eq_true_iff] at holds
  exact ⟨session, fragment, outcome, holds.1.1, holds.1.2, holds.2⟩

theorem mixedParts_resolved : ∃ session fragment failure, Reached session ∧
    session.builder.elaborate none = .ok fragment ∧
    fragment.parts.map Part.name = [some "counter", some "clock", none] ∧
    List.Forall₂ (Builder.Becomes none) session.builder.parts fragment.parts ∧
    session.builder.elaborate (some ⟨combinational⟩) = .error failure ∧
    Builder.FirstFails (some ⟨combinational⟩) session.builder.parts failure := by
  obtain ⟨session, fragment, outcome, level, names, fails⟩ := mixedParts_outcome
  have reached := Reached.of_outcome? outcome
  have made := (Program.outcome?_eq_some outcome).2
  have resolved := reached.elaboration_resolved.1 level
  cases failed : session.builder.elaborate (some ⟨combinational⟩) with
  | ok other => simp [failed, Except.toOption] at fails
  | error failure =>
    exact ⟨session, fragment, failure, reached, made, names, ((resolved none).2 fragment made).1, failed,
      ((resolved _).1 failure).1 failed⟩

end RegisterTransfer
