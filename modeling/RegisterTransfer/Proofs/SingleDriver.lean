import RegisterTransfer.Proofs.Elaboration

/-!
# One driver for every signal

What a description assigns itself is claimed in the table of drivers, and an assignment from a second domain is
refused. The signals that a state machine drives on its own account never enter the table: its indicators, which
are combinational, and its register. A description that assigns one of them from another domain is accepted, and
these are the only signals that two domains of a fragment can drive.
-/

namespace RegisterTransfer

/-! ## Refused claims -/

namespace Build

/-- Statements that write a signal of another domain are refused, whatever else they write. -/
theorem add_of_conflict {builder : Builder} (sound : builder.Sound) (placed : builder.control.Placed)
    (outside : builder.control.context = none) {domain : String} {statements : List Statement}
    (plain : statements.all Statement.isPlain = true)
    (conflict : ¬builder.drivers.Free domain (Statement.writtenAll statements)) (loc : Location) :
    ∃ signal ∈ Statement.targetsAll statements, ∃ earlier after, builder.drivers.get? signal = some earlier ∧
      earlier ≠ domain ∧
      add domain statements loc builder = .error (.refused ⟨.driverConflict signal domain earlier, loc⟩) after := by
  obtain ⟨signal, mem, earlier, claimed, other, checked⟩ := Drivers.checkAll_of_conflict conflict loc
  rw [Statement.writtenAll, List.mem_eraseDups] at mem
  refine ⟨signal, mem, earlier, (builder.noted (domainAdvice domain loc)).flushed, claimed, other, ?_⟩
  rw [add_eq sound.stacked placed, outside]
  simp only [plain, ↓reduceIte, checked]

end Build

/-! ## Who drives a signal -/

namespace Builder

/-- The description assigns the signal in the domain, in the statements recorded so far. -/
def Assigns (builder : Builder) (domain : String) (signal : Signal) : Prop :=
  signal ∈ Statement.targetsAll (builder.flushed.statements.statementsOf domain)

/-- A state machine drives the signal in the domain: it is an indicator, all of which are combinational, or the
register of a machine that a transition in the domain sends to another state. -/
def MachineDrives (builder : Builder) (domain : String) (signal : Signal) : Prop :=
  (domain = combinational ∧ signal ∈ Statement.targetsAll builder.indicators) ∨
    ∃ id state loc machine,
      .transition id state loc ∈ Statement.leavesAll (builder.flushed.statements.statementsOf domain) ∧
        builder.machines.get? id = some machine ∧ machine.register = some signal

theorem Sound.claimed_of_assigns {builder : Builder} (sound : builder.Sound) (placed : builder.control.Placed)
    {domain : String} {signal : Signal} (assigns : builder.Assigns domain signal) :
    builder.drivers.get? signal = some domain := by
  have filed := (sound.leads_flushed placed).sound.filed
  rw [Assigns, Statement.targetsAll_eq_leavesAll, List.mem_flatMap] at assigns
  obtain ⟨leaf, mem, written⟩ := assigns
  have claimed := filed domain leaf mem
  cases leaf with
  | assign target source =>
    have drivers : builder.flushed.drivers = builder.drivers := by rw [flushed_eq]
    have listed := claimed signal written
    rwa [drivers] at listed
  | property kind test name => simp [Statement.targets] at written
  | switch test cases loc => exact absurd claimed (by simp [Filed])
  | transition id state loc => simp [Statement.targets] at written

theorem Sound.origin_of_indicators {builder : Builder} (sound : builder.Sound) {signal : Signal}
    (mem : signal ∈ Statement.targetsAll builder.indicators) : ∃ id state, signal.origin = .indicator id state := by
  rw [Statement.targetsAll_eq_flatMap, List.mem_flatMap] at mem
  obtain ⟨statement, listed, written⟩ := mem
  obtain ⟨id, state, indicator, source, rfl, origin⟩ := sound.indicators statement listed
  have same : signal = indicator := by simpa [Statement.targets, Value.targets] using written
  exact ⟨id, state, same ▸ origin⟩

/-- What machines drive on their own account, each drives from one domain. -/
theorem Sound.machineDrives_unique {builder : Builder} (sound : builder.Sound) (placed : builder.control.Placed)
    {domain other : String} {signal : Signal} (first : builder.MachineDrives domain signal)
    (second : builder.MachineDrives other signal) : domain = other := by
  have filed := (sound.leads_flushed placed).sound.filed
  have clock : ∀ {domain id state loc machine},
      .transition id state loc ∈ Statement.leavesAll (builder.flushed.statements.statementsOf domain) →
        builder.machines.get? id = some machine → machine.domain = domain := by
    intro domain id state loc machine mem found
    obtain ⟨same, refound, clocked, -⟩ := filed domain _ mem
    have machines : builder.flushed.machines = builder.machines := by rw [flushed_eq]
    rw [machines, found, Option.some.injEq] at refound
    rwa [refound]
  rcases first with ⟨rfl, indicator⟩ | ⟨id, state, loc, machine, mem, found, register⟩
  · rcases second with ⟨rfl, -⟩ | ⟨id, state, loc, machine, mem, found, register⟩
    · rfl
    · obtain ⟨id', state', origin⟩ := sound.origin_of_indicators indicator
      have registered := (sound.proper id machine found).register signal register
      simp [origin] at registered
  · rcases second with ⟨rfl, indicator⟩ | ⟨id', state', loc', machine', mem', found', register'⟩
    · obtain ⟨id', state', origin⟩ := sound.origin_of_indicators indicator
      have registered := (sound.proper id machine found).register signal register
      simp [origin] at registered
    · have registered := (sound.proper id machine found).register signal register
      have registered' := (sound.proper id' machine' found').register signal register'
      rw [registered, Signal.Origin.register.injEq] at registered'
      subst registered'
      rw [found, Option.some.injEq] at found'
      subst found'
      exact (clock mem found).symm.trans (clock mem' found)

theorem Filed.mem_targets_settled {builder : Builder} {domain : String} {leaf : Statement}
    (filed : builder.Filed [] domain leaf) (signal : Signal) :
    signal ∈ (leaf.settled builder.machines).targets ↔ signal ∈ leaf.targets ∨ ∃ id state loc machine,
      leaf = .transition id state loc ∧ builder.machines.get? id = some machine ∧ machine.register = some signal := by
  cases leaf with
  | assign target source => simp [Statement.settled]
  | property kind test name => simp [Statement.settled]
  | switch test cases loc => exact absurd filed (by simp [Filed])
  | transition id state loc =>
    obtain ⟨machine, found, known⟩ := filed.settles
    obtain ⟨assignment, same⟩ := Option.isSome_iff_exists.1 known
    have written : ∃ register source, machine.register = some register ∧
        assignment = .assign (.signal register) source := by
      rw [Machine.assignment?] at same
      split at same
      · rename_i register code registered _
        rw [Option.some.injEq] at same
        exact ⟨register, _, registered, same.symm⟩
      · simp at same
    obtain ⟨register, source, registered, rfl⟩ := written
    simp [Statement.settled, Statement.targets, Value.targets, found, same, registered, eq_comm]

/-- A settled domain writes what the description assigns there and what machines drive there. -/
theorem mem_targets_settled {builder : Builder}
    (filed : builder.flushed.statements.Holds (builder.flushed.Filed [])) (domain : String) (signal : Signal) :
    signal ∈ Statement.targetsAll (builder.flushed.settledStatements.statementsOf domain) ↔
      builder.Assigns domain signal ∨ builder.MachineDrives domain signal := by
  have machines : builder.flushed.machines = builder.machines := by rw [flushed_eq]
  have indicators : builder.flushed.indicators = builder.indicators := by rw [flushed_eq]
  have own : signal ∈ Statement.targetsAll (if domain = combinational then builder.indicators else []) ↔
      domain = combinational ∧ signal ∈ Statement.targetsAll builder.indicators := by
    split
    · rename_i same
      simp [same]
    · rename_i other
      simp [other, Statement.targetsAll]
  rw [statementsOf_settledStatements, Statement.targetsAll_append, List.mem_append, indicators, own,
    Statement.targetsAll_settledAll, List.mem_flatMap, Assigns,
    Statement.targetsAll_eq_leavesAll (builder.flushed.statements.statementsOf domain), List.mem_flatMap, MachineDrives,
    ← machines]
  constructor
  · rintro (⟨leaf, mem, written⟩ | indicator)
    · rcases ((filed domain leaf mem).mem_targets_settled signal).1 written with
        written | ⟨id, state, loc, machine, rfl, found⟩
      · exact .inl ⟨leaf, mem, written⟩
      · exact .inr (.inr ⟨id, state, loc, machine, mem, found⟩)
    · exact .inr (.inl indicator)
  · rintro (⟨leaf, mem, written⟩ | indicator | ⟨id, state, loc, machine, mem, found⟩)
    · exact .inl ⟨leaf, mem, ((filed domain leaf mem).mem_targets_settled signal).2 (.inl written)⟩
    · exact .inr indicator
    · have written := ((filed domain _ mem).mem_targets_settled signal).2 (.inr ⟨id, state, loc, machine, rfl, found⟩)
      exact .inl ⟨_, mem, written⟩

end Builder

namespace Fragment

/-- No two domains of the fragment drive the same signal. -/
def SingleDriven (fragment : Fragment) : Prop :=
  ∀ signal domain other, signal ∈ (fragment.drivers.get? domain).getD [] →
    signal ∈ (fragment.drivers.get? other).getD [] → domain = other

end Fragment

/-- A fragment has one driver for every signal exactly if the description assigns no signal of a machine outside of
the domain that the machine drives it from. What the description assigns itself is claimed, and a second domain is
refused. -/
theorem singleDriven_iff {session : Session} (reached : Reached session) :
    (∀ platform fragment, session.builder.control.depth = 0 → session.builder.elaborate platform = .ok fragment →
      (∀ domain signal, signal ∈ (fragment.drivers.get? domain).getD [] ↔
        signal ∈ Statement.targetsAll (fragment.statements.statementsOf domain)) ∧
      (fragment.SingleDriven ↔ ∀ signal domain other, session.builder.Assigns domain signal →
        session.builder.MachineDrives other signal → domain = other)) ∧
    (∀ domain signal, session.builder.Assigns domain signal → session.builder.drivers.get? signal = some domain) ∧
    ∀ domain statements loc signal earlier, session.builder.control.context = none →
      statements.all Statement.isPlain = true → signal ∈ Statement.targetsAll statements →
      session.builder.drivers.get? signal = some earlier → earlier ≠ domain →
      ∃ blamed ∈ Statement.targetsAll statements, ∃ before after,
        session.builder.drivers.get? blamed = some before ∧ before ≠ domain ∧
        Build.add domain statements loc session.builder =
          .error (.refused ⟨.driverConflict blamed domain before, loc⟩) after := by
  obtain ⟨sound, placed⟩ := reached.sound
  refine ⟨fun platform fragment level elaborated ↦ ?_, fun domain signal assigns ↦ ?_, ?_⟩
  · obtain ⟨behind, place⟩ := placed.atModule level
    have filed := (sound.leads_flushed placed).sound.filed
    rw [Builder.control_flushed sound.stacked place] at filed
    have assembled := Builder.elaborate_eq sound place platform
    split at assembled
    · rw [elaborated] at assembled
      simp at assembled
    · obtain ⟨made, same, statements, driven⟩ := assembled
      rw [elaborated, Except.ok.injEq] at same
      subst same
      have drives : ∀ domain signal, signal ∈ (fragment.drivers.get? domain).getD [] ↔
          session.builder.Assigns domain signal ∨ session.builder.MachineDrives domain signal := by
        intro domain signal
        rw [driven domain signal, statements]
        exact Builder.mem_targets_settled filed domain signal
      refine ⟨driven, fun single signal domain other assigns machine ↦ ?_,
        fun apart signal domain other first second ↦ ?_⟩
      · have by_user := (drives domain signal).2 (.inl assigns)
        have by_machine := (drives other signal).2 (.inr machine)
        exact single signal domain other by_user by_machine
      · rw [drives] at first second
        rcases first with first | first
        · rcases second with second | second
          · have claimed := sound.claimed_of_assigns placed first
            rw [sound.claimed_of_assigns placed second, Option.some.injEq] at claimed
            exact claimed.symm
          · exact apart signal domain other first second
        · rcases second with second | second
          · exact (apart signal other domain second first).symm
          · exact sound.machineDrives_unique placed first second
  · exact sound.claimed_of_assigns placed assigns
  · intro domain statements loc signal earlier outside plain written claimed other
    refine Build.add_of_conflict sound placed outside plain (fun free ↦ other ?_) loc
    refine free signal ?_ earlier claimed
    rwa [Statement.writtenAll, List.mem_eraseDups]

/-! ## An indicator assigned in a clocked domain -/

/-- A machine with one state, whose indicator the description assigns in the synchronous domain. -/
def indicatorAssigned : Program where
  settings := {}
  loc := ⟨"design", 0, 1⟩
  steps := [
    ⟨.machine none none none "m" [⟨.state "A" [], "state", ⟨"design", 2, 1⟩, false⟩], "fsm", ⟨"design", 1, 1⟩, false⟩,
    ⟨.ongoing "m" "A" (some "a"), "ongoing", ⟨"design", 3, 1⟩, false⟩,
    ⟨.add synchronous [.assign (.stored "a") (.literal (.const (.ofShape 0 (.unsigned 1))))], "sync",
      ⟨"design", 4, 1⟩, false⟩]
  platform := none

/-- The indicator of the only state. -/
def indicatorOfA : Signal := Machine.indicator ⟨0, 0⟩ "fsm" "A"

theorem indicatorAssigned_outcome : ∃ session fragment, indicatorAssigned.outcome? = some (session, fragment) ∧
    session.builder.control.depth = 0 ∧ session.builder.control.context = none ∧
    session.builder.drivers.get? indicatorOfA = some synchronous ∧
    indicatorOfA ∈ (fragment.drivers.get? synchronous).getD [] ∧
    indicatorOfA ∈ (fragment.drivers.get? combinational).getD [] := by
  have computed : indicatorAssigned.outcome?.any (fun outcome ↦ decide (
      outcome.1.builder.control.depth = 0 ∧ outcome.1.builder.control.context = none ∧
      outcome.1.builder.drivers.get? indicatorOfA = some synchronous ∧
      indicatorOfA ∈ (outcome.2.drivers.get? synchronous).getD [] ∧
      indicatorOfA ∈ (outcome.2.drivers.get? combinational).getD [])) = true := by decide +kernel
  obtain ⟨⟨session, fragment⟩, outcome, holds⟩ := (Option.any_eq_true _ _).1 computed
  exact ⟨session, fragment, outcome, of_decide_eq_true holds⟩

/-- Both the synchronous and the combinational domain drive the indicator, and nothing was refused. -/
theorem indicatorAssigned_not_singleDriven : ∃ session fragment,
    indicatorAssigned.outcome? = some (session, fragment) ∧ ¬fragment.SingleDriven := by
  obtain ⟨session, fragment, outcome, -, -, -, clocked, combinational⟩ := indicatorAssigned_outcome
  refine ⟨session, fragment, outcome, fun single ↦ ?_⟩
  have same := single _ _ _ clocked combinational
  exact absurd same (by decide)

theorem indicatorAssigned_singleDriven_iff : ∃ session fragment, Reached session ∧
    session.builder.elaborate none = .ok fragment ∧
    (fragment.SingleDriven ↔ ∀ signal domain other, session.builder.Assigns domain signal →
      session.builder.MachineDrives other signal → domain = other) ∧
    ∃ blamed ∈ [indicatorOfA], ∃ before after, session.builder.drivers.get? blamed = some before ∧
      before ≠ combinational ∧
      Build.add combinational [.assign (.signal indicatorOfA) (.const (.ofShape 0 (.unsigned 1)))] default
        session.builder = .error (.refused ⟨.driverConflict blamed combinational before, default⟩) after := by
  obtain ⟨session, fragment, outcome, level, outside, claimed, -⟩ := indicatorAssigned_outcome
  have reached := Reached.of_outcome? outcome
  have elaborated := (Program.outcome?_eq_some outcome).2
  have drivers := singleDriven_iff reached
  refine ⟨session, fragment, reached, elaborated, (drivers.1 none fragment level elaborated).2, ?_⟩
  exact drivers.2.2 combinational [.assign (.signal indicatorOfA) (.const (.ofShape 0 (.unsigned 1)))] default
    indicatorOfA synchronous outside rfl (List.mem_singleton.2 rfl) claimed (by decide)

end RegisterTransfer
