import RegisterTransfer.Proofs.SingleDriver

/-!
# Additions

Assignments, property checks and transitions are added to the body that is being recorded. Directly inside of a switch
or a machine there is none, and what was added there would be recorded in the body around the construct. An addition
closes what has ended before it looks at the claims, and so one that is refused because of a claim has closed a chain
that could have gone on.
-/

namespace RegisterTransfer

/-! ## Directly inside of constructs -/

/-- A call is refused as misplaced and leaves the builder as it was. -/
def Build.Misplaced (call : Build Unit) (builder : Builder) : Prop :=
  ∃ error, error.kind = .scoping ∧ call builder = .error (.refused error) builder

namespace Builder

/-- The builder with statements at the end of the body that is being recorded. -/
def appended (builder : Builder) (domain : String) (statements : List Statement) : Builder :=
  { builder with statements := builder.statements.append domain statements }

/-- Where nothing has ended, a transition is only filed, for it writes no signal. -/
theorem recorded_transition {builder : Builder} (settled : builder.flushed = builder) (domain : String) (id : MachineId)
    (state : String) (loc : Location) :
    builder.recorded domain [.transition id state loc] = builder.appended domain [.transition id state loc] := by
  have written : Statement.writtenAll [.transition id state loc] = [] := by
    simp [Statement.writtenAll, Statement.targetsAll, Statement.targets]
  rw [recorded, settled, written]
  rfl

end Builder

section Inside

variable {session : Session} (reached : Reached session) {construct : Construct}
  (within : session.builder.control.context = some construct)

include reached within

theorem Reached.add_misplaced (domain : String) (statements : List Statement) (loc : Location) :
    (Build.add domain statements loc).Misplaced session.builder := by
  obtain ⟨sound, placed⟩ := reached.sound
  refine ⟨⟨.statementsInside construct, loc⟩, rfl, ?_⟩
  rw [Build.add_eq sound.stacked placed, within]

/-- Directly inside of a switch of a state, a transition is filed in the body around the switch. -/
theorem Reached.goto_inside (other : construct ≠ .machine) {id : MachineId}
    (innermost : session.builder.control.innermostMachine? = some id) :
    ∃ machine, session.builder.machines.get? id = some machine ∧ ∀ state loc,
      Build.goto state loc session.builder = .ok ()
        ((session.builder.withMachine id (machine.mention id state)).appended machine.domain
          [.transition id state loc]) := by
  obtain ⟨sound, placed⟩ := reached.sound
  obtain ⟨machine, found, -⟩ := sound.running id (Control.mem_machines_of_innermost innermost)
  refine ⟨machine, found, fun state loc ↦ ?_⟩
  have outside : session.builder.control.context ≠ some .machine := by
    rw [within]
    exact fun same ↦ other (Option.some.inj same)
  rw [Build.goto_eq sound.stacked placed outside innermost found, Builder.recorded_transition]
  obtain ⟨frame, base, place, -⟩ := placed.atConstruct within
  have mentioned : Control.Stacked (session.builder.withMachine id (machine.mention id state)).control.frames :=
    sound.stacked
  exact Builder.flushed_of_atConstruct mentioned place

/-- Directly inside of a construct no statements are added. A transition is not added inside of a machine or outside of
all machines, while inside of a switch of a state it is added to the body around the switch. -/
theorem Reached.inside_construct :
    (∀ domain statements loc, (Build.add domain statements loc).Misplaced session.builder) ∧
    (∀ state loc, (Build.goto state loc).Misplaced session.builder ↔
      construct = .machine ∨ session.builder.control.innermostMachine? = none) ∧
    ∀ id, construct ≠ .machine → session.builder.control.innermostMachine? = some id →
      ∃ machine, session.builder.machines.get? id = some machine ∧ ∀ state loc,
        Build.goto state loc session.builder = .ok ()
          ((session.builder.withMachine id (machine.mention id state)).appended machine.domain
            [.transition id state loc]) := by
  refine ⟨reached.add_misplaced within, fun state loc ↦ ⟨?_, fun misplaced ↦ ?_⟩,
    fun id other innermost ↦ reached.goto_inside within other innermost⟩
  · rintro ⟨error, -, refused⟩
    by_contra neither
    rw [not_or, ← ne_eq, ← ne_eq, Option.ne_none_iff_exists'] at neither
    obtain ⟨other, id, innermost⟩ := neither
    obtain ⟨machine, -, ran⟩ := reached.goto_inside within other innermost
    rw [ran] at refused
    contradiction
  · refine ⟨⟨.transitionOutsideState, loc⟩, rfl, Build.goto_of_misplaced ?_ state loc⟩
    refine misplaced.imp_left ?_
    rintro rfl
    exact within

end Inside

/-- The start of the innermost of some bodies, each of which is entered inside of the one before. -/
def Session.entered? : List (Location × Call (List Step)) → Session → Option Session
  | [], session => some session
  | (loc, call) :: rest, session =>
    (call.enter loc).bind fun enter ↦ (enter.returned? session).bind fun ended ↦ entered? rest ended.2

theorem Reached.of_entered? {calls : List (Location × Call (List Step))} {session later : Session}
    (reached : Reached session) (entered : session.entered? calls = some later) : Reached later := by
  induction calls generalizing session with
  | nil => exact Option.some.inj entered ▸ reached
  | cons call rest ih =>
    obtain ⟨enter, enters, entered⟩ := Option.bind_eq_some_iff.1 entered
    obtain ⟨ended, returned, entered⟩ := Option.bind_eq_some_iff.1 entered
    exact ih (.entered reached enters (Run.returned_of_returned? returned)) entered

/-- A module of a machine, into a switch of its state. -/
def intoSwitch : List (Location × Call (List Step)) := [
  (⟨"design", 1, 1⟩, .machine none none none "m" []),
  (⟨"design", 2, 1⟩, .state "A" []),
  (⟨"design", 3, 1⟩, .switch (.literal (.signal ⟨.declared "x", "x", .unsigned 1, 0, none⟩)) [])]

theorem intoSwitch_entered : ∃ session, Reached session ∧ session.builder.control.context = some .switch ∧
    session.builder.control.innermostMachine? = some ⟨0, 0⟩ ∧ session.builder.statements.keys = [] := by
  have computed : (vacant.start.entered? intoSwitch).any (fun session ↦ decide (
      session.builder.control.context = some .switch ∧
      session.builder.control.innermostMachine? = some ⟨0, 0⟩ ∧ session.builder.statements.keys = [])) = true := by
    decide +kernel
  obtain ⟨session, entered, place⟩ := (Option.any_eq_true _ _).1 computed
  exact ⟨session, .of_entered? (.start vacant) entered, of_decide_eq_true place⟩

theorem intoSwitch_inside : ∃ session, Reached session ∧ session.builder.control.context = some .switch ∧
    (Build.add synchronous [] default).Misplaced session.builder ∧
    ¬(Build.goto "B" default).Misplaced session.builder := by
  obtain ⟨session, reached, within, innermost, -⟩ := intoSwitch_entered
  obtain ⟨added, misplaced, -⟩ := reached.inside_construct within
  refine ⟨session, reached, within, added synchronous [] default, ?_⟩
  rw [misplaced, innermost]
  simp

/-- Inside of the switch a transition is accepted, and it lands in the body of the state. -/
theorem intoSwitch_goto : ∃ session machine after, Reached session ∧
    session.builder.control.context = some .switch ∧ session.builder.statements.keys = [] ∧
    Build.goto "B" default session.builder = .ok () after ∧
    after.statements.keys = [Machine.domain machine] := by
  obtain ⟨session, reached, within, innermost, empty⟩ := intoSwitch_entered
  obtain ⟨machine, -, ran⟩ := reached.goto_inside within (by decide) innermost
  refine ⟨session, machine, _, reached, within, empty, ran "B" default, ?_⟩
  have keys : (session.builder.withMachine ⟨0, 0⟩ (machine.mention ⟨0, 0⟩ "B")).statements.keys = [] := empty
  rw [Builder.appended, Body.keys_append _ _ (by simp), keys]
  simp

/-! ## Additions that are refused -/

namespace Build

/-- A call returns. -/
def Accepts {α : Type} (call : Build α) (builder : Builder) : Prop := ∃ value after, call builder = .ok value after

section Chains

variable {builder : Builder}

theorem requireChain_eq {chain : IfChain} (behind : builder.control.openChain? = some chain)
    (cause : BuildError.Cause) (loc : Location) : requireChain cause loc builder = .ok () builder := by
  simp only [requireChain, bind, EStateM.bind, get_apply, behind, Option.isNone_some, Bool.false_eq_true, ↓reduceIte,
    pure, EStateM.pure]

/-- The last branch is accepted where a chain is open. -/
theorem finishChain_accepts_iff (loc : Location) : (finishChain loc).Accepts builder ↔
    builder.control.context = none ∧ builder.control.openChain?.isSome = true := by
  constructor
  · rintro ⟨_, after, accepted⟩
    have ends : Ends (finishChain loc) builder ⟨fun _ _ ↦ builder.control.context = none ∧
        builder.control.openChain?.isSome = true, fun _ _ ↦ True⟩ :=
      finishChain_ends loc (fun chain outside behind ↦ ⟨outside, behind ▸ rfl⟩) fun _ ↦ trivial
    exact Ends.of_ok accepted ends
  · rintro ⟨outside, behind⟩
    obtain ⟨chain, behind⟩ := Option.isSome_iff_exists.1 behind
    refine ⟨(), builder, ?_⟩
    simp only [finishChain, checkPlace, bind, EStateM.bind, get_apply, outside, Keyword.place, ↓reduceIte, pure,
      EStateM.pure]
    exact requireChain_eq behind _ _

/-- So is a branch with a further condition. -/
theorem resumeChain_accepts_iff (condition : Value) (loc : Location) : (resumeChain condition loc).Accepts builder ↔
    builder.control.context = none ∧ builder.control.openChain?.isSome = true := by
  constructor
  · rintro ⟨_, after, accepted⟩
    have ends : Ends (resumeChain condition loc) builder ⟨fun _ _ ↦ builder.control.context = none ∧
        builder.control.openChain?.isSome = true, fun _ _ ↦ True⟩ :=
      resumeChain_ends condition loc (fun chain advice outside behind ↦ ⟨outside, behind ▸ rfl⟩) fun _ _ ↦ trivial
    exact Ends.of_ok accepted ends
  · rintro ⟨outside, behind⟩
    obtain ⟨chain, behind⟩ := Option.isSome_iff_exists.1 behind
    obtain ⟨advice, advised⟩ := exists_adviseSigned_eq condition loc builder
    have going : (builder.noted advice).control.openChain? = some chain := behind
    refine ⟨(), builder.noted advice, ?_⟩
    simp only [resumeChain, checkPlace, bind, EStateM.bind, get_apply, outside, Keyword.place, ↓reduceIte, pure,
      EStateM.pure, advised]
    exact requireChain_eq going _ _

end Chains

end Build

namespace Builder

/-- The body that is being recorded can take the statements, but for a signal that another domain has claimed. -/
def Contests (builder : Builder) (domain : String) (statements : List Statement) : Prop :=
  builder.control.context = none ∧ statements.all Statement.isPlain = true ∧
    ¬builder.drivers.Free domain (Statement.targetsAll statements)

/-- What an addition makes of a builder: the claims are entered, and the statements are filed behind what has ended. -/
structure Added (before after : Builder) (domain : String) (statements : List Statement) : Prop where
  drivers : ∀ signal, after.drivers.get? signal =
    if signal ∈ Statement.targetsAll statements then some domain else before.drivers.get? signal
  statements : ∀ other, after.statements.statementsOf other =
    before.flushed.statements.statementsOf other ++ if other = domain then statements else []
  control : after.control = before.flushed.control

/-- What an addition that is refused makes of a builder. -/
structure Declined (before after : Builder) (domain : String) (statements : List Statement) : Prop where
  drivers : after.drivers = before.drivers
  unchanged : ¬before.Contests domain statements → after = before
  /-- A claim of another domain is found after what has ended is closed. -/
  closed : before.Contests domain statements →
    after.statements = before.flushed.statements ∧ after.control = before.flushed.control
  untouched_iff : after.statements = before.statements ∧ after.control = before.control ↔
    ¬(before.Contests domain statements ∧ before.control.openChain?.isSome = true)
  elseIf_iff : ∀ condition loc, (Build.resumeChain condition loc).Accepts after ↔
    (Build.resumeChain condition loc).Accepts before ∧ ¬before.Contests domain statements
  otherwise_iff : ∀ loc, (Build.finishChain loc).Accepts after ↔
    (Build.finishChain loc).Accepts before ∧ ¬before.Contests domain statements

end Builder

section Ends

variable {before : Builder} {domain : String} {statements : List Statement}

theorem Builder.free_writtenAll_iff : before.drivers.Free domain (Statement.writtenAll statements) ↔
    before.drivers.Free domain (Statement.targetsAll statements) := by
  simp only [Drivers.Free, Statement.writtenAll, List.mem_eraseDups]

theorem Builder.Contests.add_refused (contests : before.Contests domain statements) (sound : before.Sound)
    (placed : before.control.Placed) (loc : Location) : ∃ error, Build.add domain statements loc before =
      .error (.refused error) (before.noted (Build.domainAdvice domain loc)).flushed := by
  obtain ⟨outside, plain, taken⟩ := contests
  rw [← Builder.free_writtenAll_iff] at taken
  obtain ⟨signal, -, earlier, -, -, checked⟩ := Drivers.checkAll_of_conflict taken loc
  refine ⟨⟨.driverConflict signal domain earlier, loc⟩, ?_⟩
  rw [Build.add_eq sound.stacked placed, outside]
  simp only [plain, ↓reduceIte, checked]

theorem Builder.added {advice : List Diagnostic}
    (free : before.drivers.Free domain (Statement.writtenAll statements)) :
    before.Added ((before.noted advice).recorded domain statements) domain statements where
  drivers signal := by
    rw [Builder.drivers_recorded]
    by_cases written : signal ∈ Statement.targetsAll statements
    · rw [if_pos written, if_pos written, Option.some.injEq]
      cases claimed : before.drivers.get? signal with
      | none => exact congrArg (Option.getD · domain) claimed
      | some earlier =>
        rw [← free signal (List.mem_eraseDups.2 written) earlier claimed]
        exact congrArg (Option.getD · earlier) claimed
    · rw [if_neg written, if_neg written]
      rfl
  statements other := by
    have filed : ((before.noted advice).recorded domain statements).statements =
        before.flushed.statements.append domain statements := by
      rw [Builder.recorded, Builder.flushed_noted]
      rfl
    rw [filed, Body.statementsOf_append]
    by_cases same : other = domain
    · rw [if_pos same, if_pos same, same]
    · rw [if_neg same, if_neg same, List.append_nil]
  control := by
    rw [Builder.recorded, Builder.flushed_noted]
    rfl

/-- A call that is refused before anything is closed. -/
theorem Builder.declined_self (quiet : ¬before.Contests domain statements) :
    before.Declined before domain statements where
  drivers := rfl
  unchanged _ := rfl
  closed contests := absurd contests quiet
  untouched_iff := iff_of_true ⟨rfl, rfl⟩ fun both ↦ quiet both.1
  elseIf_iff _ _ := (and_iff_left quiet).symm
  otherwise_iff _ := (and_iff_left quiet).symm

theorem Builder.declined_flushed (sound : before.Sound) (placed : before.control.Placed)
    (contests : before.Contests domain statements) (advice : List Diagnostic) :
    before.Declined (before.noted advice).flushed domain statements := by
  have still : (before.noted advice).flushed.control.openChain? = none := by
    rw [Builder.flushed_noted]
    exact Builder.openChain?_flushed sound.stacked placed
  have control : (before.noted advice).flushed.control = before.flushed.control := by
    rw [Builder.flushed_noted]
    rfl
  have statements : (before.noted advice).flushed.statements = before.flushed.statements := by
    rw [Builder.flushed_noted]
    rfl
  refine ⟨?_, fun quiet ↦ absurd contests quiet, fun _ ↦ ⟨statements, control⟩, ?_, fun condition loc ↦ ?_, fun loc ↦ ?_⟩
  · rw [Builder.drivers_flushed]
    rfl
  · rw [statements, control]
    constructor
    · rintro ⟨-, same⟩ ⟨-, behind⟩
      rw [← same, Builder.openChain?_flushed sound.stacked placed] at behind
      contradiction
    · intro neither
      have none : before.control.openChain? = none :=
        Option.not_isSome_iff_eq_none.1 fun behind ↦ neither ⟨contests, behind⟩
      rw [Builder.flushed, none]
      exact ⟨rfl, rfl⟩
  · rw [Build.resumeChain_accepts_iff, still]
    simp [contests]
  · rw [Build.finishChain_accepts_iff, still]
    simp [contests]

end Ends

/-- An addition files its statements and enters their claims, or it is refused. What is refused is untouched unless a
claim of another domain is found while a chain is open: then the chain is closed, and can no longer go on. -/
theorem Reached.addition {session : Session} (reached : Reached session) (domain : String)
    (statements : List Statement) (loc : Location) :
    (∃ after, Build.add domain statements loc session.builder = .ok () after ∧
      session.builder.Added after domain statements) ∨
    ∃ error after, Build.add domain statements loc session.builder = .error (.refused error) after ∧
      session.builder.Declined after domain statements := by
  obtain ⟨sound, placed⟩ := reached.sound
  by_cases contests : session.builder.Contests domain statements
  · obtain ⟨error, refused⟩ := contests.add_refused sound placed loc
    exact .inr ⟨error, _, refused, Builder.declined_flushed sound placed contests _⟩
  · rw [Build.add_eq sound.stacked placed]
    cases context : session.builder.control.context with
    | some construct => exact .inr ⟨_, _, rfl, Builder.declined_self contests⟩
    | none =>
      by_cases plain : statements.all Statement.isPlain = true
      · have free : session.builder.drivers.Free domain (Statement.writtenAll statements) := by
          rw [Builder.free_writtenAll_iff]
          exact not_not.1 fun taken ↦ contests ⟨context, plain, taken⟩
        simp only [plain, ↓reduceIte, (Drivers.checkAll_eq_ok_iff ..).2 free]
        exact .inl ⟨_, rfl, Builder.added free⟩
      · simp only [plain]
        exact .inr ⟨_, _, rfl, Builder.declined_self contests⟩

/-- A signal that the combinational domain drives, and a chain that may go on. -/
def interrupted : Program where
  settings := {}
  loc := ⟨"design", 0, 1⟩
  steps := [
    ⟨.add combinational [.assign (.literal x) (.literal x)], "comb", ⟨"design", 1, 1⟩, false⟩,
    ⟨.ifThen (.literal x) [], "if", ⟨"design", 2, 1⟩, false⟩]
  platform := none
where
  signal : Signal := ⟨.declared "x", "x", .unsigned 1, 0, none⟩
  x : Value := .signal signal

theorem interrupted_contests : ∃ session, Reached session ∧ (Build.finishChain default).Accepts session.builder ∧
    session.builder.Contests synchronous [.assign interrupted.x interrupted.x] := by
  have computed : interrupted.outcome?.any (fun outcome ↦ decide (
      outcome.1.builder.control.context = none ∧ outcome.1.builder.control.openChain?.isSome = true ∧
      outcome.1.builder.drivers.get? interrupted.signal = some combinational)) = true := by decide +kernel
  obtain ⟨⟨session, fragment⟩, outcome, holds⟩ := (Option.any_eq_true _ _).1 computed
  obtain ⟨outside, behind, claimed⟩ := of_decide_eq_true holds
  refine ⟨session, .of_outcome? outcome, (Build.finishChain_accepts_iff default).2 ⟨outside, behind⟩, outside, rfl,
    fun free ↦ ?_⟩
  have same := free interrupted.signal (List.mem_singleton.2 rfl) combinational claimed
  exact absurd same (by decide)

/-- The chain could be finished before the addition, and cannot be afterwards. -/
theorem interrupted_closed : ∃ session error after, Reached session ∧
    Build.add synchronous [.assign interrupted.x interrupted.x] default session.builder =
      .error (.refused error) after ∧
    (Build.finishChain default).Accepts session.builder ∧ ¬(Build.finishChain default).Accepts after := by
  obtain ⟨session, reached, accepts, contests⟩ := interrupted_contests
  obtain ⟨sound, placed⟩ := reached.sound
  obtain ⟨error, refused⟩ := contests.add_refused sound placed default
  have declined := Builder.declined_flushed sound placed contests (Build.domainAdvice synchronous default)
  exact ⟨session, error, _, reached, refused, accepts, fun later ↦ ((declined.otherwise_iff default).1 later).2 contests⟩

theorem interrupted_declined : ∃ session error after, Reached session ∧
    Build.add synchronous [.assign interrupted.x interrupted.x] default session.builder =
      .error (.refused error) after ∧
    session.builder.Contests synchronous [.assign interrupted.x interrupted.x] ∧
    session.builder.Declined after synchronous [.assign interrupted.x interrupted.x] := by
  obtain ⟨session, reached, -, contests⟩ := interrupted_contests
  obtain ⟨sound, placed⟩ := reached.sound
  obtain ⟨error, refused⟩ := contests.add_refused sound placed default
  rcases reached.addition synchronous [.assign interrupted.x interrupted.x] default with
    ⟨after, returned, -⟩ | ⟨error, after, refused, declined⟩
  · rw [refused] at returned
    contradiction
  · exact ⟨session, error, after, reached, refused, contests, declined⟩

end RegisterTransfer
