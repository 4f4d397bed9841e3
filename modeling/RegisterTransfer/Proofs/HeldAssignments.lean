import RegisterTransfer.Proofs.History
import RegisterTransfer.Proofs.MachineViews

/-!
# Held assignments and the table of drivers

An assignment that has been filed wanders: it stays in the body that is recorded, in one that waits for an inner body to
end, in the branches and cases of open constructs, in the states of machines, and inside of the branch statements that
closed constructs have become. Wherever it is held, it is held under the domain it was filed under, and this is the
domain under which its signals are claimed.
-/

namespace RegisterTransfer

/-! ## Where bodies are held -/

/-- The bodies recorded so far for the construct of a frame; those of a machine are held by the machine. -/
def Frame.bodies : Frame → List Body
  | .chain opened => opened.branches.map Branch.body
  | .switch opened => opened.cases.values.map SwitchCase.body
  | .machine _ _ => []

def Machine.bodies (machine : Machine) : List Body := machine.states.values.map MachineState.body

namespace Builder

/-- A builder holds the body that is being recorded, those of its open constructs, and those of the states of its
machines, whether they are open, complete or dropped. -/
inductive Keeps (builder : Builder) : Body → Prop
  | recording : builder.Keeps builder.statements
  | framed {frame : Frame} {body : Body} : frame ∈ builder.control.frames → body ∈ frame.bodies → builder.Keeps body
  | declared {id : MachineId} {machine : Machine} {body : Body} :
    builder.machines.get? id = some machine → body ∈ machine.bodies → builder.Keeps body

/-- All bodies of a builder hold only leaves with a property. -/
def KeepsOnly (builder : Builder) (holds : String → Statement → Prop) : Prop :=
  ∀ body, builder.Keeps body → body.Holds holds

end Builder

/-! ## What calls do to the bodies -/

namespace Builder

variable {builder : Builder} {holds : String → Statement → Prop}

theorem KeepsOnly.mono {other : String → Statement → Prop} (only : builder.KeepsOnly holds)
    (implies : ∀ domain leaf, holds domain leaf → other domain leaf) : builder.KeepsOnly other :=
  fun body held ↦ Body.Holds.mono (only body held) implies

/-- Whatever a builder consists of, if its bodies have been held before. -/
theorem KeepsOnly.of {after : Builder} (recording : after.statements.Holds holds)
    (frames : ∀ frame ∈ after.control.frames, ∀ body ∈ frame.bodies, body.Holds holds)
    (machines : ∀ id machine, after.machines.get? id = some machine → ∀ body ∈ machine.bodies, body.Holds holds) :
    after.KeepsOnly holds := by
  intro body held
  cases held with
  | recording => exact recording
  | framed mem inner => exact frames _ mem _ inner
  | declared found inner => exact machines _ _ found _ inner

theorem KeepsOnly.frames (only : builder.KeepsOnly holds) :
    ∀ frame ∈ builder.control.frames, ∀ body ∈ frame.bodies, body.Holds holds :=
  fun _ mem _ inner ↦ only _ (.framed mem inner)

theorem KeepsOnly.machines (only : builder.KeepsOnly holds) :
    ∀ id machine, builder.machines.get? id = some machine → ∀ body ∈ machine.bodies, body.Holds holds :=
  fun _ _ found _ inner ↦ only _ (.declared found inner)

theorem KeepsOnly.of_same (only : builder.KeepsOnly holds) {after : Builder}
    (statements : after.statements = builder.statements) (frames : after.control.frames = builder.control.frames)
    (machines : after.machines = builder.machines) : after.KeepsOnly holds := by
  refine .of ?_ ?_ ?_
  · rw [statements]
    exact only _ .recording
  · rw [frames]
    exact only.frames
  · rw [machines]
    exact only.machines

/-- A chain that is closed goes into the body that is recorded. -/
theorem holds_close {chain : IfChain} {body : Body} (recording : body.Holds holds)
    (branches : ∀ branch ∈ (Frame.chain chain).bodies, branch.Holds holds) : (chain.close body).Holds holds := by
  refine Body.Holds.appendAll_split recording (fun branch mem ↦ branches _ ?_) _ _
  rw [Frame.bodies, ← IfChain.map_body_caseListFrom chain.tests.length 0]
  exact List.mem_map_of_mem mem

theorem KeepsOnly.flushed (only : builder.KeepsOnly holds) : builder.flushed.KeepsOnly holds := by
  unfold Builder.flushed
  split
  · exact only
  · rename_i chain top
    have listed : Frame.chain chain ∈ builder.control.frames := by
      unfold Control.openChain? Control.top? at top
      split at top
      · rename_i frame
        rw [List.head?_eq_some_iff] at frame
        obtain ⟨rest, frames⟩ := frame
        split at top
        · rw [frames, Option.some.inj top]
          exact List.mem_cons_self ..
        · simp at top
      · simp at top
    refine .of (holds_close (only _ .recording) (only.frames _ listed)) ?_ only.machines
    exact fun frame mem ↦ only.frames frame (List.mem_of_mem_tail mem)

theorem KeepsOnly.opening (only : builder.KeepsOnly holds) {frame : Frame} (empty : frame.bodies = []) :
    (builder.opening frame).KeepsOnly holds := by
  have flushed := only.flushed
  refine .of (flushed _ .recording) ?_ flushed.machines
  intro other mem body inner
  rcases List.mem_cons.1 mem with rfl | mem
  · simp [empty] at inner
  · exact flushed.frames other mem body inner

theorem KeepsOnly.recorded (only : builder.KeepsOnly holds) {domain : String} {statements : List Statement}
    (new : ∀ leaf ∈ Statement.leavesAll statements, holds domain leaf) :
    (builder.recorded domain statements).KeepsOnly holds :=
  .of (.append (only.flushed _ .recording) new) only.flushed.frames only.flushed.machines

/-- A machine is changed, but the bodies of its states have been held before. -/
theorem KeepsOnly.withMachine (only : builder.KeepsOnly holds) (id : MachineId) {machine : Machine}
    (bodies : ∀ body ∈ machine.bodies, body.Holds holds) : (builder.withMachine id machine).KeepsOnly holds := by
  refine .of (only _ .recording) only.frames fun other found present ↦ ?_
  rw [Builder.withMachine, Arena.get?_modify] at present
  split at present
  · rename_i same
    obtain ⟨earlier, _, rfl⟩ := Option.map_eq_some_iff.1 present
    exact bodies
  · exact only.machines other found present

theorem KeepsOnly.mentioned (only : builder.KeepsOnly holds) {id : MachineId} {machine : Machine}
    (found : builder.machines.get? id = some machine) (state : String) :
    (builder.withMachine id (machine.mention id state)).KeepsOnly holds := by
  refine only.withMachine id ?_
  rw [Machine.bodies, Machine.states_mention]
  exact only.machines id machine found

theorem KeepsOnly.withNewMachine (only : builder.KeepsOnly holds) (name domain : String) (initial : Option String) :
    (builder.withNewMachine (.opened name domain initial)).KeepsOnly holds := by
  refine .of (only _ .recording) only.frames fun id machine found ↦ ?_
  rw [Builder.withNewMachine, Arena.get?_push] at found
  split at found
  · rw [← Option.some.inj found]
    intro body inner
    simp [Machine.bodies, Machine.opened, Table.values] at inner
  · exact only.machines id machine found

theorem KeepsOnly.enter (only : builder.KeepsOnly holds) (scope : Scope) : (builder.enter scope).KeepsOnly holds := by
  cases scope with
  | apart levels => exact .of .empty only.frames only.machines
  | within construct => exact only.of_same rfl rfl rfl

theorem KeepsOnly.opened (only : builder.KeepsOnly holds) {ending : Ending} {opened : Builder}
    (opens : builder.Opens ending opened) : opened.KeepsOnly holds := by
  cases opens with
  | first test loc advice place =>
    have noted : (builder.noted advice).KeepsOnly holds := only.of_same rfl rfl rfl
    exact noted.opening rfl
  | next test advice top level growing => exact only.of_same rfl rfl rfl
  | last top level growing => exact only
  | switch test loc place => exact only.opening rfl
  | case patterns advice place => exact only.of_same rfl rfl rfl
  | default advice place => exact only.of_same rfl rfl rfl
  | machine initial loc place clocked => exact (only.withNewMachine _ _ _).opening rfl
  | state name place found incomplete absent => exact only.mentioned found name

/-- The body around a construct is put back when it is left, and the frames stay. -/
theorem KeepsOnly.left {outer last : Builder} (around : outer.KeepsOnly holds) (only : last.KeepsOnly holds)
    (scope : Scope) : (outer.left last scope).KeepsOnly holds := by
  cases scope with
  | apart levels => exact .of (around _ .recording) around.frames only.machines
  | within construct => exact only.of_same rfl rfl rfl

theorem KeepsOnly.recordedIn {last : Builder} (only : last.KeepsOnly holds) (scope : Scope) :
    (last.recordedIn scope).Holds holds := by
  cases scope with
  | apart levels => exact only.flushed _ .recording
  | within construct => exact .empty

theorem KeepsOnly.dropped {outer last : Builder} (around : outer.KeepsOnly holds) (only : last.KeepsOnly holds)
    (ending : Ending) : (outer.dropped last ending).KeepsOnly holds := by
  refine .of ?_ (fun frame mem ↦ around.frames frame ?_) only.machines
  · rw [Builder.dropped]
    split
    · exact around _ .recording
    · exact only _ .recording
  · simp only [Builder.dropped] at mem
    split at mem
    · exact List.mem_of_mem_tail mem
    · exact mem

/-- The frame on top is replaced by one that holds the same bodies and a new one perhaps. -/
theorem KeepsOnly.replaced (only : builder.KeepsOnly holds) {earlier top : Frame} {base : List Frame}
    (frames : builder.control.frames = earlier :: base) (bodies : ∀ body ∈ top.bodies, body ∈ earlier.bodies ∨
      body.Holds holds) : (builder.withFrames (top :: base)).KeepsOnly holds := by
  have before := only.frames
  rw [frames] at before
  refine .of (only _ .recording) (fun frame mem body inner ↦ ?_) only.machines
  rcases List.mem_cons.1 mem with rfl | mem
  · exact (bodies body inner).elim (before earlier (List.mem_cons_self ..) body) id
  · exact before frame (List.mem_cons_of_mem _ mem) body inner

/-- The frame on top has gone into the body that is recorded. -/
theorem KeepsOnly.popped (only : builder.KeepsOnly holds) {after : Builder} {frame : Frame} {base : List Frame}
    (frames : builder.control.frames = frame :: base) (rest : after.control.frames = base)
    (machines : after.machines = builder.machines) (recording : after.statements.Holds holds) :
    after.KeepsOnly holds := by
  refine .of recording (fun other mem ↦ only.frames other ?_) ?_
  · rw [frames, ← rest]
    exact List.mem_cons_of_mem _ mem
  · rw [machines]
    exact only.machines

theorem bodies_extend (chain : IfChain) (branch : Branch) {body : Body}
    (mem : body ∈ (Frame.chain (chain.extend branch)).bodies) :
    body ∈ (Frame.chain chain).bodies ∨ body = branch.body := by
  simpa [Frame.bodies, IfChain.extend] using mem

theorem bodies_record (switch : OpenSwitch) (patterns : List Pattern) (recorded : SwitchCase) {body : Body}
    (mem : body ∈ (Frame.switch (switch.record patterns recorded)).bodies) :
    body ∈ (Frame.switch switch).bodies ∨ body = recorded.body := by
  by_cases known : patterns ∈ switch.cases.keys
  · rw [OpenSwitch.record, Table.insertIfAbsent_of_mem _ _ _ known] at mem
    exact .inl mem
  · simpa [Frame.bodies, OpenSwitch.record, Table.values, Table.entries_insertIfAbsent_of_notMem _ _ _ known]
      using mem

theorem KeepsOnly.concluded (only : builder.KeepsOnly holds) (sound : builder.Sound) {recorded : Body}
    (new : recorded.Holds holds) {loc : Location} {ending : Ending} {after : Builder}
    (concludes : builder.Concludes loc recorded ending after) : after.KeepsOnly holds := by
  cases concludes with
  | @first test height chain base top level =>
    refine only.replaced (by rw [top]) fun body mem ↦ ?_
    exact (bodies_extend chain _ mem).imp_right fun same ↦ by rwa [same]
  | @next test chain base top level =>
    refine only.replaced (by rw [top]) fun body mem ↦ ?_
    exact (bodies_extend chain _ mem).imp_right fun same ↦ by rwa [same]
  | @last chain base top =>
    have frames : builder.control.frames = .chain chain :: base := by rw [top]
    refine only.popped frames rfl rfl (holds_close (only _ .recording) fun body mem ↦ ?_)
    rcases bodies_extend chain _ mem with mem | rfl
    · exact only.frames _ (by rw [frames]; exact List.mem_cons_self ..) body mem
    · exact new
  | @switch switch base top =>
    have frames : builder.control.frames = .switch switch :: base := by rw [top]
    refine only.popped frames rfl rfl (Body.Holds.appendAll_split (only _ .recording) (fun branch mem ↦ ?_) _ _)
    obtain ⟨entry, listed, rfl⟩ := List.mem_map.1 mem
    refine only.frames _ (by rw [frames]; exact List.mem_cons_self ..) _ ?_
    exact List.mem_map_of_mem (List.mem_map_of_mem listed)
  | unmatched => exact only
  | @case patterns switch base matched place =>
    refine only.replaced place.frames fun body mem ↦ ?_
    exact (bodies_record switch _ _ mem).imp_right fun same ↦ by rwa [same]
  | @default switch base place =>
    refine only.replaced place.frames fun body mem ↦ ?_
    exact (bodies_record switch _ _ mem).imp_right fun same ↦ by rwa [same]
  | @machine id place base machine closing top found closed =>
    obtain ⟨register, encoding, closes⟩ := (sound.proper id machine found).closes_of_close closed
    have frames : builder.control.frames = .machine id place :: base := by rw [top]
    have states := only.machines id machine found
    have popped : (builder.withFrames base).KeepsOnly holds := only.popped frames rfl rfl (only _ .recording)
    have closed : ((builder.withFrames base).withMachine id closing.machine).KeepsOnly holds := by
      refine popped.withMachine id ?_
      rw [closes.after]
      exact states
    refine .of ?_ closed.frames closed.machines
    change (builder.statements.appendAll closing.branches).Holds holds
    rw [closes.branches]
    refine Body.Holds.appendAll_split (only _ .recording) (fun branch mem ↦ ?_) _ _
    obtain ⟨entry, listed, rfl⟩ := List.mem_map.1 mem
    exact states _ (List.mem_map_of_mem (List.mem_map_of_mem listed))
  | @state id name opened base machine place found absent =>
    refine only.withMachine id fun body mem ↦ ?_
    have known : body ∈ machine.bodies ∨ body = recorded := by
      simpa [Machine.bodies, Table.values, Table.entries_insert_of_notMem _ _ _ absent] using mem
    rcases known with known | rfl
    · exact only.machines id machine found body known
    · exact new

end Builder

/-! ## What has been filed -/

namespace Event

/-- A statement has been filed under a domain. -/
def Files (events : List Event) (domain : String) (statement : Statement) : Prop :=
  ∃ statements, .filed domain statements ∈ events ∧ statement ∈ statements

/-- Every assignment is one that has been filed under its domain. -/
def Accounts (events : List Event) (domain : String) (leaf : Statement) : Prop :=
  ∀ target source, leaf = .assign target source → Files events domain leaf

theorem Files.append_left {first : List Event} {domain : String} {statement : Statement}
    (files : Files first domain statement) (second : List Event) : Files (first ++ second) domain statement := by
  obtain ⟨statements, filed, mem⟩ := files
  exact ⟨statements, List.mem_append_left _ filed, mem⟩

theorem Accounts.append_left {first : List Event} (second : List Event) (domain : String) (leaf : Statement)
    (accounts : Accounts first domain leaf) : Accounts (first ++ second) domain leaf :=
  fun target source same ↦ (accounts target source same).append_left second

end Event

/-- On the way from one session to another, no bodies have come to hold other assignments than those that were filed,
every signal that these write is claimed for the domain, and no claim has changed. -/
structure Session.Registers (before : Session) (events : List Event) (after : Session) : Prop where
  held : ∀ earlier, before.builder.KeepsOnly (Event.Accounts earlier) →
    after.builder.KeepsOnly (Event.Accounts (earlier ++ events))
  claimed : ∀ domain statement, Event.Files events domain statement → ∀ signal ∈ statement.targets,
    after.builder.drivers.get? signal = some domain
  kept : ∀ signal domain, before.builder.drivers.get? signal = some domain →
    after.builder.drivers.get? signal = some domain

namespace Session

variable {before middle after : Session}

theorem Registers.trans {first second : List Event} (ahead : before.Registers first middle)
    (behind : middle.Registers second after) : before.Registers (first ++ second) after where
  held earlier only := by
    have last := behind.held _ (ahead.held earlier only)
    rwa [List.append_assoc] at last
  claimed domain statement files signal written := by
    obtain ⟨statements, filed, mem⟩ := files
    rcases List.mem_append.1 filed with filed | filed
    · exact behind.kept signal domain (ahead.claimed domain statement ⟨statements, filed, mem⟩ signal written)
    · exact behind.claimed domain statement ⟨statements, filed, mem⟩ signal written
  kept signal domain listed := behind.kept signal domain (ahead.kept signal domain listed)

/-- Nothing has been filed. -/
theorem Registers.quiet {events : List Event} (none : ∀ domain statements, .filed domain statements ∉ events)
    (held : ∀ earlier, before.builder.KeepsOnly (Event.Accounts earlier) →
      after.builder.KeepsOnly (Event.Accounts earlier))
    (drivers : after.builder.drivers = before.builder.drivers) : before.Registers events after where
  held earlier only := (held _ only).mono (Event.Accounts.append_left events)
  claimed domain statement files := by
    obtain ⟨statements, filed, -⟩ := files
    exact absurd filed (none domain statements)
  kept signal domain listed := by rwa [drivers]

end Session

/-! ## Runs -/

/-- Assignments and property checks are filed, and what they write is claimed. -/
theorem Session.registers_filed {session : Session} {advice : List Diagnostic} {domain : String}
    {statements : List Statement} (plain : statements.all Statement.isPlain = true)
    (free : session.builder.drivers.Free domain (Statement.writtenAll statements)) :
    session.Registers [.filed domain statements]
      (session.withBuilder ((session.builder.noted advice).recorded domain statements)) where
  held earlier only := by
    have noted : (session.builder.noted advice).KeepsOnly (Event.Accounts (earlier ++ [.filed domain statements])) :=
      (only.mono (Event.Accounts.append_left _)).of_same rfl rfl rfl
    refine noted.recorded fun leaf mem target source same ↦ ?_
    rw [Statement.leavesAll_of_isPlain plain] at mem
    exact ⟨statements, List.mem_append_right _ (List.mem_singleton.2 rfl), mem⟩
  claimed other statement files signal written := by
    obtain ⟨filed_with, filed, mem⟩ := files
    rw [List.mem_singleton, Event.filed.injEq] at filed
    rw [filed.2] at mem
    rw [filed.1]
    have listed : signal ∈ Statement.targetsAll statements := by
      rw [Statement.targetsAll_eq_flatMap, List.mem_flatMap]
      exact ⟨statement, mem, written⟩
    rw [Session.builder_withBuilder, Builder.drivers_recorded, if_pos listed]
    cases claimed : (session.builder.noted advice).drivers.get? signal with
    | none => rfl
    | some earlier => rw [free signal (List.mem_eraseDups.2 listed) earlier claimed, Option.getD_some]
  kept signal earlier listed := by
    have listed : (session.builder.noted advice).drivers.get? signal = some earlier := listed
    rw [Session.builder_withBuilder, Builder.drivers_recorded, listed, Option.getD_some, ite_self]

theorem Call.events_of_ne_add {call : Call (List Step)} (other : ∀ domain statements, call ≠ .add domain statements)
    (session : Session) (domain : String) (statements : List Statement) :
    .filed domain statements ∉ call.events session := by
  cases call with
  | add clock terms => exact absurd rfl (other clock terms)
  | goto target => simp [Call.events]
  | ongoing key asked storeAs => simp [Call.events]
  | _ => simp [Call.events]

theorem runCall_registers (loc : Location) {call : Call (List Step)} (simple : call.isConstruct = false)
    {session : Session} (sound : session.builder.Sound) (placed : session.builder.control.Placed) :
    Ends (runCall loc call) session ⟨fun _ later ↦ session.Registers (call.events session) later,
      fun _ later ↦ session.Registers [] later⟩ := by
  have only_parts : ∀ {later : Session}, session.builder.OnlyParts later.builder → session.Registers [] later :=
    fun only ↦ .quiet (by simp)
      (fun holds held ↦ held.of_same only.statements (by rw [only.control]) only.machines) only.drivers
  refine simple_ends loc simple sound placed ?_ ?_ ?_ ?_ ?_
  · rintro domain terms statements advice rfl evaluated plain free
    simp only [Call.events, evaluated]
    rw [Builder.drivers_flushed] at free
    exact Session.registers_filed plain free
  · rintro target id machine rfl innermost found
    refine .quiet (Call.events_of_ne_add (by simp) session) (fun earlier only ↦ ?_) (Builder.drivers_flushed _)
    refine (only.mentioned found target).recorded fun leaf mem target source same ↦ ?_
    rw [same] at mem
    simp [Statement.leavesAll, Statement.leaves] at mem
  · rintro key state storeAs id machine mentioned value environment rfl stored found kind
    refine .quiet (Call.events_of_ne_add (by simp) session) (fun holds only ↦ ?_) rfl
    refine only.withMachine id ?_
    have states : mentioned.states = machine.states := by
      rw [kind]
      split
      · rfl
      · exact machine.states_mention id state
    rw [Machine.bodies, states]
    exact only.machines id machine found
  · intro answer later only silent
    rw [silent]
    exact only_parts only
  · rintro error later (only | ⟨advice, same⟩)
    · exact only_parts only
    · refine .quiet (by simp) (fun holds only ↦ ?_) ?_
      · rw [same]
        exact Builder.KeepsOnly.flushed (only.of_same rfl rfl rfl)
      · rw [same, Builder.drivers_flushed]
        rfl

theorem Builder.Opens.drivers {builder opened : Builder} {ending : Ending} (opens : builder.Opens ending opened) :
    opened.drivers = builder.drivers := by
  cases opens with
  | first test loc advice place => exact drivers_flushed _
  | switch test loc place => exact drivers_flushed _
  | machine initial loc place clocked => exact drivers_flushed _
  | _ => rfl

theorem Builder.Concludes.drivers {builder after : Builder} {loc : Location} {recorded : Body} {ending : Ending}
    (concludes : builder.Concludes loc recorded ending after) : after.drivers = builder.drivers := by
  cases concludes <;> rfl

theorem Ending.opened_of_filed (ending : Ending) (domain : String) (statements : List Statement) :
    .filed domain statements ∉ ending.opened := by
  cases ending <;> simp [Ending.opened]

theorem Ending.finished_of_filed (ending : Ending) (domain : String) (statements : List Statement) :
    .filed domain statements ∉ ending.finished := by
  cases ending <;> simp [Ending.finished]

theorem recounts_registers : Recounts Session.Registers where
  refl session := .quiet (by simp) (fun _ only ↦ only) rfl
  trans := Session.Registers.trans
  entry trace registers := ⟨registers.held, registers.claimed, registers.kept⟩
  simple loc _ simple _ sound placed := runCall_registers loc simple sound placed
  advised session advice := .quiet (by simp) (fun _ only ↦ only.of_same rfl rfl rfl) rfl
  opened {_ ending opened} _ opens := by
    refine .quiet ending.opened_of_filed (fun _ only ↦ (only.opened opens.builder).enter _) ?_
    have entered : (opened.builder.enter ending.scope).drivers = opened.builder.drivers := by
      cases ending.scope <;> rfl
    exact entered.trans opens.builder.drivers
  finished := by
    intro session ending opened last events loc after sound opens registers leaves concludes
    have drivers : after.drivers = last.builder.drivers := by
      refine concludes.drivers.trans ?_
      cases ending.scope <;> rfl
    refine ⟨fun earlier only ↦ ?_, fun domain statement files ↦ ?_, fun signal domain listed ↦ ?_⟩
    · have inner := (registers.held earlier only).mono (Event.Accounts.append_left ending.finished)
      rw [List.append_assoc] at inner
      have around := (only.opened opens.builder).mono
        (Event.Accounts.append_left (ending.opened ++ events ++ ending.finished))
      exact (around.left inner ending.scope).concluded leaves.sound (inner.recordedIn ending.scope) concludes
    · obtain ⟨statements, filed, mem⟩ := files
      have inside := (List.mem_append.1 filed).resolve_right (ending.finished_of_filed domain statements)
      rw [Session.builder_withBuilder, drivers]
      exact registers.claimed domain statement ⟨statements, inside, mem⟩
    · rw [Session.builder_withBuilder, drivers]
      exact registers.kept signal domain listed
  dropped := by
    intro session ending opened last events sound opens registers stays
    refine ⟨fun earlier only ↦ ?_, registers.claimed, registers.kept⟩
    have around := (only.opened opens.builder).mono (Event.Accounts.append_left (ending.opened ++ events))
    exact around.dropped (registers.held earlier only) ending

/-! ## All points of a program -/

/-- The bodies around a construct that wait for its body to end: only those of bodies that are recorded apart. -/
def Scope.waiting (outer : Builder) : Scope → List Body
  | .apart _ => [outer.statements]
  | .within _ => []

/-- The sessions that a program comes by, with the bodies that wait in the module and all that has happened in it: at the
start of a module, after every step, whether it returns or is refused, and where the body of a construct starts. -/
inductive Point : Session → List Body → List Event → Prop
  | start (program : Program) : Point program.start [] []
  | stepped {session later : Session} {waiting : List Body} {events : List Event} (step : Step) :
    Point session waiting events → EndsIn step.run session later → Point later waiting (events ++ step.events session)
  | entered {session opened : Session} {waiting : List Body} {events : List Event} {loc : Location}
    {call : Call (List Step)} {opening : Run Ending} {ending : Ending} :
    Point session waiting events → call.opening loc = some opening → opening session = .ok ending opened →
      Point (opened.withBuilder (opened.builder.enter ending.scope))
        (ending.scope.waiting opened.builder ++ waiting) (events ++ ending.opened)
  | module {session : Session} {waiting : List Body} {events : List Event} (settings : Settings) (loc : Location) :
    Point session waiting events → Point { session with
      builder := .start settings session.started loc
      started := session.started + 1 } [] []

/-- All assignments that wait or are held in a session have been filed, and what has been filed is claimed. -/
structure Session.Accounted (session : Session) (waiting : List Body) (events : List Event) : Prop where
  waiting : ∀ body ∈ waiting, body.Holds (Event.Accounts events)
  held : session.builder.KeepsOnly (Event.Accounts events)
  claimed : ∀ domain statement, Event.Files events domain statement → ∀ signal ∈ statement.targets,
    session.builder.drivers.get? signal = some domain

theorem Session.Accounted.onward {session later : Session} {waiting : List Body} {events more : List Event}
    (accounted : session.Accounted waiting events) (registers : session.Registers more later) :
    later.Accounted waiting (events ++ more) where
  waiting body mem := Body.Holds.mono (accounted.waiting body mem) (Event.Accounts.append_left more)
  held := registers.held events accounted.held
  claimed domain statement files signal written := by
    obtain ⟨statements, filed, mem⟩ := files
    rcases List.mem_append.1 filed with filed | filed
    · exact registers.kept signal domain (accounted.claimed domain statement ⟨statements, filed, mem⟩ signal written)
    · exact registers.claimed domain statement ⟨statements, filed, mem⟩ signal written

/-- Nothing has happened in a module that has just been started. -/
theorem Session.accounted_start {session : Session} {settings : Settings} {tag : Nat} {loc : Location}
    (fresh : session.builder = .start settings tag loc) : session.Accounted [] [] where
  waiting := by simp
  held := by
    rw [fresh]
    refine .of .empty (fun _ mem ↦ absurd mem List.not_mem_nil) fun id machine found ↦ ?_
    simp [Builder.start, Arena.get?, Arena.empty] at found
  claimed := by
    rintro domain statement ⟨statements, filed, -⟩
    simp at filed

namespace Point

variable {session : Session} {waiting : List Body} {events : List Event} (point : Point session waiting events)

include point

theorem reached : Reached session := by
  induction point with
  | start program => exact .start program
  | stepped step _ ended ih => exact ih.stepped step ended
  | @entered session opened waiting events loc call opening ending _ opens ran ih =>
    refine .entered ih (Call.enter_eq_opening opens) ?_
    simp only [bind, EStateM.bind, ran]
    rfl
  | module settings loc _ ih => exact .entered ih (show (Call.module none settings []).enter loc = some _ from rfl) rfl

theorem accounted : session.Accounted waiting events := by
  induction point with
  | start program => exact Session.accounted_start rfl
  | stepped step before ended ih =>
    obtain ⟨sound, placed⟩ := before.reached.sound
    exact ih.onward (ended.holds (recounts_registers.step step (fun body _ ↦ recounts_registers.body body) sound placed))
  | @entered session opened waiting events loc call opening ending before opens ran ih =>
    obtain ⟨sound, placed⟩ := before.reached.sound
    have opened_ := Ends.of_ok ran (Call.opening_ends opens sound placed)
    have entered := ih.onward (recounts_registers.opened sound opened_)
    refine ⟨fun body mem ↦ ?_, entered.held, entered.claimed⟩
    rcases List.mem_append.1 mem with mem | mem
    · have around := (ih.held.opened opened_.builder).mono (Event.Accounts.append_left ending.opened)
      cases scope : ending.scope with
      | apart levels =>
        rw [scope, Scope.waiting, List.mem_singleton] at mem
        rw [mem]
        exact around _ .recording
      | within construct => simp [scope, Scope.waiting] at mem
    · exact entered.waiting body mem
  | module settings loc before _ => exact Session.accounted_start rfl

end Point

/-- At every point of a program, whatever has been refused before, an assignment that waits or is held in some body was
filed under the domain it is held under, and every signal it writes is claimed for this domain; so is every signal that
was ever written, and no claim changes later. The leaves of a fragment are those held by the builder, with settled
transitions, and the indicators: an assignment that was filed and writes a signal occurs under its own domain only. -/
theorem Point.held_registered {session : Session} {waiting : List Body} {events : List Event}
    (point : Point session waiting events) :
    (∀ body, body ∈ waiting ∨ session.builder.Keeps body → ∀ domain target source,
      .assign target source ∈ Statement.leavesAll (body.statementsOf domain) →
        Event.Files events domain (.assign target source) ∧
          ∀ signal ∈ target.targets, session.builder.drivers.get? signal = some domain) ∧
    (∀ domain statement, Event.Files events domain statement → ∀ signal ∈ statement.targets,
      session.builder.drivers.get? signal = some domain) ∧
    (∀ later, Later session later → ∀ signal domain, session.builder.drivers.get? signal = some domain →
      later.builder.drivers.get? signal = some domain) ∧
    ∀ platform fragment, session.builder.control.depth = 0 → session.builder.elaborate platform = .ok fragment →
      ∀ domain, Statement.leavesAll (fragment.statements.statementsOf domain) =
          (Statement.leavesAll (session.builder.flushed.statements.statementsOf domain)).map
            (Statement.settled session.builder.machines) ++
              (if domain = combinational then session.builder.indicators else []) ∧
        ∀ target source,
          .assign target source ∈ Statement.leavesAll (session.builder.flushed.statements.statementsOf domain) →
            Event.Files events domain (.assign target source) ∧
              ∀ other, Event.Files events other (.assign target source) → target.targets ≠ [] → other = domain := by
  obtain ⟨waits, held, claimed⟩ := point.accounted
  obtain ⟨sound, placed⟩ := point.reached.sound
  refine ⟨fun body mem domain target source leaf ↦ ?_, claimed, fun later behind ↦ ?_, ?_⟩
  · have files : Event.Files events domain (.assign target source) := by
      rcases mem with mem | mem
      · exact waits body mem domain _ leaf target source rfl
      · exact held body mem domain _ leaf target source rfl
    exact ⟨files, claimed domain _ files⟩
  · exact (behind.evolves point.reached).2.drivers
  · intro platform fragment level elaborated domain
    obtain ⟨behind, place⟩ := placed.atModule level
    refine ⟨?_, fun target source leaf ↦ ?_⟩
    · have plain : (if domain = combinational then session.builder.indicators else []).all Statement.isPlain = true := by
        split
        · exact sound.isPlain_indicators
        · rfl
      rw [Builder.statements_of_elaborate sound place elaborated, Builder.statementsOf_settledStatements,
        Statement.leavesAll_append, Statement.leavesAll_settledAll, Builder.machines_flushed_eq, Builder.indicators_flushed,
        Statement.leavesAll_of_isPlain plain]
    · have files := held.flushed _ .recording domain _ leaf target source rfl
      refine ⟨files, fun other filed writes ↦ ?_⟩
      obtain ⟨signal, written⟩ := List.exists_mem_of_ne_nil _ writes
      have first := claimed domain _ files signal written
      rw [claimed other _ filed signal written, Option.some.injEq] at first
      exact first

/-! ## A signal that is contested in vain -/

/-- The point of a module where all its steps have run. -/
theorem Point.of_runAll {steps : List Step} {session later : Session} {waiting : List Body} {events : List Event}
    (point : Point session waiting events) (ran : runAll steps session = .ok () later) :
    ∃ more, Point later waiting more := by
  induction steps generalizing session events with
  | nil =>
    have same : session = later := by simpa [runAll, pure, EStateM.pure] using ran
    exact ⟨events, same ▸ point⟩
  | cons step rest ih =>
    obtain ⟨middle, ended, ran⟩ := runAll_cons_eq_ok ran
    exact ih (point.stepped step ended) ran

/-- A branch that writes a counter and a part of a word at once; a combinational assignment of the counter is refused. -/
def contested : Program where
  settings := {}
  loc := ⟨"design", 0, 1⟩
  steps := [
    ⟨.ifThen (.literal (.signal counter)) [
      ⟨.add synchronous [.assign (.cat [.literal (.signal counter), .slice (.literal (.signal word)) 1 3])
        (.literal (.signal word))], "sync", ⟨"design", 2, 1⟩, false⟩,
      ⟨.add combinational [.assign (.literal (.signal counter)) (.literal (.signal word))], "comb", ⟨"design", 3, 1⟩, true⟩],
      "if", ⟨"design", 1, 1⟩, false⟩]
  platform := none
where
  counter : Signal := ⟨.declared "counter", "counter", .unsigned 1, 0, none⟩
  word : Signal := ⟨.declared "word", "word", .unsigned 4, 0, none⟩

theorem contested_registered : ∃ session fragment events, ∃ target source : Value, Point session [] events ∧
    session.builder.elaborate none = .ok fragment ∧ target.targets = [contested.counter, contested.word] ∧
    .assign target source ∈ Statement.leavesAll (session.builder.flushed.statements.statementsOf synchronous) ∧
    Event.Files events synchronous (.assign target source) ∧
    session.builder.drivers.get? contested.counter = some synchronous ∧
    session.builder.drivers.get? contested.word = some synchronous := by
  have computed : contested.outcome?.any (fun outcome ↦ decide (outcome.1.builder.control.depth = 0) &&
      (Statement.leavesAll (outcome.1.builder.flushed.statements.statementsOf synchronous)).any fun leaf ↦
        leaf.isPlain && decide (leaf.targets = [contested.counter, contested.word])) = true := by decide +kernel
  obtain ⟨⟨session, fragment⟩, outcome, holds⟩ := (Option.any_eq_true _ _).1 computed
  obtain ⟨level, assigned⟩ := (Bool.and_eq_true _ _).mp holds
  obtain ⟨leaf, mem, shape⟩ := List.any_eq_true.1 assigned
  obtain ⟨plain, targets⟩ := (Bool.and_eq_true _ _).mp shape
  obtain ⟨ran, elaborated⟩ := Program.outcome?_eq_some outcome
  obtain ⟨events, point⟩ := Point.of_runAll (.start contested) ran
  cases leaf with
  | assign target source =>
    have written : target.targets = [contested.counter, contested.word] := of_decide_eq_true targets
    have registered := point.held_registered
    obtain ⟨files, -⟩ := (registered.2.2.2 none fragment (of_decide_eq_true level) elaborated synchronous).2 _ _ mem
    have claimed := registered.2.1 synchronous _ files
    refine ⟨session, fragment, events, target, source, point, elaborated, written, mem, files, ?_, ?_⟩
    · exact claimed contested.counter (by simp [Statement.targets, written])
    · exact claimed contested.word (by simp [Statement.targets, written])
  | property kind test name => exact absurd (of_decide_eq_true targets) (by simp [Statement.targets])
  | switch | transition => cases plain

end RegisterTransfer
