import RegisterTransfer.Proofs.CaughtFailures
import RegisterTransfer.Proofs.Closing
import RegisterTransfer.Proofs.MachineViews

/-!
# Machines that have ended

The key of a machine outlives its call, so a machine may be asked about its states when the call has ended. If the call
has returned, the machine is complete for good: its states have indicators, which the module drives, and of no other
state it hears any more. If the call was refused, the machine is left without a register, and nothing ever gives it one;
as a query tells an open machine by its missing register, such a machine goes on learning states, whose indicators the
module never drives.
-/

namespace RegisterTransfer

namespace Builder

/-- A machine without a register whose call has ended: its frame is not on the stack. -/
structure Abandoned (builder : Builder) (id : MachineId) : Prop where
  incomplete : ∃ machine, builder.machines.get? id = some machine ∧ machine.register = none
  ended : id ∉ Control.machines builder.control.frames

/-! ## Frames -/

theorem machines_control_opening {builder : Builder} (stacked : Control.Stacked builder.control.frames)
    (placed : builder.control.Placed) (frame : Frame) :
    Control.machines (builder.opening frame).control.frames =
      (Control.machineOf? frame).toList ++ Control.machines builder.control.frames := by
  rw [← machines_flushed stacked placed]
  cases frame <;> rfl

namespace Abandoned

variable {before after : Builder} {id : MachineId} (abandoned : before.Abandoned id)

include abandoned

theorem of_frames (machines : after.machines = before.machines)
    (frames : id ∈ Control.machines after.control.frames → id ∈ Control.machines before.control.frames) :
    after.Abandoned id := by
  refine ⟨?_, fun mem ↦ abandoned.ended (frames mem)⟩
  rw [machines]
  exact abandoned.incomplete

theorem noted (advice : List Diagnostic) : (before.noted advice).Abandoned id := abandoned.of_frames rfl fun mem ↦ mem

theorem flushed (stacked : Control.Stacked before.control.frames) (placed : before.control.Placed) :
    before.flushed.Abandoned id :=
  abandoned.of_frames before.machines_flushed_eq fun mem ↦ machines_flushed stacked placed ▸ mem

/-- A frame that is not the machine's own lies on top. -/
theorem opening (stacked : Control.Stacked before.control.frames) (placed : before.control.Placed) {frame : Frame}
    (other : Control.machineOf? frame ≠ some id) : (before.opening frame).Abandoned id := by
  refine abandoned.of_frames before.machines_flushed_eq fun mem ↦ ?_
  rw [machines_control_opening stacked placed, List.mem_append, Option.mem_toList] at mem
  exact mem.resolve_left other

theorem withMachine {other : MachineId} {machine later : Machine} (found : before.machines.get? other = some machine)
    (register : later.register = machine.register) : (before.withMachine other later).Abandoned id := by
  obtain ⟨last, here, incomplete⟩ := abandoned.incomplete
  refine ⟨?_, abandoned.ended⟩
  rw [get?_withMachine]
  split
  · rename_i same
    obtain rfl := Option.some.inj (found.symm.trans (same ▸ here))
    exact ⟨later, by rw [found, Option.map_some], register.trans incomplete⟩
  · exact ⟨last, here, incomplete⟩

theorem withNewMachine (machine : Machine) : (before.withNewMachine machine).Abandoned id := by
  obtain ⟨last, here, incomplete⟩ := abandoned.incomplete
  have known : before.machines.contains id = true := by rw [Arena.contains_eq_isSome, here]; rfl
  exact ⟨⟨last, (Arena.get?_push_of_contains _ machine id known).trans here, incomplete⟩, abandoned.ended⟩

/-- A new machine is another one. -/
theorem ne_nextKey : id ≠ before.machines.nextKey := by
  rintro rfl
  obtain ⟨machine, here, -⟩ := abandoned.incomplete
  simp [Arena.get?, Arena.nextKey, Arena.size] at here

theorem opened {ending : Ending} (opens : before.Opens ending after)
    (stacked : Control.Stacked before.control.frames) : after.Abandoned id := by
  cases opens with
  | first test loc advice place =>
    exact (abandoned.noted advice).opening stacked (.inl ⟨_, _, place⟩) (by simp [Control.machineOf?])
  | switch test loc place => exact abandoned.opening stacked (.inl ⟨_, _, place⟩) (by simp [Control.machineOf?])
  | machine initial loc place clocked =>
    refine (abandoned.withNewMachine _).opening stacked (.inl ⟨_, _, place⟩) ?_
    rw [Control.machineOf?, ne_eq, Option.some.injEq]
    exact abandoned.ne_nextKey.symm
  | state name place found incomplete absent => exact abandoned.withMachine found (Machine.register_mention ..)
  | next test advice top level growing => exact abandoned.noted advice
  | last top level growing => exact abandoned
  | case patterns advice place => exact abandoned.noted advice
  | default advice place => exact abandoned.noted advice

/-- To finish a construct completes only the machine whose frame lies on top. -/
theorem concluded {loc : Location} {recorded : Body} {ending : Ending}
    (concludes : before.Concludes loc recorded ending after) : after.Abandoned id := by
  cases concludes with
  | first top level | next top level | last top | switch top =>
    exact abandoned.of_frames rfl fun mem ↦ by rw [top]; exact mem
  | unmatched => exact abandoned
  | case matched place | default place => exact abandoned.of_frames rfl fun mem ↦ by rw [place.frames]; exact mem
  | @machine other opened base machine closing top found closed =>
    obtain ⟨last, here, incomplete⟩ := abandoned.incomplete
    have ended := abandoned.ended
    simp only [top, Control.machines, Control.machineOf?, List.filterMap_cons, List.mem_cons, not_or] at ended
    refine ⟨⟨last, ?_, incomplete⟩, ended.2⟩
    exact (Arena.get?_modify ..).trans ((if_neg ended.1).trans here)
  | state place found absent => exact abandoned.withMachine found rfl

end Abandoned

/-! ## Leaving bodies -/

section Leaving

variable {opened last : Builder} {ending : Ending} (sound : opened.Sound) (due : ending.Due opened.control)
  (stays : (opened.enter ending.scope).Stays last)

include sound due stays

/-- In the body of a construct, the machines around it stay open. -/
theorem machines_of_stays {id : MachineId} :
    id ∈ Control.machines last.control.frames ↔ id ∈ Control.machines opened.control.frames := by
  rw [stays.level.machines_eq (sound.enters due).2, frames_enter]

theorem Abandoned.left {id : MachineId} (abandoned : last.Abandoned id) :
    (opened.left last ending.scope).Abandoned id := by
  cases scope : ending.scope with
  | apart levels => exact abandoned.of_frames rfl fun mem ↦ (machines_of_stays sound due stays).2 mem
  | within construct => exact abandoned.of_frames rfl fun mem ↦ mem

theorem Abandoned.dropped {id : MachineId} (abandoned : last.Abandoned id) :
    (opened.dropped last ending).Abandoned id := by
  refine abandoned.of_frames rfl fun mem ↦ (machines_of_stays sound due stays).2 ?_
  simp only [Builder.dropped] at mem
  split at mem
  · exact ((List.tail_sublist _).filterMap _).subset mem
  · exact mem

end Leaving

/-- A machine that is dropped is abandoned. -/
theorem abandoned_of_dropped {opened last : Builder} {id : MachineId} (sound : opened.Sound)
    (due : (Ending.machine id).Due opened.control) (stays : (opened.enter (Ending.machine id).scope).Stays last) :
    (opened.dropped last (.machine id)).Abandoned id := by
  have inside : id ∈ Control.machines last.control.frames ↔ id ∈ Control.machines opened.control.frames :=
    machines_of_stays sound due stays
  have distinct := sound.distinct
  obtain ⟨place, base, top⟩ := due
  rw [top] at inside distinct
  refine ⟨stays.sound.running id (inside.2 (List.mem_cons_self ..)), ?_⟩
  rw [dropped, top]
  exact (List.nodup_cons.1 distinct).1

end Builder

/-! ## What runs do to them -/

/-- The machines that have been abandoned stay so. -/
def Session.KeepsAbandoned (before : Session) (_ : List Event) (after : Session) : Prop :=
  ∀ id, before.builder.Abandoned id → after.builder.Abandoned id

theorem runCall_keepsAbandoned (loc : Location) {call : Call (List Step)} (simple : call.isConstruct = false)
    {session : Session} (sound : session.builder.Sound) (placed : session.builder.control.Placed) :
    Ends (runCall loc call) session (.always fun later ↦ session.KeepsAbandoned [] later) := by
  have only : ∀ {later : Session}, session.builder.OnlyParts later.builder → session.KeepsAbandoned [] later :=
    fun only id abandoned ↦ abandoned.of_frames only.machines fun mem ↦ by rwa [only.control] at mem
  refine simple_ends loc simple sound placed ?_ ?_ ?_ (fun _ _ parts _ ↦ only parts) ?_
  · rintro domain statements values advice - - - - id abandoned
    exact ((abandoned.noted advice).flushed sound.stacked placed).of_frames rfl fun mem ↦ mem
  · rintro target other machine - - found id abandoned
    have mentioned : (session.builder.withMachine other (machine.mention other target)).Abandoned id :=
      abandoned.withMachine found (machine.register_mention ..)
    exact (mentioned.flushed sound.stacked placed).of_frames rfl fun mem ↦ mem
  · rintro key state storeAs other machine mentioned value environment - - found kind id abandoned
    refine abandoned.withMachine found ?_
    rw [kind]
    split
    · rfl
    · exact machine.register_mention other state
  · rintro error later (parts | ⟨advice, same⟩)
    · exact only parts
    · intro id abandoned
      rw [same]
      exact (abandoned.noted advice).flushed sound.stacked placed

theorem recounts_keepsAbandoned : Recounts Session.KeepsAbandoned where
  refl _ _ abandoned := abandoned
  trans first second id abandoned := second id (first id abandoned)
  entry _ kept := kept
  simple loc _ simple _ sound placed := runCall_keepsAbandoned loc simple sound placed
  advised _ advice _ abandoned := abandoned.noted advice
  opened sound opens id abandoned := by
    refine (abandoned.opened opens.builder sound.stacked).of_frames ?_ fun mem ↦ ?_
    · exact Builder.machines_enter ..
    · rwa [Session.builder_withBuilder, Builder.frames_enter] at mem
  finished sound opens kept leaves concludes id abandoned := by
    have due := opens.builder.due sound.stacked
    exact ((kept id abandoned).left opens.leads.sound due leaves.stays).concluded concludes
  dropped sound opens kept stays id abandoned :=
    (kept id abandoned).dropped opens.leads.sound (opens.builder.due sound.stacked) stays

/-- A construct whose body has ended gives no register to a machine that has been abandoned. -/
theorem Call.leaves_abandoned {loc : Location} {call : Call (List Step)} {enter : Run Unit} {body : List Step}
    {outer inner last : Session} (construct : call.isConstruct = true) (enters : call.enter loc = some enter)
    (inside : call.body? = some body) (sound : outer.builder.Sound) (placed : outer.builder.control.Placed)
    (entered : enter outer = .ok () inner) (ran : EndsIn (runBody body) inner last) {id : MachineId}
    (abandoned : last.builder.Abandoned id) :
    Ends (runCall loc call) outer (.always fun later ↦ later.builder.Abandoned id) := by
  obtain ⟨opening, ending, opened, opens, accepted, rfl⟩ := Call.opened_of_enter construct enters entered
  refine construct_ends opens inside sound placed (fun error advice after _ refused ↦ ?_) fun other again ran' opens_ ↦ ?_
  · rw [accepted] at refused
    contradiction
  · obtain ⟨rfl, rfl⟩ := EStateM.Result.ok.inj (accepted.symm.trans ran')
    have due := opens_.builder.due sound.stacked
    refine ran.ends (fun _ leaves ↦ ⟨fun after concludes ↦ ?_, fun _ ↦ ?_⟩) fun _ stays ↦ ?_
    · exact (abandoned.left opens_.leads.sound due leaves.stays).concluded concludes
    · exact abandoned.dropped opens_.leads.sound due leaves.stays
    · exact abandoned.dropped opens_.leads.sound due stays

/-- A machine that has been abandoned never gets a register, in whatever session the program comes to later. -/
theorem Later.abandoned {session later : Session} (reached : Reached session) (behind : Later session later)
    {id : MachineId} (abandoned : session.builder.Abandoned id) : later.builder.Abandoned id := by
  induction behind with
  | here => exact abandoned
  | stepped step earlier ended ih =>
    obtain ⟨sound, placed⟩ := (earlier.evolves reached).1.sound
    have kept := recounts_keepsAbandoned.step step (fun body _ ↦ recounts_keepsAbandoned.body body) sound placed
    exact ended.holds kept id ih
  | entered earlier construct enters entered ih =>
    obtain ⟨sound, placed⟩ := (earlier.evolves reached).1.sound
    obtain ⟨opening, ending, opened, opens, accepted, rfl⟩ := Call.opened_of_enter construct enters entered
    have made := Ends.of_ok accepted (Call.opening_ends opens sound placed)
    exact recounts_keepsAbandoned.opened sound made id ih
  | @left outer _ last _ _ _ step outside construct enters entered body ran _ ended ih =>
    obtain ⟨sound, placed⟩ := outside.sound
    have kept : Ends step.run outer (.always fun later ↦ later.builder.Abandoned id) := by
      obtain ⟨call, label, loc, caught⟩ := step
      exact (Run.ends_traced ..).2 (Call.leaves_abandoned construct enters body sound placed entered ran ih)
    exact ended.holds kept

/-! ## How a machine ends -/

/-- A machine call that has been accepted completes its machine if it returns, and abandons it if it is refused. -/
theorem machine_ended {session opened : Session} {name domain initial : Option String} {key : String}
    {body : List Step} {loc : Location} {opening : Run Ending} {id : MachineId} (reached : Reached session)
    (opens : (Call.machine name domain initial key body).opening loc = some opening)
    (accepted : opening session = .ok (.machine id) opened) :
    Ends (runCall loc (.machine name domain initial key body)) session
      ⟨fun _ later ↦ later.builder.Completed id, fun _ later ↦ later.builder.Abandoned id⟩ := by
  obtain ⟨sound, placed⟩ := reached.sound
  refine construct_ends opens rfl sound placed (fun error advice after _ refused ↦ ?_) fun ending again ran opens_ ↦ ?_
  · rw [accepted] at refused
    contradiction
  obtain ⟨rfl, rfl⟩ := EStateM.Result.ok.inj (accepted.symm.trans ran)
  have known := opens_.leads.sound
  have due := opens_.builder.due sound.stacked
  refine ((proceed body).1 _ (known.enters due).1.sound (known.enters due).2).mono (fun _ last stays leaves ↦ ?_)
    fun _ last _ stays ↦ Builder.abandoned_of_dropped known due stays
  refine ⟨fun after concludes ↦ ?_, fun _ ↦ Builder.abandoned_of_dropped known due leaves.stays⟩
  cases concludes with
  | @machine _ place base machine closing top found closed =>
    obtain ⟨register, encoding, closes⟩ := (leaves.sound.proper id machine found).closes_of_close closed
    refine ⟨closing.machine, (Arena.get?_modify ..).trans ((if_pos rfl).trans (congrArg (Option.map _) found)), ?_⟩
    rw [closes.after]
    rfl

/-! ## Queries -/

namespace Build

section Queries

variable {builder : Builder} (sound : builder.Sound) {id : MachineId} {machine : Machine}
  (found : builder.machines.get? id = some machine) (state : String) (loc : Location)

include sound found

/-- A machine without a register learns of any state that it is asked about. -/
theorem ongoing_of_incomplete (incomplete : machine.register = none) : ongoing id state loc builder =
    .ok (.signal (Machine.indicator id machine.name state)) (builder.withMachine id (machine.mention id state)) := by
  have proper := sound.proper id machine found
  simp only [ongoing, bind, EStateM.bind, get_apply, found, incomplete, Option.isSome_none, Bool.and_false,
    Bool.false_eq_true, ↓reduceIte, proper.mention_eq, modify_apply, proper.fetch_mention, Build.sound, pure,
    EStateM.pure]
  rfl

/-- A state of a complete machine has an indicator already. -/
theorem ongoing_of_state (known : state ∈ machine.encoding.keys) : ongoing id state loc builder =
    .ok (.signal (Machine.indicator id machine.name state)) builder := by
  have proper := sound.proper id machine found
  have listed : machine.indicators.contains state = true :=
    (Table.contains_iff_mem_keys ..).2 ((proper.listed state).2 known)
  obtain ⟨signal, indicator⟩ := Table.exists_get?_of_mem_keys ((proper.listed state).2 known)
  have fetched := Table.fetch_eq_ok indicator
  rw [proper.indicators state signal ((Table.get?_eq_some_iff ..).1 indicator)] at fetched
  simp only [ongoing, bind, EStateM.bind, get_apply, found, listed, Bool.not_true, Bool.false_and, Bool.false_eq_true,
    ↓reduceIte, modify_apply, fetched, Build.sound, pure, EStateM.pure, Arena.modify_of_get? found]

/-- A complete machine has no other states. -/
theorem ongoing_of_unknown (complete : machine.register.isSome = true) (unknown : state ∉ machine.encoding.keys) :
    ongoing id state loc builder = .error (.refused ⟨.stateUnknown machine.name state, loc⟩) builder := by
  have proper := sound.proper id machine found
  have absent : machine.indicators.contains state = false := by
    rw [Bool.eq_false_iff, ne_eq, Table.contains_iff_mem_keys, proper.listed]
    exact unknown
  simp only [ongoing, bind, EStateM.bind, get_apply, found, absent, complete, Bool.not_false, Bool.and_self,
    ↓reduceIte, refuse, throw_apply]

end Queries

end Build

/-! ## Indicators -/

/-- What the module itself assigns to a signal in every fragment that is made of it later: `statements`, among the
indicators that end its combinational domain. Whatever else a fragment holds has been recorded. -/
def Session.Drives (session : Session) (signal : Signal) (statements : List Statement) : Prop :=
  ∀ later, Later session later → later.builder.control.depth = 0 → ∀ platform fragment,
    later.builder.elaborate platform = .ok fragment → ∃ indicators,
      indicators.filter (fun statement ↦ decide (signal ∈ statement.targets)) = statements ∧
      ∀ domain, ∃ resolved,
        Resolution.statements later.builder.machines (later.builder.flushed.statements.statementsOf domain) =
            .ok resolved ∧
          fragment.statements.statementsOf domain = resolved ++ if domain = combinational then indicators else []

theorem Reached.drives {session : Session} (reached : Reached session) {signal : Signal}
    {statements : List Statement} (assigned : ∀ later, Later session later →
      later.builder.indicators.filter (fun statement ↦ decide (signal ∈ statement.targets)) = statements) :
    session.Drives signal statements := by
  intro later behind level platform fragment made
  obtain ⟨sound, placed⟩ := (behind.evolves reached).1.sound
  obtain ⟨open_, place⟩ := placed.atModule level
  exact ⟨_, assigned later behind, fun domain ↦ Builder.statementsOf_elaborate sound place made domain⟩

namespace Builder

/-- The indicators of a machine that is not complete are not assigned. -/
theorem Sound.filter_targets_of_incomplete {builder : Builder} (sound : builder.Sound) {id : MachineId}
    {machine : Machine} (found : builder.machines.get? id = some machine) (incomplete : machine.register = none)
    (state : String) : builder.indicators.filter (fun statement ↦
        decide (Machine.indicator id machine.name state ∈ statement.targets)) = [] := by
  have unassigned : builder.indicators.filter (Machine.indicates id state) = [] := by
    rw [sound.assigned, found, Option.map_some, Option.getD_some, Machine.indications_of_incomplete incomplete]
  rw [List.filter_eq_nil_iff] at unassigned ⊢
  intro statement mem written
  obtain ⟨other, name, signal, source, rfl, -⟩ := sound.indicators statement mem
  obtain rfl : Machine.indicator id machine.name state = signal := by
    simpa [Statement.targets, Value.targets] using written
  exact unassigned _ mem (by simp [Machine.indicates, Machine.indicator])

end Builder

/-! ## Asking machines that have ended -/

/-- What a machine that has returned answers about a state: the indicator that the module drives, which is set while the
register has the number of the state; or that it has no such state. Nothing is changed. -/
structure Session.AnswersComplete (session : Session) (id : MachineId) (machine : Machine) (register : Signal)
    (state : String) (loc : Location) : Prop where
  known : ∀ code, machine.encoding.get? state = some code →
    Build.ongoing id state loc session.builder = .ok (.signal (Machine.indicator id machine.name state)) session.builder ∧
    session.Drives (Machine.indicator id machine.name state)
      [.assign (.signal (Machine.indicator id machine.name state))
        ((Value.signal register).equals (.const ⟨code, register.shape⟩))]
  unknown : machine.encoding.get? state = none → ∃ error, error.kind = .naming ∧
    error = ⟨.stateUnknown machine.name state, loc⟩ ∧
    Build.ongoing id state loc session.builder = .error (.refused error) session.builder

/-- What a machine whose call was refused answers about a state: an indicator that the module never drives, whether or
not the state is a new one, which the machine then learns. -/
structure Session.AnswersAbandoned (session : Session) (id : MachineId) (machine : Machine) (state : String)
    (loc : Location) : Prop where
  incomplete : machine.register = none
  learned : Build.ongoing id state loc session.builder = .ok (.signal (Machine.indicator id machine.name state))
    (session.builder.withMachine id (machine.mention id state))
  undriven : session.Drives (Machine.indicator id machine.name state) []

section Answers

variable {session : Session} (reached : Reached session) {id : MachineId}

include reached

theorem Builder.Completed.answers (completed : session.builder.Completed id) :
    ∃ machine register, machine.register = some register ∧ ∀ later, Later session later →
      later.builder.machines.get? id = some machine ∧ ∀ state loc, later.AnswersComplete id machine register state loc := by
  obtain ⟨machine, found, complete⟩ := completed
  obtain ⟨register, registered⟩ := Option.isSome_iff_exists.1 complete
  have kept : ∀ {first last : Session}, Reached first → Later first last →
      first.builder.machines.get? id = some machine → last.builder.machines.get? id = some machine := by
    intro first last reached behind found
    obtain ⟨same, refound, grows⟩ := (behind.evolves reached).2.machines id machine found
    rwa [grows.final complete] at refound
  refine ⟨machine, register, registered, fun later behind ↦ ?_⟩
  have again := (behind.evolves reached).1
  have refound := kept reached behind found
  refine ⟨refound, fun state loc ↦ ⟨fun code numbered ↦ ⟨?_, again.drives fun last after ↦ ?_⟩, fun absent ↦ ?_⟩⟩
  · have known : state ∈ machine.encoding.keys := by
      rw [← Table.contains_iff_mem_keys, Table.contains, numbered]
      rfl
    exact Build.ongoing_of_state again.sound.1 refound state loc known
  · have sound := (after.evolves again).1.sound.1
    have found := kept again after refound
    rw [sound.filter_targets found registered numbered, Machine.indication, Machine.codeIn, numbered,
      Option.getD_some, ((sound.proper id machine found).coded register registered).ofShape_eq numbered]
  · have unknown : state ∉ machine.encoding.keys := by
      rw [← Table.contains_iff_mem_keys, Table.contains, absent]
      exact Bool.false_ne_true
    exact ⟨_, rfl, rfl, Build.ongoing_of_unknown again.sound.1 refound state loc complete unknown⟩

theorem Builder.Abandoned.answers (abandoned : session.builder.Abandoned id) :
    ∃ machine, session.builder.machines.get? id = some machine ∧
      ∀ state loc, session.AnswersAbandoned id machine state loc := by
  obtain ⟨machine, found, incomplete⟩ := abandoned.incomplete
  refine ⟨machine, found, fun state loc ↦ ⟨incomplete,
    Build.ongoing_of_incomplete reached.sound.1 found state loc incomplete, reached.drives fun later behind ↦ ?_⟩⟩
  obtain ⟨last, refound, registerless⟩ := (behind.abandoned reached abandoned).incomplete
  have evolves := behind.evolves reached
  obtain ⟨same, known, grows⟩ := evolves.2.machines id machine found
  obtain rfl := Option.some.inj (known.symm.trans refound)
  rw [← grows.name]
  exact evolves.1.sound.1.filter_targets_of_incomplete refound registerless state

end Answers

/-- When a machine call has ended, its machine is asked about its states through the key that is left. If the call has
returned, only the states of the machine have indicators, which the module drives, and nothing is ever changed by a
query. If the call was refused, every query returns an indicator that the module never drives, and the machine learns
every state that it is asked about. -/
theorem Reached.ended_machine {session opened after : Session} {step : Step} {name domain initial : Option String}
    {key : String} {body : List Step} {opening : Run Ending} {id : MachineId} (reached : Reached session)
    (call : step.call = .machine name domain initial key body) (opens : step.call.opening step.loc = some opening)
    (accepted : opening session = .ok (.machine id) opened) (ended : EndsIn step.run session after) :
    (step.run session = .ok () after ∧ ∃ machine register, machine.register = some register ∧
      ∀ later, Later after later → later.builder.machines.get? id = some machine ∧
        ∀ state loc, later.AnswersComplete id machine register state loc) ∨
    ((∃ error, step.run session = .error (.refused error) after) ∧
      ∀ later, Later after later → ∃ machine, later.builder.machines.get? id = some machine ∧
        ∀ state loc, later.AnswersAbandoned id machine state loc) := by
  have ends : Ends step.run session
      ⟨fun _ later ↦ later.builder.Completed id, fun _ later ↦ later.builder.Abandoned id⟩ := by
    obtain ⟨_, label, loc, caught⟩ := step
    subst call
    exact (Run.ends_traced ..).2 (machine_ended reached opens accepted)
  rcases ended with ⟨_, returned⟩ | ⟨error, refused⟩
  · have behind : Reached after := .returned step reached returned
    exact .inl ⟨returned, (ends.of_ok returned).answers behind⟩
  · have behind : Reached after := .refused step reached refused
    refine .inr ⟨⟨error, refused⟩, fun later further ↦ ?_⟩
    exact (further.abandoned behind (ends.of_refused refused)).answers (further.evolves behind).1

/-! ## A machine whose body is refused -/

/-- A machine whose body is refused at once. -/
def stopped : Step :=
  ⟨.machine none none none "m" [⟨.raise "stop", "fail", ⟨"design", 2, 1⟩, false⟩], "fsm", ⟨"design", 1, 1⟩, false⟩

/-- The call has ended and the machine has no states, but asked about one it learns it and hands out an indicator. In
the fragment nothing is assigned at all. -/
theorem stopped_asked : ∃ error after machine fragment, stopped.run vacant.start = .error (.refused error) after ∧
    after.builder.machines.get? ⟨0, 0⟩ = some machine ∧ "A" ∉ machine.encoding.keys ∧
    Build.ongoing ⟨0, 0⟩ "A" ⟨"design", 3, 1⟩ after.builder =
      .ok (.signal (Machine.indicator ⟨0, 0⟩ machine.name "A"))
        (after.builder.withMachine ⟨0, 0⟩ (machine.mention ⟨0, 0⟩ "A")) ∧
    "A" ∈ (machine.mention ⟨0, 0⟩ "A").encoding.keys ∧
    (after.builder.withMachine ⟨0, 0⟩ (machine.mention ⟨0, 0⟩ "A")).elaborate none = .ok fragment ∧
    ∀ domain, fragment.statements.statementsOf domain = [] := by
  have computed : (stopped.run.refused? vacant.start).any (fun refusal ↦
      (refusal.2.builder.machines.get? ⟨0, 0⟩).any fun machine ↦
        ((refusal.2.builder.withMachine ⟨0, 0⟩ (machine.mention ⟨0, 0⟩ "A")).fragment? none).any fun fragment ↦ decide (
          machine.register.isNone = true ∧ machine.encoding.keys = [] ∧ fragment.statements.keys = [])) = true := by
    decide +kernel
  obtain ⟨⟨error, after⟩, refused, computed⟩ := (Option.any_eq_true _ _).1 computed
  obtain ⟨machine, found, computed⟩ := (Option.any_eq_true _ _).1 computed
  obtain ⟨fragment, made, facts⟩ := (Option.any_eq_true _ _).1 computed
  obtain ⟨incomplete, stateless, silent⟩ := of_decide_eq_true facts
  have refused := Run.refused_of_refused? refused
  have known := (Reached.refused stopped (.start vacant) refused).sound.1
  refine ⟨error, after, machine, fragment, refused, found, by simp [stateless],
    Build.ongoing_of_incomplete known found _ _ (Option.isNone_iff_eq_none.1 incomplete),
    (machine.mem_keys_mention ⟨0, 0⟩ "A" "A").2 (.inr rfl), Builder.elaborate_of_fragment? made, fun domain ↦ ?_⟩
  have absent : fragment.statements.get? domain = none := by
    rw [Table.get?_eq_none_iff, silent]
    exact List.not_mem_nil
  rw [Body.statementsOf, absent, Option.getD_none]

/-- A call that is accepted, with what its opening leaves. -/
theorem Call.exists_opened {call : Call (List Step)} {loc : Location} {session : Session}
    (accepts : (call.opening loc).any (fun opening ↦ (opening.returned? session).isSome) = true) :
    ∃ opening ending opened, call.opening loc = some opening ∧ opening.returned? session = some (ending, opened) := by
  obtain ⟨opening, opens, accepted⟩ := (Option.any_eq_true _ _).1 accepts
  obtain ⟨⟨ending, opened⟩, accepted⟩ := Option.isSome_iff_exists.1 accepted
  exact ⟨opening, ending, opened, opens, accepted⟩

/-- The machine that is refused learns every state that it is asked about, and the one that returns knows its two. -/
theorem vacant_machines_answer :
    (∃ error after machine, stopped.run vacant.start = .error (.refused error) after ∧
      ∀ state loc, after.AnswersAbandoned ⟨0, 0⟩ machine state loc) ∧
    ∃ after machine register, startsInB.run vacant.start = .ok () after ∧ machine.encoding.keys = ["B", "A"] ∧
      ∀ state loc, after.AnswersComplete ⟨0, 0⟩ machine register state loc := by
  have start := Reached.start vacant
  constructor
  · have computed : (stopped.run.refused? vacant.start).isSome = true := by decide +kernel
    obtain ⟨⟨error, after⟩, refused⟩ := Option.isSome_iff_exists.1 computed
    have refused := Run.refused_of_refused? refused
    obtain ⟨opening, _, opened, opens, accepted⟩ : ∃ opening ending opened,
        stopped.call.opening stopped.loc = some opening ∧ opening.returned? vacant.start = some (ending, opened) :=
      Call.exists_opened (by decide +kernel)
    rcases start.ended_machine rfl opens (vacant_accepts opens accepted) (.inr ⟨error, refused⟩) with
      ⟨returned, -⟩ | ⟨-, answers⟩
    · exact nomatch refused.symm.trans returned
    · obtain ⟨machine, -, answers⟩ := answers after .here
      exact ⟨error, after, machine, refused, answers⟩
  · have computed : (startsInB.run.returned? vacant.start).any (fun result ↦ decide (
        (result.2.builder.machineEncoding? ⟨0, 0⟩).map Table.keys = some ["B", "A"])) = true := by decide +kernel
    obtain ⟨⟨_, after⟩, returned, keys⟩ := (Option.any_eq_true _ _).1 computed
    have returned := Run.returned_of_returned? returned
    obtain ⟨opening, _, opened, opens, accepted⟩ : ∃ opening ending opened,
        startsInB.call.opening startsInB.loc = some opening ∧ opening.returned? vacant.start = some (ending, opened) :=
      Call.exists_opened (by decide +kernel)
    rcases start.ended_machine rfl opens (vacant_accepts opens accepted) (.inl ⟨(), returned⟩) with
      ⟨-, machine, register, -, answers⟩ | ⟨⟨error, refused⟩, -⟩
    · obtain ⟨found, answers⟩ := answers after .here
      have encoding : after.builder.machineEncoding? ⟨0, 0⟩ = some machine.encoding := congrArg (Option.map _) found
      rw [encoding] at keys
      exact ⟨after, machine, register, returned, Option.some.inj (of_decide_eq_true keys), answers⟩
    · exact nomatch returned.symm.trans refused

end RegisterTransfer
