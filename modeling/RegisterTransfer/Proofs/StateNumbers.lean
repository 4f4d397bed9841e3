import RegisterTransfer.Proofs.History
import RegisterTransfer.Proofs.MachineViews
import Mathlib.Algebra.Ring.Nat

/-!
# The numbers of the states

While a machine is open its states are mentioned by state calls, transitions and queries, in any order, in bodies at any
depth and in bodies that are refused in the end. The machine keeps the states in the order of their first mention, and
the declared ones in the order in which their calls returned. So the numbers of the complete machine can be told from
the events of its call alone.
-/

namespace RegisterTransfer

/-! ## Events of one machine -/

namespace Event

/-- The states of a machine that are mentioned, in order, each as often as it is. -/
def mentions (id : MachineId) (events : List Event) : List String :=
  events.filterMap fun
    | .mentioned machine state => if machine = id then some state else none
    | _ => none

/-- The states of a machine that are declared, in order. -/
def declarations (id : MachineId) (events : List Event) : List String :=
  events.filterMap fun
    | .declared machine state => if machine = id then some state else none
    | _ => none

theorem mentions_append (id : MachineId) (first second : List Event) :
    mentions id (first ++ second) = mentions id first ++ mentions id second := List.filterMap_append

theorem declarations_append (id : MachineId) (first second : List Event) :
    declarations id (first ++ second) = declarations id first ++ declarations id second := List.filterMap_append

end Event

/-! ## First mentions -/

namespace Machine

theorem eraseDups_of_nodup {states : List String} (distinct : states.Nodup) : states.eraseDups = states := by
  induction states with
  | nil => rfl
  | cons state rest ih =>
    rw [List.nodup_cons] at distinct
    have kept : rest.filter (fun other ↦ !other == state) = rest := by
      rw [List.filter_eq_self]
      intro other mem
      have apart : other ≠ state := fun same ↦ distinct.1 (same ▸ mem)
      simpa using apart
    rw [List.eraseDups_cons, kept, ih distinct.2]

/-- Later mentions may be added to the states that are known or to all that has been mentioned before. -/
theorem eraseDups_eraseDups_append (first second : List String) :
    (first.eraseDups ++ second).eraseDups = (first ++ second).eraseDups := by
  have known : second.removeAll first.eraseDups = second.removeAll first := by
    simp only [List.removeAll]
    refine List.filter_congr fun state _ ↦ ?_
    simp
  rw [List.eraseDups_append, List.eraseDups_append, known, eraseDups_of_nodup (Lowering.nodup_eraseDups first)]

/-- What becomes of the states of an open machine: those mentioned first join in order, and so do the declared ones. -/
structure Counts (machine later : Machine) (mentions declarations : List String) : Prop where
  encoding : later.encoding.keys = (machine.encoding.keys ++ mentions).eraseDups
  states : later.states.keys = machine.states.keys ++ declarations
  initial : later.initial = machine.initial

theorem Counts.refl (machine : Machine) : machine.Counts machine [] [] where
  encoding := by rw [List.append_nil, eraseDups_of_nodup machine.encoding.keys_nodup]
  states := (List.append_nil _).symm
  initial := rfl

theorem Counts.trans {machine middle later : Machine} {first second others more : List String}
    (before : machine.Counts middle first others) (after : middle.Counts later second more) :
    machine.Counts later (first ++ second) (others ++ more) where
  encoding := by rw [after.encoding, before.encoding, eraseDups_eraseDups_append, List.append_assoc]
  states := by rw [after.states, before.states, List.append_assoc]
  initial := after.initial.trans before.initial

/-- A state that is known already is mentioned. -/
theorem counts_known {machine : Machine} {state : String} (known : state ∈ machine.encoding.keys) :
    machine.Counts machine [state] [] where
  encoding := by
    have absent : [state].removeAll machine.encoding.keys = [] := by simp [List.removeAll, known]
    rw [List.eraseDups_append, absent, List.eraseDups_nil, List.append_nil,
      eraseDups_of_nodup machine.encoding.keys_nodup]
  states := (List.append_nil _).symm
  initial := rfl

theorem counts_mention (machine : Machine) (id : MachineId) (state : String) :
    machine.Counts (machine.mention id state) [state] [] := by
  by_cases known : state ∈ machine.encoding.keys
  · have same : machine.mention id state = machine := if_pos ((Table.contains_iff_mem_keys ..).2 known)
    rw [same]
    exact counts_known known
  · have new : ¬machine.encoding.contains state = true := fun listed ↦ known ((Table.contains_iff_mem_keys ..).1 listed)
    rw [mention, if_neg new]
    refine ⟨?_, (List.append_nil _).symm, rfl⟩
    have distinct : (machine.encoding.keys ++ [state]).Nodup := by
      rw [List.nodup_append]
      refine ⟨machine.encoding.keys_nodup, by simp, fun other mem same_state single ↦ ?_⟩
      rw [List.mem_singleton] at single
      rintro rfl
      exact known (single ▸ mem)
    rw [eraseDups_of_nodup distinct, Table.keys_insert, if_neg known]

theorem counts_declare {machine : Machine} {state : String} (absent : state ∉ machine.states.keys)
    (declared : MachineState) :
    machine.Counts { machine with states := machine.states.insert state declared } [] [state] where
  encoding := (Counts.refl machine).encoding
  states := by rw [Table.keys_insert, if_neg absent]
  initial := rfl

end Machine

/-! ## Runs -/

/-- What becomes of a machine, told from the events in between. -/
def Session.Counts (id : MachineId) (before : Session) (events : List Event) (after : Session) : Prop :=
  ∀ machine, before.builder.machines.get? id = some machine → ∃ later,
    after.builder.machines.get? id = some later ∧
      machine.Counts later (Event.mentions id events) (Event.declarations id events)

namespace Session

variable {id : MachineId} {before after : Session}

theorem counts_of_same (same : after.builder.machines.get? id = before.builder.machines.get? id) :
    Session.Counts id before [] after := by
  intro machine found
  exact ⟨machine, same.trans found, .refl machine⟩

theorem Counts.trans {middle : Session} {first second : List Event} (ahead : Session.Counts id before first middle)
    (behind : Session.Counts id middle second after) : Session.Counts id before (first ++ second) after := by
  intro machine found
  obtain ⟨known, there, counts⟩ := ahead machine found
  obtain ⟨later, here, more⟩ := behind known there
  refine ⟨later, here, ?_⟩
  rw [Event.mentions_append, Event.declarations_append]
  exact counts.trans more

/-- One machine has changed, and all that has happened is told about it. -/
theorem counts_of_modify {changed : MachineId} {machine later : Machine} {events : List Event}
    (found : before.builder.machines.get? changed = some machine)
    (machines : after.builder.machines = before.builder.machines.modify changed fun _ ↦ later)
    (own : machine.Counts later (Event.mentions changed events) (Event.declarations changed events))
    (others : ∀ other, other ≠ changed → Event.mentions other events = [] ∧ Event.declarations other events = []) :
    Session.Counts id before events after := by
  intro known refound
  rw [machines, Arena.get?_modify]
  by_cases same : id = changed
  · subst same
    rw [found, Option.some.injEq] at refound
    subst refound
    exact ⟨later, by rw [if_pos rfl, found, Option.map_some], own⟩
  · obtain ⟨mentions, declarations⟩ := others id same
    rw [if_neg same, mentions, declarations]
    exact ⟨known, refound, .refl known⟩

theorem counts_mentioned {changed : MachineId} {state : String} {machine later : Machine}
    (found : before.builder.machines.get? changed = some machine)
    (machines : after.builder.machines = before.builder.machines.modify changed fun _ ↦ later)
    (own : machine.Counts later [state] []) : Session.Counts id before [.mentioned changed state] after := by
  refine counts_of_modify found machines ?_ fun other apart ↦ ?_
  · simpa [Event.mentions, Event.declarations] using own
  · simp [Event.mentions, Event.declarations, Ne.symm apart]

theorem counts_declared {changed : MachineId} {state : String} {machine later : Machine}
    (found : before.builder.machines.get? changed = some machine)
    (machines : after.builder.machines = before.builder.machines.modify changed fun _ ↦ later)
    (own : machine.Counts later [] [state]) : Session.Counts id before [.declared changed state] after := by
  refine counts_of_modify found machines ?_ fun other apart ↦ ?_
  · simpa [Event.mentions, Event.declarations] using own
  · simp [Event.mentions, Event.declarations, Ne.symm apart]

theorem counts_filed (same : after.builder.machines = before.builder.machines) (domain : String)
    (statements : List Statement) : Session.Counts id before [.filed domain statements] after :=
  counts_of_same (by rw [same])

end Session

namespace Builder

theorem machines_recorded (builder : Builder) (domain : String) (statements : List Statement) :
    (builder.recorded domain statements).machines = builder.machines := builder.machines_flushed_eq

end Builder

theorem runCall_counts (id : MachineId) (loc : Location) {call : Call (List Step)} (simple : call.isConstruct = false)
    {session : Session} (sound : session.builder.Sound) (placed : session.builder.control.Placed) :
    Ends (runCall loc call) session ⟨fun _ later ↦ Session.Counts id session (call.events session) later,
      fun _ later ↦ Session.Counts id session [] later⟩ := by
  refine simple_ends loc simple sound placed ?_ ?_ ?_ ?_ ?_
  · rintro domain statements values advice rfl evaluated - -
    simp only [Call.events, evaluated]
    exact Session.counts_filed (Builder.machines_recorded ..) _ _
  · rintro target changed machine rfl innermost found
    simp only [Call.events, innermost, Option.map_some, Option.toList_some]
    exact Session.counts_mentioned found (Builder.machines_recorded ..) (machine.counts_mention changed target)
  · rintro key state storeAs changed machine _ _ _ rfl stored found rfl
    simp only [Call.events, stored, Option.map_some, Option.toList_some]
    refine Session.counts_mentioned found rfl ?_
    split
    · rename_i listed
      exact Machine.counts_known (((sound.proper changed machine found).listed state).1
        ((Table.contains_iff_mem_keys ..).1 listed))
    · exact machine.counts_mention changed state
  · intro answer later only silent
    rw [silent]
    exact Session.counts_of_same (by rw [only.machines])
  · rintro error later (only | ⟨advice, same⟩)
    · exact Session.counts_of_same (by rw [only.machines])
    · refine Session.counts_of_same ?_
      rw [same, Builder.machines_flushed_eq]
      rfl

theorem counts_opened {session after : Session} {ending : Ending} {opened : Builder} (id : MachineId)
    (opens : session.builder.Opens ending opened) (machines : after.builder.machines = opened.machines) :
    Session.Counts id session ending.opened after := by
  cases opens with
  | first test loc advice place =>
    refine Session.counts_of_same ?_
    rw [machines, Builder.machines_opening]
    rfl
  | switch test loc place =>
    refine Session.counts_of_same ?_
    rw [machines, Builder.machines_opening]
  | @machine name domain initial loc behind base place clocked =>
    intro machine found
    refine ⟨machine, ?_, .refl machine⟩
    rw [machines, Builder.machines_opening, Builder.withNewMachine, Arena.get?_push, if_neg, found]
    rintro rfl
    rw [Arena.get?_nextKey] at found
    contradiction
  | state name place found incomplete absent =>
    exact Session.counts_mentioned found machines (Machine.counts_mention _ _ name)
  | next test advice top level growing => exact Session.counts_of_same (by rw [machines]; rfl)
  | last top level growing => exact Session.counts_of_same (by rw [machines])
  | case patterns advice place => exact Session.counts_of_same (by rw [machines]; rfl)
  | default advice place => exact Session.counts_of_same (by rw [machines]; rfl)

/-- Finishing a construct declares a state at most, and completes no machine but its own. -/
theorem counts_finished {last after : Session} {ending : Ending} {left concluded : Builder} {loc : Location}
    {recorded : Body} (id : MachineId) (apart : ∀ machine, ending = .machine machine → machine ≠ id)
    (concludes : left.Concludes loc recorded ending concluded) (before : left.machines = last.builder.machines)
    (machines : after.builder.machines = concluded.machines) : Session.Counts id last ending.finished after := by
  cases concludes with
  | machine top found closed =>
    refine Session.counts_of_same ?_
    have other := apart _ rfl
    rw [machines, ← before]
    change (left.machines.modify _ _).get? id = _
    rw [Arena.get?_modify, if_neg (Ne.symm other)]
  | state place found absent =>
    rw [before] at found
    refine Session.counts_declared found ?_ (Machine.counts_declare absent ⟨recorded, loc⟩)
    rw [machines, ← before]
    rfl
  | _ => exact Session.counts_of_same (by rw [machines.trans (show _ = left.machines from rfl), before])

theorem recounts_counts (id : MachineId) : Recounts (Session.Counts id) where
  refl session := Session.counts_of_same rfl
  trans := Session.Counts.trans
  entry _ counts := counts
  simple loc _ simple _ sound placed := runCall_counts id loc simple sound placed
  advised session advice := Session.counts_of_same rfl
  opened _ opens := counts_opened id opens.builder (Builder.machines_enter _ _)
  finished := by
    intro session ending opened last events loc after _ opens counts _ concludes machine found
    refine (Session.Counts.trans counts (counts_finished id ?_ concludes (Builder.machines_left ..) rfl)) machine found
    rintro _ rfl rfl
    rw [opens.builder.new] at found
    contradiction
  dropped _ _ counts _ := counts

/-! ## Machines without states -/

theorem runCall_indicators (loc : Location) {call : Call (List Step)} (simple : call.isConstruct = false)
    {session : Session} (sound : session.builder.Sound) (placed : session.builder.control.Placed) :
    Ends (runCall loc call) session (.always fun later ↦ later.builder.indicators = session.builder.indicators) := by
  refine simple_ends loc simple sound placed ?_ ?_ ?_ ?_ ?_
  · exact fun _ _ _ _ _ _ _ _ ↦ Builder.indicators_flushed _
  · exact fun _ _ _ _ _ _ ↦ Builder.indicators_flushed _
  · exact fun _ _ _ _ _ _ _ _ _ _ _ _ ↦ rfl
  · exact fun _ _ only _ ↦ only.indicators
  · rintro error later (only | ⟨advice, same⟩)
    · exact only.indicators
    · exact (congrArg Builder.indicators same).trans (Builder.indicators_flushed _)

/-- Directly inside of a machine, nothing is emitted before a state of it is mentioned. -/
def Session.Silent (id : MachineId) (before : Session) (events : List Event) (after : Session) : Prop :=
  before.builder.control.declaring? = some id → Event.mentions id events = [] →
    after.builder.control.declaring? = some id ∧ after.builder.indicators = before.builder.indicators

theorem Builder.Opens.mentions {builder opened : Builder} {ending : Ending} {id : MachineId}
    (opens : builder.Opens ending opened) (inside : builder.control.declaring? = some id) :
    Event.mentions id ending.opened ≠ [] := by
  have chain : ∀ {chain : IfChain} {base : List Frame}, builder.control ≠ ⟨.chain chain :: base, base.length, none⟩ := by
    intro chain base top
    rw [top] at inside
    simp [Control.declaring?] at inside
  have body : ∀ {behind : Option IfChain} {base : List Frame}, ¬builder.control.AtBody behind base := by
    intro behind base place
    rw [place.declaring?_eq] at inside
    contradiction
  have switch : ∀ {switch : OpenSwitch} {base : List Frame}, ¬builder.control.AtConstruct (.switch switch) base := by
    intro switch base place
    rw [place.declaring?_eq] at inside
    contradiction
  cases opens with
  | first test loc advice place => exact absurd place body
  | next test advice top level growing => exact absurd top chain
  | last top level growing => exact absurd top chain
  | switch test loc place => exact absurd place body
  | case patterns advice place => exact absurd place switch
  | default advice place => exact absurd place switch
  | machine initial loc place clocked => exact absurd place body
  | state name place found incomplete absent =>
    rw [place.declaring?_eq, Control.machineOf?, Option.some.injEq] at inside
    simp [Ending.opened, Event.mentions, inside]

theorem recounts_silent (id : MachineId) : Recounts (Session.Silent id) where
  refl session inside _ := ⟨inside, rfl⟩
  trans {_ _ _ first second} ahead behind inside none := by
    rw [Event.mentions_append, List.append_eq_nil_iff] at none
    obtain ⟨still, same⟩ := ahead inside none.1
    obtain ⟨there, again⟩ := behind still none.2
    exact ⟨there, again.trans same⟩
  entry _ silent := silent
  simple loc call simple session sound placed := by
    have stays := runCall_proceeds loc call (fun body _ ↦ proceed body) session sound placed
    refine (stays.and (runCall_indicators loc simple sound placed)).mono ?_ ?_
    · exact fun _ _ kept inside _ ↦ ⟨kept.1.level.declaring.trans inside, kept.2⟩
    · exact fun _ _ kept inside _ ↦ ⟨kept.1.level.declaring.trans inside, kept.2⟩
  advised session advice inside _ := ⟨inside, rfl⟩
  opened _ opens inside none := absurd none (opens.builder.mentions inside)
  finished _ opens _ _ _ inside none := by
    rw [Event.mentions_append, Event.mentions_append, List.append_eq_nil_iff, List.append_eq_nil_iff] at none
    exact absurd none.1.1 (opens.builder.mentions inside)
  dropped _ opens _ _ inside none := by
    rw [Event.mentions_append, List.append_eq_nil_iff] at none
    exact absurd none.1 (opens.builder.mentions inside)

/-! ## Complete machines -/

namespace Machine

/-- A complete machine whose states have been mentioned and declared like this, the first of them being `first`. -/
structure Numbered (machine : Machine) (register : Signal) (mentions declarations : List String) (first : String) :
    Prop where
  /-- The table lists its states in the order of their numbers. -/
  order : machine.encoding.entries = (first :: mentions.eraseDups.filter fun state ↦ state != first).zipIdx
  start : machine.encoding.get? first = some 0
  declared : ∀ state, state ∈ machine.encoding.keys ↔ state ∈ declarations
  once : declarations.Nodup
  below : ∀ state ∈ declarations, ∃ code < declarations.length, machine.encoding.get? state = some code
  reached : ∀ code < declarations.length, ∃! state, machine.encoding.get? state = some code
  unsigned : register.shape.signed = false
  width : ∀ width, register.shape.width ≤ width ↔ declarations.length ≤ 2 ^ width
  init : register.init = 0

section Close

variable {machine : Machine} {id : MachineId} {loc : Location} {closing : Closing}
  (closed : machine.close id loc = .ok closing)

include closed

theorem close_of_initial {first : String} (initial : machine.initialState? = some first) :
    closing.machine = { machine with
      encoding := numbered (machine.finalOrder first)
      register := some (stateRegister id machine.name (numbered (machine.finalOrder first))) } ∧
    first ∈ machine.states.keys ∧ ∀ state ∈ machine.encoding.keys, state ∈ machine.states.keys := by
  unfold close at closed
  split at closed
  · simp at closed
  · rename_i complete
    obtain ⟨defined, chosen⟩ := checkComplete_eq_ok complete
    have declared : first ∈ machine.states.keys := by
      rw [initialState?, Option.or_eq_some_iff] at initial
      rcases initial with asked | ⟨-, head⟩
      · exact chosen first asked
      · exact List.mem_of_mem_head? head
    rw [initial] at closed
    dsimp only at closed
    split at closed
    · rw [Except.ok.injEq] at closed
      subst closed
      exact ⟨rfl, declared, defined⟩
    · simp at closed
    · simp at closed

theorem close_of_stateless (stateless : machine.states.keys = []) :
    closing = ⟨{ machine with register := some (emptyRegister id machine.name) }, [], []⟩ ∧
      machine.encoding = ∅ := by
  unfold close at closed
  split at closed
  · simp at closed
  · rename_i complete
    obtain ⟨defined, chosen⟩ := checkComplete_eq_ok complete
    have none_asked : machine.initialState? = none := by
      rw [initialState?, Option.or_eq_none_iff, stateless]
      refine ⟨?_, rfl⟩
      cases asked : machine.initial with
      | none => rfl
      | some initial =>
        have declared := chosen initial asked
        rw [stateless] at declared
        contradiction
    rw [none_asked, Except.ok.injEq] at closed
    refine ⟨closed.symm, Table.ext_entries ?_⟩
    have unmentioned : machine.encoding.keys = [] := by
      rw [List.eq_nil_iff_forall_not_mem]
      intro state mem
      have declared := defined state mem
      rw [stateless] at declared
      contradiction
    exact List.map_eq_nil_iff.1 unmentioned

end Close

/-- The numbers of a machine that is closed after its states have been mentioned and declared in some order. -/
theorem Counts.numbered {name domain : String} {initial : Option String} {machine : Machine} {id : MachineId}
    {mentions declarations : List String}
    (counts : (opened name domain initial).Counts machine mentions declarations) (proper : machine.Proper id)
    {loc : Location} {closing : Closing} (closed : machine.close id loc = .ok closing) {first : String}
    (starts : initial.or declarations.head? = some first) :
    ∃ register, closing.machine.register = some register ∧
      closing.machine.Numbered register mentions declarations first := by
  have mentioned : machine.encoding.keys = mentions.eraseDups := counts.encoding
  have states : machine.states.keys = declarations := counts.states
  have asked : machine.initialState? = some first := by
    rw [initialState?, counts.initial, states]
    exact starts
  obtain ⟨after, declared, defined⟩ := close_of_initial closed asked
  have order : machine.finalOrder first = first :: mentions.eraseDups.filter fun state ↦ state != first := by
    rw [finalOrder, mentioned]
  have distinct := machine.nodup_finalOrder first
  have listed : ∀ state, state ∈ machine.finalOrder first ↔ state ∈ declarations := by
    intro state
    rw [mem_finalOrder, ← states]
    constructor
    · rintro (rfl | mem)
      · exact declared
      · exact defined state mem
    · exact fun mem ↦ .inr (proper.declared state mem)
  have once : declarations.Nodup := states ▸ machine.states.keys_nodup
  have size : (machine.finalOrder first).length = declarations.length :=
    ((List.perm_ext_iff_of_nodup distinct once).2 listed).length_eq
  have positive : 0 < declarations.length := by
    rw [← size]
    exact Nat.succ_pos _
  rw [after]
  refine ⟨_, rfl, ?_, ?_, ?_, once, ?_, ?_, rfl, fun width ↦ ?_, rfl⟩
  · change (Machine.numbered (machine.finalOrder first)).entries = _
    rw [entries_numbered distinct, order]
  · exact (get?_numbered distinct first 0).2 rfl
  · change ∀ state, state ∈ (Machine.numbered (machine.finalOrder first)).keys ↔ state ∈ declarations
    rw [keys_numbered distinct]
    exact listed
  · intro state mem
    obtain ⟨code, found⟩ := List.getElem?_of_mem ((listed state).2 mem)
    refine ⟨code, ?_, (get?_numbered distinct state code).2 found⟩
    rw [← size]
    exact (List.getElem?_eq_some_iff.1 found).1
  · intro code below
    rw [← size] at below
    refine ⟨(machine.finalOrder first)[code], (get?_numbered distinct _ code).2 (List.getElem?_eq_getElem below), ?_⟩
    intro state found
    have again := (get?_numbered distinct state code).1 found
    rw [List.getElem?_eq_getElem below, Option.some.injEq] at again
    exact again.symm
  · change bitLength ((Machine.numbered (machine.finalOrder first)).size - 1) ≤ width ↔ _
    rw [size_numbered distinct, size, bitLength_le_iff, wordCount, Nat.pow_eq]
    omega

end Machine

/-! ## Machine calls -/

/-- What is left of a machine call that returns, in which `events` have happened. -/
structure Session.Closes (session later : Session) (answer : Answer) (initial : Option String) (events : List Event)
    (id : MachineId) (machine : Machine) (closing : Machine.Closing) : Prop where
  answer : answer = .machine id (later.builder.machineEncoding? id) (later.builder.machineRegister? id)
  found : later.builder.machines.get? id = some closing.machine
  proper : machine.Proper id
  closed : ∃ place, machine.close id place = .ok closing
  counts : ∃ name clock, (Machine.opened name clock initial).Counts machine (Event.mentions id events)
    (Event.declarations id events)
  statements : later.builder.statements = session.builder.flushed.statements.appendAll closing.branches
  indicators : Event.mentions id events = [] →
    later.builder.indicators = session.builder.indicators ++ closing.indicators

theorem machine_call_ends {session : Session} (sound : session.builder.Sound)
    (placed : session.builder.control.Placed) (name clock initial : Option String) (key : String) (body : List Step)
    (loc : Location) : Ends (runCall loc (.machine name clock initial key body)) session
      ⟨fun answer later ↦ ∃ id machine closing, session.Closes later answer initial
        (callEvents loc (.machine name clock initial key body) session) id machine closing, fun _ _ ↦ True⟩ := by
  set opening : Run Ending := do
    let id ← Run.build (Build.openMachine name clock initial loc)
    Run.storeMachine key id
    return .machine id with opening_eq
  have opens : (Call.machine name clock initial key body).opening loc = some opening := rfl
  have ends : Ends (runCall loc (.machine name clock initial key body)) session ⟨fun answer later ↦
      ∃ id opened machine closing, opening session = .ok (.machine id) opened ∧ session.Closes later answer initial
        (bodyEvents body (opened.withBuilder (opened.builder.enterConstruct .machine))) id machine closing,
      fun _ _ ↦ True⟩ := by
    refine construct_ends opens rfl sound placed (fun _ _ _ _ _ ↦ trivial) ?_
    intro ending opened ran made
    obtain ⟨id, name, clock, -, rfl, new, -⟩ := Ends.of_ok ran (opening_machine_ends opens sound placed)
    have due := made.builder.due sound.stacked
    obtain ⟨-, statements, indicators⟩ := made.builder.machine_eq
    have entered := made.leads.sound.enters due
    obtain ⟨place, base, top⟩ := due
    have inside : (opened.builder.enterConstruct .machine).control.declaring? = some id :=
      (made.leads.sound.enterConstruct top).2.declaring?_eq
    set inner := opened.withBuilder (opened.builder.enterConstruct .machine) with inner_eq
    have counted := (recounts_counts id).body body inner entered.1.sound entered.2
    have quiet := (recounts_silent id).body body inner entered.1.sound entered.2
    refine (counted.and quiet).mono ?_ fun _ _ _ _ ↦ trivial
    rintro _ last ⟨counts, silent⟩ leaves
    refine ⟨?_, fun _ ↦ trivial⟩
    intro after concludes
    cases concludes with
    | @machine _ place base machine closing top found closed =>
      have found : last.builder.machines.get? id = some machine := found
      obtain ⟨known, there, follows⟩ := counts _ new
      rw [found, Option.some.injEq] at there
      subst there
      have kept : last.builder.statements = opened.builder.statements := leaves.stays.kept rfl
      refine ⟨id, opened, machine, closing, ran, rfl, ?_, leaves.sound.proper id machine found, ⟨place, closed⟩,
        ⟨name, clock, follows⟩, ?_, fun none ↦ ?_⟩
      · change (last.builder.machines.modify id _).get? id = _
        rw [Arena.get?_modify, if_pos rfl, found, Option.map_some]
      · change last.builder.statements.appendAll closing.branches = _
        rw [kept, statements]
      · change last.builder.indicators ++ closing.indicators = _
        rw [(silent inside none).2]
        exact congrArg (· ++ closing.indicators) indicators
  refine ends.known.mono ?_ fun _ _ _ ↦ trivial
  rintro answer later ⟨returned, id, opened, machine, closing, ran, closes⟩
  refine ⟨id, machine, closing, ?_⟩
  rw [callEvents_of_body rfl rfl, constructEvents, opens]
  simp only [ran, returned, Ending.opened, Ending.finished, List.nil_append, List.append_nil]
  exact closes

/-! ## The table of a complete machine -/

/-- The numbers of the states of a machine follow from the events of its call alone. The declared states get the numbers
from zero up, each of them one: the initial state, which is the one asked for or the first that was declared, gets zero,
and the others follow in the order of their first mention, in which the table lists them as well. The register is
unsigned, just wide enough and starts at zero. A machine without states has an empty table and a register of no width,
and nothing is emitted for it. -/
theorem Reached.state_numbers {session after : Session} {step : Step} {name domain initial : Option String}
    {key : String} {body : List Step} (reached : Reached session)
    (call : step.call = .machine name domain initial key body) (returned : step.run session = .ok () after) :
    ∃ id machine register,
      after.trace.getLast?.map Entry.result = some (.ok (.machine id (some machine.encoding) (some register))) ∧
      after.builder.machines.get? id = some machine ∧
      (∀ first, initial.or (Event.declarations id (step.events session)).head? = some first →
        machine.Numbered register (Event.mentions id (step.events session))
          (Event.declarations id (step.events session)) first) ∧
      (Event.declarations id (step.events session) = [] → machine.encoding = ∅ ∧ register.shape.width = 0 ∧
        after.builder.statements = session.builder.flushed.statements ∧
          after.builder.indicators = session.builder.indicators) := by
  obtain ⟨sound, placed⟩ := reached.sound
  obtain ⟨_, label, loc, caught⟩ := step
  subst call
  have ends : Ends (Step.run ⟨.machine name domain initial key body, label, loc, caught⟩) session ⟨fun _ later ↦
      ∃ answer id machine closing, later.trace.getLast?.map Entry.result = some (.ok answer) ∧
        session.Closes later answer initial (callEvents loc (.machine name domain initial key body) session) id machine
          closing, fun _ _ ↦ True⟩ := by
    refine (Run.ends_traced ..).2 ((machine_call_ends sound placed name domain initial key body loc).mono ?_
      fun _ _ _ ↦ trivial)
    rintro answer later ⟨id, machine, closing, closes⟩
    exact ⟨answer, id, machine, closing, by simp [List.getLast?_append], closes.answer, closes.found, closes.proper,
      closes.closed, closes.counts, closes.statements, closes.indicators⟩
  obtain ⟨answer, id, machine, closing, last, closes⟩ := Ends.of_ok returned ends
  obtain ⟨place, closed⟩ := closes.closed
  obtain ⟨given, clock, counts⟩ := closes.counts
  obtain ⟨register, encoding, closed_⟩ := closes.proper.closes_of_close closed
  have complete : closing.machine.register = some register := by rw [closed_.after]
  refine ⟨id, closing.machine, register, ?_, closes.found, fun first starts ↦ ?_, fun stateless ↦ ?_⟩
  · rw [last, closes.answer, Builder.machineEncoding?, Builder.machineRegister?, closes.found, Option.map_some,
      Option.bind_some, complete]
  · obtain ⟨own, same, numbered⟩ := counts.numbered closes.proper closed starts
    rw [complete, Option.some.injEq] at same
    exact same ▸ numbered
  · have undeclared : machine.states.keys = [] := counts.states.trans stateless
    obtain ⟨rfl, bare⟩ := Machine.close_of_stateless closed undeclared
    have unmentioned : Event.mentions id (Step.events
        ⟨.machine name domain initial key body, label, loc, caught⟩ session) = [] := by
      have none : (Event.mentions id (callEvents loc (.machine name domain initial key body) session)).eraseDups = [] := by
        have listed := counts.encoding
        rw [bare] at listed
        exact listed.symm
      rw [List.eq_nil_iff_forall_not_mem] at none ⊢
      exact fun state mem ↦ none state (List.mem_eraseDups.2 mem)
    rw [Option.some.injEq] at complete
    refine ⟨bare, ?_, closes.statements, ?_⟩
    · rw [← complete]
      rfl
    · rw [closes.indicators unmentioned, List.append_nil]

/-! ## A machine whose states are mentioned out of order -/

/-- The machine that the last step has answered with. -/
def Session.answeredMachine? (session : Session) : Option MachineId :=
  match session.trace.getLast?.map Entry.result with
  | some (.ok (.machine id _ _)) => some id
  | _ => none

/-- A machine that is asked about its last state first, and whose second state is refused once. -/
def outOfOrder : Step :=
  ⟨.machine none none none "m" [
    ⟨.ongoing "m" "C" none, "ongoing", ⟨"design", 2, 1⟩, false⟩,
    ⟨.state "A" [⟨.goto "B", "next", ⟨"design", 4, 1⟩, false⟩], "state", ⟨"design", 3, 1⟩, false⟩,
    ⟨.state "B" [⟨.raise "stop", "fail", ⟨"design", 6, 1⟩, false⟩], "state", ⟨"design", 5, 1⟩, true⟩,
    ⟨.state "B" [], "state", ⟨"design", 7, 1⟩, false⟩,
    ⟨.state "C" [⟨.goto "A", "next", ⟨"design", 9, 1⟩, false⟩], "state", ⟨"design", 8, 1⟩, false⟩],
    "fsm", ⟨"design", 1, 1⟩, false⟩

/-- A module with the machine and nothing else. -/
def disordered : Program where
  settings := {}
  loc := ⟨"design", 0, 1⟩
  steps := [outOfOrder]
  platform := none

theorem disordered_numbers : ∃ after machine, ∃ register : Signal, outOfOrder.run disordered.start = .ok () after ∧
    after.builder.machines.get? ⟨0, 0⟩ = some machine ∧
    Event.mentions ⟨0, 0⟩ (outOfOrder.events disordered.start) = ["C", "A", "B", "B", "B", "C", "A"] ∧
    Event.declarations ⟨0, 0⟩ (outOfOrder.events disordered.start) = ["A", "B", "C"] ∧
    machine.encoding.entries = [("A", 0), ("C", 1), ("B", 2)] ∧ register.shape.width ≤ 2 := by
  have computed : (outOfOrder.run.returned? disordered.start).any (fun result ↦
      decide (result.2.answeredMachine? = some ⟨0, 0⟩)) = true := by decide +kernel
  have mentions : Event.mentions ⟨0, 0⟩ (outOfOrder.events disordered.start) = ["C", "A", "B", "B", "B", "C", "A"] := by
    decide +kernel
  have declarations : Event.declarations ⟨0, 0⟩ (outOfOrder.events disordered.start) = ["A", "B", "C"] := by
    decide +kernel
  obtain ⟨⟨_, after⟩, returned, answered⟩ := (Option.any_eq_true _ _).1 computed
  have ran := Run.returned_of_returned? returned
  obtain ⟨id, machine, register, answer, found, numbers, -⟩ := Reached.state_numbers (.start disordered) rfl ran
  have same : after.answeredMachine? = some id := by rw [Session.answeredMachine?, answer]
  have answered : after.answeredMachine? = some ⟨0, 0⟩ := of_decide_eq_true answered
  rw [same, Option.some.injEq] at answered
  subst answered
  rw [mentions, declarations] at numbers
  have numbered := numbers "A" rfl
  refine ⟨after, machine, register, ran, found, mentions, declarations, ?_, (numbered.width 2).2 (by decide)⟩
  rw [numbered.order]
  decide +kernel

end RegisterTransfer
