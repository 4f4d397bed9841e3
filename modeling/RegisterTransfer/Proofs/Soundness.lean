import RegisterTransfer.Proofs.Calls
import RegisterTransfer.Proofs.Machines

/-!
# Sound builders

What every call keeps: open machines have no register yet, statements in bodies are claimed by the domain they
are filed under, transitions belong to machines that are open around them or complete, and every complete
machine is entered. A builder only ever learns: claims stay, machines keep their names and domains, and a
complete machine does not change any more.
-/

namespace RegisterTransfer

namespace Arena

variable {α : Type}

theorem get?_nextKey (arena : Arena α) : arena.get? arena.nextKey = none := by
  simp [get?, nextKey, size]

theorem get?_push (arena : Arena α) (item : α) (key : Key) :
    (arena.push item).get? key = if key = arena.nextKey then some item else arena.get? key := by
  by_cases same : key = arena.nextKey
  · rw [if_pos same, same, get?_push_nextKey]
  · rw [if_neg same]
    by_cases tag : key.tag = arena.tag
    · have other : key.index ≠ arena.items.length := by
        intro index
        apply same
        cases key
        simp_all [nextKey, size]
      simp only [get?, push, tag, ↓reduceIte, List.getElem?_append]
      by_cases below : key.index < arena.items.length
      · simp [below]
      · have above : arena.items.length + 1 ≤ key.index := by omega
        rw [if_neg below, List.getElem?_eq_none (by simp; omega), List.getElem?_eq_none (by omega)]
    · simp [get?, push, tag]

end Arena

namespace Control

@[simp] theorem machines_nil : machines [] = [] := rfl

@[simp] theorem machines_chain (chain : IfChain) (frames : List Frame) :
    machines (.chain chain :: frames) = machines frames := rfl

@[simp] theorem machines_switch (switch : OpenSwitch) (frames : List Frame) :
    machines (.switch switch :: frames) = machines frames := rfl

@[simp] theorem machines_machine (id : MachineId) (loc : Location) (frames : List Frame) :
    machines (.machine id loc :: frames) = id :: machines frames := rfl

theorem Stacked.of_append {above frames : List Frame} (stacked : Stacked (above ++ frames)) : Stacked frames := by
  induction above with
  | nil => exact stacked
  | cons frame rest ih => exact ih stacked.2

end Control

/-! ## Builders -/

namespace Builder

/-- A machine of the builder whose register exists. -/
def Completed (builder : Builder) (id : MachineId) : Prop :=
  ∃ machine, builder.machines.get? id = some machine ∧ machine.register.isSome = true

/-- What a leaf of a body may be, if the body lies within `frames`. -/
def Filed (builder : Builder) (frames : List Frame) (domain : String) : Statement → Prop
  | .assign target _ => ∀ signal ∈ target.targets, builder.drivers.get? signal = some domain
  | .property _ _ _ => True
  | .switch _ _ _ => False
  | .transition id state _ => ∃ machine, builder.machines.get? id = some machine ∧ machine.domain = domain ∧
      state ∈ machine.encoding.keys ∧ (machine.register = none → id ∈ Control.machines frames)

/-- The bodies recorded so far for the construct of a frame. -/
def bodiesOf (builder : Builder) : Frame → List Body
  | .chain chain => chain.branches.map Branch.body
  | .switch switch => switch.cases.values.map SwitchCase.body
  | .machine id _ => match builder.machines.get? id with
    | some machine => machine.states.values.map MachineState.body
    | none => []

theorem mem_bodiesOf_switch (builder : Builder) (switch : OpenSwitch) (body : Body) :
    body ∈ builder.bodiesOf (.switch switch) ↔ ∃ entry ∈ switch.cases.entries, entry.2.body = body := by
  simp [bodiesOf, Table.values]

/-- Every body recorded for an open construct holds only what may lie within it. -/
def Framed (builder : Builder) : List Frame → Prop
  | [] => True
  | frame :: rest => (∀ body ∈ builder.bodiesOf frame, body.Holds (builder.Filed (frame :: rest))) ∧ builder.Framed rest

structure Sound (builder : Builder) : Prop where
  stacked : Control.Stacked builder.control.frames
  distinct : (Control.machines builder.control.frames).Nodup
  running : ∀ id ∈ Control.machines builder.control.frames, ∃ machine,
    builder.machines.get? id = some machine ∧ machine.register = none
  filed : builder.statements.Holds (builder.Filed builder.control.frames)
  framed : builder.Framed builder.control.frames
  proper : ∀ id machine, builder.machines.get? id = some machine → machine.Proper id
  indicators : ∀ statement ∈ builder.indicators, ∃ id state signal source,
    statement = .assign (.signal signal) source ∧ signal.origin = .indicator id state
  assigned : ∀ id state, builder.indicators.filter (Machine.indicates id state) =
    ((builder.machines.get? id).map fun machine ↦ machine.indications id state).getD []
  entered : ∀ name id, builder.complete.get? name = some id → builder.Completed id

/-! ## What becomes of a builder -/

/-- The machines completed on the way from one builder to a later one, by name. -/
structure Finishes (before after : Builder) (closed : List (String × MachineId)) : Prop where
  complete : after.complete = closed.foldl (fun table entry ↦ table.insert entry.1 entry.2) before.complete
  indicators : closed = [] → after.indicators = before.indicators
  fresh : ∀ entry ∈ closed, ¬before.Completed entry.2 ∧ after.Completed entry.2
  all : ∀ id, after.Completed id → before.Completed id ∨ id ∈ closed.map Prod.snd

structure Evolves (before after : Builder) : Prop where
  drivers : ∀ signal domain, before.drivers.get? signal = some domain → after.drivers.get? signal = some domain
  machines : ∀ id machine, before.machines.get? id = some machine →
    ∃ later, after.machines.get? id = some later ∧ machine.Grows later
  finishes : ∃ closed, before.Finishes after closed

theorem Evolves.completed {before after : Builder} (evolves : before.Evolves after) {id : MachineId}
    (completed : before.Completed id) : after.Completed id := by
  obtain ⟨machine, found, register⟩ := completed
  obtain ⟨later, refound, grows⟩ := evolves.machines id machine found
  rw [grows.final register] at refound
  exact ⟨machine, refound, register⟩

theorem Evolves.refl (builder : Builder) : builder.Evolves builder where
  drivers _ _ claimed := claimed
  machines _ machine found := ⟨machine, found, .refl machine⟩
  finishes := ⟨[], rfl, fun _ ↦ rfl, by simp, fun _ completed ↦ .inl completed⟩

theorem Evolves.trans {before middle after : Builder} (first : before.Evolves middle)
    (second : middle.Evolves after) : before.Evolves after where
  drivers signal domain claimed := second.drivers signal domain (first.drivers signal domain claimed)
  machines id machine found := by
    obtain ⟨later, refound, grows⟩ := first.machines id machine found
    obtain ⟨last, found, grows'⟩ := second.machines id later refound
    exact ⟨last, found, grows.trans grows'⟩
  finishes := by
    obtain ⟨closed, finishes⟩ := first.finishes
    obtain ⟨others, finishes'⟩ := second.finishes
    refine ⟨closed ++ others, ?_, ?_, ?_, ?_⟩
    · rw [finishes'.complete, finishes.complete, List.foldl_append]
    · intro empty
      rw [List.append_eq_nil_iff] at empty
      rw [finishes'.indicators empty.2, finishes.indicators empty.1]
    · intro entry mem
      rcases List.mem_append.1 mem with mem | mem
      · exact ⟨(finishes.fresh entry mem).1, second.completed (finishes.fresh entry mem).2⟩
      · exact ⟨fun completed ↦ (finishes'.fresh entry mem).1 (first.completed completed),
          (finishes'.fresh entry mem).2⟩
    · intro id completed
      rw [List.map_append, List.mem_append]
      rcases finishes'.all id completed with completed | mem
      · rcases finishes.all id completed with completed | mem
        · exact .inl completed
        · exact .inr (.inl mem)
      · exact .inr (.inr mem)

/-- Nothing is completed, or the complete machines are others than before. -/
theorem Sound.finishes_cases {before after : Builder} (sound : before.Sound) (evolves : before.Evolves after) :
    (after.indicators = before.indicators ∧ after.complete = before.complete ∧
        ∀ id, after.Completed id → before.Completed id) ∨
      (after.complete ≠ before.complete ∧ ∃ id, after.Completed id ∧ ¬before.Completed id) := by
  obtain ⟨closed, finishes⟩ := evolves.finishes
  rcases List.eq_nil_or_concat closed with empty | ⟨others, entry, last⟩
  · refine .inl ⟨finishes.indicators empty, by rw [finishes.complete, empty, List.foldl_nil], fun id completed ↦ ?_⟩
    have known := finishes.all id completed
    rw [empty] at known
    exact known.resolve_right (by simp)
  · rw [List.concat_eq_append] at last
    have mem : entry ∈ closed := by simp [last]
    have fresh := finishes.fresh entry mem
    refine .inr ⟨fun same ↦ fresh.1 (sound.entered entry.1 entry.2 ?_), entry.2, fresh.2, fresh.1⟩
    rw [← same, finishes.complete, last, List.foldl_append, List.foldl_cons, List.foldl_nil, Table.get?_insert,
      if_pos rfl]

/-! ## Filed leaves -/

theorem Filed.evolve {before after : Builder} (evolves : before.Evolves after) {frames later : List Frame}
    (within : ∀ id ∈ Control.machines frames, id ∈ Control.machines later) {domain : String} {leaf : Statement}
    (filed : before.Filed frames domain leaf) : after.Filed later domain leaf := by
  cases leaf with
  | assign target source => exact fun signal mem ↦ evolves.drivers signal domain (filed signal mem)
  | property kind test name => trivial
  | switch test cases loc => exact filed
  | transition id state loc =>
    obtain ⟨machine, found, clock, known, lies⟩ := filed
    obtain ⟨last, refound, grows⟩ := evolves.machines id machine found
    refine ⟨last, refound, grows.domain.trans clock, grows.states state known, fun incomplete ↦ ?_⟩
    refine within id (lies ?_)
    cases register : machine.register with
    | none => rfl
    | some signal =>
      rw [grows.final (by simp [register]), register] at incomplete
      exact incomplete

theorem Filed.holds_evolve {before after : Builder} (evolves : before.Evolves after) {frames later : List Frame}
    (within : ∀ id ∈ Control.machines frames, id ∈ Control.machines later) {body : Body}
    (filed : body.Holds (before.Filed frames)) : body.Holds (after.Filed later) :=
  Body.Holds.mono filed fun _ _ filed ↦ filed.evolve evolves within

theorem Framed.evolve {before after : Builder} (evolves : before.Evolves after) {frames : List Frame}
    (same : ∀ frame ∈ frames, after.bodiesOf frame = before.bodiesOf frame) (framed : before.Framed frames) :
    after.Framed frames := by
  induction frames with
  | nil => trivial
  | cons frame rest ih =>
    refine ⟨fun body mem ↦ ?_, ih (fun frame mem ↦ same frame (List.mem_cons_of_mem _ mem)) framed.2⟩
    rw [same frame (List.mem_cons_self ..)] at mem
    exact Filed.holds_evolve evolves (fun _ mem ↦ mem) (framed.1 body mem)

theorem Framed.of_append {builder : Builder} {above frames : List Frame}
    (framed : builder.Framed (above ++ frames)) : builder.Framed frames := by
  induction above with
  | nil => exact framed
  | cons frame rest ih => exact ih framed.2

/-! ## What keeps a builder sound -/

/-- A sound builder made of an earlier one. No machine but the one that is growing has other states declared. -/
structure Leads (before after : Builder) (growing : Option MachineId := none) : Prop where
  sound : after.Sound
  evolves : before.Evolves after
  keeps : ∀ id machine, before.machines.get? id = some machine → growing ≠ some id →
    ∃ later, after.machines.get? id = some later ∧ later.states = machine.states

theorem Leads.trans {before middle after : Builder} {growing : Option MachineId}
    (first : before.Leads middle growing) (second : middle.Leads after growing) : before.Leads after growing where
  sound := second.sound
  evolves := first.evolves.trans second.evolves
  keeps id machine found other := by
    obtain ⟨later, refound, states⟩ := first.keeps id machine found other
    obtain ⟨last, found, states'⟩ := second.keeps id later refound other
    exact ⟨last, found, states'.trans states⟩

theorem Leads.any {before after : Builder} (leads : before.Leads after) (growing : Option MachineId) :
    before.Leads after growing :=
  ⟨leads.sound, leads.evolves, fun id machine found _ ↦ leads.keeps id machine found (by simp)⟩

/-- A machine that was not known before may grow. -/
theorem Leads.trans_new {before middle after : Builder} {growing : Option MachineId} (first : before.Leads middle)
    (new : ∀ id, growing = some id → before.machines.get? id = none) (second : middle.Leads after growing) :
    before.Leads after where
  sound := second.sound
  evolves := first.evolves.trans second.evolves
  keeps other machine found known := by
    obtain ⟨later, refound, states⟩ := first.keeps other machine found known
    have apart : growing ≠ some other := by
      intro same
      rw [new other same] at found
      contradiction
    obtain ⟨last, found, states'⟩ := second.keeps other later refound apart
    exact ⟨last, found, states'.trans states⟩

theorem Sound.leads {builder : Builder} (sound : builder.Sound) : builder.Leads builder :=
  ⟨sound, .refl builder, fun _ machine found _ ↦ ⟨machine, found, rfl⟩⟩

section Leads

variable {before after : Builder}

theorem Evolves.of_machines
    (drivers : ∀ signal domain, before.drivers.get? signal = some domain → after.drivers.get? signal = some domain)
    (indicators : after.indicators = before.indicators) (complete : after.complete = before.complete)
    (machines : ∀ id machine, before.machines.get? id = some machine →
      ∃ later, after.machines.get? id = some later ∧ machine.Grows later)
    (incomplete : ∀ id, after.Completed id → before.Completed id) : before.Evolves after where
  drivers := drivers
  machines := machines
  finishes := ⟨[], complete, fun _ ↦ indicators, by simp, fun id completed ↦ .inl (incomplete id completed)⟩

theorem Evolves.of_same (indicators : after.indicators = before.indicators)
    (drivers : after.drivers = before.drivers) (machines : after.machines = before.machines)
    (complete : after.complete = before.complete) : before.Evolves after := by
  refine .of_machines ?_ indicators complete ?_ ?_
  · rw [drivers]
    exact fun _ _ claimed ↦ claimed
  · rw [machines]
    exact fun _ machine found ↦ ⟨machine, found, .refl machine⟩
  · unfold Completed
    rw [machines]
    exact fun _ completed ↦ completed

theorem bodiesOf_of_same (machines : after.machines = before.machines) (frame : Frame) :
    after.bodiesOf frame = before.bodiesOf frame := by
  unfold bodiesOf
  rw [machines]

/-- The bodies of frames stay as they are if no machine changes but one that has no frame among them. -/
theorem bodiesOf_of_apart {id : MachineId} {frames : List Frame}
    (others : ∀ other, other ≠ id → after.machines.get? other = before.machines.get? other)
    (apart : id ∉ Control.machines frames) : ∀ frame ∈ frames, after.bodiesOf frame = before.bodiesOf frame := by
  intro frame mem
  cases frame with
  | chain chain => rfl
  | switch switch => rfl
  | machine other loc =>
    have different : other ≠ id := by
      rintro rfl
      exact apart (List.mem_filterMap.2 ⟨_, mem, rfl⟩)
    simp only [bodiesOf, others other different]

/-- Frames and statements may change as they please, as long as nothing is out of place among them. -/
theorem Sound.leads_of_same (sound : before.Sound) (indicators : after.indicators = before.indicators)
    (drivers : after.drivers = before.drivers) (machines : after.machines = before.machines)
    (complete : after.complete = before.complete) (stacked : Control.Stacked after.control.frames)
    (distinct : (Control.machines after.control.frames).Nodup)
    (running : ∀ id ∈ Control.machines after.control.frames, ∃ machine,
      before.machines.get? id = some machine ∧ machine.register = none)
    (filed : after.statements.Holds (before.Filed after.control.frames))
    (framed : before.Framed after.control.frames) : before.Leads after := by
  have evolves : before.Evolves after := .of_same indicators drivers machines complete
  refine ⟨⟨stacked, distinct, ?_, ?_, ?_, ?_, ?_, ?_, ?_⟩, evolves, ?_⟩
  · rw [machines]
    exact running
  · exact Filed.holds_evolve evolves (fun _ mem ↦ mem) filed
  · exact framed.evolve evolves fun frame _ ↦ bodiesOf_of_same machines frame
  · rw [machines]
    exact sound.proper
  · rw [indicators]
    exact sound.indicators
  · rw [indicators, machines]
    exact sound.assigned
  · intro name id entry
    rw [complete] at entry
    exact evolves.completed (sound.entered name id entry)
  · rw [machines]
    exact fun _ machine found _ ↦ ⟨machine, found, rfl⟩

/-- The frames stay, and what is filed in them does. -/
theorem Sound.leads_of_frames (sound : before.Sound) (frames : after.control.frames = before.control.frames)
    (indicators : after.indicators = before.indicators) (drivers : after.drivers = before.drivers)
    (machines : after.machines = before.machines) (complete : after.complete = before.complete)
    (filed : after.statements.Holds (before.Filed before.control.frames)) : before.Leads after := by
  refine sound.leads_of_same indicators drivers machines complete ?_ ?_ ?_ ?_ ?_ <;> rw [frames]
  · exact sound.stacked
  · exact sound.distinct
  · exact sound.running
  · exact filed
  · exact sound.framed

theorem Sound.leads_noted (sound : before.Sound) (advice : List Diagnostic) : before.Leads (before.noted advice) :=
  sound.leads_of_frames rfl rfl rfl rfl rfl sound.filed

/-- Dropping frames that hold no open machine, with what becomes of the statements. -/
theorem Sound.leads_dropping (sound : before.Sound) {above base : List Frame}
    (frames : before.control.frames = above ++ base) (after_frames : after.control.frames = base)
    (indicators : after.indicators = before.indicators) (drivers : after.drivers = before.drivers)
    (machines : after.machines = before.machines) (complete : after.complete = before.complete)
    (filed : after.statements.Holds (before.Filed base)) : before.Leads after := by
  have stacked := sound.stacked
  have distinct := sound.distinct
  have running := sound.running
  have framed := sound.framed
  rw [frames] at stacked distinct running framed
  have apart : Control.machines (above ++ base) = Control.machines above ++ Control.machines base :=
    List.filterMap_append
  rw [apart] at distinct running
  refine sound.leads_of_same indicators drivers machines complete ?_ ?_ ?_ ?_ ?_ <;> rw [after_frames]
  · exact stacked.of_append
  · exact (List.nodup_append.1 distinct).2.1
  · exact fun id mem ↦ running id (List.mem_append_right _ mem)
  · exact filed
  · exact framed.of_append

theorem Sound.filed_close (sound : before.Sound) {chain : IfChain} {base : List Frame}
    (frames : before.control.frames = .chain chain :: base) :
    (chain.close before.statements).Holds (before.Filed base) := by
  have filed := sound.filed
  have framed := sound.framed
  rw [frames] at filed framed
  have inner := fun body mem ↦ Filed.holds_evolve (.refl before)
    (fun id (mem : id ∈ Control.machines (.chain chain :: base)) ↦ mem) (framed.1 body mem)
  refine Body.Holds.appendAll_split filed (fun branch mem ↦ ?_) _ _
  apply inner branch.body
  have listed := List.mem_map_of_mem (f := Case.body) mem
  rw [IfChain.caseList, IfChain.map_body_caseListFrom] at listed
  exact listed

theorem Sound.leads_closeChain (sound : before.Sound) {chain : IfChain} {base : List Frame}
    (frames : before.control.frames = .chain chain :: base) :
    before.Leads { before with
      control := { before.control with frames := base }
      statements := chain.close before.statements } :=
  sound.leads_dropping (show _ = [_] ++ base from frames) rfl rfl rfl rfl rfl (sound.filed_close frames)

theorem Sound.leads_closeSwitch (sound : before.Sound) {switch : OpenSwitch} {base : List Frame}
    (frames : before.control.frames = .switch switch :: base) :
    before.Leads { before with
      control := { before.control with frames := base }
      statements := before.statements.appendAll switch.lower } := by
  refine sound.leads_dropping (show _ = [_] ++ base from frames) rfl rfl rfl rfl rfl ?_
  have filed := sound.filed
  have framed := sound.framed
  rw [frames] at filed framed
  refine Body.Holds.appendAll_split filed (fun branch mem ↦ framed.1 branch.body ?_) _ _
  obtain ⟨entry, listed, rfl⟩ := List.mem_map.1 mem
  exact (mem_bodiesOf_switch ..).2 ⟨entry, listed, rfl⟩

theorem Sound.leads_flushed (sound : before.Sound) (placed : before.control.Placed) :
    before.Leads before.flushed := by
  rcases placed with ⟨behind, base, place⟩ | ⟨frame, base, place⟩
  · have control := control_flushed sound.stacked place
    have statements := statements_flushed sound.stacked place
    rw [flushed_eq]
    refine sound.leads_dropping place.frames (by rw [control]) rfl rfl rfl rfl ?_
    rw [statements]
    cases behind with
    | none =>
      have filed := sound.filed
      rw [place.frames] at filed
      exact filed
    | some chain => exact sound.filed_close place.frames
  · rw [flushed_of_atConstruct sound.stacked place]
    exact sound.leads

/-- Closing a chain takes nothing back, and adds nothing that was not there. -/
theorem flushed_evolves (builder : Builder) : builder.flushed.Evolves builder := by
  rw [flushed_eq]
  exact .of_same rfl rfl rfl rfl

/-- A new frame without bodies, other than that of a machine. -/
theorem Sound.leads_opening (sound : before.Sound) (placed : before.control.Placed) (frame : Frame)
    (lies : ∀ chain, frame = .chain chain → chain.depth = before.flushed.control.frames.length)
    (plain : Control.machineOf? frame = none) (empty : ∀ builder, bodiesOf builder frame = []) :
    before.Leads (before.opening frame) := by
  have flushed := sound.leads_flushed placed
  apply flushed.trans
  have machines : Control.machines (frame :: before.flushed.control.frames) =
      Control.machines before.flushed.control.frames := List.filterMap_cons_none plain
  refine flushed.sound.leads_of_same rfl rfl rfl rfl ⟨lies, flushed.sound.stacked⟩ ?_ ?_ ?_ ⟨?_, flushed.sound.framed⟩
  · rw [opening, withFrames, machines]
    exact flushed.sound.distinct
  · rw [opening, withFrames, machines]
    exact flushed.sound.running
  · refine Filed.holds_evolve (.refl _) (fun id mem ↦ ?_) flushed.sound.filed
    rw [opening, withFrames, machines]
    exact mem
  · rw [empty]
    simp

/-- The frame on top is replaced by one with more bodies, which lie within it. -/
theorem Sound.leads_replaced (sound : before.Sound) {top frame : Frame} {base : List Frame}
    (frames : before.control.frames = top :: base)
    (lies : ∀ chain, frame = .chain chain → chain.depth = base.length)
    (same : Control.machineOf? frame = Control.machineOf? top)
    (bodies : ∀ body ∈ before.bodiesOf frame,
      body ∈ before.bodiesOf top ∨ body.Holds (before.Filed before.control.frames)) :
    before.Leads (before.withFrames (frame :: base)) := by
  have machines : Control.machines (frame :: base) = Control.machines before.control.frames := by
    rw [frames, Control.machines, Control.machines, List.filterMap_cons, List.filterMap_cons, same]
  have within : ∀ id ∈ Control.machines before.control.frames, id ∈ Control.machines (frame :: base) := by
    rw [machines]
    exact fun _ mem ↦ mem
  have stacked := sound.stacked
  have framed := sound.framed
  rw [frames] at stacked framed
  refine sound.leads_of_same rfl rfl rfl rfl ⟨lies, stacked.2⟩ ?_ ?_ ?_ ⟨fun body mem ↦ ?_, framed.2⟩
  · rw [withFrames, machines]
    exact sound.distinct
  · rw [withFrames, machines]
    exact sound.running
  · exact Filed.holds_evolve (.refl before) within sound.filed
  · rcases bodies body mem with mem | filed
    · have filed := framed.1 body mem
      rw [← frames] at filed
      exact Filed.holds_evolve (.refl before) within filed
    · exact Filed.holds_evolve (.refl before) within filed

/-! ## Statements -/

theorem Evolves.claimed (builder : Builder) (domain : String) (signals : List Signal) (statements : Body) :
    builder.Evolves { builder with
      drivers := builder.drivers.claimAll domain signals
      statements := statements } := by
  refine .of_machines ?_ rfl rfl (fun id machine found ↦ ⟨machine, found, .refl machine⟩) fun _ completed ↦ completed
  intro signal earlier claimed
  change (builder.drivers.claimAll domain signals).get? signal = some earlier
  rw [Drivers.get?_claimAll, claimed]
  simp

/-- Statements are filed that lie within the frames once their signals are claimed. -/
theorem Sound.leads_recorded (sound : before.Sound) (placed : before.control.Placed) {domain : String}
    {statements : List Statement}
    (new : ∀ leaf ∈ Statement.leavesAll statements,
      (before.recorded domain statements).Filed before.flushed.control.frames domain leaf) :
    before.Leads (before.recorded domain statements) := by
  have flushed := sound.leads_flushed placed
  have evolves : before.flushed.Evolves (before.recorded domain statements) := .claimed _ _ _ _
  refine flushed.trans ⟨⟨flushed.sound.stacked, flushed.sound.distinct, flushed.sound.running, ?_, ?_,
    flushed.sound.proper, flushed.sound.indicators, flushed.sound.assigned, flushed.sound.entered⟩, evolves,
    fun _ machine found _ ↦ ⟨machine, found, rfl⟩⟩
  · exact Body.Holds.append (Filed.holds_evolve evolves (fun _ mem ↦ mem) flushed.sound.filed) new
  · exact flushed.sound.framed.evolve evolves fun frame _ ↦ bodiesOf_of_same rfl frame

theorem Sound.leads_plain (sound : before.Sound) (placed : before.control.Placed) {domain : String}
    {statements : List Statement} (plain : statements.all Statement.isPlain = true)
    (free : before.flushed.drivers.Free domain (Statement.writtenAll statements)) :
    before.Leads (before.recorded domain statements) := by
  apply sound.leads_recorded placed
  intro leaf mem
  rw [Statement.leavesAll_of_isPlain plain] at mem
  have kind := List.all_eq_true.1 plain leaf mem
  cases leaf with
  | assign target source =>
    intro signal written
    have listed : signal ∈ Statement.writtenAll statements := by
      rw [Statement.writtenAll, List.mem_eraseDups, Statement.targetsAll_eq_flatMap, List.mem_flatMap]
      exact ⟨_, mem, written⟩
    change (before.flushed.drivers.claimAll domain (Statement.writtenAll statements)).get? signal = some domain
    rw [Drivers.get?_claimAll, if_pos listed]
    cases claimed : before.flushed.drivers.get? signal with
    | none => rfl
    | some earlier => rw [free signal listed earlier claimed, Option.getD_some]
  | property kind test name => trivial
  | switch test cases loc => simp [Statement.isPlain] at kind
  | transition id state loc => simp [Statement.isPlain] at kind

/-! ## Machines -/

theorem get?_withMachine (id other : MachineId) (machine : Machine) :
    (before.withMachine id machine).machines.get? other =
      if other = id then (before.machines.get? id).map fun _ ↦ machine else before.machines.get? other :=
  Arena.get?_modify ..

theorem Evolves.withMachine {id : MachineId} {machine later : Machine}
    (found : before.machines.get? id = some machine) (grows : machine.Grows later)
    (register : later.register = machine.register) : before.Evolves (before.withMachine id later) := by
  refine .of_machines (fun _ _ claimed ↦ claimed) rfl rfl (fun other earlier refound ↦ ?_) fun other completed ↦ ?_
  · rw [get?_withMachine]
    split
    · rename_i same
      subst same
      rw [found, Option.some.injEq] at refound
      subst refound
      exact ⟨later, by rw [found, Option.map_some], grows⟩
    · exact ⟨earlier, refound, .refl earlier⟩
  · obtain ⟨last, refound, complete⟩ := completed
    rw [get?_withMachine] at refound
    split at refound
    · rename_i same
      subst same
      rw [found, Option.map_some, Option.some.injEq] at refound
      subst refound
      exact ⟨machine, found, by rw [← register, complete]⟩
    · exact ⟨last, refound, complete⟩

/-- A change of a machine that leaves its register alone and files its new bodies within its frame. -/
theorem Sound.leads_withMachine (sound : before.Sound) {id : MachineId} {machine later : Machine}
    {growing : Option MachineId} (found : before.machines.get? id = some machine) (grows : machine.Grows later)
    (register : later.register = machine.register) (proper : later.Proper id)
    (framed : (before.withMachine id later).Framed before.control.frames)
    (declared : growing = some id ∨ later.states = machine.states) :
    before.Leads (before.withMachine id later) growing := by
  have evolves : before.Evolves (before.withMachine id later) := .withMachine found grows register
  refine ⟨⟨sound.stacked, sound.distinct, ?_, ?_, framed, ?_, sound.indicators, ?_, ?_⟩, evolves, ?_⟩
  · intro other mem
    obtain ⟨earlier, refound, incomplete⟩ := sound.running other mem
    rw [get?_withMachine]
    split
    · rename_i same
      subst same
      rw [found, Option.some.injEq] at refound
      subst refound
      exact ⟨later, by rw [found, Option.map_some], register.trans incomplete⟩
    · exact ⟨earlier, refound, incomplete⟩
  · exact Filed.holds_evolve evolves (fun _ mem ↦ mem) sound.filed
  · intro other last refound
    rw [get?_withMachine] at refound
    split at refound
    · rename_i same
      subst same
      rw [found, Option.map_some, Option.some.injEq] at refound
      subst refound
      exact proper
    · exact sound.proper other last refound
  · intro other state
    rw [get?_withMachine]
    split
    · rename_i same
      subst same
      have assigned := sound.assigned other state
      rw [found] at assigned ⊢
      exact assigned.trans (grows.indications_eq register other state).symm
    · exact sound.assigned other state
  · intro name other entry
    exact evolves.completed (sound.entered name other entry)
  · intro other earlier refound apart
    rw [get?_withMachine]
    split
    · rename_i same
      subst same
      rw [found, Option.some.injEq] at refound
      subst refound
      exact ⟨later, by rw [found, Option.map_some], declared.resolve_left apart⟩
    · exact ⟨earlier, refound, rfl⟩

theorem Sound.leads_sameStates (sound : before.Sound) {id : MachineId} {machine later : Machine}
    (found : before.machines.get? id = some machine) (grows : machine.Grows later)
    (register : later.register = machine.register) (proper : later.Proper id)
    (states : later.states = machine.states) : before.Leads (before.withMachine id later) := by
  refine sound.leads_withMachine found grows register proper ?_ (.inr states)
  apply sound.framed.evolve (.withMachine found grows register)
  intro frame _
  cases frame with
  | chain chain => rfl
  | switch switch => rfl
  | machine other loc =>
    simp only [bodiesOf, get?_withMachine]
    by_cases same : other = id
    · subst same
      rw [if_pos rfl, found, Option.map_some]
      dsimp only
      rw [states]
    · rw [if_neg same]

theorem Sound.leads_mention (sound : before.Sound) {id : MachineId} {machine : Machine}
    (found : before.machines.get? id = some machine) (incomplete : machine.register = none) (state : String) :
    before.Leads (before.withMachine id (machine.mention id state)) :=
  sound.leads_sameStates found (Machine.grows_mention incomplete id state) (machine.register_mention id state)
    ((sound.proper id machine found).mention incomplete state) (machine.states_mention id state)

theorem Sound.leads_addState (sound : before.Sound) {id : MachineId} {place : Location} {base : List Frame}
    {machine : Machine} (frames : before.control.frames = .machine id place :: base)
    (found : before.machines.get? id = some machine) {state : String} {body : Body} {loc : Location}
    (known : state ∈ machine.encoding.keys) (absent : state ∉ machine.states.keys)
    (filed : body.Holds (before.Filed before.control.frames)) :
    before.Leads (before.withMachine id { machine with states := machine.states.insert state ⟨body, loc⟩ })
      (some id) := by
  have running := sound.running id (by simp [frames])
  obtain ⟨_, refound, incomplete⟩ := running
  rw [found, Option.some.injEq] at refound
  subst refound
  have grows : machine.Grows { machine with states := machine.states.insert state ⟨body, loc⟩ } :=
    ⟨rfl, rfl, fun _ mem ↦ mem, fun complete ↦ by simp [incomplete] at complete⟩
  have evolves := Evolves.withMachine found grows rfl
  refine sound.leads_withMachine found grows rfl ((sound.proper id machine found).declare known _) ?_ (.inl rfl)
  have framed := sound.framed
  have distinct := sound.distinct
  rw [frames, Control.machines_machine, List.nodup_cons] at distinct
  rw [frames] at framed
  rw [frames] at filed ⊢
  refine ⟨fun found_body mem ↦ ?_, framed.2.evolve evolves
    (bodiesOf_of_apart (fun other apart ↦ by rw [get?_withMachine, if_neg apart]) distinct.1)⟩
  simp only [bodiesOf, get?_withMachine, ↓reduceIte, found, Option.map_some, Table.values,
    Table.entries_insert_of_notMem _ _ _ absent, List.map_append, List.mem_append] at mem
  rcases mem with mem | mem
  · refine Filed.holds_evolve evolves (fun _ mem ↦ mem) (framed.1 found_body ?_)
    simp only [bodiesOf, found]
    exact mem
  · have same : found_body = body := by simpa using mem
    subst same
    exact Filed.holds_evolve evolves (fun _ mem ↦ mem) filed

/-- A new machine is known, and it is not among the open ones yet. -/
theorem Sound.leads_withNewMachine (sound : before.Sound) {name domain : String} (initial : Option String)
    (clocked : domain ≠ combinational) : before.Leads (before.withNewMachine (.opened name domain initial)) := by
  have keeps : ∀ id machine, before.machines.get? id = some machine →
      (before.machines.push (.opened name domain initial)).get? id = some machine := by
    intro id machine found
    rw [Arena.get?_push, if_neg, found]
    rintro rfl
    simp [Arena.get?_nextKey] at found
  have evolves : before.Evolves (before.withNewMachine (.opened name domain initial)) := by
    refine .of_machines (fun _ _ claimed ↦ claimed) rfl rfl
      (fun id machine found ↦ ⟨machine, keeps id machine found, .refl machine⟩) fun id completed ↦ ?_
    obtain ⟨machine, found, complete⟩ := completed
    rw [withNewMachine, Arena.get?_push] at found
    split at found
    · rw [Option.some.injEq] at found
      subst found
      simp [Machine.opened] at complete
    · exact ⟨machine, found, complete⟩
  refine ⟨⟨sound.stacked, sound.distinct, fun id mem ↦ ?_, Filed.holds_evolve evolves (fun _ mem ↦ mem) sound.filed,
    sound.framed.evolve evolves fun frame mem ↦ ?_, fun id machine found ↦ ?_, sound.indicators,
    fun id state ↦ ?_, fun name id entry ↦ evolves.completed (sound.entered name id entry)⟩, evolves,
    fun id machine found _ ↦ ⟨machine, keeps id machine found, rfl⟩⟩
  · obtain ⟨machine, found, incomplete⟩ := sound.running id mem
    exact ⟨machine, keeps id machine found, incomplete⟩
  · cases frame with
    | chain chain => rfl
    | switch switch => rfl
    | machine id loc =>
      obtain ⟨machine, found, -⟩ := sound.running id (List.mem_filterMap.2 ⟨_, mem, rfl⟩)
      simp only [bodiesOf, found, withNewMachine, keeps id machine found]
  · rw [withNewMachine, Arena.get?_push] at found
    split at found
    · rw [Option.some.injEq] at found
      subst found
      exact Machine.proper_opened initial clocked id
    · exact sound.proper id machine found
  · change before.indicators.filter _ = _
    rw [sound.assigned id state, withNewMachine, Arena.get?_push]
    split
    · rename_i new
      rw [new, Arena.get?_nextKey, Option.map_some, Option.getD_some, Machine.indications_of_incomplete rfl]
      rfl
    · rfl

theorem Sound.nextKey_notMem (sound : before.Sound) :
    before.machines.nextKey ∉ Control.machines before.control.frames := by
  intro mem
  obtain ⟨machine, found, -⟩ := sound.running _ mem
  simp [Arena.get?_nextKey] at found

/-- The frame of a machine without states that is not open yet. -/
theorem Sound.leads_pushMachine (sound : before.Sound) {id : MachineId} {machine : Machine}
    (found : before.machines.get? id = some machine) (incomplete : machine.register = none)
    (empty : machine.states = ∅) (fresh : id ∉ Control.machines before.control.frames) (loc : Location) :
    before.Leads (before.withFrames (.machine id loc :: before.control.frames)) := by
  refine sound.leads_of_same rfl rfl rfl rfl ⟨by simp, sound.stacked⟩ ?_ ?_ ?_ ⟨?_, sound.framed⟩
  · exact List.nodup_cons.2 ⟨fresh, sound.distinct⟩
  · intro other mem
    rcases List.mem_cons.1 mem with rfl | mem
    · exact ⟨machine, found, incomplete⟩
    · exact sound.running other mem
  · refine Filed.holds_evolve (.refl _) (fun other mem ↦ ?_) sound.filed
    exact List.mem_cons.2 (.inr mem)
  · intro body mem
    simp only [bodiesOf, found, empty] at mem
    simp [Table.values] at mem

/-! ### Complete machines -/

section Finishing

variable {id : MachineId} {loc : Location} {base : List Frame} {machine : Machine} {closing : Machine.Closing}
  {register : Signal} {encoding : Table String Nat} (found : before.machines.get? id = some machine)

include found

theorem get?_finishing (name : String) (other : MachineId) :
    (before.finishing id name closing).machines.get? other =
      if other = id then some closing.machine else before.machines.get? other := by
  have changed := before.machines.get?_modify id other fun _ ↦ closing.machine
  rw [found, Option.map_some] at changed
  exact changed

variable (closes : machine.Closes id loc closing register encoding)

include closes

theorem completed_finishing (name : String) : (before.finishing id name closing).Completed id := by
  refine ⟨closing.machine, by rw [get?_finishing found, if_pos rfl], ?_⟩
  rw [closes.after]
  rfl

variable (incomplete : machine.register = none)

include incomplete

theorem Evolves.finishing : before.Evolves (before.finishing id machine.name closing) where
  drivers _ _ claimed := claimed
  machines other earlier refound := by
    rw [get?_finishing found]
    by_cases same : other = id
    · rw [same, found, Option.some.injEq] at refound
      subst refound
      exact ⟨closing.machine, if_pos same, closes.grows incomplete⟩
    · exact ⟨earlier, by rw [if_neg same, refound], .refl earlier⟩
  finishes := by
    refine ⟨[(machine.name, id)], rfl, by simp, fun entry mem ↦ ?_, ?_⟩
    · rw [List.mem_singleton] at mem
      subst mem
      refine ⟨fun already ↦ ?_, completed_finishing found closes _⟩
      obtain ⟨_, refound, complete⟩ := already
      rw [found, Option.some.injEq] at refound
      subst refound
      simp [incomplete] at complete
    · rintro other ⟨last, refound, complete⟩
      rw [get?_finishing found] at refound
      by_cases same : other = id
      · exact .inr (by simp [same])
      · rw [if_neg same] at refound
        exact .inl ⟨last, refound, complete⟩

/-- What may lie within the frame of a machine may lie outside of it once the machine is complete. -/
theorem Filed.finishing {domain : String} {leaf : Statement}
    (filed : before.Filed (.machine id loc :: base) domain leaf) :
    (before.finishing id machine.name closing).Filed base domain leaf := by
  have later := Filed.evolve (.finishing found closes incomplete) (fun _ mem ↦ mem) filed
  cases leaf with
  | assign target source => exact later
  | property kind test name => exact later
  | switch test cases loc => exact later
  | transition other state place =>
    obtain ⟨last, refound, clock, lists, lies⟩ := later
    refine ⟨last, refound, clock, lists, fun pending ↦ (List.mem_cons.1 (lies pending)).resolve_left ?_⟩
    rintro rfl
    rw [get?_finishing found, if_pos rfl, Option.some.injEq] at refound
    rw [← refound, closes.after] at pending
    contradiction

end Finishing

/-- The innermost machine is complete, and what was recorded for it lies behind what was there. -/
theorem Sound.leads_finishing (sound : before.Sound) {id : MachineId} {loc : Location} {base : List Frame}
    {machine : Machine} {closing : Machine.Closing} {register : Signal} {encoding : Table String Nat}
    (frames : before.control.frames = .machine id loc :: base) (found : before.machines.get? id = some machine)
    (closes : machine.Closes id loc closing register encoding) :
    before.Leads ((before.withFrames base).finishing id machine.name closing) := by
  have proper := sound.proper id machine found
  have stacked := sound.stacked
  have distinct := sound.distinct
  have running := sound.running
  have framed := sound.framed
  have filed := sound.filed
  rw [frames] at stacked distinct running framed filed
  rw [Control.machines_machine, List.nodup_cons] at distinct
  obtain ⟨_, refound, incomplete⟩ := running id (by simp)
  rw [found, Option.some.injEq] at refound
  subst refound
  set popped := before.withFrames base
  have same : before.Evolves popped := .of_same rfl rfl rfl rfl
  have there : popped.machines.get? id = some machine := found
  have get : ∀ other, (popped.finishing id machine.name closing).machines.get? other =
      if other = id then some closing.machine else before.machines.get? other := get?_finishing there machine.name
  have evolves := same.trans (.finishing there closes incomplete)
  have outside : ∀ domain leaf, before.Filed (.machine id loc :: base) domain leaf →
      (popped.finishing id machine.name closing).Filed base domain leaf := fun domain leaf inner ↦
    Filed.finishing there closes incomplete (inner.evolve same fun _ mem ↦ mem)
  refine ⟨⟨stacked.2, distinct.2, fun other mem ↦ ?_, ?_, ?_, fun other last refound ↦ ?_, ?_, fun other state ↦ ?_, ?_⟩,
    evolves, fun other earlier refound _ ↦ ?_⟩
  · obtain ⟨earlier, refound, unfinished⟩ := running other (List.mem_cons_of_mem _ mem)
    have apart : other ≠ id := by
      rintro rfl
      exact distinct.1 mem
    exact ⟨earlier, by rw [get, if_neg apart, refound], unfinished⟩
  · change (before.statements.appendAll closing.branches).Holds _
    rw [closes.branches]
    refine Body.Holds.appendAll_split (Body.Holds.mono filed outside) (fun branch mem ↦ ?_) _ _
    obtain ⟨entry, listed, rfl⟩ := List.mem_map.1 mem
    refine Body.Holds.mono (framed.1 entry.2.body ?_) outside
    simp only [bodiesOf, found]
    exact List.mem_map_of_mem (List.mem_map_of_mem listed)
  · exact framed.2.evolve evolves (bodiesOf_of_apart (fun other apart ↦ by rw [get, if_neg apart]) distinct.1)
  · rw [get] at refound
    by_cases same : other = id
    · rw [if_pos same, Option.some.injEq] at refound
      rw [same, ← refound]
      exact closes.keeps_proper proper
    · rw [if_neg same] at refound
      exact sound.proper other last refound
  · intro statement mem
    rcases List.mem_append.1 mem with mem | mem
    · exact sound.indicators statement mem
    · rw [closes.indicators] at mem
      obtain ⟨⟨state, signal⟩, entry, rfl⟩ := List.mem_map.1 mem
      exact ⟨id, state, signal, _, rfl, by rw [proper.indicators state signal entry]; rfl⟩
  · change (before.indicators ++ closing.indicators).filter _ = _
    rw [List.filter_append, sound.assigned, closes.filter_indicators proper, get]
    by_cases same : other = id
    · rw [if_pos same, if_pos same, same, found, Option.map_some, Option.getD_some,
        Machine.indications_of_incomplete incomplete]
      rfl
    · rw [if_neg same, if_neg same]
      exact List.append_nil _
  · intro name other entry
    have inserted : (before.complete.insert machine.name id).get? name = some other := entry
    rw [Table.get?_insert] at inserted
    split at inserted
    · rw [Option.some.injEq] at inserted
      rw [← inserted]
      exact completed_finishing there closes _
    · exact evolves.completed (sound.entered name other inserted)
  · rw [get]
    by_cases same : other = id
    · rw [same, found, Option.some.injEq] at refound
      exact ⟨closing.machine, if_pos same, by rw [closes.after, ← refound]⟩
    · exact ⟨earlier, by rw [if_neg same, refound], rfl⟩

end Leads

end Builder

end RegisterTransfer
