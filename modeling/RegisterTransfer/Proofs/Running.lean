import RegisterTransfer.Proofs.Outcome
import RegisterTransfer.Proofs.Soundness
import RegisterTransfer.Session.Run

/-!
# Levels of running bodies

Steps stay at the level they start at, which is a place of the same kind over the same frames. Opening a construct puts
one frame on top of those of the body it stands in, or takes up the frame that is there. A body starts on top of that
frame, and the builder around a body is there again when the body ends, whether it returns or is refused.
-/

namespace RegisterTransfer

/-! ## Levels -/

/-- A later frame of the same construct: a switch may have more cases, and a machine is kept elsewhere. -/
inductive Frame.Grows : Frame → Frame → Prop
  | same (frame : Frame) : Grows frame frame
  | switch (test : Value) (loc : Location) (cases later : Table (List Pattern) SwitchCase) :
    Grows (.switch ⟨test, loc, cases⟩) (.switch ⟨test, loc, later⟩)

theorem Frame.Grows.trans {first second third : Frame} (earlier : first.Grows second) (later : second.Grows third) :
    first.Grows third := by
  cases earlier with
  | same => exact later
  | switch test loc cases middle =>
    cases later with
    | same => exact .switch test loc cases middle
    | switch _ _ _ last => exact .switch test loc cases last

theorem Frame.Grows.construct {frame later : Frame} (grows : frame.Grows later) :
    later.construct = frame.construct := by
  cases grows with
  | same => rfl
  | switch => rfl

theorem Frame.Grows.machineOf? {frame later : Frame} (grows : frame.Grows later) :
    Control.machineOf? later = Control.machineOf? frame := by
  cases grows with
  | same => rfl
  | switch => rfl

namespace Control

/-- The machine whose states are due, directly inside of it. -/
def declaring? (control : Control) : Option MachineId :=
  if control.context = some .machine then control.innermostMachine? else none

theorem AtBody.declaring?_eq {control : Control} {behind : Option IfChain} {base : List Frame}
    (place : control.AtBody behind base) : control.declaring? = none := by
  rw [declaring?, place.context, if_neg]
  simp

/-- Directly inside of a construct, only a machine declares anything. -/
theorem AtConstruct.declaring?_eq {control : Control} {frame : Frame} {base : List Frame}
    (place : control.AtConstruct frame base) : control.declaring? = Control.machineOf? frame := by
  rw [declaring?, place.context, innermostMachine?, place.frames]
  cases frame with
  | machine id loc => rfl
  | chain chain => rfl
  | switch switch => rfl

theorem AtBody.base_eq {control : Control} {behind : Option IfChain} {base : List Frame}
    (place : control.AtBody behind base) : base = control.frames.drop (control.frames.length - control.depth) := by
  rw [place.frames, place.depth]
  cases behind with
  | none => simp
  | some chain => simp

theorem AtConstruct.frames_eq {control : Control} {first second : Frame} {base other : List Frame}
    (place : control.AtConstruct first base) (again : control.AtConstruct second other) :
    first = second ∧ base = other := by
  have frames := place.frames.symm.trans again.frames
  rwa [List.cons.injEq] at frames

/-- A later control at the same place. -/
structure Level (before after : Control) : Prop where
  depth : after.depth = before.depth
  context : after.context = before.context
  declaring : after.declaring? = before.declaring?
  body : ∀ behind base, before.AtBody behind base → ∃ later, after.AtBody later base
  inside : ∀ frame base, before.AtConstruct frame base → ∃ later, after.AtConstruct later base ∧ frame.Grows later

namespace Level

theorem refl (control : Control) : control.Level control where
  depth := rfl
  context := rfl
  declaring := rfl
  body behind _ place := ⟨behind, place⟩
  inside frame _ place := ⟨frame, place, .same frame⟩

theorem trans {before middle after : Control} (first : before.Level middle) (second : middle.Level after) :
    before.Level after where
  depth := second.depth.trans first.depth
  context := second.context.trans first.context
  declaring := second.declaring.trans first.declaring
  body behind base place := by
    obtain ⟨later, place⟩ := first.body behind base place
    exact second.body later base place
  inside frame base place := by
    obtain ⟨later, place, grows⟩ := first.inside frame base place
    obtain ⟨last, place, grows'⟩ := second.inside later base place
    exact ⟨last, place, grows.trans grows'⟩

theorem of_eq {before after : Control} (same : after = before) : before.Level after := by
  rw [same]
  exact .refl before

theorem of_atBody {before after : Control} {behind later : Option IfChain} {base : List Frame}
    (place : before.AtBody behind base) (again : after.AtBody later base) : before.Level after where
  depth := again.depth.trans place.depth.symm
  context := again.context.trans place.context.symm
  declaring := again.declaring?_eq.trans place.declaring?_eq.symm
  body other rest same := by
    have frames : rest = base := by
      calc rest
          = before.frames.drop (before.frames.length - before.depth) := same.base_eq
        _ = base := place.base_eq.symm
    rw [frames]
    exact ⟨later, again⟩
  inside frame rest same := by
    have context := same.context
    rw [place.context] at context
    contradiction

theorem of_atConstruct {before after : Control} {frame later : Frame} {base : List Frame}
    (place : before.AtConstruct frame base) (again : after.AtConstruct later base) (grows : frame.Grows later) :
    before.Level after where
  depth := again.depth.trans place.depth.symm
  context := by rw [again.context, place.context, grows.construct]
  declaring := by rw [again.declaring?_eq, place.declaring?_eq, grows.machineOf?]
  body behind rest same := by
    have context := same.context
    rw [place.context] at context
    contradiction
  inside other rest same := by
    obtain ⟨rfl, rfl⟩ := same.frames_eq place
    exact ⟨later, again, grows⟩

theorem placed {before after : Control} (level : before.Level after) (placed : before.Placed) : after.Placed := by
  rcases placed with ⟨behind, base, place⟩ | ⟨frame, base, place⟩
  · obtain ⟨later, place⟩ := level.body behind base place
    exact .inl ⟨later, base, place⟩
  · obtain ⟨later, place, -⟩ := level.inside frame base place
    exact .inr ⟨later, base, place⟩

end Level

end Control

namespace Builder

/-- A sound builder made of an earlier one, at the same place. Directly inside of a machine nothing is filed. -/
structure Stays (before after : Builder) : Prop extends before.Leads after before.control.declaring? where
  level : before.control.Level after.control
  kept : before.control.context = some .machine → after.statements = before.statements

theorem Stays.trans {before middle after : Builder} (first : before.Stays middle) (second : middle.Stays after) :
    before.Stays after where
  toLeads := by
    have grown := second.toLeads
    rw [first.level.declaring] at grown
    exact first.toLeads.trans grown
  level := first.level.trans second.level
  kept context := by
    rw [second.kept (first.level.context.trans context), first.kept context]

theorem Sound.stays {builder : Builder} (sound : builder.Sound) : builder.Stays builder :=
  ⟨sound.leads.any _, .refl builder.control, fun _ ↦ rfl⟩

/-- Outside of machines no states are declared. -/
theorem Stays.leads {before after : Builder} (stays : before.Stays after)
    (outside : before.control.declaring? = none) : before.Leads after := by
  have leads := stays.toLeads
  rwa [outside] at leads

theorem Leads.stays {before after : Builder} (leads : before.Leads after before.control.declaring?)
    (control : after.control = before.control) (statements : after.statements = before.statements) :
    before.Stays after := ⟨leads, .of_eq control, fun _ ↦ statements⟩

theorem level_flushed {builder : Builder} (stacked : Control.Stacked builder.control.frames)
    (placed : builder.control.Placed) : builder.control.Level builder.flushed.control := by
  rcases placed with ⟨behind, base, place⟩ | ⟨frame, base, place⟩
  · exact .of_atBody place (atBody_flushed stacked place)
  · rw [flushed_of_atConstruct stacked place]
    exact .refl _

end Builder

/-! ## Opening constructs -/

namespace Build

variable {builder : Builder} (sound : builder.Sound) (placed : builder.control.Placed)

include sound placed

theorem openChain_opens (condition : Value) (loc : Location) :
    Ends (openChain condition loc) builder ⟨fun height opened ↦ builder.Leads opened ∧
        opened.statements = builder.flushed.statements ∧ ∃ behind base, builder.control.AtBody behind base ∧
          height = base.length ∧ opened.control = ⟨.chain ⟨base.length, loc, []⟩ :: base, base.length, none⟩,
      fun _ after ↦ after = builder⟩ := by
  refine openChain_ends sound.stacked placed _ _ (fun advice context ↦ ?_) fun error ↦ rfl
  obtain ⟨behind, base, place⟩ := placed.atBody context
  have noted := sound.leads_noted advice
  have here : (builder.noted advice).control.AtBody behind base := place
  have flushed := Builder.control_flushed noted.sound.stacked here
  rw [place.depth]
  refine ⟨noted.trans (noted.sound.leads_opening (.inl ⟨_, _, here⟩) _ ?_ rfl fun _ ↦ rfl), ?_, behind, base, place,
    ?_, Builder.control_opening noted.sound.stacked here _⟩
  · rintro _ ⟨rfl⟩
    rw [flushed]
  · rw [Builder.opening, Builder.flushed_noted]
    rfl
  · rw [Control.height, Builder.control_flushed sound.stacked place]

/-- What was recorded before a switch does not lie within it. -/
theorem openSwitch_opens (test : Value) (loc : Location) :
    Ends (openSwitch test loc) builder ⟨fun _ opened ↦ builder.Leads opened ∧
        opened.statements = builder.flushed.statements ∧ builder.control.context = none ∧
          ∃ behind base, builder.control.AtBody behind base ∧
            opened.control = ⟨.switch ⟨test, loc, ∅⟩ :: base, base.length, none⟩ ∧
              opened.statements.Holds (opened.Filed base),
      fun _ after ↦ after = builder⟩ := by
  refine openSwitch_ends sound.stacked placed _ _ (fun context ↦ ?_) fun error ↦ rfl
  obtain ⟨behind, base, place⟩ := placed.atBody context
  have filed := (sound.leads_flushed placed).sound.filed
  rw [Builder.control_flushed sound.stacked place] at filed
  refine ⟨?_, rfl, context, behind, base, place, Builder.control_opening sound.stacked place _, ?_⟩
  · exact sound.leads_opening placed _ (fun _ same ↦ Frame.noConfusion same) rfl fun _ ↦ rfl
  · exact Builder.Filed.holds_evolve (.of_same rfl rfl rfl rfl) (fun _ mem ↦ mem) filed

/-- What was recorded before a machine does not lie within it. -/
theorem openMachine_opens (name domain initial : Option String) (loc : Location) :
    Ends (openMachine name domain initial loc) builder ⟨fun id opened ↦ builder.Leads opened ∧
        builder.machines.get? id = none ∧ opened.statements = builder.flushed.statements ∧
        ∃ behind base, builder.control.AtBody behind base ∧
          opened.control = ⟨.machine id loc :: base, base.length, none⟩ ∧
            opened.statements.Holds (opened.Filed base),
      fun _ after ↦ after = builder⟩ := by
  refine openMachine_ends sound.stacked placed _ _ _ _ (fun machine context clocked new ↦ ?_) fun error ↦ rfl
  obtain ⟨behind, base, place⟩ := placed.atBody context
  have known : builder.Leads (builder.withNewMachine machine) := by
    rw [new] at clocked ⊢
    exact sound.leads_withNewMachine initial clocked
  have here : (builder.withNewMachine machine).control.AtBody behind base := place
  have flushed := known.sound.leads_flushed (.inl ⟨_, _, here⟩)
  have filed := flushed.sound.filed
  have control := Builder.control_flushed known.sound.stacked here
  have found : (builder.withNewMachine machine).flushed.machines.get? builder.machines.nextKey = some machine := by
    rw [Builder.flushed_eq]
    exact Arena.get?_push_nextKey ..
  have fresh : builder.machines.nextKey ∉ Control.machines (builder.withNewMachine machine).flushed.control.frames := by
    intro mem
    apply sound.nextKey_notMem
    rw [control] at mem
    rw [place.frames, Control.machines, List.filterMap_append, List.mem_append]
    exact .inr mem
  rw [control] at filed
  refine ⟨(known.trans flushed).trans (flushed.sound.leads_pushMachine found (by rw [new]; rfl) (by rw [new]; rfl)
    fresh loc), Arena.get?_nextKey _, ?_, behind, base, place, Builder.control_opening known.sound.stacked here _, ?_⟩
  · rw [Builder.opening, Builder.withFrames, Builder.statements_flushed known.sound.stacked here,
      Builder.statements_flushed sound.stacked place]
    rfl
  · exact Builder.Filed.holds_evolve (.of_same rfl rfl rfl rfl) (fun _ mem ↦ mem) filed

/-! ### Going on with open constructs -/

/-- The chain that may still grow is on top of the stack. -/
theorem top_of_openChain? {chain : IfChain} (context : builder.control.context = none)
    (behind : builder.control.openChain? = some chain) : ∃ base,
      builder.control = ⟨.chain chain :: base, base.length, none⟩ ∧ chain.depth = base.length ∧ chain.Growing := by
  obtain ⟨found, base, place⟩ := placed.atBody context
  rw [place.openChain? sound.stacked] at behind
  subst behind
  obtain ⟨height, growing⟩ := place.growing chain rfl
  exact ⟨base, place.eq, height, growing⟩

theorem resumeChain_resumes (condition : Value) (loc : Location) :
    Ends (resumeChain condition loc) builder ⟨fun _ resumed ↦ ∃ advice chain base, resumed = builder.noted advice ∧
        builder.control = ⟨.chain chain :: base, base.length, none⟩ ∧ chain.depth = base.length ∧ chain.Growing,
      fun _ after ↦ ∃ advice, after = builder.noted advice⟩ := by
  refine resumeChain_ends _ _ (fun chain advice context behind ↦ ?_) fun _ advice ↦ ⟨advice, rfl⟩
  obtain ⟨base, top⟩ := top_of_openChain? sound placed context behind
  exact ⟨advice, chain, base, rfl, top⟩

theorem finishChain_resumes (loc : Location) :
    Ends (finishChain loc) builder ⟨fun _ resumed ↦ resumed = builder ∧ ∃ chain base,
        builder.control = ⟨.chain chain :: base, base.length, none⟩ ∧ chain.depth = base.length ∧ chain.Growing,
      fun _ after ↦ after = builder⟩ := by
  refine finishChain_ends _ (fun chain context behind ↦ ?_) fun _ ↦ rfl
  obtain ⟨base, top⟩ := top_of_openChain? sound placed context behind
  exact ⟨rfl, chain, base, top⟩

omit sound in
theorem startCase_starts (patterns : List (WrittenPattern Value)) (loc : Location) :
    Ends (startCase patterns loc) builder ⟨fun _ started ↦ ∃ advice switch base, started = builder.noted advice ∧
        builder.control.AtConstruct (.switch switch) base,
      fun _ after ↦ ∃ advice, after = builder.noted advice⟩ := by
  obtain ⟨switch, base, place⟩ := placed.topSwitch
  refine startCase_ends (fun context ↦ (place context).frames) _ _ (fun advice context ↦ ?_)
    fun _ advice ↦ ⟨advice, rfl⟩
  exact ⟨advice, switch, base, rfl, place context⟩

omit sound in
theorem startDefault_starts (loc : Location) :
    Ends (startDefault loc) builder ⟨fun _ started ↦ ∃ advice switch base, started = builder.noted advice ∧
        builder.control.AtConstruct (.switch switch) base,
      fun _ after ↦ after = builder⟩ := by
  obtain ⟨switch, base, place⟩ := placed.topSwitch
  refine startDefault_ends (fun context ↦ (place context).frames) _ (fun advice context ↦ ?_) fun _ ↦ rfl
  exact ⟨advice, switch, base, rfl, place context⟩

/-- The machine on top of the stack is not complete, and a state that may start is not declared yet. -/
theorem startState_starts (state : String) (loc : Location) :
    Ends (startState state loc) builder ⟨fun id started ↦ ∃ machine opened base,
        builder.control.AtConstruct (.machine id opened) base ∧ builder.machines.get? id = some machine ∧
          machine.register = none ∧ state ∉ machine.states.keys ∧
            started = builder.withMachine id (machine.mention id state),
      fun _ after ↦ after = builder⟩ := by
  obtain ⟨id, opened, base, place⟩ := placed.topMachine
  refine startState_ends (fun context ↦ (place context).frames) _ _ (fun machine context found absent ↦ ?_)
    fun _ ↦ rfl
  have here := place context
  obtain ⟨_, refound, incomplete⟩ := sound.running id (by simp [here.frames])
  rw [found, Option.some.injEq] at refound
  subst refound
  exact ⟨machine, opened, base, here, found, incomplete, absent, rfl⟩

end Build

namespace Builder

/-- The inside of a construct that has just been opened. -/
theorem Sound.enterConstruct {builder : Builder} (sound : builder.Sound) {frame : Frame} {base : List Frame}
    (control : builder.control = ⟨frame :: base, base.length, none⟩) :
    builder.Leads (builder.enterConstruct frame.construct) ∧
      (builder.enterConstruct frame.construct).control.AtConstruct frame base := by
  refine ⟨sound.leads_of_frames rfl rfl rfl rfl rfl sound.filed, ?_⟩
  rw [Builder.enterConstruct, control]
  exact ⟨rfl, rfl, rfl⟩

/-- A body that has just been entered. -/
theorem Sound.enterBody {builder : Builder} (sound : builder.Sound) {levels : Nat}
    (height : builder.control.depth + levels = builder.control.frames.length) :
    builder.Leads (builder.enterBody levels) ∧
      (builder.enterBody levels).control.AtBody none builder.control.frames :=
  ⟨sound.leads_of_frames rfl rfl rfl rfl rfl Body.Holds.empty, ⟨rfl, height, rfl, by simp⟩⟩

end Builder

/-! ## Bodies -/

namespace Builder

/-- What a recorded body leaves of the builder around it: everything in its place. -/
structure Restores (before after : Builder) : Prop extends before.Leads after where
  control : after.control = before.control
  statements : after.statements = before.statements

theorem Sound.restores_leaveBody {outer inner after : Builder} (sound : outer.Sound) (leads : outer.Leads inner)
    {above : List Frame} (frames : inner.control.frames = above ++ outer.control.frames)
    (eq : after = outer.leaveBody (inner.withFrames outer.control.frames)) : outer.Restores after where
  toLeads := by
    rw [eq]
    refine leads.trans (leads.sound.leads_dropping frames rfl rfl rfl rfl rfl ?_)
    exact Filed.holds_evolve leads.evolves (fun _ mem ↦ mem) sound.filed
  control := by
    rw [eq]
    rfl
  statements := by
    rw [eq]
    rfl

/-- The builder at the same place, with the same statements. -/
def Rests (before after : Builder) : Prop :=
  before.Leads after ∧ after.control = before.control ∧ after.statements = before.statements

theorem Rests.stays {before after : Builder} (rests : before.Rests after) : before.Stays after :=
  (rests.1.any _).stays rests.2.1 rests.2.2

end Builder

namespace Run

variable {α : Type} {session : Session}

/-- An action that leaves a sound builder at the same place, whether it returns or is refused. -/
def Proceeds (action : Run α) : Prop :=
  ∀ session : Session, session.builder.Sound → session.builder.control.Placed →
    Ends action session (.always fun later ↦ session.builder.Stays later.builder)

theorem capture_ends {body : Run Unit} (proceeds : Proceeds body) (sound : session.builder.Sound) {levels : Nat}
    (height : session.builder.control.depth + levels = session.builder.control.frames.length)
    {post : Post Session Body}
    (returned : ∀ recorded later, session.builder.Restores later.builder →
      recorded.Holds (later.builder.Filed later.builder.control.frames) → post.returned recorded later)
    (refused : ∀ error later, session.builder.Restores later.builder → post.refused error later) :
    Ends (capture levels body) session post := by
  rw [ends_capture]
  simp only [ends_bind, ends_build]
  set outer := session.builder
  obtain ⟨start, place⟩ := sound.enterBody height
  refine (proceeds (session.withBuilder (outer.enterBody levels)) start.sound (.inl ⟨_, _, place⟩)).mono ?_ ?_
  · rintro _ inner stays
    obtain ⟨behind, here⟩ := stays.level.body _ _ place
    have leads := (start.trans (stays.leads place.declaring?_eq)).trans (stays.sound.leads_flushed (.inl ⟨_, _, here⟩))
    have control := Builder.control_flushed stays.sound.stacked here
    have frames : inner.builder.flushed.control.frames = outer.control.frames := by rw [control]
    apply Ends.of_eq_ok (Build.flush_of_placed stays.sound.stacked (.inl ⟨_, _, here⟩))
    refine returned _ _ (sound.restores_leaveBody leads (show _ = [] ++ _ from frames) ?_) ?_
    · rw [Builder.withFrames, ← frames]
      rfl
    · exact Builder.Filed.holds_evolve (.of_same rfl rfl rfl rfl) (fun _ mem ↦ mem) leads.sound.filed
  · rintro error inner stays
    obtain ⟨behind, here⟩ := stays.level.body _ _ place
    refine refused _ _ (sound.restores_leaveBody (start.trans (stays.leads place.declaring?_eq)) here.frames ?_)
    have dropped :
        inner.builder.control.frames.drop (inner.builder.control.frames.length - outer.control.frames.length) =
        outer.control.frames := by
      rw [here.frames, List.length_append, Nat.add_sub_cancel, List.drop_left]
    simp only [Builder.truncate, Control.truncate, Control.height, dropped]
    rfl

end Run

end RegisterTransfer
