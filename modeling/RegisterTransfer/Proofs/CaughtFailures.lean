import RegisterTransfer.Proofs.DomainsApart
import RegisterTransfer.Proofs.Forgetting

/-!
# Caught failures

A program in which a construct is refused and the refusal is caught goes on as if the construct had never been called:
every later call is accepted in both cases or in neither, at any depth and up to the end of the program. This does not
hold of calls that are refused because of a signal that the refused body was the first to drive, because of a name that
it was the first to give, or because an open machine has no state that it was the first to mention.
-/

namespace RegisterTransfer

/-! ## With a call and without it -/

/-- The steps of a module, which are all run, or those of a body, which ends with the first refusal that is not
caught. -/
def runSteps (every : Bool) (steps : List Step) : Run Unit := if every then runAll steps else runBody steps

/-- What stands in for a construct that has been refused: nothing, or a call that adds no statements, where the
construct has closed the chain behind it. -/
def Step.Closes (instead : List Step) (before after : Session) : Prop :=
  (after.builder.control = before.builder.control ∧ instead = []) ∨
    (after.builder.control ≠ before.builder.control ∧
      ∃ label loc caught, instead = [⟨.add combinational [], label, loc, caught⟩])

/-- The steps, run from a session, come to `failed` in `before`, and the other ones have `instead` in its place, at any
depth. Everything behind has nothing to do with what is stored and named between `before` and `after`. -/
inductive Step.Skips (failed : Step) (instead : List Step) (before after : Session) :
    Bool → Session → List Step → List Step → Prop
  | here {every : Bool} {rest : List Step} (caught : every = true ∨ failed.caught = true)
    (unaffected : Step.Every (Call.Unaffected before after) rest) :
    Skips failed instead before after every before (failed :: rest) (instead ++ rest)
  | behind {every : Bool} {session later : Session} {step : Step} {these those : List Step}
    (ended : EndsIn step.run session later)
    (goes : every = true ∨ step.caught = true ∨ step.run session = .ok () later)
    (rest : Skips failed instead before after every later these those) :
    Skips failed instead before after every session (step :: these) (step :: those)
  | within {every : Bool} {session inner : Session} {step : Step} {enter : Run Unit} {body other rest : List Step}
    (enters : step.call.enter step.loc = some enter) (entered : enter session = .ok () inner)
    (held : step.call.body? = some body)
    (inside : Skips failed instead before after (!step.call.isConstruct) inner body other)
    (unaffected : Step.Every (Call.Unaffected before after) rest) :
    Skips failed instead before after every session (step :: rest)
      ({ step with call := step.call.withBody other } :: rest)

/-! ## Entering -/

theorem Call.stands_of_enter {loc : Location} {call : Call (List Step)} {enter : Run Unit} {session inner : Session}
    (enters : call.enter loc = some enter) (entered : enter session = .ok () inner) (stands : session.Stands) :
    inner.Stands := by
  obtain ⟨sound, placed, -⟩ := Ends.of_ok entered (Call.enter_ends enters stands.sound stands.placed)
  exact ⟨sound, placed⟩

/-- A module whose steps are run starts on a builder of its own. -/
theorem Call.inModule_of_enter {loc : Location} {name : Option String} {settings : Settings} {steps : List Step}
    {enter : Run Unit} {session inner : Session} (enters : (Call.module name settings steps).enter loc = some enter)
    (entered : enter session = .ok () inner) : inner = session.inModule settings loc := by
  simp only [Call.enter, Option.some.injEq] at enters
  subst enters
  exact (EStateM.Result.ok.inj entered).2.symm

/-- A construct is opened inside of the machines that are open. -/
theorem Builder.Opens.machine_mem {builder opened : Builder} {ending : Ending} (opens : builder.Opens ending opened)
    (stands : builder.control.Stands) {id : MachineId} {loc : Location}
    (mem : .machine id loc ∈ builder.control.frames) : .machine id loc ∈ opened.control.frames := by
  have pushed : ∀ {other : Builder} (frame : Frame), other.control = builder.control →
      .machine id loc ∈ (other.opening frame).control.frames := by
    intro other frame same
    rw [Builder.opening, Builder.withFrames, Builder.control_flushed_congr same]
    exact List.mem_cons_of_mem _
      (((Builder.level_flushed stands.stacked stands.placed).machine_mem_iff stands.placed).2 mem)
  cases opens with
  | first test loc advice place => exact pushed _ rfl
  | switch test loc place => exact pushed _ rfl
  | machine initial loc place clocked => exact pushed _ rfl
  | _ => exact mem

/-! ## Around the failed call -/

/-- A session in which the other one is run: what it has heard of is known there, and what it has opened is still open,
or belongs to a module around. -/
structure Session.Encloses (session before : Session) : Prop where
  known : ∀ id, session.Known id → before.Known id
  tag : session.builder.machines.tag ≤ before.builder.machines.tag
  opened : ∀ id loc, .machine id loc ∈ session.builder.control.frames →
    .machine id loc ∈ before.builder.control.frames ∨ id.tag < before.builder.machines.tag

namespace Session.Encloses

theorem refl (session : Session) : session.Encloses session :=
  ⟨fun _ known ↦ known, Nat.le_refl _, fun _ _ mem ↦ .inl mem⟩

theorem of_advances {session later before : Session} (advances : session.Advances later)
    (kept : ∀ id loc, Frame.machine id loc ∈ session.builder.control.frames →
      .machine id loc ∈ later.builder.control.frames) (encloses : later.Encloses before) : session.Encloses before where
  known id known := encloses.known id (advances.known known)
  tag := advances.builder.tag ▸ encloses.tag
  opened id loc mem := encloses.opened id loc (kept id loc mem)

/-- A module is run on a builder with a higher number. -/
theorem started_le_of_inModule {session before : Session} {settings : Settings} {loc : Location}
    (encloses : (session.inModule settings loc).Encloses before) : session.started ≤ before.builder.machines.tag :=
  encloses.tag

theorem of_inModule {session before : Session} {settings : Settings} {loc : Location} (sound : session.builder.Sound)
    (settled : session.Settled) (encloses : (session.inModule settings loc).Encloses before) :
    session.Encloses before where
  known id known := encloses.known id (known.inModule settings loc)
  tag := Nat.le_of_lt (Nat.lt_of_lt_of_le settled.ordered encloses.started_le_of_inModule)
  opened id opened mem := by
    obtain ⟨machine, found, -⟩ := sound.running id (Control.mem_machines_iff.2 ⟨opened, mem⟩)
    have known := settled.known_of_get? found
    exact .inr (Nat.lt_of_lt_of_le known.started encloses.started_le_of_inModule)

end Session.Encloses

namespace Step.Skips

variable {failed : Step} {instead : List Step} {before after : Session}

/-- What holds on the way to the failed call holds there. -/
theorem encloses {every : Bool} {session : Session} {these those : List Step}
    (skips : Step.Skips failed instead before after every session these those)
    (declared : Step.Every Call.Declared these) (stands : session.Stands) (settled : session.Settled) :
    session.Encloses before ∧ before.Stands ∧ before.Settled ∧ Ends failed.run before (.always before.Advances) := by
  induction skips with
  | here caught unaffected =>
    cases declared with | cons here within others =>
    exact ⟨.refl before, stands, settled, Step.advances here (fun body inner ↦ (within body inner).advance) stands⟩
  | @behind every session later step these those ended goes rest ih =>
    cases declared with | cons here within others =>
    have advances := ended.holds (Step.advances here (fun body inner ↦ (within body inner).advance) stands)
    obtain ⟨encloses, facts⟩ := ih others (ended.holds (step.stands stands)) (advances.settled settled)
    refine ⟨.of_advances advances (fun id loc mem ↦ ?_) encloses, facts⟩
    have stays := ended.holds (step.run_proceeds (fun body _ ↦ proceed body) session stands.sound stands.placed)
    exact (stays.level.machine_mem_iff stands.placed).2 mem
  | @within every session inner step enter body other rest enters entered held inside unaffected ih =>
    cases declared with | cons here within others =>
    have declared := within body held
    cases construct : step.call.isConstruct with
    | true =>
      obtain ⟨opening, ending, opened, opens, ran, rfl⟩ := Call.opened_of_enter construct enters entered
      have made := Ends.of_ok ran (Call.opening_ends opens stands.sound stands.placed)
      have advances := Session.Advances.entered made
      obtain ⟨encloses, facts⟩ := ih declared (Call.stands_of_enter enters entered stands) (advances.settled settled)
      refine ⟨.of_advances advances (fun id loc mem ↦ ?_) encloses, facts⟩
      have opened := made.builder.machine_mem stands.control mem
      cases ending.scope <;> exact opened
    | false =>
      obtain ⟨call, label, loc, caught⟩ := step
      cases call with
      | module name settings steps =>
        obtain rfl := Call.inModule_of_enter enters entered
        obtain ⟨encloses, facts⟩ := ih declared (Call.stands_of_enter enters entered stands)
          (settled.inModule settings loc)
        exact ⟨encloses.of_inModule stands.sound settled, facts⟩
      | _ => simp_all [Call.isConstruct, Call.body?]

end Step.Skips

namespace Session.Fails

variable {session before after : Session} (fails : before.Fails after) (labels : Session.Labels before after)
  (base : List Entry)

section Around

variable (encloses : session.Encloses before) (sound : session.builder.Sound) (settled : session.Settled)

include encloses

/-- What is known around the failed call has the same number in both runs. -/
theorem ids_of_known {id : MachineId} (known : session.Known id) : (fails.likeness labels base).ids id = id :=
  renumber_of_known (encloses.known id known)

include sound settled

/-- Around the failed call, open machines have their numbers in both runs, and are not lost. -/
theorem fixed_around (id : MachineId) (opened : id ∈ Control.machines session.builder.control.frames) :
    (fails.likeness labels base).ids id = id ∧ ¬(fails.likeness labels base).lost id := by
  obtain ⟨machine, found, -⟩ := sound.running id opened
  refine ⟨fails.ids_of_known labels base encloses (settled.known_of_get? found), ?_⟩
  obtain ⟨loc, mem⟩ := Control.mem_machines_iff.1 opened
  rcases encloses.opened id loc mem with inside | apart
  · exact (fails.fixed labels base (Control.mem_machines_iff.2 ⟨loc, inside⟩)).2
  · exact (fails.untouched_of_tag labels base apart).kept

/-- The builder of a module around the failed call is alike to itself. -/
theorem lags_around (apart : session.started ≤ before.builder.machines.tag) :
    (fails.likeness labels base).Lags session.builder session.builder := by
  have untouched : ∀ id, session.Known id → (fails.likeness labels base).Untouched id := fun id known ↦
    fails.untouched_of_tag labels base (Nat.lt_of_lt_of_le known.started apart)
  have same_signal : ∀ {signal : Signal}, session.knowledge.signal signal →
      (fails.likeness labels base).signal signal = signal := fun known ↦ Likeness.signal_of_owner fun id owner ↦
    ⟨fails.ids_of_known labels base encloses (known id owner), labels.steady id (untouched id (known id owner)).steady⟩
  have known_back : ∀ id, session.Known (before.renumber after id) → before.renumber after id = id := fun id known ↦
    renumber_of_known (known_of_renumber (encloses.known _ known))
  refine .of_tracks ⟨?_, Likeness.recording_self (fun _ seen ↦ seen) rfl <|
    fails.fixed_around labels base encloses sound settled⟩
  refine ⟨rfl, fun signal domain found ↦ ?_, fun signal domain found ↦ .inl ?_, fun id ↦ ?_, fun count ↦ ?_, fun count ↦ ?_,
    ⟨fun _ mem ↦ mem, fun _ ↦ .inl⟩, ⟨fun _ mem ↦ mem, fun _ ↦ .inl⟩, fun _ _ ↦ rfl, fun _ seen ↦ seen.elim,
    fun _ seen ↦ seen.elim⟩
  · rwa [same_signal (settled.knows.drivers signal domain found)]
  · have known : session.knowledge.signal signal := by
      intro id owner
      have renumbered : session.Known (before.renumber after id) := by
        refine settled.knows.drivers _ domain found _ ?_
        rw [Likeness.owner_signal, owner]
        rfl
      rwa [known_back id renumbered] at renumbered
    rwa [same_signal known] at found
  · change Option.Rel _ (session.builder.machines.get? (before.renumber after id)) _
    cases found : session.builder.machines.get? id with
    | none =>
      cases other : session.builder.machines.get? (before.renumber after id) with
      | none => exact .none
      | some machine =>
        rw [known_back id (settled.known_of_get? other), found] at other
        exact nomatch other
    | some machine =>
      have known := settled.known_of_get? found
      have number : before.renumber after id = id := fails.ids_of_known labels base encloses known
      rw [number, found]
      exact .some (Likeness.machines_self (fun _ seen ↦ seen) ⟨number, labels.steady id (untouched id known).steady⟩
        (sound.proper id machine found) (.refl machine) (.refl machine) rfl
        (fun lost ↦ absurd lost (untouched id known).kept) fun _ _ ↦ .inl)
  · refine renumber_of_known ⟨?_, fun same ↦ ?_⟩
    · exact Nat.lt_trans (Nat.lt_of_lt_of_le settled.ordered apart) fails.settled.ordered
    · have ordered := settled.ordered
      dsimp only at same
      omega
  · exact fails.untouched_of_tag labels base (Nat.lt_of_lt_of_le settled.ordered apart)

end Around

/-- What is alike with some registers is alike. -/
theorem meets_of_mirrors {α β : Type} {action : Run α} {other : Run β} {first second : Session}
    (mirrors : (fails.likeness labels base).Mirrors action other first second) :
    (fails.likeness (.same before after) base).Meets (fails.Alike base) action other first second :=
  have meets : (fails.likeness labels base).Meets (fails.Alike base) action other first second :=
    mirrors.mono fun _ _ alike ↦ ⟨labels, alike⟩
  meets

end Session.Fails

/-- An open construct has the same to do in both runs. -/
theorem Likeness.endings_self {likeness : Likeness} {ending : Ending} {control : Control} (due : ending.Due control)
    (fixed : ∀ id ∈ Control.machines control.frames, likeness.ids id = id ∧ ¬likeness.lost id) :
    likeness.Endings ending ending := by
  cases ending with
  | first test height => exact .first (.refl test) height
  | next test => exact .next (.refl test)
  | last => exact .last
  | switch => exact .switch
  | case patterns => exact .case patterns
  | default => exact .default
  | machine id =>
    obtain ⟨place, base, rfl⟩ := due
    obtain ⟨same, kept⟩ := fixed id (List.mem_cons_self ..)
    have endings := Likeness.Endings.machine id kept
    rwa [same] at endings
  | state id name =>
    obtain ⟨place, base, inside⟩ := due
    obtain ⟨same, kept⟩ := fixed id (by rw [inside.frames]; exact List.mem_cons_self ..)
    have endings := Likeness.Endings.state id name kept
    rwa [same] at endings

/-! ## Running on -/

section RunSteps

variable {every : Bool} {step : Step} {rest : List Step} {session later : Session}

/-- Behind a step that has returned or been caught, the other steps are run. -/
theorem runSteps_cons (ended : EndsIn step.run session later)
    (goes : every = true ∨ step.caught = true ∨ step.run session = .ok () later) :
    runSteps every (step :: rest) session = runSteps every rest later := by
  have skipped : Run.caught step.run session = .ok () later := by
    rcases ended with ⟨value, ran⟩ | ⟨error, ran⟩
    · simp only [Run.caught, Run.settle, bind, EStateM.bind, ran]
      rfl
    · simp only [Run.caught, Run.settle, bind, EStateM.bind, ran]
      rfl
  cases every with
  | true => simp only [runSteps, ↓reduceIte, runAll, bind, EStateM.bind, skipped]
  | false =>
    simp only [runSteps, Bool.false_eq_true, ↓reduceIte, runBody]
    split
    · simp only [bind, EStateM.bind, skipped]
    · rename_i strict
      have ran := (goes.resolve_left Bool.false_ne_true).resolve_left strict
      simp only [bind, EStateM.bind, ran]

theorem runSteps_ends {holds : Session → Prop} (first : Ends step.run session (.always holds))
    (others : ∀ later, holds later → Ends (runSteps every rest) later (.always holds)) :
    Ends (runSteps every (step :: rest)) session (.always holds) := by
  cases every with
  | true =>
    simp only [runSteps, ↓reduceIte, runAll] at others ⊢
    exact (ends_bind ..).2 ((Run.ends_caught ..).2 (first.mono (fun _ _ so_far ↦ others _ so_far)
      fun _ _ so_far ↦ others _ so_far))
  | false =>
    simp only [runSteps, Bool.false_eq_true, ↓reduceIte, runBody] at others ⊢
    split
    · exact (ends_bind ..).2 ((Run.ends_caught ..).2 (first.mono (fun _ _ so_far ↦ others _ so_far)
        fun _ _ so_far ↦ others _ so_far))
    · exact (ends_bind ..).2 (first.mono (fun _ _ so_far ↦ others _ so_far) fun _ _ so_far ↦ so_far)

theorem runSteps_extend (every : Bool) (steps : List Step) : Run.Keeps Session.Extends (runSteps every steps) := by
  cases every with
  | true => exact (steps_extend steps).2
  | false => exact (steps_extend steps).1

end RunSteps

namespace Likeness

variable {likeness : Likeness} {first second : Session}

theorem Meets.steps_cons {related : Session → Session → Prop} {every : Bool} {step again : Step} {these those : List Step}
    (stands : first.Stands) (standing : second.Stands) (here : likeness.Meets related step.run again.run first second)
    (marks : likeness.Marks step.run first) (same : again.caught = step.caught)
    (follow : ∀ later last : Session, later.Stands → last.Stands → related later last →
      likeness.Meets related (runSteps every these) (runSteps every those) later last) :
    likeness.Meets related (runSteps every (step :: these)) (runSteps every (again :: those)) first second := by
  cases every with
  | true => exact .all_cons stands standing here marks follow
  | false => exact .body_cons stands standing here marks same follow

theorem follow_steps {steps : List Step} (fits : Step.Every (Call.Fits likeness) steps) (every : Bool) :
    likeness.Follow (runSteps every) steps steps := by
  cases every with
  | true => exact fits.follow.2
  | false => exact fits.follow.1

end Likeness

theorem Step.Every.mono {holds wanted : Call (List Step) → Prop} (implies : ∀ call, holds call → wanted call)
    {steps : List Step} (every : Step.Every holds steps) : Step.Every wanted steps := by
  induction every with
  | nil => exact .nil
  | cons here _ _ within others => exact .cons (implies _ here) within others

section Every

variable {holds : Call (List Step) → Prop} {step : Step} {rest : List Step}

theorem Step.Every.cons_simple (simple : step.call.body? = none) (here : holds step.call)
    (others : Step.Every holds rest) : Step.Every holds (step :: rest) :=
  .cons here (fun _ inner ↦ nomatch simple.symm.trans inner) others

theorem Step.Every.cons_body {body : List Step} (inner : step.call.body? = some body) (here : holds step.call)
    (within : Step.Every holds body) (others : Step.Every holds rest) : Step.Every holds (step :: rest) := by
  refine .cons here (fun other same ↦ ?_) others
  rw [inner, Option.some.injEq] at same
  exact same ▸ within

theorem Step.Every.append {these those : List Step} (first : Step.Every holds these) (second : Step.Every holds those) :
    Step.Every holds (these ++ those) := by
  induction first with
  | nil => exact second
  | cons here within _ _ ih => exact .cons here within ih

end Every

/-! ## Registers that nothing is known of -/

/-- Nothing is known of the register of a machine that has just been opened. -/
theorem Session.Opens.without {session opened : Session} {id : MachineId} (opens : session.Opens (.machine id) opened)
    (settled : session.Settled) : opened.Knows (.without id) := by
  refine opens.knows (settled.knows.mono (fun _ _ ↦ trivial) fun signal known same ↦ ?_) fun _ _ ↦ trivial
  obtain ⟨rfl, -⟩ := opens.builder.issues
  have heard := known session.builder.machines.nextKey (by rw [Signal.owner?, same])
  exact absurd (heard.size rfl) (Nat.lt_irrefl _)

/-- It stays so while the machine is open. -/
theorem Session.Advances.without {session later : Session} (advances : session.Advances later) {id : MachineId}
    (known : session.Known id)
    (incomplete : ∀ machine, session.builder.machines.get? id = some machine → machine.register = none)
    (knows : session.Knows (.without id)) : later.Knows (.without id) := by
  refine advances.knows _ (fun other new ↦ ⟨trivial, fun signal owner same ↦ ?_⟩)
    (fun other machine signal found register origin _ same ↦ ?_) knows
  · rw [Signal.owner?, same, Option.some.injEq] at owner
    subst owner
    rcases new with ⟨tag, above, -⟩ | ⟨above, -⟩
    · exact absurd (known.size tag) (Nat.not_lt.2 above)
    · exact absurd known.started (Nat.not_lt.2 above)
  · rw [origin, Signal.Origin.register.injEq] at same
    subst same
    rw [incomplete machine found] at register
    exact nomatch register

namespace Session.Fails

variable {before after opened last final : Session} (fails : before.Fails after) (base : List Entry)

/-- A construct around the failed call is finished in both runs. If it is a machine, its registers may show the states in
another order. -/
theorem finish_meets {labels : Session.Labels before after} {ending : Ending} (encloses : opened.Encloses before)
    (sound : opened.builder.Sound) (settled : opened.Settled) (due : ending.Due opened.builder.control) (loc : Location)
    {these those : List Step}
    (ran : runBody these (opened.withBuilder (opened.builder.enter ending.scope)) = .ok () last)
    (again : runBody those (opened.withBuilder (opened.builder.enter ending.scope)) = .ok () final)
    (followed : (fails.likeness labels base).Sessions last final)
    (bare : ∀ id, ending = .machine id → last.Knows (.without id) ∧ final.Knows (.without id)) :
    (fails.likeness (.same before after) base).Meets (fails.Alike base)
      (ending.finish loc (last.builder.recordedIn ending.scope))
      (ending.finish loc (final.builder.recordedIn ending.scope))
      (last.withBuilder (opened.builder.left last.builder ending.scope))
      (final.withBuilder (opened.builder.left final.builder ending.scope)) := by
  have entering := sound.enters due
  have stays := Ends.of_ok again
    ((proceed those).1 (opened.withBuilder (opened.builder.enter ending.scope)) entering.1.sound entering.2)
  have leaving := sound.leaves due stays
  have finished : ∀ others : Session.Labels before after, (fails.likeness others base).Sessions last final →
      (fails.likeness others base).Closable (opened.builder.left last.builder ending.scope)
        (opened.builder.left final.builder ending.scope) ending →
      (fails.likeness (.same before after) base).Meets (fails.Alike base)
        (ending.finish loc (last.builder.recordedIn ending.scope))
        (ending.finish loc (final.builder.recordedIn ending.scope))
        (last.withBuilder (opened.builder.left last.builder ending.scope))
        (final.withBuilder (opened.builder.left final.builder ending.scope)) := by
    intro others alike closable
    have fixed := fails.fixed_around others base encloses sound settled
    exact fails.meets_of_mirrors others base (Ending.finish_mirrors (Likeness.endings_self due fixed)
      (Likeness.recording_self (fun _ seen ↦ seen) rfl fixed) alike sound sound due due loc closable ran again)
  by_cases closes : ∃ id, ending = .machine id
  · obtain ⟨id, rfl⟩ := closes
    obtain ⟨knows, without⟩ := bare id rfl
    have opening : id ∈ Control.machines opened.builder.control.frames := by
      obtain ⟨place, rest, top⟩ := due
      rw [top]
      exact List.mem_cons_self ..
    have number : before.renumber after id = id := (fails.fixed_around labels base encloses sound settled id opening).1
    have incomplete : ∀ machine, final.builder.machines.get? id = some machine → machine.register = none := by
      intro machine found
      obtain ⟨place, rest, top⟩ := leaving.due
      obtain ⟨other, refound, incomplete⟩ := leaving.sound.running id (by rw [top]; exact List.mem_cons_self ..)
      have same := found.symm.trans refound
      rw [Option.some.injEq] at same
      exact same ▸ incomplete
    set relabeled := labels.relabel id ((final.builder.machines.get? id).bind Machine.shown)
      ((last.builder.machines.get? id).bind Machine.shown) with relabeled_eq
    refine finished relabeled (fails.sessions_relabel base (fun asked apart ↦ if_neg fun both ↦ apart both.1) followed
      number knows without stays.sound incomplete) ?_
    rintro _ place rest ⟨rfl⟩ frames machine other found known alike
    have kept := (fails.fixed_around relabeled base encloses sound settled id opening).2
    by_cases steady : (fails.likeness relabeled base).Steady id
    · exact (alike.kept kept).ready steady place
    · obtain ⟨state, extra⟩ := not_forall_not.1 steady
      refine ⟨fun missing more strict ↦ strict ⟨id, ?_, more.mentioned, more.new⟩, ?_⟩
      · have inside : .machine id place ∈ final.builder.control.frames := by
          change final.builder.control.frames = _ at frames
          rw [frames]
          exact List.mem_cons_self ..
        have around : .machine id place ∈ opened.builder.control.frames :=
          (stays.level.machine_mem_iff entering.2).1 inside
        refine (encloses.opened id place around).resolve_right fun apart ↦ ?_
        exact (fails.untouched_of_tag relabeled base apart).steady state extra
      · change last.builder.machines.get? (before.renumber after id) = some machine at found
        change final.builder.machines.get? id = some other at known
        rw [number] at found
        change relabeled.shows id other.shown = machine.shown
        rw [relabeled_eq, found, known]
        exact (congrFun (congrArg DFunLike.coe (if_pos ⟨rfl, state, extra⟩)) _).trans (Equiv.swap_apply_left ..)
  · exact finished labels followed fun id _ _ same ↦ absurd ⟨id, same⟩ closes

/-- Whatever happens in the body of a machine, nothing is known of its register. -/
theorem knows_without {session opened last : Session} {id : MachineId} (made : session.Opens (.machine id) opened)
    (stacked : Control.Stacked session.builder.control.frames) (settled : session.Settled) {steps : List Step}
    (declared : Step.Every Call.Declared steps)
    (ran : runBody steps (opened.withBuilder (opened.builder.enter (Ending.machine id).scope)) = .ok () last) :
    last.Knows (.without id) := by
  have due := made.builder.due stacked
  have entering := made.leads.sound.enters due
  obtain ⟨place, rest, top⟩ := due
  obtain ⟨machine, found, incomplete⟩ := made.leads.sound.running id (by rw [top]; exact List.mem_cons_self ..)
  have known := (Session.Advances.opened made).settled settled
  have through := Ends.of_ok ran (declared.advance _ entering.1.sound entering.2).1
  refine ((Session.Advances.enter opened _).trans through).without (known.known_of_get? found) (fun other refound ↦ ?_)
    (made.without settled)
  rw [found, Option.some.injEq] at refound
  exact refound ▸ incomplete

/-- A construct around the failed call ends in the same way in both runs, as its body does. -/
theorem construct_meets {session : Session} {loc : Location} {call : Call (List Step)} {opening : Run Ending}
    {ending : Ending} {body other : List Step} (opens : call.opening loc = some opening)
    (held : call.body? = some body) (ran : opening session = .ok ending opened) (stands : session.Stands)
    (settled : session.Settled) (encloses : opened.Encloses before) (declared : Step.Every Call.Declared body)
    (also_declared : Step.Every Call.Declared other)
    (inner : (fails.likeness (.same before after) base).Meets (fails.Alike base) (runBody body) (runBody other)
      (opened.withBuilder (opened.builder.enter ending.scope)) (opened.withBuilder (opened.builder.enter ending.scope))) :
    (fails.likeness (.same before after) base).Meets (fails.Alike base) (runCall loc call)
      (runCall loc (call.withBody other)) session session := by
  have made := Ends.of_ok ran (Call.opening_ends opens stands.sound stands.placed)
  have due := made.builder.due stands.sound.stacked
  have known := (Session.Advances.opened made).settled settled
  have ran_on := Ending.run_meets made.leads.sound made.leads.sound due due loc inner
    (by
      rintro last final returned again ⟨labels, followed⟩
      refine fails.finish_meets base encloses made.leads.sound known due loc returned again followed ?_
      rintro id rfl
      exact ⟨knows_without made stands.sound.stacked settled declared returned,
        knows_without made stands.sound.stacked settled also_declared again⟩)
    (by
      rintro _ _ _ sure ⟨labels, followed⟩
      have fixed := fails.fixed_around labels base encloses made.leads.sound known
      exact ⟨labels, Ending.sessions_dropped (Likeness.endings_self due fixed)
        (Likeness.recording_self (fun _ seen ↦ seen) rfl fixed) followed sure⟩)
  rw [Likeness.Meets] at ran_on ⊢
  rw [runCall_eq_opening opens held,
    runCall_eq_opening ((Call.opening_withBody ..).trans opens) (Call.body?_withBody held other)]
  simp only [bind, EStateM.bind, ran]
  exact ran_on

end Session.Fails

/-! ## To the end -/

/-- If the trace of a body is that of `after` or longer, so is that of the call around it. -/
theorem Call.extends_of_enter {loc : Location} {call : Call (List Step)} {enter : Run Unit} {body : List Step}
    {session inner after : Session} (enters : call.enter loc = some enter) (entered : enter session = .ok () inner)
    (held : call.body? = some body) (stands : session.Stands)
    (within : Ends (runSteps (!call.isConstruct) body) inner (.always after.Extends)) :
    Ends (runCall loc call) session (.always after.Extends) := by
  cases construct : call.isConstruct with
  | true =>
    simp only [construct, Bool.not_true, runSteps, Bool.false_eq_true, ↓reduceIte] at within
    obtain ⟨opening, ending, opened, opens, ran, rfl⟩ := Call.opened_of_enter construct enters entered
    have made := Ends.of_ok ran (Call.opening_ends opens stands.sound stands.placed)
    rw [runCall_eq_opening opens held, ends_bind]
    refine .of_eq_ok ran (Ending.run_ends made.leads.sound (made.builder.due stands.sound.stacked) (proceed body).1 ?_)
    exact within.mono (fun _ _ grown _ ↦ ⟨fun _ _ ↦ grown, fun _ ↦ grown⟩) fun _ _ grown _ ↦ grown
  | false =>
    cases call with
    | module name settings steps =>
      obtain rfl := Call.inModule_of_enter enters entered
      obtain rfl := Option.some.inj held
      simp only [construct, Bool.not_false, runSteps, ↓reduceIte] at within
      simp only [runCall, Run.module, ends_bind, ends_get, ends_modify, ends_pure]
      refine within.mono (fun _ last grown ↦ ?_) fun _ _ grown ↦ grown
      exact (Run.build_extends _ (last.withBuilder session.builder)).mono_always fun _ more ↦
        List.IsPrefix.trans grown more
    | _ => simp_all [Call.isConstruct, Call.body?]

theorem Step.extends_of_call {call : Call (List Step)} {label : String} {loc : Location} {caught : Bool}
    {session after : Session} (called : Ends (runCall loc call) session (.always after.Extends)) :
    Ends (Step.run ⟨call, label, loc, caught⟩) session (.always after.Extends) := by
  refine (Run.ends_traced ..).2 (called.mono (fun _ _ grown ↦ ?_) fun _ _ grown ↦ ?_)
  · exact List.IsPrefix.trans grown (List.prefix_append ..)
  · exact List.IsPrefix.trans grown (List.prefix_append ..)

namespace Step.Skips

variable {failed : Step} {instead : List Step} {before after : Session}

/-- Where the failed call ends, the trace of the run is what it is after the failed call, or longer. -/
theorem extends_ {every : Bool} {session : Session} {these those : List Step} {error : BuildError}
    (skips : Step.Skips failed instead before after every session these those)
    (refused : failed.run before = .error (.refused error) after) (stands : session.Stands) :
    Ends (runSteps every these) session (.always after.Extends) := by
  have grows : ∀ {every : Bool} {rest : List Step} (later : Session), after.Extends later →
      Ends (runSteps every rest) later (.always after.Extends) := fun later grown ↦
    (runSteps_extend _ _ later).mono_always fun _ more ↦ List.IsPrefix.trans grown more
  induction skips with
  | @here every rest caught unaffected =>
    rw [Ends, runSteps_cons (.inr ⟨error, refused⟩) (caught.imp_right .inl)]
    exact grows after (List.prefix_refl _)
  | @behind every session later step these those ended goes rest ih =>
    rw [Ends, runSteps_cons ended goes]
    exact ih (ended.holds (step.stands stands))
  | @within every session inner step enter body other rest enters entered held inside unaffected ih =>
    obtain ⟨call, label, loc, caught⟩ := step
    exact runSteps_ends (Step.extends_of_call (Call.extends_of_enter enters entered held stands
      (ih (Call.stands_of_enter enters entered stands)))) grows

theorem declared_instead (harmless : Step.Every Call.Declared instead) {every : Bool} {session : Session}
    {these those : List Step} (skips : Step.Skips failed instead before after every session these those)
    (declared : Step.Every Call.Declared these) : Step.Every Call.Declared those := by
  induction skips with
  | here caught unaffected =>
    cases declared with | cons _ _ others =>
    exact harmless.append others
  | behind ended goes rest ih =>
    cases declared with | cons here within others =>
    exact .cons here within (ih others)
  | within enters entered held inside unaffected ih =>
    cases declared with | cons here within others =>
    refine .cons_body (Call.body?_withBody held _) ?_ (ih (within _ held)) others
    rwa [Call.Declared, Call.mentions_withBody]

/-- From where both runs start, the one with the failed call and the one without it end in the same way. -/
theorem meets {every : Bool} {session : Session} {these those : List Step} {error : BuildError} (fails : before.Fails after)
    (refused : failed.run before = .error (.refused error) after) {body : Body} {base : List Entry}
    (closed : Session)
    (rewound : closed = { before with
      builder := { before.builder with control := after.builder.control, statements := body }, trace := base })
    (standing : closed.Stands)
    (spared : ∀ every rest, runSteps every (instead ++ rest) before = runSteps every rest closed)
    (harmless : Step.Every Call.Declared instead)
    (skips : Step.Skips failed instead before after every session these those)
    (declared : Step.Every Call.Declared these) (stands : session.Stands) (settled : session.Settled) :
    (fails.likeness (.same before after) base).Meets (fails.Alike base) (runSteps every these) (runSteps every those)
      session session := by
  have follow : ∀ (labels : Session.Labels before after) {every : Bool} {rest : List Step},
      Step.Every (Call.Unaffected before after) rest →
        (fails.likeness labels base).Follow (runSteps every) rest rest := fun labels _ _ unaffected ↦
    Likeness.follow_steps (unaffected.mono fun _ holds mention mem ↦ (holds mention mem).fits) _
  induction skips with
  | @here every rest caught unaffected =>
    have started : before.Stands := stands
    have ended := Ends.of_refused refused (failed.stands started)
    have mirrors : (fails.likeness (.same before after) base).Mirrors (runSteps every rest) (runSteps every rest) after
        closed := follow _ unaffected after closed ended standing (rewound ▸ fails.sessions base body)
    have behind := fails.meets_of_mirrors _ base mirrors
    rw [Likeness.Meets] at behind ⊢
    rw [runSteps_cons (.inr ⟨error, refused⟩) (caught.imp_right .inl), spared]
    exact behind
  | @behind every session later step these those ended goes rest ih =>
    cases declared with | cons here within others =>
    have advances := ended.holds (Step.advances here (fun body inner ↦ (within body inner).advance) stands)
    have behind := ih others (ended.holds (step.stands stands)) (advances.settled settled)
    rw [Likeness.Meets] at behind ⊢
    rw [runSteps_cons ended goes, runSteps_cons ended goes]
    exact behind
  | @within every session inner step enter body other rest enters entered held inside unaffected ih =>
    have started := Call.stands_of_enter enters entered stands
    have grown := Call.extends_of_enter enters entered held stands (inside.extends_ refused started)
    have whole : Step.Skips failed instead before after every session _ _ :=
      .within enters entered held inside unaffected
    obtain ⟨encloses, -⟩ := whole.encloses declared stands settled
    cases declared with | cons here bodies others =>
    obtain ⟨call, label, loc, caught⟩ := step
    have marks : (fails.likeness (.same before after) base).Marks (Step.run ⟨call, label, loc, caught⟩) session :=
      Run.traced_marks label loc (grown.mono_always fun _ more ↦ List.IsPrefix.length_le more)
    have traced : ∀ {later last : Session} {entry other : Entry}, fails.Alike base later last → entry.Like other →
        fails.Alike base { later with trace := later.trace ++ [entry] } { last with trace := last.trace ++ [other] } := by
      rintro _ _ _ _ ⟨labels, alike⟩ same
      exact ⟨labels, alike.traced same⟩
    refine Likeness.Meets.steps_cons stands stands (Run.traced_meets label loc ?_ traced) marks rfl ?_
    swap
    · rintro later last now then_ ⟨labels, alike⟩
      exact fails.meets_of_mirrors labels base (follow labels unaffected later last now then_ alike)
    have meets := ih (bodies body held) started
    cases construct : call.isConstruct with
    | true =>
      obtain ⟨opening, ending, opened, opens, ran, rfl⟩ := Call.opened_of_enter construct enters entered
      have made := Ends.of_ok ran (Call.opening_ends opens stands.sound stands.placed)
      have known := (Session.Advances.entered made).settled settled
      obtain ⟨inside_body, -⟩ := inside.encloses (bodies body held) started known
      have enclosing : opened.Encloses before :=
        .of_advances (.enter opened ending.scope) (fun id loc mem ↦ by cases ending.scope <;> exact mem) inside_body
      have inner := meets known
      simp only [construct, Bool.not_true, runSteps, Bool.false_eq_true, ↓reduceIte] at inner
      exact fails.construct_meets base opens held ran stands settled enclosing (bodies body held)
        (inside.declared_instead harmless (bodies body held)) inner
    | false =>
      cases call with
      | module name settings steps =>
        obtain rfl := Call.inModule_of_enter enters entered
        obtain rfl := Option.some.inj held
        obtain ⟨inside_module, -⟩ := inside.encloses (bodies _ held) started (settled.inModule settings loc)
        have inner := meets (settled.inModule settings loc)
        simp only [construct, Bool.not_false, runSteps, ↓reduceIte] at inner
        refine module_meets name settings inner ?_
        rintro last final ran again ⟨labels, followed⟩
        exact fails.meets_of_mirrors labels base (addPart_mirrors name (fails.lags_around labels base encloses stands.sound
          settled inside_module.started_le_of_inModule) ran again followed)
      | _ => simp_all [Call.isConstruct, Call.body?]

end Step.Skips

/-! ## The failed call itself -/

/-- A refused construct leaves the frames that it has found, or all but a chain that it has closed. -/
theorem Step.control_of_refused {failed : Step} {before after : Session} {error : BuildError} (stands : before.Stands)
    (construct : failed.call.isConstruct = true) (refused : failed.run before = .error (.refused error) after) :
    before.builder.Leads after.builder ∧ (after.builder.control = before.builder.control ∨
      after.builder.control = before.builder.flushed.control) := by
  have ends : Ends failed.run before ⟨fun _ _ ↦ True, fun _ later ↦ before.builder.Leads later.builder ∧
      (later.builder.control = before.builder.control ∨
        later.builder.control = before.builder.flushed.control)⟩ := by
    obtain ⟨call, label, loc, caught⟩ := failed
    refine (Run.ends_traced ..).2 ((refused_construct_ends stands.sound stands.placed loc construct).mono
      (fun _ _ _ ↦ trivial) ?_)
    rintro _ later ⟨leads, -, -, ⟨control, -⟩ | ⟨control, -⟩⟩
    · exact ⟨leads, .inl control⟩
    · exact ⟨leads, .inr control⟩
  exact Ends.of_refused refused ends

/-- A refused construct fails. -/
theorem Step.fails_of_refused {failed : Step} {before after : Session} {error : BuildError} (stands : before.Stands)
    (settled : before.Settled) (advances : Ends failed.run before (.always before.Advances))
    (construct : failed.call.isConstruct = true) (refused : failed.run before = .error (.refused error) after) :
    before.Fails after := by
  obtain ⟨leads, control⟩ := Step.control_of_refused stands construct refused
  exact ⟨stands, settled, Ends.of_refused refused advances, leads, control⟩

/-- To add no statements only closes the chain behind. -/
theorem Build.add_nil {builder : Builder} (stands : builder.control.Stands) (outside : builder.control.context = none)
    (loc : Location) : add combinational [] loc builder = .ok () builder.flushed := by
  have other : ¬combinational = "submodules" := by decide
  simp only [add, record, bind, EStateM.bind, get_apply, outside, List.all_nil, ↓reduceIte, other,
    flush_of_placed stands.stacked stands.placed]
  rfl

theorem Step.run_closing {before : Session} (stands : before.Stands) (outside : before.builder.control.context = none)
    (label : String) (loc : Location) (caught : Bool) :
    Step.run ⟨.add combinational [], label, loc, caught⟩ before = .ok () { before with
      builder := before.builder.flushed
      trace := before.trace ++ [⟨label, loc, before.builder.flushed.diagnostics.length, .ok .nothing⟩] } := by
  have added : runCall loc (.add combinational []) before = .ok .nothing (before.withBuilder before.builder.flushed) := by
    simp only [runCall, Run.addStatements, StatementTerm.evalAll, Run.sound, Run.build, bind, EStateM.bind, get_apply,
      pure, EStateM.pure, Build.add_nil stands.control outside]
    rfl
  simp only [Step.run, Run.traced, Run.settle, bind, EStateM.bind, added, modify_apply]
  rfl

/-- Without the failed call, or with the one that stands in for it, the run comes to a session with the same frames. -/
theorem Step.Closes.spares {instead : List Step} {before after : Session} (closes : Step.Closes instead before after)
    (fails : before.Fails after) : ∃ closed body base, closed = { before with
        builder := { before.builder with control := after.builder.control, statements := body }, trace := base } ∧
      closed.Stands ∧ (∀ every rest, runSteps every (instead ++ rest) before = runSteps every rest closed) ∧
        before.trace <+: base ∧ base.length = before.trace.length + instead.length := by
  have stacked := fails.stands.sound.stacked
  rcases closes with ⟨same, rfl⟩ | ⟨other, label, loc, caught, rfl⟩
  · refine ⟨before, before.builder.statements, before.trace, ?_, fails.stands, fun _ _ ↦ rfl, List.prefix_refl _, rfl⟩
    rw [same]
  · have control := fails.control.resolve_left other
    rcases fails.stands.placed with ⟨behind, rest, place⟩ | ⟨frame, rest, place⟩
    · have ran := Step.run_closing fails.stands place.context label loc caught
      set base := before.trace ++ [⟨label, loc, before.builder.flushed.diagnostics.length, .ok .nothing⟩] with base_eq
      refine ⟨{ before with builder := before.builder.flushed, trace := base }, before.builder.flushed.statements, base,
        ?_, ⟨?_, ?_⟩, fun every rest ↦ ?_, List.prefix_append .., ?_⟩
      · rw [control, ← Builder.flushed_eq]
      · exact (fails.stands.sound.leads_flushed fails.stands.placed).sound
      · exact .inl ⟨_, _, Builder.atBody_flushed stacked place⟩
      · exact runSteps_cons (.inl ⟨_, ran⟩) (.inr (.inr ran))
      · rw [List.length_append]
        rfl
    · rw [Builder.flushed_of_atConstruct stacked place] at control
      exact absurd control other

/-- A call that adds no statements is made from nothing. -/
theorem Step.Closes.declared {instead : List Step} {before after : Session}
    (closes : Step.Closes instead before after) : Step.Every Call.Declared instead := by
  rcases closes with ⟨-, rfl⟩ | ⟨-, label, loc, caught, rfl⟩
  · exact .nil
  · exact .cons_simple rfl (List.forall_mem_nil _) .nil

/-- Let a construct be refused and the refusal be caught, and let the call be missing in another program, where the chain
that it has closed is closed all the same. Every later call that has nothing to do with what was stored and named inside
of it returns in both runs or in neither, up to the end of the program, unless a call is refused because of a signal, a
name or a state of an open machine that was first used there. -/
theorem Program.caught_failure_forgotten {program : Program} {failed : Step} {instead those : List Step}
    {before after final : Session} {error : BuildError} (declared : Step.Every Call.Declared program.steps)
    (skips : Step.Skips failed instead before after true program.start program.steps those)
    (construct : failed.call.isConstruct = true) (refused : failed.run before = .error (.refused error) after)
    (closes : Step.Closes instead before after)
    (ran : runAll program.steps program.start = .ok () final)
    (blameless : ∀ entry ∈ final.trace.drop after.trace.length, ∀ error, entry.result = .error error →
      ¬before.builder.Blames after.builder error) :
    ∃ last, runAll those program.start = .ok () last ∧ after.Extends final ∧ before.Extends last ∧
      List.Forall₂ Entry.Like (final.trace.drop after.trace.length)
        (last.trace.drop (before.trace.length + instead.length)) := by
  have stands := program.start_stands
  have settled := program.start_settled
  obtain ⟨-, there, known, advances⟩ := skips.encloses declared stands settled
  have fails := Step.fails_of_refused there known advances construct refused
  obtain ⟨closed, body, base, rewound, standing, spared, grown, length⟩ := closes.spares fails
  have meets := skips.meets fails refused closed rewound standing spared closes.declared declared stands settled
  simp only [Likeness.Meets, runSteps, ↓reduceIte, ran] at meets
  obtain ⟨_, last, again, labels, alike⟩ := meets blameless
  obtain ⟨these, others, first, second, same⟩ := alike.trace
  refine ⟨last, again, ?_, ?_, ?_⟩
  · rw [Session.Extends, first]
    exact List.prefix_append ..
  · rw [Session.Extends, second]
    exact List.IsPrefix.trans grown (List.prefix_append ..)
  · rwa [first, second, ← length, List.drop_left, List.drop_left]

/-! ## What is not forgotten -/

/-- A branch that claims a signal, sends the machine around it to a state, and takes the names of a part and of a clock
domain before it is refused. -/
def lingeringBranch : Step :=
  ⟨.ifThen test [
    ⟨.add combinational [.assign output test], "comb", ⟨"design", 4, 1⟩, false⟩,
    ⟨.goto "B", "next", ⟨"design", 5, 1⟩, false⟩,
    ⟨.module (some "part") {} [], "module", ⟨"design", 6, 1⟩, false⟩,
    ⟨.domain (.plain "fast"), "domain", ⟨"design", 7, 1⟩, false⟩,
    ⟨.raise "stop", "fail", ⟨"design", 8, 1⟩, false⟩], "if", ⟨"design", 3, 1⟩, true⟩
where
  test : Term := .literal (.signal ⟨.declared "c", "c", .unsigned 1, 0, none⟩)
  output : Term := .literal (.signal ⟨.declared "x", "x", .unsigned 1, 0, none⟩)

/-- A machine with one state, in whose body a branch may stand, and calls that use the same signal and the same names. -/
def lingering (branch : List Step) : Program where
  settings := {}
  loc := ⟨"design", 0, 1⟩
  steps := [
    ⟨.machine none none none "m" [⟨.state "A" branch, "state", ⟨"design", 2, 1⟩, false⟩], "fsm", ⟨"design", 1, 1⟩, false⟩,
    ⟨.add synchronous [.assign lingeringBranch.output lingeringBranch.test], "sync", ⟨"design", 9, 1⟩, false⟩,
    ⟨.module (some "part") {} [], "module", ⟨"design", 10, 1⟩, false⟩,
    ⟨.domain (.plain "fast"), "domain", ⟨"design", 11, 1⟩, false⟩]
  platform := none

/-- Why a step was refused, if it was. -/
def Entry.cause? (entry : Entry) : Option BuildError.Cause :=
  match entry.result with
  | .ok _ => none
  | .error error => some error.cause

/-- The machine cannot be closed, the signal is not driven and the names are taken, all because of the refused branch. -/
theorem lingering_remembered : ∃ before after final last error,
    Step.Skips lingeringBranch [] before after true (lingering [lingeringBranch]).start (lingering [lingeringBranch]).steps
      (lingering []).steps ∧
    lingeringBranch.run before = .error (.refused error) after ∧ Step.Closes [] before after ∧
    runAll (lingering [lingeringBranch]).steps (lingering [lingeringBranch]).start = .ok () final ∧
    runAll (lingering []).steps (lingering [lingeringBranch]).start = .ok () last ∧
    (final.trace.drop after.trace.length).map Entry.cause? = [none, some (.stateUndefined "B"),
      some (.driverConflict ⟨.declared "x", "x", .unsigned 1, 0, none⟩ synchronous combinational),
      some (.submoduleExists "part"), some (.domainExists "fast")] ∧
    (last.trace.drop before.trace.length).map Entry.cause? = [none, none, none, none, none] := by
  set open_machine : Run Unit := do
    let id ← Run.build (Build.openMachine none none none ⟨"design", 1, 1⟩)
    Run.build (modify (Builder.enterConstruct .machine))
    Run.storeMachine "m" id with machine_eq
  set open_state : Run Unit := do
    let _ ← Run.build (Build.startState "A" ⟨"design", 2, 1⟩)
    Run.build (modify (Builder.enterBody 0)) with state_eq
  have computed : (open_machine.returned? (lingering [lingeringBranch]).start).any (fun inside ↦
      (open_state.returned? inside.2).any fun entered ↦ (lingeringBranch.run.refused? entered.2).any fun refused ↦
        ((runAll (lingering [lingeringBranch]).steps).returned? (lingering [lingeringBranch]).start).any fun whole ↦
          ((runAll (lingering []).steps).returned? (lingering [lingeringBranch]).start).any fun spared ↦
            decide (entered.2.builder.control.openChain?.isNone = true ∧
              (whole.2.trace.drop refused.2.trace.length).map Entry.cause? = [none, some (.stateUndefined "B"),
                some (.driverConflict ⟨.declared "x", "x", .unsigned 1, 0, none⟩ synchronous combinational),
                some (.submoduleExists "part"), some (.domainExists "fast")] ∧
              (spared.2.trace.drop entered.2.trace.length).map Entry.cause? =
                [none, none, none, none, none])) = true := by
    decide +kernel
  obtain ⟨⟨_, inner⟩, inside, computed⟩ := (Option.any_eq_true _ _).1 computed
  obtain ⟨⟨_, before⟩, entered, computed⟩ := (Option.any_eq_true _ _).1 computed
  obtain ⟨⟨error, after⟩, refused, computed⟩ := (Option.any_eq_true _ _).1 computed
  obtain ⟨⟨_, final⟩, whole, computed⟩ := (Option.any_eq_true _ _).1 computed
  obtain ⟨⟨_, last⟩, spared, computed⟩ := (Option.any_eq_true _ _).1 computed
  obtain ⟨unchained, first, second⟩ := of_decide_eq_true computed
  have inside := Run.returned_of_returned? inside
  have entered := Run.returned_of_returned? entered
  have refused := Run.refused_of_refused? refused
  have machine_enters : (Call.machine none none none "m" [⟨.state "A" [lingeringBranch], "state", ⟨"design", 2, 1⟩,
    false⟩]).enter ⟨"design", 1, 1⟩ = some open_machine := rfl
  have state_enters : (Call.state "A" [lingeringBranch]).enter ⟨"design", 2, 1⟩ = some open_state := rfl
  have stands : before.Stands := Call.stands_of_enter state_enters entered
    (Call.stands_of_enter machine_enters inside (Program.start_stands _))
  have closes : Step.Closes [] before after := by
    refine .inl ⟨?_, rfl⟩
    rcases (Step.control_of_refused stands rfl refused).2 with same | same
    · exact same
    · rw [same, Builder.flushed, Option.isNone_iff_eq_none.1 unchained]
  have unaffected : Step.Every (Call.Unaffected before after) ((lingering []).steps.drop 1) := by
    refine .cons ?_ ?_ (.cons ?_ ?_ (.cons ?_ ?_ .nil))
    · intro mention mem
      rcases List.mem_pair.1 mem with rfl | rfl
      · rfl
      · rfl
    · simp [Call.body?]
    · simp [Call.Unaffected, Call.mentions]
    · rintro body ⟨rfl⟩
      exact .nil
    · simp [Call.Unaffected, Call.mentions]
    · simp [Call.body?]
  refine ⟨before, after, final, last, error, ?_, refused, closes, Run.returned_of_returned? whole,
    Run.returned_of_returned? spared, first, second⟩
  exact .within machine_enters inside rfl (.within state_enters entered rfl (.here (.inr rfl) .nil) .nil) unaffected

/-! ## A chain that a refused branch has closed -/

/-- The first branch of a chain, refused after it has claimed a signal of its own. -/
def droppedBranch : Step :=
  ⟨.ifThen (.literal (.signal ⟨.declared "c", "c", .unsigned 1, 0, none⟩)) [
    ⟨.add synchronous [.assign (.literal (.signal ⟨.declared "y", "y", .unsigned 1, 0, none⟩))
      (.literal (.signal ⟨.declared "c", "c", .unsigned 1, 0, none⟩))], "sync", ⟨"design", 4, 1⟩, false⟩,
    ⟨.raise "stop", "fail", ⟨"design", 5, 1⟩, false⟩], "if", ⟨"design", 3, 1⟩, true⟩

/-- A chain, and behind the branch a call that would go on with it and one that adds to it. -/
def resuming (between : List Step) : Program where
  settings := {}
  loc := ⟨"design", 0, 1⟩
  steps := chain :: (between ++ behind)
  platform := none
where
  chain : Step := ⟨.ifThen lingeringBranch.test [⟨.add combinational [.assign lingeringBranch.output lingeringBranch.test],
    "comb", ⟨"design", 2, 1⟩, false⟩], "if", ⟨"design", 1, 1⟩, false⟩
  behind : List Step := [
    ⟨.elseIf lingeringBranch.test [], "elif", ⟨"design", 6, 1⟩, false⟩,
    ⟨.add combinational [.assign lingeringBranch.output lingeringBranch.test], "comb", ⟨"design", 7, 1⟩, false⟩]

/-- The call that closes the chain in the place of the branch. -/
def closingCall : Step := ⟨.add combinational [], "comb", ⟨"design", 3, 1⟩, false⟩

theorem resuming_forgotten : ∃ before after final last error,
    droppedBranch.run before = .error (.refused error) after ∧ Step.Closes [closingCall] before after ∧
    runAll (resuming [droppedBranch]).steps (resuming [droppedBranch]).start = .ok () final ∧
    (final.trace.drop after.trace.length).map Entry.cause? = [some .elseIfWithoutIf, none] ∧
    runAll (resuming [closingCall]).steps (resuming [droppedBranch]).start = .ok () last ∧
      List.Forall₂ Entry.Like (final.trace.drop after.trace.length) (last.trace.drop (before.trace.length + 1)) := by
  have computed : (resuming.chain.run.returned? (resuming [droppedBranch]).start).any (fun chained ↦
      (droppedBranch.run.refused? chained.2).any fun refused ↦
        ((runAll (resuming [droppedBranch]).steps).returned? (resuming [droppedBranch]).start).any fun whole ↦
          decide (Control.machines chained.2.builder.control.frames = [] ∧
            refused.2.builder.control.height ≠ chained.2.builder.control.height ∧
            (whole.2.trace.drop refused.2.trace.length).map Entry.cause? = [some .elseIfWithoutIf, none])) = true := by
    decide +kernel
  obtain ⟨⟨_, before⟩, chained, computed⟩ := (Option.any_eq_true _ _).1 computed
  obtain ⟨⟨error, after⟩, refused, computed⟩ := (Option.any_eq_true _ _).1 computed
  obtain ⟨⟨_, final⟩, whole, computed⟩ := (Option.any_eq_true _ _).1 computed
  obtain ⟨unopened, heights, causes⟩ := of_decide_eq_true computed
  have chained := Run.returned_of_returned? chained
  have refused := Run.refused_of_refused? refused
  have ran := Run.returned_of_returned? whole
  have closes : Step.Closes [closingCall] before after :=
    .inr ⟨fun same ↦ heights (congrArg Control.height same), _, _, _, rfl⟩
  have unaffected : Step.Every (Call.Unaffected before after) resuming.behind :=
    .cons_body rfl (List.forall_mem_singleton.2 rfl) .nil
      (.cons_simple rfl (List.forall_mem_cons.2 ⟨rfl, List.forall_mem_singleton.2 rfl⟩) .nil)
  have declared : Step.Every Call.Declared (resuming [droppedBranch]).steps := by
    have two : ∀ {first second : Mention}, first.Declared → second.Declared →
        ∀ mention ∈ [first, second], mention.Declared :=
      fun one other ↦ List.forall_mem_cons.2 ⟨one, List.forall_mem_singleton.2 other⟩
    refine .cons_body rfl (List.forall_mem_singleton.2 rfl) (.cons_simple rfl (two rfl rfl) .nil) ?_
    refine .cons_body rfl (List.forall_mem_singleton.2 rfl)
      (.cons_simple rfl (two rfl rfl) (.cons_simple rfl (List.forall_mem_nil _) .nil)) ?_
    exact .cons_body rfl (List.forall_mem_singleton.2 rfl) .nil (.cons_simple rfl (two rfl rfl) .nil)
  have blameless : ∀ entry ∈ final.trace.drop after.trace.length, ∀ error, entry.result = .error error →
      ¬before.builder.Blames after.builder error := by
    intro entry mem error result
    have listed : entry.cause? ∈ [some .elseIfWithoutIf, none] := causes ▸ List.mem_map_of_mem mem
    have cause : error.cause = .elseIfWithoutIf := by simpa [Entry.cause?, result] using listed
    simp [Builder.Blames, cause]
  have skips : Step.Skips droppedBranch [closingCall] before after true (resuming [droppedBranch]).start
      (resuming [droppedBranch]).steps (resuming [closingCall]).steps :=
    .behind (.inl ⟨_, chained⟩) (.inl rfl) (.here (.inl rfl) unaffected)
  obtain ⟨last, spared, -, -, alike⟩ := Program.caught_failure_forgotten declared skips rfl refused closes
    ran blameless
  exact ⟨before, after, final, last, error, refused, closes, ran, causes, spared, alike⟩

end RegisterTransfer
