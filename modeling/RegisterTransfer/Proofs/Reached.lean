import RegisterTransfer.Proofs.SoundConstructs

/-!
# Reached sessions

A session is reached if a program comes by it: at its start, between the steps of its module or of any body, or
where a body or a module of its own begins. The builder of a reached session is sound and at one of its places.
-/

namespace RegisterTransfer

/-! ## Calls without bodies -/

namespace Control

theorem mem_machines_of_innermost {control : Control} {id : MachineId}
    (innermost : control.innermostMachine? = some id) : id ∈ machines control.frames := by
  obtain ⟨frame, mem, same⟩ := List.exists_of_findSome?_eq_some innermost
  exact List.mem_filterMap.2 ⟨frame, mem, same⟩

theorem AtBody.machines_eq {control : Control} {behind : Option IfChain} {base : List Frame}
    (place : control.AtBody behind base) : machines control.frames = machines base := by
  rw [place.frames]
  cases behind with
  | none => rfl
  | some chain => rfl

end Control

namespace Builder

theorem machines_flushed {builder : Builder} (stacked : Control.Stacked builder.control.frames)
    (placed : builder.control.Placed) :
    Control.machines builder.flushed.control.frames = Control.machines builder.control.frames := by
  rcases placed with ⟨behind, base, place⟩ | ⟨frame, base, place⟩
  · rw [control_flushed stacked place, place.machines_eq]
  · rw [flushed_of_atConstruct stacked place]

theorem Leads.stays_flushed {before after : Builder} (leads : before.Leads after) (sound : before.Sound)
    (placed : before.control.Placed) (outside : before.control.context ≠ some .machine)
    (control : after.control = before.flushed.control) : before.Stays after := by
  refine ⟨leads.any _, ?_, fun context ↦ absurd context outside⟩
  rw [control]
  exact level_flushed sound.stacked placed

end Builder

namespace Build

variable {builder : Builder} (sound : builder.Sound) (placed : builder.control.Placed)

include sound placed

theorem add_stays (domain : String) (statements : List Statement) (loc : Location) :
    Ends (add domain statements loc) builder (.always builder.Stays) := by
  refine add_ends sound.stacked placed _ _ _ (fun advice context plain free ↦ ?_) (fun error ↦ sound.stays)
    fun error advice context _ ↦ ?_
  · have noted := sound.leads_noted advice
    have same : (builder.noted advice).flushed.drivers = builder.flushed.drivers := by
      rw [Builder.flushed_noted]
      rfl
    have filed := noted.sound.leads_plain placed plain (by rwa [same])
    apply (noted.trans filed).stays_flushed sound placed (by simp [context])
    rw [Builder.recorded, Builder.flushed_noted]
    rfl
  · have noted := sound.leads_noted advice
    apply (noted.trans (noted.sound.leads_flushed placed)).stays_flushed sound placed (by simp [context])
    rw [Builder.flushed_noted]
    rfl

theorem goto_stays (state : String) (loc : Location) :
    Ends (goto state loc) builder (.always builder.Stays) := by
  refine goto_ends sound.stacked placed _ _ (fun id machine outside innermost found ↦ ?_) fun error _ ↦ sound.stays
  have running := Control.mem_machines_of_innermost innermost
  obtain ⟨_, refound, incomplete⟩ := sound.running id running
  rw [found, Option.some.injEq] at refound
  subst refound
  have mentioned := sound.leads_mention found incomplete state
  have here : (builder.withMachine id (machine.mention id state)).control.Placed := placed
  have filed : (builder.withMachine id (machine.mention id state)).Leads
      ((builder.withMachine id (machine.mention id state)).recorded machine.domain [.transition id state loc]) := by
    apply mentioned.sound.leads_recorded here
    intro leaf mem
    have same : leaf = .transition id state loc := by simpa [Statement.leavesAll, Statement.leaves] using mem
    rw [same]
    refine ⟨machine.mention id state, ?_, machine.domain_mention id state,
      (machine.mem_keys_mention id state state).2 (.inr rfl), fun _ ↦ ?_⟩
    · rw [Builder.recorded, Builder.flushed_eq]
      change (builder.withMachine id (machine.mention id state)).machines.get? id = _
      rw [Builder.get?_withMachine, if_pos rfl, found, Option.map_some]
    · rw [Builder.machines_flushed mentioned.sound.stacked here]
      exact running
  exact (mentioned.trans filed).stays_flushed sound placed outside (Builder.control_flushed_congr rfl)

end Build

/-! ## Steps -/

/-- Lists of steps, by induction on the body of their first step and on the others. -/
theorem Step.list_induction {motive : List Step → Prop} (nil : motive [])
    (cons : ∀ step rest, (∀ body, step.call.body? = some body → motive body) → motive rest →
      motive (step :: rest)) (steps : List Step) : motive steps := by
  have within : ∀ {inner : List Step}, motive inner → ∀ body, some inner = some body → motive body := by
    intro inner holds body same
    rw [Option.some.injEq] at same
    exact same ▸ holds
  refine @Step.rec_2 (fun step ↦ ∀ body, step.call.body? = some body → motive body)
    (fun call ↦ ∀ body, call.body? = some body → motive body) motive
    ?_ ?_ ?_ ?_ ?_ ?_ ?_ ?_ ?_ ?_ ?_ ?_ ?_ ?_ ?_ ?_ ?_ ?_ ?_ nil cons steps
  · exact fun _ _ _ _ ih ↦ ih
  all_goals intros
  all_goals first
    | exact within (by assumption) _ (by assumption)
    | contradiction

/-! ## Whole programs -/

theorem Builder.sound_start (settings : Settings) (tag : Nat) (loc : Location) :
    (Builder.start settings tag loc).Sound where
  stacked := trivial
  distinct := List.nodup_nil
  running := by simp [Builder.start, Control.empty]
  filed := Body.Holds.empty
  framed := trivial
  proper id machine found := by simp [Builder.start, Arena.empty, Arena.get?] at found
  indicators := by simp [Builder.start]
  assigned id state := by simp [Builder.start, Arena.empty, Arena.get?]
  entered := by simp [Builder.start]

theorem Builder.placed_start (settings : Settings) (tag : Nat) (loc : Location) :
    (Builder.start settings tag loc).control.Placed := .inl ⟨none, [], Control.atBody_nil []⟩

/-- Steps one after the other, of a body or of a module of its own. -/
def Proceed (steps : List Step) : Prop :=
  Run.Proceeds (runBody steps) ∧ ∀ session : Session, session.builder.Sound → session.builder.control.Placed →
    Ends (runAll steps) session ⟨fun _ later ↦ session.builder.Stays later.builder, fun _ _ ↦ False⟩

/-- What a call that records nothing makes of the builder: the parts and the clock domains may be others, and the machine
that a query asks may know one more state. -/
theorem runCall_quiet_ends (loc : Location) {call : Call (List Step)} (quiet : call.isQuiet = true)
    (bodies : ∀ body, call.body? = some body → Proceed body) {session : Session} (holds : Builder → Prop)
    (parts : ∀ named anonymous domains, holds { session.builder with
      namedParts := named, anonymousParts := anonymous, domains := domains })
    (asked : ∀ key state storeAs id machine mentioned, call = .ongoing key state storeAs →
      session.builder.machines.get? id = some machine → (machine.register.isSome = true → mentioned = machine) →
        mentioned = (if machine.indicators.contains state then machine else machine.mention id state) →
          holds (session.builder.withMachine id mentioned)) :
    Ends (runCall loc call) session (.always fun later ↦ holds later.builder) := by
  have same : holds session.builder := parts _ _ session.builder.domains
  have added : ∀ (name : Option String) (component : Component),
      Ends (Build.addPart name component loc) session.builder (.always holds) := fun name component ↦
    Build.addPart_ends name component loc (fun named anonymous _ ↦ parts named anonymous _) fun _ ↦ same
  cases call with
  | ongoing key state storeAs =>
    simp only [runCall, Run.ongoing, ends_bind, ends_get]
    split
    · exact same
    · simp only [ends_bind, Run.ends_build]
      refine Build.ongoing_ends _ state loc (fun machine mentioned signal found complete kind _ ↦ ?_) fun _ ↦ same
      cases storeAs <;> exact asked _ _ _ _ machine mentioned rfl found complete kind
  | machineInfo key storeAs =>
    simp only [runCall, Run.machineInfo, ends_bind, ends_get]
    split
    · exact same
    · simp only [ends_bind, ends_get]
      split
      · cases storeAs <;> exact same
      · exact same
  | module name settings body =>
    simp only [runCall, Run.module, ends_bind, ends_get, ends_modify, Run.ends_build, ends_pure]
    refine ((bodies body rfl).2 _ (Builder.sound_start ..) (Builder.placed_start ..)).mono ?_
      fun _ _ impossible ↦ impossible.elim
    exact fun _ _ _ ↦ added name _
  | component name component =>
    simp only [runCall, ends_bind, Run.ends_build, ends_pure]
    exact added name component
  | part name =>
    simp only [runCall, ends_bind, Run.ends_build, ends_pure]
    exact Build.part_ends name loc (fun _ ↦ same) fun _ ↦ same
  | domain domain =>
    simp only [runCall, Run.addDomain, ends_bind, Run.ends_build, ends_pure, Build.ends_accepted]
    split
    · exact Build.addDomain_ends domain loc (fun domains ↦ parts _ _ domains) fun _ ↦ same
    · exact same
  | raise message => exact same
  | settings => exact same
  | _ => simp [Call.isQuiet] at quiet

theorem runCall_rests (loc : Location) {call : Call (List Step)} (quiet : call.isQuiet = true)
    (bodies : ∀ body, call.body? = some body → Proceed body) {session : Session} (sound : session.builder.Sound) :
    Ends (runCall loc call) session (.always fun later ↦ session.builder.Rests later.builder) := by
  refine runCall_quiet_ends loc quiet bodies session.builder.Rests (fun named anonymous domains ↦ ?_)
    fun key state _ id machine mentioned _ found complete kind ↦ ⟨?_, rfl, rfl⟩
  · exact ⟨sound.leads_of_frames rfl rfl rfl rfl rfl sound.filed, rfl, rfl⟩
  · cases register : machine.register with
    | some signal =>
      rw [complete (by simp [register])]
      exact sound.leads_sameStates found (.refl machine) rfl (sound.proper id machine found) rfl
    | none =>
      rw [kind]
      split
      · exact sound.leads_sameStates found (.refl _) rfl (sound.proper id _ found) rfl
      · exact sound.leads_mention found register state

theorem runCall_proceeds (loc : Location) (call : Call (List Step))
    (bodies : ∀ body, call.body? = some body → Proceed body) : Run.Proceeds (runCall loc call) := by
  intro session sound placed
  cases construct : call.isConstruct with
  | true =>
    obtain ⟨opening, body, opens, inner⟩ := call.exists_opening construct loc
    exact construct_proceeds opens inner (bodies body inner).1 session sound placed
  | false =>
    cases call with
    | add domain statements =>
      simp only [runCall, Run.addStatements, ends_bind, ends_get, Run.ends_sound, Run.ends_build, ends_pure]
      exact fun values _ ↦ Build.add_stays sound placed domain values loc
    | goto state =>
      simp only [runCall, ends_bind, Run.ends_build, ends_pure]
      exact Build.goto_stays sound placed state loc
    | ifThen | elseIf | otherwise | switch | case | default | machine | state => simp [Call.isConstruct] at construct
    | _ => exact (runCall_rests loc rfl bodies sound).mono_always fun _ rests ↦ rests.stays

theorem Step.run_proceeds (step : Step) (bodies : ∀ body, step.call.body? = some body → Proceed body) :
    Run.Proceeds step.run := by
  intro session sound placed
  obtain ⟨call, label, loc, caught⟩ := step
  exact (Run.ends_traced ..).2 (runCall_proceeds loc call bodies session sound placed)

theorem proceed (steps : List Step) : Proceed steps := by
  induction steps using Step.list_induction with
  | nil => exact ⟨fun session sound _ ↦ sound.stays, fun session sound _ ↦ sound.stays⟩
  | cons step rest bodies ih =>
    have first := Step.run_proceeds step bodies
    have go_on : ∀ {session later : Session}, session.builder.control.Placed →
        session.builder.Stays later.builder →
        Ends (runBody rest) later (.always fun last ↦ session.builder.Stays last.builder) ∧
        Ends (runAll rest) later ⟨fun _ last ↦ session.builder.Stays last.builder, fun _ _ ↦ False⟩ := by
      intro session later placed stays
      refine ⟨(ih.1 later stays.sound (stays.level.placed placed)).mono_always fun _ more ↦ stays.trans more, ?_⟩
      exact (ih.2 later stays.sound (stays.level.placed placed)).mono (fun _ _ more ↦ stays.trans more) fun _ _ h ↦ h
    refine ⟨fun session sound placed ↦ ?_, fun session sound placed ↦ ?_⟩
    · have ran := first session sound placed
      simp only [runBody]
      split
      · exact (ends_bind ..).2 ((Run.ends_caught ..).2 (ran.mono (fun _ _ stays ↦ (go_on placed stays).1)
          fun _ _ stays ↦ (go_on placed stays).1))
      · exact (ends_bind ..).2 (ran.mono (fun _ _ stays ↦ (go_on placed stays).1) fun _ _ stays ↦ stays)
    · have ran := first session sound placed
      simp only [runAll, ends_bind]
      exact (Run.ends_caught ..).2 (ran.mono (fun _ _ stays ↦ (go_on placed stays).2)
        fun _ _ stays ↦ (go_on placed stays).2)

/-- A construct is refused where it stands, or it is opened, its body runs, and it is finished or dropped. -/
theorem construct_ends {loc : Location} {call : Call (List Step)} {opening : Run Ending} {body : List Step}
    (opens : call.opening loc = some opening) (inner : call.body? = some body) {session : Session}
    {post : Post Session Answer} (sound : session.builder.Sound) (placed : session.builder.control.Placed)
    (refused : ∀ error advice after, after = session.withBuilder (session.builder.noted advice) →
      opening session = .error (.refused error) after → post.refused error after)
    (runs : ∀ ending opened, opening session = .ok ending opened → session.Opens ending opened →
      Ends (runBody body) (opened.withBuilder (opened.builder.enter ending.scope)) (ending.behind loc opened post)) :
    Ends (runCall loc call) session post :=
  construct_ends_of_proceeds opens inner (proceed body).1 sound placed refused runs

/-! ## Reached sessions -/

/-- What a call does before its body starts, for a call that has one. -/
def Call.enter (loc : Location) : Call (List Step) → Option (Run Unit)
  | .ifThen condition _ => some do
    let _ ← Run.build (Build.openChain (← Run.evaluate condition) loc)
    Run.build (modify (Builder.enterBody 1))
  | .elseIf condition _ => some do
    Run.build (Build.resumeChain (← Run.evaluate condition) loc)
    Run.build (modify (Builder.enterBody 1))
  | .otherwise _ => some do
    Run.build (Build.finishChain loc)
    Run.build (modify (Builder.enterBody 1))
  | .switch test _ => some do
    Run.build (Build.openSwitch (← Run.evaluate test) loc)
    Run.build (modify (Builder.enterConstruct .switch))
  | .case patterns _ => some do
    let _ ← Run.build (Build.startCase (← Run.sound (WrittenPattern.evalAll (← get).environment patterns)) loc)
    Run.build (modify (Builder.enterBody 0))
  | .default _ => some do
    Run.build (Build.startDefault loc)
    Run.build (modify (Builder.enterBody 0))
  | .machine name clock initial key _ => some do
    let id ← Run.build (Build.openMachine name clock initial loc)
    Run.build (modify (Builder.enterConstruct .machine))
    Run.storeMachine key id
  | .state name _ => some do
    let _ ← Run.build (Build.startState name loc)
    Run.build (modify (Builder.enterBody 0))
  | .module _ chosen _ => some do
    modify fun session ↦ { session with
      builder := .start chosen session.started loc
      started := session.started + 1 }
  | _ => none

/-- The sessions a program comes by: at its start, after every step, and where the body of a step starts. -/
inductive Reached : Session → Prop
  | start (program : Program) : Reached program.start
  | returned {session later : Session} (step : Step) :
    Reached session → step.run session = .ok () later → Reached later
  | refused {session later : Session} {error : BuildError} (step : Step) :
    Reached session → step.run session = .error (.refused error) later → Reached later
  | entered {session later : Session} {loc : Location} {call : Call (List Step)} {enter : Run Unit} :
    Reached session → call.enter loc = some enter → enter session = .ok () later → Reached later

/-- To enter a construct is to open it and to start its body. -/
theorem Call.enter_eq_opening {loc : Location} {call : Call (List Step)} {opening : Run Ending}
    (opens : call.opening loc = some opening) :
    call.enter loc = some (opening >>= fun ending ↦ Run.build (modify (Builder.enter ending.scope))) := by
  cases call
  all_goals simp only [Call.opening, Option.some.injEq, reduceCtorEq] at opens
  all_goals
    subst opens
    simp only [enter, bind_assoc, pure_bind]
    rfl

/-- The body of an open construct is entered. -/
theorem Call.enter_of_opening {loc : Location} {call : Call (List Step)} {opening : Run Ending}
    (opens : call.opening loc = some opening) {session opened : Session} {ending : Ending}
    (ran : opening session = .ok ending opened) : ∃ enter, call.enter loc = some enter ∧
      enter session = .ok () (opened.withBuilder (opened.builder.enter ending.scope)) := by
  refine ⟨_, Call.enter_eq_opening opens, ?_⟩
  simp only [bind, EStateM.bind, ran]
  rfl

/-- A construct whose body has been entered has been opened. -/
theorem Call.opened_of_enter {loc : Location} {call : Call (List Step)} {enter : Run Unit} {session inner : Session}
    (construct : call.isConstruct = true) (enters : call.enter loc = some enter) (entered : enter session = .ok () inner) :
    ∃ opening ending opened, call.opening loc = some opening ∧ opening session = .ok ending opened ∧
      inner = opened.withBuilder (opened.builder.enter ending.scope) := by
  obtain ⟨opening, _, opens, -⟩ := Call.exists_opening construct loc
  rw [Call.enter_eq_opening opens, Option.some.injEq] at enters
  subst enters
  rcases ran : opening session with ⟨ending, opened⟩ | ⟨failure, opened⟩
  · simp only [bind, EStateM.bind, ran] at entered
    exact ⟨opening, ending, opened, opens, ran, (EStateM.Result.ok.inj entered).2.symm⟩
  · simp [bind, EStateM.bind, ran] at entered

theorem Call.enter_ends {loc : Location} {call : Call (List Step)} {enter : Run Unit}
    (enters : call.enter loc = some enter)
    {session : Session} (sound : session.builder.Sound) (placed : session.builder.control.Placed) :
    Ends enter session ⟨fun _ later ↦ later.builder.Sound ∧ later.builder.control.Placed ∧
      (call.isConstruct = true → session.builder.Evolves later.builder), fun _ _ ↦ True⟩ := by
  cases construct : call.isConstruct with
  | true =>
    obtain ⟨opening, body, opens, -⟩ := call.exists_opening construct loc
    rw [Call.enter_eq_opening opens, Option.some.injEq] at enters
    subst enters
    refine (ends_bind ..).2 ((Call.opening_ends opens sound placed).mono (fun ending opened made ↦ ?_)
      fun _ _ _ ↦ trivial)
    have entered := made.leads.sound.enters (made.builder.due sound.stacked)
    exact ⟨entered.1.sound, entered.2, fun _ ↦ made.leads.evolves.trans entered.1.evolves⟩
  | false =>
    cases call with
    | module name settings steps =>
      simp only [Call.enter, Option.some.injEq] at enters
      subst enters
      exact ⟨Builder.sound_start .., Builder.placed_start .., fun construct ↦ Bool.noConfusion construct⟩
    | ifThen | elseIf | otherwise | switch | case | default | machine | state => simp [Call.isConstruct] at construct
    | _ => simp [Call.enter] at enters

theorem Reached.sound {session : Session} (reached : Reached session) :
    session.builder.Sound ∧ session.builder.control.Placed := by
  induction reached with
  | start program => exact ⟨Builder.sound_start .., Builder.placed_start ..⟩
  | returned step _ ran ih =>
    have stays := Ends.of_ok ran (step.run_proceeds (fun body _ ↦ proceed body) _ ih.1 ih.2)
    exact ⟨stays.sound, stays.level.placed ih.2⟩
  | refused step _ ran ih =>
    have stays := Ends.of_refused ran (step.run_proceeds (fun body _ ↦ proceed body) _ ih.1 ih.2)
    exact ⟨stays.sound, stays.level.placed ih.2⟩
  | entered _ enters ran ih =>
    obtain ⟨sound, placed, -⟩ := Ends.of_ok ran (Call.enter_ends enters ih.1 ih.2)
    exact ⟨sound, placed⟩

/-- Of steps that all run, the first one ends, and the others run behind it. -/
theorem runAll_cons_eq_ok {step : Step} {rest : List Step} {session later : Session}
    (ran : runAll (step :: rest) session = .ok () later) :
    ∃ middle, EndsIn step.run session middle ∧ runAll rest middle = .ok () later := by
  simp only [runAll, Run.caught, Run.settle, bind, EStateM.bind, pure, EStateM.pure] at ran
  cases first : step.run session with
  | ok value middle =>
    rw [first] at ran
    exact ⟨middle, .inl ⟨value, first⟩, ran⟩
  | error failure middle =>
    rw [first] at ran
    cases failure with
    | refused error => exact ⟨middle, .inr ⟨error, first⟩, ran⟩
    | broken fault => simp at ran

theorem Reached.stepped {session later : Session} (reached : Reached session) (step : Step)
    (ended : EndsIn step.run session later) : Reached later := by
  rcases ended with ⟨_, returned⟩ | ⟨error, refused⟩
  · exact .returned step reached returned
  · exact .refused step reached refused

/-- The session that a program has come to when all its steps have run is reached. -/
theorem Reached.of_runAll {steps : List Step} {session later : Session} (reached : Reached session)
    (ran : runAll steps session = .ok () later) : Reached later := by
  induction steps generalizing session with
  | nil =>
    have same : session = later := by simpa [runAll, pure, EStateM.pure] using ran
    exact same ▸ reached
  | cons step rest ih =>
    obtain ⟨middle, ended, ran⟩ := runAll_cons_eq_ok ran
    exact ih (reached.stepped step ended) ran

/-- A module without steps. -/
def vacant : Program := ⟨{}, ⟨"design", 0, 1⟩, [], none⟩

end RegisterTransfer
