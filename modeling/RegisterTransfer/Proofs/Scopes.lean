import RegisterTransfer.Proofs.Running

/-!
# Opening and finishing constructs

All constructs run in the same way: a construct is opened, its body runs, and then the construct is finished with what
the body has recorded, or dropped. What opening and finishing make of a builder is said once here, so that a property
of runs takes one case for every way to open a construct and one for every way to finish it.
-/

namespace RegisterTransfer

/-! ## Calls with bodies -/

namespace Call

variable {body : Type}

/-- The body of a call that has one. -/
def body? : Call body → Option body
  | .ifThen _ inner | .elseIf _ inner | .otherwise inner | .switch _ inner | .case _ inner | .default inner
  | .machine _ _ _ _ inner | .state _ inner | .module _ _ inner => some inner
  | _ => none

/-- Whether a call is a construct, or a branch, a case or a state of one. -/
def isConstruct : Call body → Bool
  | .ifThen _ _ | .elseIf _ _ | .otherwise _ | .switch _ _ | .case _ _ | .default _ | .machine _ _ _ _ _
  | .state _ _ => true
  | _ => false

/-- Whether a call has nothing to do with the statements and the constructs around it. -/
def isQuiet : Call body → Bool
  | .ongoing _ _ _ | .machineInfo _ _ | .module _ _ _ | .component _ _ | .part _ | .domain _ | .raise _
  | .settings => true
  | _ => false

end Call

/-! ## Endings -/

/-- How the body of a construct runs: recorded apart, some levels deeper, or directly inside of the construct. -/
inductive Scope
  | apart (levels : Nat)
  | within (construct : Construct)

/-- What an open construct has to do when its body has ended. -/
inductive Ending
  /-- Add the first branch of the chain whose frame lies at a height of the stack. -/
  | first (test : Value) (height : Nat)
  | next (test : Value)
  | last
  | switch
  | case (patterns : List Pattern)
  | default
  | machine (id : MachineId)
  | state (id : MachineId) (name : String)

namespace Ending

def scope : Ending → Scope
  | .first _ _ | .next _ | .last => .apart 1
  | .case _ | .default | .state _ _ => .apart 0
  | .switch => .within .switch
  | .machine _ => .within .machine

/-- What a refused body takes with it, besides the frames it has opened. -/
def cleanup : Ending → Builder → Builder
  | .first _ height => fun builder ↦ builder.truncate height
  | .next _ | .last | .switch | .case _ | .default | .machine _ | .state _ _ => fun builder ↦ builder

/-- Go on with the statements of a body that has returned. -/
def finish (loc : Location) : Ending → Body → Run Answer
  | .first test _, recorded => do
    Run.build (Build.addBranch (some test) recorded loc)
    return .nothing
  | .next test, recorded => do
    Run.build (Build.addBranch (some test) recorded loc)
    return .nothing
  | .last, recorded => do
    Run.build (Build.addBranch none recorded loc)
    Run.build Build.closeTop
    return .nothing
  | .switch, _ => do
    Run.build Build.closeTop
    return .nothing
  | .case patterns, recorded => do
    unless patterns.isEmpty do
      Run.build (Build.addCase patterns recorded loc)
    return .nothing
  | .default, recorded => do
    Run.build (Build.addCase [] recorded loc)
    return .nothing
  | .machine id, _ => do
    Run.build (Build.finishMachine id)
    let builder := (← get).builder
    return .machine id (builder.machineEncoding? id) (builder.machineRegister? id)
  | .state id name, recorded => do
    Run.build (Build.addState id name recorded loc)
    return .nothing

/-- Run the body of an open construct and finish it. -/
def run (loc : Location) (ending : Ending) (body : Run Unit) : Run Answer :=
  match ending.scope with
  | .apart levels => do
    let recorded ← Run.onRefusal (Run.capture levels body) ending.cleanup
    ending.finish loc recorded
  | .within construct => do
    Run.inside construct body
    ending.finish loc ∅

end Ending

/-- How a construct is opened, for calls that are constructs. -/
def Call.opening (loc : Location) : Call (List Step) → Option (Run Ending)
  | .ifThen condition _ => some do
    let test ← Run.evaluate condition
    return .first test (← Run.build (Build.openChain test loc))
  | .elseIf condition _ => some do
    let test ← Run.evaluate condition
    Run.build (Build.resumeChain test loc)
    return .next test
  | .otherwise _ => some do
    Run.build (Build.finishChain loc)
    return .last
  | .switch test _ => some do
    Run.build (Build.openSwitch (← Run.evaluate test) loc)
    return .switch
  | .case patterns _ => some do
    let patterns ← Run.sound (WrittenPattern.evalAll (← get).environment patterns)
    return .case (← Run.build (Build.startCase patterns loc))
  | .default _ => some do
    Run.build (Build.startDefault loc)
    return .default
  | .machine name clock initial key _ => some do
    let id ← Run.build (Build.openMachine name clock initial loc)
    Run.storeMachine key id
    return .machine id
  | .state name _ => some do
    return .state (← Run.build (Build.startState name loc)) name
  | _ => none

/-- Constructs have bodies and are opened. -/
theorem Call.exists_opening {call : Call (List Step)} (construct : call.isConstruct = true) (loc : Location) :
    ∃ opening body, call.opening loc = some opening ∧ call.body? = some body := by
  cases call with
  | add | goto | ongoing | machineInfo | module | component | part | domain | raise | settings =>
    simp [Call.isConstruct] at construct
  | _ => exact ⟨_, _, rfl, rfl⟩

namespace Run

theorem onRefusal_id {α : Type} (action : Run α) : onRefusal action (fun builder ↦ builder) = action := by
  funext session
  unfold onRefusal
  split
  · rename_i ran
    exact ran.symm
  · rfl

/-- What cannot be refused may as well stand behind the cleaning up. -/
theorem onRefusal_bind {α β : Type} (action : Run α) (next : α → Run β) (cleanup : Builder → Builder)
    (returns : ∀ value session error later, next value session ≠ .error (.refused error) later) :
    onRefusal (action >>= next) cleanup = onRefusal action cleanup >>= next := by
  funext session
  rcases ran : action session with ⟨value, later⟩ | ⟨error | fault, later⟩
  · simp only [onRefusal, bind, EStateM.bind, ran]
    split
    · rename_i refused
      exact absurd refused (returns _ _ _ _)
    · rfl
  · simp only [onRefusal, bind, EStateM.bind, ran]
  · simp only [onRefusal, bind, EStateM.bind, ran]

theorem addBranch_returns (test : Option Value) (body : Body) (loc : Location) (session : Session) (error : BuildError)
    (later : Session) : build (Build.addBranch test body loc) session ≠ .error (.refused error) later := by
  simp only [build, Build.addBranch, bind, EStateM.bind, get_apply]
  cases session.builder.control.openChain? with
  | none => simp [throw_apply]
  | some chain => simp [modify_apply]

/-- The key of a machine may be stored before its inside starts. -/
theorem inside_storeMachine (key : String) (id : MachineId) (body : Run Unit) :
    (inside .machine do
      storeMachine key id
      body) = (do
      storeMachine key id
      inside .machine body) := rfl

end Run

/-- A construct is opened, runs its body, and is finished. -/
theorem runCall_eq_opening {loc : Location} {call : Call (List Step)} {opening : Run Ending} {body : List Step}
    (opens : call.opening loc = some opening) (inner : call.body? = some body) :
    runCall loc call = opening >>= fun ending ↦ ending.run loc (runBody body) := by
  cases call with
  | ifThen condition steps =>
    simp only [Call.opening, Call.body?, Option.some.injEq] at opens inner
    subst opens inner
    simp only [runCall, Run.ifThen, bind_assoc, pure_bind, Ending.run, Ending.scope, Ending.cleanup, Ending.finish,
      Run.onRefusal_bind _ _ _ fun recorded ↦ Run.addBranch_returns _ recorded _]
  | elseIf condition steps =>
    simp only [Call.opening, Call.body?, Option.some.injEq] at opens inner
    subst opens inner
    simp only [runCall, Run.elseIf, bind_assoc, pure_bind, Ending.run, Ending.scope, Ending.cleanup, Ending.finish,
      Run.onRefusal_id]
  | otherwise steps =>
    simp only [Call.opening, Call.body?, Option.some.injEq] at opens inner
    subst opens inner
    simp only [runCall, Run.otherwise, bind_assoc, pure_bind, Ending.run, Ending.scope, Ending.cleanup, Ending.finish,
      Run.onRefusal_id]
  | switch test steps =>
    simp only [Call.opening, Call.body?, Option.some.injEq] at opens inner
    subst opens inner
    simp only [runCall, Run.switch, bind_assoc, pure_bind, Ending.run, Ending.scope, Ending.finish]
  | case patterns steps =>
    simp only [Call.opening, Call.body?, Option.some.injEq] at opens inner
    subst opens inner
    simp only [runCall, Run.case, bind_assoc, pure_bind, Ending.run, Ending.scope, Ending.cleanup, Ending.finish,
      Run.onRefusal_id]
    refine bind_congr fun _ ↦ bind_congr fun _ ↦ bind_congr fun live ↦ bind_congr fun _ ↦ ?_
    cases live.isEmpty <;> rfl
  | default steps =>
    simp only [Call.opening, Call.body?, Option.some.injEq] at opens inner
    subst opens inner
    simp only [runCall, Run.default, bind_assoc, pure_bind, Ending.run, Ending.scope, Ending.cleanup, Ending.finish,
      Run.onRefusal_id]
  | machine name clock initial key steps =>
    simp only [Call.opening, Call.body?, Option.some.injEq] at opens inner
    subst opens inner
    simp only [runCall, Run.machine, bind_assoc, pure_bind, Ending.run, Ending.scope, Ending.finish,
      Run.inside_storeMachine]
  | state name steps =>
    simp only [Call.opening, Call.body?, Option.some.injEq] at opens inner
    subst opens inner
    simp only [runCall, Run.state, bind_assoc, pure_bind, Ending.run, Ending.scope, Ending.cleanup, Ending.finish,
      Run.onRefusal_id]
  | _ => simp [Call.opening] at opens

/-! ## Opening -/

namespace Builder

/-- What opening a construct makes of a builder that is in one of its places. -/
inductive Opens (builder : Builder) : Ending → Builder → Prop
  | first (test : Value) (loc : Location) (advice : List Diagnostic) {behind : Option IfChain} {base : List Frame}
    (place : builder.control.AtBody behind base) :
    builder.Opens (.first test base.length) ((builder.noted advice).opening (.chain ⟨base.length, loc, []⟩))
  | next (test : Value) (advice : List Diagnostic) {chain : IfChain} {base : List Frame}
    (top : builder.control = ⟨.chain chain :: base, base.length, none⟩) (level : chain.depth = base.length)
    (growing : chain.Growing) : builder.Opens (.next test) (builder.noted advice)
  | last {chain : IfChain} {base : List Frame} (top : builder.control = ⟨.chain chain :: base, base.length, none⟩)
    (level : chain.depth = base.length) (growing : chain.Growing) : builder.Opens .last builder
  | switch (test : Value) (loc : Location) {behind : Option IfChain} {base : List Frame}
    (place : builder.control.AtBody behind base) : builder.Opens .switch (builder.opening (.switch ⟨test, loc, ∅⟩))
  | case (patterns : List Pattern) (advice : List Diagnostic) {switch : OpenSwitch} {base : List Frame}
    (place : builder.control.AtConstruct (.switch switch) base) : builder.Opens (.case patterns) (builder.noted advice)
  | default (advice : List Diagnostic) {switch : OpenSwitch} {base : List Frame}
    (place : builder.control.AtConstruct (.switch switch) base) : builder.Opens .default (builder.noted advice)
  | machine {name domain : String} (initial : Option String) (loc : Location) {behind : Option IfChain}
    {base : List Frame} (place : builder.control.AtBody behind base) (clocked : domain ≠ combinational) :
    builder.Opens (.machine builder.machines.nextKey) ((builder.withNewMachine (.opened name domain initial)).opening
      (.machine builder.machines.nextKey loc))
  | state {id : MachineId} (name : String) {opened : Location} {base : List Frame} {machine : Machine}
    (place : builder.control.AtConstruct (.machine id opened) base) (found : builder.machines.get? id = some machine)
    (incomplete : machine.register = none) (absent : name ∉ machine.states.keys) :
    builder.Opens (.state id name) (builder.withMachine id (machine.mention id name))

end Builder

namespace Session

/-- A construct has been opened: the builder has changed, and the key of a new machine is known. -/
structure Opens (session : Session) (ending : Ending) (opened : Session) : Prop where
  builder : session.builder.Opens ending opened.builder
  leads : session.builder.Leads opened.builder
  started : opened.started = session.started
  trace : opened.trace = session.trace
  environment : opened.environment = session.environment ∨
    ∃ key id, ending = .machine id ∧ opened.environment = session.environment.storeMachine key id

theorem Opens.of_builder {session : Session} {ending : Ending} {opened : Builder}
    (opens : session.builder.Opens ending opened) (leads : session.builder.Leads opened) :
    session.Opens ending (session.withBuilder opened) := ⟨opens, leads, rfl, rfl, .inl rfl⟩

end Session

/-- A construct is opened, which returns its ending, or refused with advice at most. -/
def Builder.opensBy {α : Type} (builder : Builder) (ending : α → Ending) : Post Builder α where
  returned value opened := builder.Opens (ending value) opened ∧ builder.Leads opened
  refused _ after := ∃ advice, after = builder.noted advice

/-- What opens a construct in the builder opens it in the session. -/
theorem Session.opens_of_opensBy {α : Type} {session : Session} {action : Build α} {ending : α → Ending}
    (opens : Ends action session.builder (session.builder.opensBy ending)) : Ends action session.builder
      ⟨fun value opened ↦ session.Opens (ending value) (session.withBuilder opened),
        fun _ after ↦ ∃ advice, session.withBuilder after = session.withBuilder (session.builder.noted advice)⟩ := by
  refine opens.mono (fun _ _ made ↦ .of_builder made.1 made.2) ?_
  rintro _ _ ⟨advice, rfl⟩
  exact ⟨advice, rfl⟩

namespace Build

variable {builder : Builder} (sound : builder.Sound) (placed : builder.control.Placed)

include sound placed

theorem openChain_opensBy (test : Value) (loc : Location) :
    Ends (openChain test loc) builder (builder.opensBy (.first test)) := by
  have chain : Ends (openChain test loc) builder ⟨fun height opened ↦ ∃ advice,
      height = builder.flushed.control.height ∧ builder.control.context = none ∧
        opened = (builder.noted advice).opening (.chain ⟨builder.control.depth, loc, []⟩),
      fun _ after ↦ after = builder⟩ :=
    openChain_ends sound.stacked placed test loc (fun advice context ↦ ⟨advice, rfl, context, rfl⟩) fun _ ↦ rfl
  refine (chain.and (openChain_opens sound placed test loc)).mono ?_ ?_
  · rintro height opened ⟨⟨advice, rfl, context, rfl⟩, leads, -⟩
    obtain ⟨behind, base, place⟩ := placed.atBody context
    rw [place.depth] at leads ⊢
    rw [Control.height, Builder.control_flushed sound.stacked place]
    exact ⟨.first test loc advice place, leads⟩
  · rintro _ _ ⟨rfl, -⟩
    exact ⟨[], (Builder.noted_nil _).symm⟩

theorem resumeChain_opensBy (test : Value) (loc : Location) :
    Ends (resumeChain test loc) builder (builder.opensBy fun _ ↦ .next test) := by
  refine (resumeChain_resumes sound placed test loc).mono ?_ fun _ _ advised ↦ advised
  rintro _ _ ⟨advice, chain, base, rfl, top, level, growing⟩
  exact ⟨.next test advice top level growing, sound.leads_noted advice⟩

theorem finishChain_opensBy (loc : Location) : Ends (finishChain loc) builder (builder.opensBy fun _ ↦ .last) := by
  refine (finishChain_resumes sound placed loc).mono ?_ ?_
  · rintro _ _ ⟨rfl, chain, base, top, level, growing⟩
    exact ⟨.last top level growing, sound.leads⟩
  · rintro _ _ rfl
    exact ⟨[], (Builder.noted_nil _).symm⟩

theorem openSwitch_opensBy (test : Value) (loc : Location) :
    Ends (openSwitch test loc) builder (builder.opensBy fun _ ↦ .switch) := by
  have switch : Ends (openSwitch test loc) builder ⟨fun _ opened ↦ builder.control.context = none ∧
      opened = builder.opening (.switch ⟨test, loc, ∅⟩), fun _ after ↦ after = builder⟩ :=
    openSwitch_ends sound.stacked placed test loc (fun context ↦ ⟨context, rfl⟩) fun _ ↦ rfl
  refine (switch.and (openSwitch_opens sound placed test loc)).mono ?_ ?_
  · rintro _ opened ⟨⟨context, rfl⟩, leads, -⟩
    obtain ⟨behind, base, place⟩ := placed.atBody context
    exact ⟨.switch test loc place, leads⟩
  · rintro _ _ ⟨rfl, -⟩
    exact ⟨[], (Builder.noted_nil _).symm⟩

theorem startCase_opensBy (patterns : List (WrittenPattern Value)) (loc : Location) :
    Ends (startCase patterns loc) builder (builder.opensBy .case) := by
  refine (startCase_starts placed patterns loc).mono ?_ fun _ _ advised ↦ advised
  rintro live _ ⟨advice, switch, base, rfl, place⟩
  exact ⟨.case live advice place, sound.leads_noted advice⟩

theorem startDefault_opensBy (loc : Location) :
    Ends (startDefault loc) builder (builder.opensBy fun _ ↦ .default) := by
  refine (startDefault_starts placed loc).mono ?_ ?_
  · rintro _ _ ⟨advice, switch, base, rfl, place⟩
    exact ⟨.default advice place, sound.leads_noted advice⟩
  · rintro _ _ rfl
    exact ⟨[], (Builder.noted_nil _).symm⟩

theorem openMachine_opensBy (name clock initial : Option String) (loc : Location) :
    Ends (openMachine name clock initial loc) builder (builder.opensBy .machine) := by
  have machine : Ends (openMachine name clock initial loc) builder ⟨fun id opened ↦ ∃ name clock,
      id = builder.machines.nextKey ∧ builder.control.context = none ∧ clock ≠ combinational ∧
        opened = (builder.withNewMachine (.opened name clock initial)).opening (.machine builder.machines.nextKey loc),
      fun _ after ↦ after = builder⟩ := by
    refine openMachine_ends sound.stacked placed name clock initial loc (fun machine context clocked new ↦ ?_)
      fun _ ↦ rfl
    subst new
    exact ⟨_, _, rfl, context, clocked, rfl⟩
  refine (machine.and (openMachine_opens sound placed name clock initial loc)).mono ?_ ?_
  · rintro _ opened ⟨⟨name, clock, rfl, context, clocked, rfl⟩, leads, -⟩
    obtain ⟨behind, base, place⟩ := placed.atBody context
    exact ⟨.machine initial loc place clocked, leads⟩
  · rintro _ _ ⟨rfl, -⟩
    exact ⟨[], (Builder.noted_nil _).symm⟩

theorem startState_opensBy (name : String) (loc : Location) :
    Ends (startState name loc) builder (builder.opensBy fun id ↦ .state id name) := by
  refine (startState_starts sound placed name loc).mono ?_ ?_
  · rintro id _ ⟨machine, opened, base, place, found, incomplete, absent, rfl⟩
    exact ⟨.state name place found incomplete absent, sound.leads_mention found incomplete name⟩
  · rintro _ _ rfl
    exact ⟨[], (Builder.noted_nil _).symm⟩

end Build

/-- A construct is opened, or refused with advice at most. -/
theorem Call.opening_ends {loc : Location} {call : Call (List Step)} {opening : Run Ending}
    (opens : call.opening loc = some opening) {session : Session} (sound : session.builder.Sound)
    (placed : session.builder.control.Placed) :
    Ends opening session ⟨session.Opens, fun _ after ↦
      ∃ advice, after = session.withBuilder (session.builder.noted advice)⟩ := by
  cases call with
  | ifThen condition steps =>
    simp only [Call.opening, Option.some.injEq] at opens
    subst opens
    simp only [ends_bind, Run.ends_evaluate, Run.ends_build, ends_pure]
    exact fun test _ ↦ Session.opens_of_opensBy (Build.openChain_opensBy sound placed test loc)
  | elseIf condition steps =>
    simp only [Call.opening, Option.some.injEq] at opens
    subst opens
    simp only [ends_bind, Run.ends_evaluate, Run.ends_build, ends_pure]
    exact fun test _ ↦ Session.opens_of_opensBy (Build.resumeChain_opensBy sound placed test loc)
  | otherwise steps =>
    simp only [Call.opening, Option.some.injEq] at opens
    subst opens
    simp only [ends_bind, Run.ends_build, ends_pure]
    exact Session.opens_of_opensBy (Build.finishChain_opensBy sound placed loc)
  | switch test steps =>
    simp only [Call.opening, Option.some.injEq] at opens
    subst opens
    simp only [ends_bind, Run.ends_evaluate, Run.ends_build, ends_pure]
    exact fun test _ ↦ Session.opens_of_opensBy (Build.openSwitch_opensBy sound placed test loc)
  | case patterns steps =>
    simp only [Call.opening, Option.some.injEq] at opens
    subst opens
    simp only [ends_bind, ends_get, Run.ends_sound, Run.ends_build, ends_pure]
    exact fun patterns _ ↦ Session.opens_of_opensBy (Build.startCase_opensBy sound placed patterns loc)
  | default steps =>
    simp only [Call.opening, Option.some.injEq] at opens
    subst opens
    simp only [ends_bind, Run.ends_build, ends_pure]
    exact Session.opens_of_opensBy (Build.startDefault_opensBy sound placed loc)
  | machine name clock initial key steps =>
    simp only [Call.opening, Option.some.injEq] at opens
    subst opens
    simp only [ends_bind, Run.storeMachine, ends_modify, Run.ends_build, ends_pure]
    refine (Session.opens_of_opensBy (Build.openMachine_opensBy sound placed name clock initial loc)).mono ?_
      fun _ _ advised ↦ advised
    exact fun id opened made ↦ ⟨made.builder, made.leads, rfl, rfl, .inr ⟨key, id, rfl, rfl⟩⟩
  | state name steps =>
    simp only [Call.opening, Option.some.injEq] at opens
    subst opens
    simp only [ends_bind, Run.ends_build, ends_pure]
    exact Session.opens_of_opensBy (Build.startState_opensBy sound placed name loc)
  | _ => simp [Call.opening] at opens

/-! ### Machines -/

namespace Builder

/-- A construct that opens a machine has opened a new one. -/
theorem Opens.new {builder opened : Builder} {id : MachineId} (opens : builder.Opens (.machine id) opened) :
    builder.machines.get? id = none := by
  cases opens
  exact Arena.get?_nextKey _

/-- The ending of a new machine, and what it lies behind. -/
theorem Opens.machine_eq {builder opened : Builder} {id : MachineId} (opens : builder.Opens (.machine id) opened) :
    id = builder.machines.nextKey ∧ opened.statements = builder.flushed.statements ∧
      opened.indicators = builder.indicators := by
  cases opens
  exact ⟨rfl, statements_flushed_congr rfl rfl, indicators_flushed _⟩

end Builder

/-- A machine is opened with the initial state that is asked for and without any states, and its frame is on top. -/
theorem opening_machine_ends {name clock initial : Option String} {key : String} {body : List Step} {loc : Location}
    {opening : Run Ending} (opens : (Call.machine name clock initial key body).opening loc = some opening)
    {session : Session} (sound : session.builder.Sound) (placed : session.builder.control.Placed) :
    Ends opening session ⟨fun ending opened ↦ ∃ id name clock base, ending = .machine id ∧
        opened.builder.machines.get? id = some (.opened name clock initial) ∧
        session.builder.flushed.control = ⟨base, base.length, none⟩ ∧
        opened.builder.control = ⟨.machine id loc :: base, base.length, none⟩, fun _ _ ↦ True⟩ := by
  simp only [Call.opening, Option.some.injEq] at opens
  subst opens
  simp only [ends_bind, Run.storeMachine, ends_modify, Run.ends_build, ends_pure]
  refine Build.openMachine_ends sound.stacked placed name clock initial loc (fun machine outside _ new ↦ ?_)
    fun _ ↦ trivial
  obtain ⟨behind, base, place⟩ := placed.atBody outside
  refine ⟨_, name.getD session.builder.settings.fsmDefaultName, clock.getD session.builder.settings.fsmDefaultDomain,
    base, rfl, ?_, Builder.control_flushed sound.stacked place, ?_⟩
  · change ((session.builder.withNewMachine machine).opening _).machines.get? _ = _
    rw [Builder.machines_opening, Builder.withNewMachine, Arena.get?_push_nextKey, new]
  · have stacked : Control.Stacked (session.builder.withNewMachine machine).control.frames := sound.stacked
    exact Builder.control_opening stacked place _

/-! ## Bodies of open constructs -/

namespace Ending

/-- Whether a construct has a frame of its own, which goes when its body is refused. -/
def opensFrame : Ending → Bool
  | .first _ _ | .switch | .machine _ => true
  | .next _ | .last | .case _ | .default | .state _ _ => false

theorem opensFrame_of_within {ending : Ending} {construct : Construct} (within : ending.scope = .within construct) :
    ending.opensFrame = true := by
  cases ending with
  | switch => rfl
  | machine id => rfl
  | _ => simp [scope] at within

/-- Where a construct is finished: behind its own frame, or on the frame of the construct it belongs to. -/
def Due (control : Control) : Ending → Prop
  | .first _ height => height = control.depth ∧ ∃ chain base, control = ⟨.chain chain :: base, base.length, none⟩ ∧
      chain.depth = base.length ∧ ∀ branch ∈ chain.branches, branch.test.isSome = true
  | .next _ | .last => ∃ chain base, control = ⟨.chain chain :: base, base.length, none⟩ ∧
      chain.depth = base.length ∧ ∀ branch ∈ chain.branches, branch.test.isSome = true
  | .switch => ∃ switch base, control = ⟨.switch switch :: base, base.length, none⟩
  | .case _ | .default => ∃ switch base, control.AtConstruct (.switch switch) base
  | .machine id => ∃ place base, control = ⟨.machine id place :: base, base.length, none⟩
  | .state id _ => ∃ place base, control.AtConstruct (.machine id place) base

end Ending

namespace Ending.Due

variable {control : Control} {ending : Ending} (due : ending.Due control)

include due

theorem height {levels : Nat} (apart : ending.scope = .apart levels) :
    control.depth + levels = control.frames.length := by
  have branch : ∀ {chain : IfChain} {base : List Frame}, control = ⟨.chain chain :: base, base.length, none⟩ →
      Scope.apart 1 = .apart levels → control.depth + levels = control.frames.length := by
    rintro chain base rfl ⟨rfl⟩
    rfl
  have case : ∀ {frame : Frame} {base : List Frame}, control.AtConstruct frame base →
      Scope.apart 0 = .apart levels → control.depth + levels = control.frames.length := by
    rintro frame base place ⟨rfl⟩
    exact place.height_eq
  cases ending with
  | first test height =>
    obtain ⟨-, chain, base, top, -⟩ := due
    exact branch top apart
  | next test =>
    obtain ⟨chain, base, top, -⟩ := due
    exact branch top apart
  | last =>
    obtain ⟨chain, base, top, -⟩ := due
    exact branch top apart
  | switch => simp [scope] at apart
  | case patterns =>
    obtain ⟨switch, base, place⟩ := due
    exact case place apart
  | default =>
    obtain ⟨switch, base, place⟩ := due
    exact case place apart
  | machine id => simp [scope] at apart
  | state id name =>
    obtain ⟨opened, base, place⟩ := due
    exact case place apart

theorem inside {construct : Construct} (within : ending.scope = .within construct) :
    ∃ frame base, control = ⟨frame :: base, base.length, none⟩ ∧ frame.construct = construct := by
  cases ending with
  | switch =>
    obtain ⟨switch, base, top⟩ := due
    rw [scope, Scope.within.injEq] at within
    exact ⟨_, base, top, within⟩
  | machine id =>
    obtain ⟨place, base, top⟩ := due
    rw [scope, Scope.within.injEq] at within
    exact ⟨_, base, top, within⟩
  | _ => simp [scope] at within

end Ending.Due

namespace Builder

/-- The body of a construct has just been entered. -/
def enter : Scope → Builder → Builder
  | .apart levels => enterBody levels
  | .within construct => enterConstruct construct

theorem frames_enter (builder : Builder) (scope : Scope) :
    (builder.enter scope).control.frames = builder.control.frames := by
  cases scope <;> rfl

theorem machines_enter (builder : Builder) (scope : Scope) : (builder.enter scope).machines = builder.machines := by
  cases scope <;> rfl

/-- The body of a construct has returned. What is around a recorded body is put back; the inside of a construct ends on
top of its frame. -/
def left (outer last : Builder) : Scope → Builder
  | .apart _ => { last with control := outer.control, statements := outer.statements }
  | .within _ =>
    { last with control := { last.control with context := outer.control.context, depth := outer.control.depth } }

theorem machines_left (outer last : Builder) (scope : Scope) : (outer.left last scope).machines = last.machines := by
  cases scope <;> rfl

/-- The statements that a body of a construct has recorded for it. -/
def recordedIn (last : Builder) : Scope → Body
  | .apart _ => last.flushed.statements
  | .within _ => ∅

/-- A construct is dropped, with the frame it has opened. -/
def dropped (outer last : Builder) (ending : Ending) : Builder :=
  { last with
    control := { outer.control with
      frames := if ending.opensFrame then outer.control.frames.tail else outer.control.frames }
    statements := match ending.scope with
      | .apart _ => outer.statements
      | .within _ => last.statements }

section Opens

variable {builder opened : Builder} {ending : Ending}

theorem Opens.due (opens : builder.Opens ending opened) (stacked : Control.Stacked builder.control.frames) :
    ending.Due opened.control := by
  cases opens with
  | @first test loc advice behind base place =>
    have control := control_opening (show Control.Stacked (builder.noted advice).control.frames from stacked) place
    rw [control]
    exact ⟨rfl, _, base, rfl, rfl, by simp⟩
  | next test advice top level growing => exact ⟨_, _, top, level, growing.2⟩
  | last top level growing => exact ⟨_, _, top, level, growing.2⟩
  | switch test loc place => exact ⟨_, _, control_opening stacked place _⟩
  | case patterns advice place => exact ⟨_, _, place⟩
  | default advice place => exact ⟨_, _, place⟩
  | @machine name domain initial loc behind base place clocked =>
    have known : Control.Stacked (builder.withNewMachine (.opened name domain initial)).control.frames := stacked
    exact ⟨_, _, control_opening known place _⟩
  | state name place found incomplete absent => exact ⟨_, _, place⟩

/-- Where the body of an open construct starts. -/
theorem Sound.enters (sound : opened.Sound) (due : ending.Due opened.control) :
    opened.Leads (opened.enter ending.scope) ∧ (opened.enter ending.scope).control.Placed := by
  cases scope : ending.scope with
  | apart levels =>
    obtain ⟨leads, place⟩ := sound.enterBody (due.height scope)
    exact ⟨leads, .inl ⟨_, _, place⟩⟩
  | within construct =>
    obtain ⟨frame, base, top, rfl⟩ := due.inside scope
    obtain ⟨leads, place⟩ := sound.enterConstruct top
    exact ⟨leads, .inr ⟨_, _, place⟩⟩

/-- Where the body of a construct has returned, the builder around it is sound. In a machine, states may have been
declared. -/
theorem Sound.leads_left (sound : opened.Sound) (due : ending.Due opened.control) {last : Builder}
    (stays : (opened.enter ending.scope).Stays last) :
    opened.Leads (opened.left last ending.scope) (opened.enter ending.scope).control.declaring? := by
  cases scope : ending.scope with
  | apart levels =>
    rw [scope] at stays
    obtain ⟨start, place⟩ := sound.enterBody (due.height scope)
    obtain ⟨behind, here⟩ := stays.level.body _ _ place
    have leads := (start.trans (stays.leads place.declaring?_eq)).trans (stays.sound.leads_flushed (.inl ⟨_, _, here⟩))
    have frames : last.flushed.control.frames = [] ++ opened.control.frames := by
      rw [control_flushed stays.sound.stacked here, List.nil_append]
    have restores : opened.Restores (opened.left last (.apart levels)) :=
      sound.restores_leaveBody leads frames (by rw [flushed_eq]; rfl)
    exact restores.toLeads.any _
  | within construct =>
    rw [scope] at stays
    obtain ⟨frame, base, top, rfl⟩ := due.inside scope
    have left : last.Leads (opened.left last (.within frame.construct)) :=
      stays.sound.leads_of_frames rfl rfl rfl rfl rfl stays.sound.filed
    exact (((sound.enterConstruct top).1.any _).trans stays.toLeads).trans (left.any _)

/-- How a construct stands when its body has returned. -/
structure Leaves (opened last : Builder) (ending : Ending) : Prop where
  stays : (opened.enter ending.scope).Stays last
  sound : (opened.left last ending.scope).Sound
  due : ending.Due (opened.left last ending.scope).control
  below : (opened.left last ending.scope).control.frames.tail = opened.control.frames.tail

theorem Sound.leaves (sound : opened.Sound) (due : ending.Due opened.control) {last : Builder}
    (stays : (opened.enter ending.scope).Stays last) : opened.Leaves last ending := by
  have left := (sound.leads_left due stays).sound
  cases scope : ending.scope with
  | apart levels =>
    refine ⟨stays, left, ?_, ?_⟩
    · rw [scope]
      exact due
    · rw [scope]
      rfl
  | within construct =>
    obtain ⟨frame, base, top, rfl⟩ := due.inside scope
    obtain ⟨start, place⟩ := sound.enterConstruct top
    have stays' := stays
    rw [scope] at stays'
    obtain ⟨later, here, grows⟩ := stays'.level.inside _ _ place
    have control : (opened.left last ending.scope).control = ⟨later :: base, base.length, none⟩ := by
      rw [scope]
      change Control.mk last.control.frames opened.control.depth opened.control.context = _
      rw [here.frames, top]
    refine ⟨stays, left, ?_, by rw [control, top]; rfl⟩
    rw [control]
    cases ending with
    | switch =>
      obtain ⟨switch, rest, same⟩ := due
      rw [top, Control.mk.injEq, List.cons.injEq] at same
      obtain ⟨⟨rfl, -⟩, -⟩ := same
      cases grows
      all_goals exact ⟨_, base, rfl⟩
    | machine id =>
      obtain ⟨opened_at, rest, same⟩ := due
      rw [top, Control.mk.injEq, List.cons.injEq] at same
      obtain ⟨⟨rfl, -⟩, -⟩ := same
      cases grows
      exact ⟨opened_at, base, rfl⟩
    | _ => simp [Ending.scope] at scope

end Opens

/-! ## Finishing -/

/-- What finishing a construct makes of a builder. -/
inductive Concludes (builder : Builder) (loc : Location) (recorded : Body) : Ending → Builder → Prop
  | first {test : Value} {height : Nat} {chain : IfChain} {base : List Frame}
    (top : builder.control = ⟨.chain chain :: base, base.length, none⟩) (level : chain.depth = base.length) :
    builder.Concludes loc recorded (.first test height)
      (builder.withFrames (.chain (chain.extend ⟨some test, recorded, loc⟩) :: base))
  | next {test : Value} {chain : IfChain} {base : List Frame}
    (top : builder.control = ⟨.chain chain :: base, base.length, none⟩) (level : chain.depth = base.length) :
    builder.Concludes loc recorded (.next test)
      (builder.withFrames (.chain (chain.extend ⟨some test, recorded, loc⟩) :: base))
  | last {chain : IfChain} {base : List Frame} (top : builder.control = ⟨.chain chain :: base, base.length, none⟩) :
    builder.Concludes loc recorded .last { builder with
      control := { builder.control with frames := base }
      statements := (chain.extend ⟨none, recorded, loc⟩).close builder.statements }
  | switch {switch : OpenSwitch} {base : List Frame}
    (top : builder.control = ⟨.switch switch :: base, base.length, none⟩) :
    builder.Concludes loc recorded .switch { builder with
      control := { builder.control with frames := base }
      statements := builder.statements.appendAll switch.lower }
  | unmatched : builder.Concludes loc recorded (.case []) builder
  | case {patterns : List Pattern} {switch : OpenSwitch} {base : List Frame} (matched : patterns ≠ [])
    (place : builder.control.AtConstruct (.switch switch) base) :
    builder.Concludes loc recorded (.case patterns)
      (builder.withFrames (.switch (switch.record patterns ⟨recorded, loc⟩) :: base))
  | default {switch : OpenSwitch} {base : List Frame} (place : builder.control.AtConstruct (.switch switch) base) :
    builder.Concludes loc recorded .default
      (builder.withFrames (.switch (switch.record [] ⟨recorded, loc⟩) :: base))
  | machine {id : MachineId} {place : Location} {base : List Frame} {machine : Machine} {closing : Machine.Closing}
    (top : builder.control = ⟨.machine id place :: base, base.length, none⟩)
    (found : builder.machines.get? id = some machine) (closed : machine.close id place = .ok closing) :
    builder.Concludes loc recorded (.machine id) ((builder.withFrames base).finishing id machine.name closing)
  | state {id : MachineId} {name : String} {opened : Location} {base : List Frame} {machine : Machine}
    (place : builder.control.AtConstruct (.machine id opened) base)
    (found : builder.machines.get? id = some machine) (absent : name ∉ machine.states.keys) :
    builder.Concludes loc recorded (.state id name)
      (builder.withMachine id { machine with states := machine.states.insert name ⟨recorded, loc⟩ })

end Builder

/-- What a finished construct answers. -/
def Ending.answer (builder : Builder) : Ending → Answer
  | .machine id => .machine id (builder.machineEncoding? id) (builder.machineRegister? id)
  | .first _ _ | .next _ | .last | .switch | .case _ | .default | .state _ _ => .nothing

/-- A construct is finished; only a machine may be refused, and then its frame is gone. -/
theorem Ending.finish_ends {ending : Ending} {session : Session} (due : ending.Due session.builder.control)
    (loc : Location) (recorded : Body) : Ends (ending.finish loc recorded) session
      ⟨fun answer later ↦ ∃ after, later = session.withBuilder after ∧ session.builder.Concludes loc recorded ending after ∧
          answer = ending.answer after,
        fun _ later ↦ ∃ id, ending = .machine id ∧
          later = session.withBuilder (session.builder.withFrames session.builder.control.frames.tail)⟩ := by
  cases ending with
  | first test height =>
    obtain ⟨-, chain, base, top, level, -⟩ := due
    simp only [finish, ends_bind, Run.ends_build, ends_pure]
    refine Build.addBranch_ends (by rw [top]) (by rw [top, level]) _ _ _ ?_
    exact ⟨_, rfl, .first top level, rfl⟩
  | next test =>
    obtain ⟨chain, base, top, level, -⟩ := due
    simp only [finish, ends_bind, Run.ends_build, ends_pure]
    refine Build.addBranch_ends (by rw [top]) (by rw [top, level]) _ _ _ ?_
    exact ⟨_, rfl, .next top level, rfl⟩
  | last =>
    obtain ⟨chain, base, top, level, conditions⟩ := due
    simp only [finish, ends_bind, Run.ends_build, ends_pure]
    refine Build.addBranch_ends (by rw [top]) (by rw [top, level]) _ _ _ ?_
    refine .of_eq_ok (Build.closeTop_chain rfl (IfChain.ordered_extend conditions _)) ?_
    exact ⟨_, rfl, .last top, rfl⟩
  | switch =>
    obtain ⟨switch, base, top⟩ := due
    simp only [finish, ends_bind, Run.ends_build, ends_pure]
    refine .of_eq_ok (Build.closeTop_switch (by rw [top])) ?_
    exact ⟨_, rfl, .switch top, rfl⟩
  | case patterns =>
    obtain ⟨switch, base, place⟩ := due
    cases patterns with
    | nil =>
      simp only [finish, List.isEmpty_nil, ↓reduceIte, ends_pure]
      exact ⟨_, rfl, .unmatched, rfl⟩
    | cons pattern rest =>
      simp only [finish, List.isEmpty_cons, Bool.false_eq_true, ↓reduceIte, ends_bind, Run.ends_build, ends_pure]
      refine Build.addCase_ends place.frames _ _ _ ?_
      exact ⟨_, rfl, .case (List.cons_ne_nil _ _) place, rfl⟩
  | default =>
    obtain ⟨switch, base, place⟩ := due
    simp only [finish, ends_bind, Run.ends_build, ends_pure]
    refine Build.addCase_ends place.frames _ _ _ ?_
    exact ⟨_, rfl, .default place, rfl⟩
  | machine id =>
    obtain ⟨opened, base, top⟩ := due
    simp only [finish, ends_bind, Run.ends_build, ends_get, ends_pure]
    refine Build.finishMachine_ends (by rw [top]) (fun machine closing found closed ↦ ?_) fun error ↦ ?_
    · exact ⟨_, rfl, .machine top found closed, rfl⟩
    · exact ⟨id, rfl, by rw [top]; rfl⟩
  | state id name =>
    obtain ⟨opened, base, place⟩ := due
    simp only [finish, ends_bind, Run.ends_build, ends_pure]
    refine Build.addState_ends _ _ _ _ fun machine found absent ↦ ?_
    exact ⟨_, rfl, .state place found absent, rfl⟩

/-! ## Whole constructs -/

namespace Builder

variable {outer last : Builder} {ending : Ending}

theorem leaveBody_flushed (stacked : Control.Stacked last.control.frames) {behind : Option IfChain}
    (place : last.control.AtBody behind outer.control.frames) (levels : Nat) :
    outer.leaveBody last.flushed = outer.left last (.apart levels) := by
  have control := control_flushed stacked place
  rw [leaveBody, flushed_eq last, control]
  rfl

theorem leaveBody_truncate {behind : Option IfChain} (place : last.control.AtBody behind outer.control.frames) :
    outer.leaveBody (last.truncate outer.control.height) =
      { last with control := outer.control, statements := outer.statements } := by
  have dropped : last.control.frames.drop (last.control.frames.length - outer.control.frames.length) =
      outer.control.frames := by
    rw [place.frames, List.length_append, Nat.add_sub_cancel, List.drop_left]
  simp only [leaveBody, truncate, Control.truncate, Control.height, dropped]

/-- The inside of a construct ends one level above the level that it has reached, which is the level that it was entered
from. -/
theorem leaveConstruct_eq {top : Frame} {base : List Frame} {frame : Frame} (construct : Construct)
    (place : last.control.AtConstruct top base) (control : outer.control = ⟨frame :: base, base.length, none⟩) :
    outer.leaveConstruct last = outer.left last (.within construct) := by
  simp only [leaveConstruct, left, place.depth, control, Nat.add_sub_cancel]

theorem leaveConstruct_truncate {top : Frame} {base : List Frame} {frame : Frame} {construct : Construct}
    (place : last.control.AtConstruct top base) (control : outer.control = ⟨frame :: base, base.length, none⟩)
    (within : ending.scope = .within construct) :
    outer.leaveConstruct (last.truncate (outer.control.height - 1)) = outer.dropped last ending := by
  have own := Ending.opensFrame_of_within within
  simp only [leaveConstruct, truncate, Control.truncate, Control.height, dropped, own, within, place.frames, place.depth,
    control, ↓reduceIte, List.tail_cons, List.length_cons, Nat.add_sub_cancel, Nat.add_sub_cancel_left, List.drop_one]

end Builder

/-- A refused body that is recorded apart takes its frames with it, and a first branch its chain. -/
theorem Ending.cleanup_leaveBody {outer last : Builder} {ending : Ending} (due : ending.Due outer.control) {levels : Nat}
    (apart : ending.scope = .apart levels) {behind : Option IfChain}
    (place : last.control.AtBody behind outer.control.frames) :
    ending.cleanup (outer.leaveBody (last.truncate outer.control.height)) = outer.dropped last ending := by
  rw [Builder.leaveBody_truncate place]
  cases ending with
  | first test height =>
    obtain ⟨rfl, chain, base, top, -⟩ := due
    simp only [cleanup, Builder.truncate, Control.truncate, Control.height, Builder.dropped, opensFrame, scope, top,
      ↓reduceIte, List.tail_cons, List.length_cons, Nat.add_sub_cancel_left, List.drop_one]
  | switch => simp [scope] at apart
  | machine id => simp [scope] at apart
  | _ => rfl

/-- What has to hold where the body of an open construct ends, so that `post` holds where the construct does. -/
def Ending.behind (ending : Ending) (loc : Location) (opened : Session) (post : Post Session Answer) :
    Post Session Unit where
  returned _ last := opened.builder.Leaves last.builder ending →
    (∀ after, (opened.builder.left last.builder ending.scope).Concludes loc (last.builder.recordedIn ending.scope)
        ending after → post.returned (ending.answer after) (last.withBuilder after)) ∧
      ∀ error, post.refused error (last.withBuilder (opened.builder.dropped last.builder ending))
  refused error last := (opened.builder.enter ending.scope).Stays last.builder →
    post.refused error (last.withBuilder (opened.builder.dropped last.builder ending))

namespace Run

variable {session inner : Session} {body : Run Unit}

theorem capture_of_returned {levels : Nat} {flushed : Builder}
    (ran : body (session.withBuilder (session.builder.enterBody levels)) = .ok () inner)
    (closed : Build.flush inner.builder = .ok () flushed) :
    capture levels body session = .ok flushed.statements (inner.withBuilder (session.builder.leaveBody flushed)) := by
  change body { session with builder := session.builder.enterBody levels } = .ok () inner at ran
  simp only [capture, bind, EStateM.bind, get_apply, build, modify_apply, settle, ran, closed]
  rfl

theorem capture_of_error {levels : Nat} {failure : Failure}
    (ran : body (session.withBuilder (session.builder.enterBody levels)) = .error failure inner) :
    capture levels body session = .error failure (match failure with
      | .refused _ => inner.withBuilder (session.builder.leaveBody (inner.builder.truncate session.builder.control.height))
      | .broken _ => inner) := by
  change body { session with builder := session.builder.enterBody levels } = .error failure inner at ran
  simp only [capture, bind, EStateM.bind, get_apply, build, modify_apply, settle, ran]
  cases failure <;> rfl

theorem inside_of_returned {construct : Construct}
    (ran : body (session.withBuilder (session.builder.enterConstruct construct)) = .ok () inner) :
    inside construct body session = .ok () (inner.withBuilder (session.builder.leaveConstruct inner.builder)) := by
  change body { session with builder := session.builder.enterConstruct construct } = .ok () inner at ran
  simp only [inside, bind, EStateM.bind, get_apply, build, modify_apply, settle, ran]
  rfl

theorem inside_of_error {construct : Construct} {failure : Failure}
    (ran : body (session.withBuilder (session.builder.enterConstruct construct)) = .error failure inner) :
    inside construct body session = .error failure (match failure with
      | .refused _ => inner.withBuilder
          (session.builder.leaveConstruct (inner.builder.truncate (session.builder.control.height - 1)))
      | .broken _ => inner) := by
  change body { session with builder := session.builder.enterConstruct construct } = .error failure inner at ran
  simp only [inside, bind, EStateM.bind, get_apply, build, modify_apply, settle, ran]
  cases failure <;> rfl

end Run

namespace Ending

section Run

variable {ending : Ending} {session last : Session} {body : Run Unit} (loc : Location) (sound : session.builder.Sound)
  (due : ending.Due session.builder.control) (proceeds : Run.Proceeds body)

include sound due proceeds

/-- Where its body has returned, an open construct is finished. -/
theorem run_of_returned (ran : body (session.withBuilder (session.builder.enter ending.scope)) = .ok () last) :
    ending.run loc body session = ending.finish loc (last.builder.recordedIn ending.scope)
      (last.withBuilder (session.builder.left last.builder ending.scope)) := by
  have entered := sound.enters due
  have stays := Ends.of_ok ran (proceeds _ entered.1.sound entered.2)
  cases scope : ending.scope with
  | apart levels =>
    rw [scope] at ran stays
    obtain ⟨start, place⟩ := sound.enterBody (due.height scope)
    obtain ⟨behind, here⟩ := stays.level.body _ _ place
    have closed := Build.flush_of_placed stays.sound.stacked (.inl ⟨_, _, here⟩)
    have left := Builder.leaveBody_flushed stays.sound.stacked here levels
    simp only [run, scope, bind, EStateM.bind, Run.onRefusal, Run.capture_of_returned ran closed, left]
    rfl
  | within construct =>
    rw [scope] at ran stays
    obtain ⟨frame, base, top, rfl⟩ := due.inside scope
    obtain ⟨start, place⟩ := sound.enterConstruct top
    obtain ⟨later, here, -⟩ := stays.level.inside _ _ place
    have left := Builder.leaveConstruct_eq frame.construct here top
    simp only [run, scope, bind, EStateM.bind, Run.inside_of_returned ran, left]
    rfl

/-- Where its body is refused, an open construct is dropped. -/
theorem run_of_refused {error : BuildError}
    (ran : body (session.withBuilder (session.builder.enter ending.scope)) = .error (.refused error) last) :
    ending.run loc body session =
      .error (.refused error) (last.withBuilder (session.builder.dropped last.builder ending)) := by
  have entered := sound.enters due
  have stays := Ends.of_refused ran (proceeds _ entered.1.sound entered.2)
  cases scope : ending.scope with
  | apart levels =>
    rw [scope] at ran stays
    obtain ⟨start, place⟩ := sound.enterBody (due.height scope)
    obtain ⟨behind, here⟩ := stays.level.body _ _ place
    simp only [run, scope, bind, EStateM.bind, Run.onRefusal, Run.capture_of_error ran, Session.builder_withBuilder,
      cleanup_leaveBody due scope here]
    rfl
  | within construct =>
    rw [scope] at ran stays
    obtain ⟨frame, base, top, rfl⟩ := due.inside scope
    obtain ⟨start, place⟩ := sound.enterConstruct top
    obtain ⟨later, here, -⟩ := stays.level.inside _ _ place
    simp only [run, scope, bind, EStateM.bind, Run.inside_of_error ran, Builder.leaveConstruct_truncate here top scope]

omit sound due proceeds

theorem run_of_broken {fault : Fault}
    (ran : body (session.withBuilder (session.builder.enter ending.scope)) = .error (.broken fault) last) :
    ending.run loc body session = .error (.broken fault) last := by
  cases scope : ending.scope with
  | apart levels =>
    rw [scope] at ran
    simp only [run, scope, bind, EStateM.bind, Run.onRefusal, Run.capture_of_error ran]
  | within construct =>
    rw [scope] at ran
    simp only [run, scope, bind, EStateM.bind, Run.inside_of_error ran]

end Run

end Ending

/-- The body of an open construct runs and the construct is finished, or it is dropped. -/
theorem Ending.run_ends {ending : Ending} {loc : Location} {session : Session} {body : Run Unit}
    {post : Post Session Answer} (sound : session.builder.Sound) (due : ending.Due session.builder.control)
    (proceeds : Run.Proceeds body)
    (runs : Ends body (session.withBuilder (session.builder.enter ending.scope)) (ending.behind loc session post)) :
    Ends (ending.run loc body) session post := by
  have entered := sound.enters due
  have kept := proceeds (session.withBuilder (session.builder.enter ending.scope)) entered.1.sound entered.2
  rcases ran : body (session.withBuilder (session.builder.enter ending.scope)) with ⟨_, last⟩ | ⟨error | fault, last⟩
  · have leaves := sound.leaves due (Ends.of_ok ran kept)
    obtain ⟨concludes, refuses⟩ := Ends.of_ok ran runs leaves
    rw [Ends, run_of_returned loc sound due proceeds ran]
    change Ends _ _ post
    refine (Ending.finish_ends leaves.due loc _).mono ?_ ?_
    · rintro answer _ ⟨after, rfl, concluded, rfl⟩
      exact concludes after concluded
    · rintro error _ ⟨id, rfl, rfl⟩
      have below : (session.builder.left last.builder (.within .machine)).control.frames.tail =
          session.builder.control.frames.tail := leaves.below
      have dropped : session.builder.dropped last.builder (.machine id) =
          (session.builder.left last.builder (.within .machine)).withFrames
            (session.builder.left last.builder (.within .machine)).control.frames.tail := by
        rw [below]
        rfl
      have refused := refuses error
      rw [dropped] at refused
      exact refused
  · rw [Ends, run_of_refused loc sound due proceeds ran]
    exact Ends.of_refused ran runs (Ends.of_refused ran kept)
  · rw [Ends, run_of_broken loc ran]
    trivial

/-- A construct is refused where it stands, or it is opened, its body runs, and it is finished or dropped, for bodies that
come back to their place. -/
theorem construct_ends_of_proceeds {loc : Location} {call : Call (List Step)} {opening : Run Ending} {body : List Step}
    (opens : call.opening loc = some opening) (inner : call.body? = some body)
    (proceeds : Run.Proceeds (runBody body)) {session : Session} {post : Post Session Answer}
    (sound : session.builder.Sound) (placed : session.builder.control.Placed)
    (refused : ∀ error advice after, after = session.withBuilder (session.builder.noted advice) →
      opening session = .error (.refused error) after → post.refused error after)
    (runs : ∀ ending opened, opening session = .ok ending opened → session.Opens ending opened →
      Ends (runBody body) (opened.withBuilder (opened.builder.enter ending.scope)) (ending.behind loc opened post)) :
    Ends (runCall loc call) session post := by
  rw [runCall_eq_opening opens inner, ends_bind]
  refine (Call.opening_ends opens sound placed).known.mono ?_ ?_
  · rintro ending opened ⟨ran, opened_⟩
    exact ending.run_ends opened_.leads.sound (opened_.builder.due sound.stacked) proceeds
      (runs ending opened ran opened_)
  · rintro error after ⟨ran, advice, same⟩
    exact refused error advice after same ran

end RegisterTransfer
