import RegisterTransfer.Proofs.Reached

/-!
# What happens in a run

Of all that a run does to the builder of its module, three kinds of events are told here in their order: statements are
filed, a state of a machine is mentioned, and a state is declared. They are read off the calls that the run comes to,
whether or not the bodies around them return. What a module of its own does is no event of the module around it.
-/

namespace RegisterTransfer

inductive Event
  | filed (domain : String) (statements : List Statement)
  /-- A state is the name of a state call that starts, the target of a transition, or asked about. -/
  | mentioned (machine : MachineId) (state : String)
  /-- A state call returns. -/
  | declared (machine : MachineId) (state : String)

namespace Ending

/-- What happens when a construct is opened. -/
def opened : Ending → List Event
  | .state id name => [.mentioned id name]
  | _ => []

/-- What happens when a construct returns. -/
def finished : Ending → List Event
  | .state id name => [.declared id name]
  | _ => []

end Ending

/-- What has happened when a call without a body returns. -/
def Call.events (call : Call (List Step)) (before : Session) : List Event :=
  match call with
  | .add clock statements =>
    match StatementTerm.evalAll before.environment statements with
    | .ok statements => [.filed clock statements]
    | .error _ => []
  | .goto target => (before.builder.control.innermostMachine?.map fun id ↦ .mentioned id target).toList
  | .ongoing key asked _ => ((before.environment.machines.get? key).map fun id ↦ .mentioned id asked).toList
  | _ => []

/-- What happens in a call without a body: nothing if it is refused. -/
def simpleEvents (loc : Location) (call : Call (List Step)) (session : Session) : List Event :=
  match runCall loc call session with
  | .ok _ _ => call.events session
  | .error _ _ => []

/-- What happens in a construct: what its body does happens between its opening and its return. -/
def constructEvents (loc : Location) (call : Call (List Step)) (body : Session → List Event) (session : Session) :
    List Event :=
  match call.opening loc with
  | none => []
  | some opening =>
    match opening session with
    | .ok ending opened =>
      ending.opened ++ body (opened.withBuilder (opened.builder.enter ending.scope)) ++
        match runCall loc call session with
        | .ok _ _ => ending.finished
        | .error _ _ => []
    | .error _ _ => []

mutual

def Step.events : Step → Session → List Event
  | ⟨call, _, loc, _⟩ => callEvents loc call

def callEvents (loc : Location) : Call (List Step) → Session → List Event
  | .ifThen condition body => constructEvents loc (.ifThen condition body) (bodyEvents body)
  | .elseIf condition body => constructEvents loc (.elseIf condition body) (bodyEvents body)
  | .otherwise body => constructEvents loc (.otherwise body) (bodyEvents body)
  | .switch test body => constructEvents loc (.switch test body) (bodyEvents body)
  | .case patterns body => constructEvents loc (.case patterns body) (bodyEvents body)
  | .default body => constructEvents loc (.default body) (bodyEvents body)
  | .machine name domain initial key body =>
    constructEvents loc (.machine name domain initial key body) (bodyEvents body)
  | .state name body => constructEvents loc (.state name body) (bodyEvents body)
  | call => simpleEvents loc call

/-- What happens in a body, up to a refused step that is not caught. -/
def bodyEvents : List Step → Session → List Event
  | [], _ => []
  | step :: rest, session => step.events session ++
    match step.run session with
    | .ok _ later => bodyEvents rest later
    | .error (.refused _) later => if step.caught then bodyEvents rest later else []
    | .error (.broken _) _ => []

end

theorem callEvents_of_body {loc : Location} {call : Call (List Step)} {body : List Step}
    (construct : call.isConstruct = true) (inner : call.body? = some body) (session : Session) :
    callEvents loc call session = constructEvents loc call (bodyEvents body) session := by
  cases call with
  | add => simp [Call.isConstruct] at construct
  | goto => simp [Call.isConstruct] at construct
  | ongoing => simp [Call.isConstruct] at construct
  | machineInfo => simp [Call.isConstruct] at construct
  | module => simp [Call.isConstruct] at construct
  | component => simp [Call.isConstruct] at construct
  | part => simp [Call.isConstruct] at construct
  | domain => simp [Call.isConstruct] at construct
  | raise => simp [Call.isConstruct] at construct
  | settings => simp [Call.isConstruct] at construct
  | _ =>
    rw [Call.body?, Option.some.injEq] at inner
    rw [inner]
    rfl

theorem callEvents_simple {loc : Location} {call : Call (List Step)} (simple : call.isConstruct = false)
    (session : Session) : callEvents loc call session = simpleEvents loc call session := by
  cases call with
  | ifThen => simp [Call.isConstruct] at simple
  | elseIf => simp [Call.isConstruct] at simple
  | otherwise => simp [Call.isConstruct] at simple
  | switch => simp [Call.isConstruct] at simple
  | case => simp [Call.isConstruct] at simple
  | default => simp [Call.isConstruct] at simple
  | machine => simp [Call.isConstruct] at simple
  | state => simp [Call.isConstruct] at simple
  | _ => rfl

/-! ## Calls that record nothing -/

/-- What is recorded is the same; the parts and the clock domains may be others. -/
structure Builder.OnlyParts (before after : Builder) : Prop where
  statements : after.statements = before.statements
  control : after.control = before.control
  indicators : after.indicators = before.indicators
  drivers : after.drivers = before.drivers
  machines : after.machines = before.machines
  complete : after.complete = before.complete

theorem Builder.onlyParts_refl (builder : Builder) : builder.OnlyParts builder := ⟨rfl, rfl, rfl, rfl, rfl, rfl⟩

/-- Of the calls that have nothing to do with what is recorded, only a query may change more than the parts. -/
theorem runCall_onlyParts (loc : Location) {call : Call (List Step)} (quiet : call.isQuiet = true)
    (other : ∀ key state storeAs, call ≠ .ongoing key state storeAs) (session : Session) :
    Ends (runCall loc call) session (.always fun later ↦ session.builder.OnlyParts later.builder) :=
  runCall_quiet_ends loc quiet (fun body _ ↦ proceed body) session.builder.OnlyParts
    (fun _ _ _ ↦ ⟨rfl, rfl, rfl, rfl, rfl, rfl⟩)
    fun key state storeAs _ _ _ asks _ _ _ ↦ absurd asks (other key state storeAs)

/-- What a call without a body does when it returns, and what it leaves when it is refused: statements are filed, the
innermost machine is sent to a state, a machine is asked about one, or nothing is recorded at all. -/
theorem simple_ends (loc : Location) {call : Call (List Step)} (simple : call.isConstruct = false) {session : Session}
    (sound : session.builder.Sound) (placed : session.builder.control.Placed) {post : Post Session Answer}
    (filed : ∀ domain statements values advice, call = .add domain statements →
      StatementTerm.evalAll session.environment statements = .ok values → values.all Statement.isPlain = true →
        (session.builder.noted advice).flushed.drivers.Free domain (Statement.writtenAll values) →
          post.returned .nothing (session.withBuilder ((session.builder.noted advice).recorded domain values)))
    (sent : ∀ target id machine, call = .goto target → session.builder.control.innermostMachine? = some id →
      session.builder.machines.get? id = some machine →
        post.returned .nothing (session.withBuilder ((session.builder.withMachine id (machine.mention id target)).recorded
          machine.domain [.transition id target loc])))
    (asked : ∀ key state storeAs id machine mentioned value environment, call = .ongoing key state storeAs →
      session.environment.machines.get? key = some id → session.builder.machines.get? id = some machine →
        mentioned = (if machine.indicators.contains state then machine else machine.mention id state) →
          post.returned (.value value) { session with
            builder := session.builder.withMachine id mentioned, environment := environment })
    (others : ∀ answer later, session.builder.OnlyParts later.builder → call.events session = [] →
      post.returned answer later)
    (refused : ∀ error later, session.builder.OnlyParts later.builder ∨
      (∃ advice, later.builder = (session.builder.noted advice).flushed) → post.refused error later) :
    Ends (runCall loc call) session post := by
  have same := session.builder.onlyParts_refl
  have parts : ∀ {other : Call (List Step)}, call = other → other.isQuiet = true → other.events session = [] →
      (∀ key state storeAs, other ≠ .ongoing key state storeAs) → Ends (runCall loc other) session post := by
    rintro _ rfl quiet silent apart
    refine (runCall_onlyParts loc quiet apart session).mono ?_ ?_
    · exact fun answer later only ↦ others answer later only silent
    · exact fun error later only ↦ refused error later (.inl only)
  cases call with
  | add domain statements =>
    simp only [runCall, Run.addStatements, ends_bind, ends_get, Run.ends_sound, Run.ends_build, ends_pure]
    intro values evaluated
    refine Build.add_ends sound.stacked placed domain values loc (fun advice _ plain free ↦ ?_)
      (fun error ↦ refused error _ (.inl same)) fun error advice _ _ ↦ refused error _ (.inr ⟨advice, rfl⟩)
    refine filed domain statements values advice rfl evaluated plain ?_
    rw [Builder.flushed_noted]
    exact free
  | goto target =>
    simp only [runCall, ends_bind, Run.ends_build, ends_pure]
    exact Build.goto_ends sound.stacked placed target loc
      (fun id machine _ innermost found ↦ sent target id machine rfl innermost found)
      fun error _ ↦ refused error _ (.inl same)
  | ongoing key state storeAs =>
    simp only [runCall, Run.ongoing, ends_bind, ends_get]
    cases stored : session.environment.machines.get? key with
    | none =>
      refine others _ _ same ?_
      rw [Call.events, stored]
      rfl
    | some id =>
      simp only [ends_bind, Run.ends_build]
      refine Build.ongoing_ends id state loc (fun machine mentioned signal found _ kind _ ↦ ?_)
        fun error ↦ refused error _ (.inl same)
      cases storeAs with
      | none => exact asked key state none id machine mentioned _ session.environment rfl stored found kind
      | some name => exact asked key state (some name) id machine mentioned _ _ rfl stored found kind
  | ifThen => simp [Call.isConstruct] at simple
  | elseIf => simp [Call.isConstruct] at simple
  | otherwise => simp [Call.isConstruct] at simple
  | switch => simp [Call.isConstruct] at simple
  | case => simp [Call.isConstruct] at simple
  | default => simp [Call.isConstruct] at simple
  | machine => simp [Call.isConstruct] at simple
  | state => simp [Call.isConstruct] at simple
  | _ => exact parts rfl rfl rfl (by simp)

/-! ## What holds along with the events -/

/-- A relation between two sessions and what happens in between that holds of runs, for it does of every call, of every
opening and of every way to leave a body. -/
structure Recounts (R : Session → List Event → Session → Prop) : Prop where
  refl : ∀ session, R session [] session
  trans : ∀ {before middle after first second}, R before first middle → R middle second after →
    R before (first ++ second) after
  entry : ∀ {before events after} trace, R before events after → R before events { after with trace := trace }
  simple : ∀ loc {call : Call (List Step)}, call.isConstruct = false → ∀ session : Session, session.builder.Sound →
    session.builder.control.Placed → Ends (runCall loc call) session
      ⟨fun _ later ↦ R session (call.events session) later, fun _ later ↦ R session [] later⟩
  advised : ∀ (session : Session) advice, R session [] (session.withBuilder (session.builder.noted advice))
  opened : ∀ {session ending opened}, session.builder.Sound → session.Opens ending opened →
    R session ending.opened (opened.withBuilder (opened.builder.enter ending.scope))
  finished : ∀ {session ending opened last events loc after}, session.builder.Sound → session.Opens ending opened →
    R session (ending.opened ++ events) last → opened.builder.Leaves last.builder ending →
      (opened.builder.left last.builder ending.scope).Concludes loc (last.builder.recordedIn ending.scope) ending after →
        R session (ending.opened ++ events ++ ending.finished) (last.withBuilder after)
  dropped : ∀ {session ending opened last events}, session.builder.Sound → session.Opens ending opened →
    R session (ending.opened ++ events) last → (opened.builder.enter ending.scope).Stays last.builder →
      R session (ending.opened ++ events) (last.withBuilder (opened.builder.dropped last.builder ending))

namespace Recounts

variable {R : Session → List Event → Session → Prop} (recounts : Recounts R)

include recounts

/-- A construct, given that the relation holds of its body. -/
theorem construct {loc : Location} {call : Call (List Step)} {body : List Step} (construct : call.isConstruct = true)
    (inner : call.body? = some body)
    (within : ∀ session : Session, session.builder.Sound → session.builder.control.Placed →
      Ends (runBody body) session (.always fun later ↦ R session (bodyEvents body session) later))
    {session : Session} (sound : session.builder.Sound) (placed : session.builder.control.Placed) :
    Ends (runCall loc call) session (.always fun later ↦ R session (callEvents loc call session) later) := by
  obtain ⟨opening, _, opens, -⟩ := call.exists_opening construct loc
  have ends : Ends (runCall loc call) session ⟨fun _ later ↦ ∃ ending opened, opening session = .ok ending opened ∧
        R session (ending.opened ++ bodyEvents body (opened.withBuilder (opened.builder.enter ending.scope)) ++
          ending.finished) later,
      fun _ later ↦ ((∃ error after, opening session = .error (.refused error) after) ∧ R session [] later) ∨
        ∃ ending opened, opening session = .ok ending opened ∧ R session (ending.opened ++
          bodyEvents body (opened.withBuilder (opened.builder.enter ending.scope))) later⟩ := by
    refine construct_ends opens inner sound placed ?_ ?_
    · rintro error advice _ rfl refused
      exact .inl ⟨⟨error, _, refused⟩, recounts.advised session advice⟩
    · intro ending opened ran opens
      have entered := opens.leads.sound.enters (opens.builder.due sound.stacked)
      refine (within _ entered.1.sound entered.2).mono ?_ ?_
      · intro _ last related leaves
        have so_far := recounts.trans (recounts.opened sound opens) related
        refine ⟨fun after concludes ↦ ⟨ending, opened, ran, recounts.finished sound opens so_far leaves concludes⟩, ?_⟩
        exact fun _ ↦ .inr ⟨ending, opened, ran, recounts.dropped sound opens so_far leaves.stays⟩
      · intro _ last related stays
        exact .inr ⟨ending, opened, ran, recounts.dropped sound opens
          (recounts.trans (recounts.opened sound opens) related) stays⟩
  refine ends.known.mono ?_ ?_
  · rintro answer later ⟨ran, ending, opened, opened_, related⟩
    change R session (callEvents loc call session) later
    simpa only [callEvents_of_body construct inner, constructEvents, opens, opened_, ran] using related
  · rintro error later ⟨ran, ⟨⟨error, after, refused⟩, related⟩ | ⟨ending, opened, opened_, related⟩⟩
    all_goals change R session (callEvents loc call session) later
    · simpa only [callEvents_of_body construct inner, constructEvents, opens, refused] using related
    · simpa only [callEvents_of_body construct inner, constructEvents, opens, opened_, ran, List.append_nil] using related

theorem step (step : Step) (within : ∀ body, step.call.body? = some body → ∀ session : Session,
      session.builder.Sound → session.builder.control.Placed →
        Ends (runBody body) session (.always fun later ↦ R session (bodyEvents body session) later))
    {session : Session} (sound : session.builder.Sound) (placed : session.builder.control.Placed) :
    Ends step.run session (.always fun later ↦ R session (step.events session) later) := by
  obtain ⟨call, label, loc, caught⟩ := step
  have called : Ends (runCall loc call) session (.always fun later ↦ R session (callEvents loc call session) later) := by
    cases construct : call.isConstruct with
    | true =>
      obtain ⟨-, body, -, inner⟩ := call.exists_opening construct loc
      exact recounts.construct construct inner (within body inner) sound placed
    | false =>
      refine (recounts.simple loc construct session sound placed).known.mono ?_ ?_
      · rintro answer later ⟨ran, related⟩
        change R session (callEvents loc call session) later
        simpa only [callEvents_simple construct, simpleEvents, ran] using related
      · rintro error later ⟨ran, related⟩
        change R session (callEvents loc call session) later
        simpa only [callEvents_simple construct, simpleEvents, ran] using related
  exact (Run.ends_traced ..).2 (called.mono (fun _ _ related ↦ recounts.entry _ related)
    fun _ _ related ↦ recounts.entry _ related)

theorem body (steps : List Step) : ∀ session : Session, session.builder.Sound → session.builder.control.Placed →
    Ends (runBody steps) session (.always fun later ↦ R session (bodyEvents steps session) later) := by
  induction steps using Step.list_induction with
  | nil => exact fun session _ _ ↦ recounts.refl session
  | cons step rest bodies ih =>
    intro session sound placed
    have ran := ((step.run_proceeds (fun body _ ↦ proceed body) session sound placed).and
      (recounts.step step bodies sound placed)).known
    have go_on : ∀ {later : Session}, R session (step.events session) later → session.builder.Stays later.builder →
        Ends (runBody rest) later (.always fun last ↦ R session (step.events session ++ bodyEvents rest later) last) :=
      fun related stays ↦ (ih _ stays.sound (stays.level.placed placed)).mono_always
        fun _ others ↦ recounts.trans related others
    simp only [runBody, bodyEvents]
    cases caught : step.caught with
    | true =>
      refine (ends_bind ..).2 ((Run.ends_caught ..).2 (ran.mono ?_ ?_))
      · rintro _ later ⟨returned, stays, related⟩
        simpa only [returned] using go_on related stays
      · rintro error later ⟨refused, stays, related⟩
        simpa only [refused, ↓reduceIte] using go_on related stays
    | false =>
      refine (ends_bind ..).2 (ran.mono ?_ ?_)
      · rintro _ later ⟨returned, stays, related⟩
        simpa only [returned] using go_on related stays
      · rintro error later ⟨refused, stays, related⟩
        have related : R session (step.events session) later := related
        change R session _ later
        simpa only [refused, Bool.false_eq_true, ↓reduceIte, List.append_nil] using related

end Recounts

end RegisterTransfer
