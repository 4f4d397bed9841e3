import RegisterTransfer.Proofs.Accepted
import RegisterTransfer.Proofs.AlikeFragments
import RegisterTransfer.Proofs.Lockstep

/-!
# Runs side by side

The same steps, run in two sessions that are alike, keep them alike. Steps that add statements may be missing in the
second run, if the domain of the statements is not observed and all that the first run is known for is that it is
accepted.
-/

namespace RegisterTransfer

namespace Likeness

variable (likeness : Likeness)

/-- Two running programs that are alike in everything that later steps depend on. -/
structure Sessions (first second : Session) : Prop where
  builder : likeness.Lags first.builder second.builder
  environment : likeness.Environments first.environment second.environment
  fresh : ∀ count index, likeness.ids ⟨second.started + count, index⟩ = ⟨first.started + count, index⟩
  found : ∀ count index, likeness.Untouched ⟨second.started + count, index⟩
  trace : likeness.traces first.trace second.trace

/-- What two open constructs have to do when their bodies have ended. -/
inductive Endings : Ending → Ending → Prop
  | first {test other : Value} (tests : likeness.Tests test other) (height : Nat) :
    Endings (.first test height) (.first other height)
  | next {test other : Value} (tests : likeness.Tests test other) : Endings (.next test) (.next other)
  | last : Endings .last .last
  | switch : Endings .switch .switch
  | case (patterns : List Pattern) : Endings (.case patterns) (.case patterns)
  | default : Endings .default .default
  | machine (id : MachineId) (kept : ¬likeness.lost id) : Endings (.machine (likeness.ids id)) (.machine id)
  | state (id : MachineId) (name : String) (kept : ¬likeness.lost id) :
    Endings (.state (likeness.ids id) name) (.state id name)

variable {likeness} {first second : Session}

theorem Sessions.withBuilder (alike : likeness.Sessions first second) {builder other : Builder}
    (lags : likeness.Lags builder other) : likeness.Sessions (first.withBuilder builder) (second.withBuilder other) :=
  ⟨lags, alike.environment, alike.fresh, alike.found, alike.trace⟩

theorem Sessions.storeMachine (alike : likeness.Sessions first second) (key : String) (id : MachineId) :
    likeness.Sessions { first with environment := first.environment.storeMachine key (likeness.ids id) }
      { second with environment := second.environment.storeMachine key id } :=
  ⟨alike.builder, alike.environment.storeMachine key id, alike.fresh, alike.found, alike.trace⟩

theorem Endings.scope {ending other : Ending} (endings : likeness.Endings ending other) :
    ending.scope = other.scope := by cases endings <;> rfl

theorem Sessions.traced (alike : likeness.Sessions first second) {entry other : Entry} (same : entry.Like other) :
    likeness.Sessions { first with trace := first.trace ++ [entry] } { second with trace := second.trace ++ [other] } :=
  ⟨alike.builder, alike.environment, alike.fresh, alike.found, likeness.entered alike.trace same⟩

/-- A machine whose construct is about to be finished is ready to be closed. -/
def Closable (likeness : Likeness) (first second : Builder) (ending : Ending) : Prop :=
  ∀ id loc base, ending = .machine id → second.control.frames = .machine id loc :: base →
    ∀ machine other, first.machines.get? (likeness.ids id) = some machine → second.machines.get? id = some other →
      likeness.Machines id machine other → likeness.Ready id machine other loc

theorem Endings.closable {ending other : Ending} (endings : likeness.Endings ending other)
    (steady : ∀ id, other = .machine id → likeness.Steady id) (first second : Builder) :
    likeness.Closable first second other := by
  rintro id loc base rfl - machine again - - alike
  cases endings with
  | machine id kept => exact (alike.kept kept).ready (steady id rfl) loc

end Likeness

/-! ## Parts of a running program -/

namespace Run

variable {α β : Type} {likeness : Likeness} {strict : BuildError → Prop} {first second : Session}
  {refused : Session → Session → Prop}

theorem build_lockstep {returned : α → β → Session → Session → Prop} {call : Build α} {other : Build β}
    (step : Lockstep strict call other first.builder second.builder
      (fun value result builder last ↦ returned value result (first.withBuilder builder) (second.withBuilder last))
      fun builder last ↦ refused (first.withBuilder builder) (second.withBuilder last)) :
    Lockstep strict (build call) (build other) first second returned refused := by
  rcases ran : call first.builder with ⟨value, after⟩ | ⟨error | fault, after⟩
  · obtain ⟨result, last, again, holds⟩ := step.of_ok ran
    exact Lockstep.of_eq (by simp only [build, ran]; rfl) (by simp only [build, again]; rfl) holds
  · simp only [Lockstep, build, ran]
    intro sure
    obtain ⟨error, last, again, holds⟩ := step.of_refused ran sure
    exact ⟨error, second.withBuilder last, by rw [again]; rfl, holds⟩
  · simp only [Lockstep, build, ran]

/-- What is read from what has been stored is the same, up to the renaming. -/
theorem sound_lockstep {returned : α → β → Session → Session → Prop} {result : Except Fault α} {f : β → α}
    {again : Except Fault β} (same : result = f <$> again)
    (returns : ∀ value, again = .ok value → returned (f value) value first second) :
    Lockstep strict (sound result) (sound again) first second returned refused := by
  rw [same]
  cases again with
  | ok value => exact Lockstep.pure_ (returns value rfl)
  | error fault => exact Lockstep.throw_broken

variable (alike : likeness.Sessions first second)

include alike

theorem evaluate_lockstep {returned : Value → Value → Session → Session → Prop} {term : Term}
    (fits : ∀ mention ∈ term.mentions, mention.Fits likeness)
    (returns : ∀ value, returned (likeness.value value) value first second) :
    Lockstep strict (evaluate term) (evaluate term) first second returned refused :=
  Lockstep.get_ (sound_lockstep (alike.environment.eval_eq term fits) fun value _ ↦ returns value)

end Run

/-! ## Opening -/

/-- Whether a call means the same in both runs, save for its body. -/
def Call.Fits {body : Type} (likeness : Likeness) (call : Call body) : Prop :=
  ∀ mention ∈ call.mentions, mention.Fits likeness

/-- A session in one of its places, between two calls. -/
structure Session.Stands (session : Session) : Prop where
  sound : session.builder.Sound
  placed : session.builder.control.Placed

theorem Session.Stands.control {session : Session} (stands : session.Stands) : session.builder.control.Stands :=
  ⟨stands.sound.stacked, stands.placed⟩

section Opening

variable {likeness : Likeness} {first second : Session} (alike : likeness.Sessions first second)

include alike

/-- What opens a construct in both builders opens it in both sessions. -/
theorem Run.opens_lockstep {α β : Type} {call : Build α} {again : Build β} {ending : α → Ending} {other : β → Ending}
    (steps : Lockstep likeness.strict call again first.builder second.builder (fun value result opened last ↦
      (likeness.Endings (ending value) (other result) ∧ ∀ id, other result = .machine id → likeness.Steady id) ∧
        likeness.Tracks opened last) likeness.Lags) :
    Lockstep likeness.strict (do return ending (← Run.build call)) (do return other (← Run.build again)) first second
      (fun ending other opened last ↦
        (likeness.Endings ending other ∧ ∀ id, other = .machine id → likeness.Steady id) ∧
          likeness.Sessions opened last ∧ likeness.Tracks opened.builder last.builder)
      likeness.Sessions := by
  refine Lockstep.bind (Run.build_lockstep (steps.mono ?_ fun _ _ ↦ alike.withBuilder))
  intro value result opened last opens
  exact Lockstep.pure_ ⟨opens.1, alike.withBuilder (.of_tracks opens.2), opens.2⟩

variable (stands : first.Stands) (standing : second.Stands)

include stands standing

/-- The same construct is opened in both sessions. -/
theorem Call.opening_lockstep {loc : Location} {call : Call (List Step)} {opening : Run Ending}
    (opens : call.opening loc = some opening) (fits : call.Fits likeness) :
    Lockstep likeness.strict opening opening first second (fun ending other opened last ↦
      (likeness.Endings ending other ∧ ∀ id, other = .machine id → likeness.Steady id) ∧
        likeness.Sessions opened last ∧ likeness.Tracks opened.builder last.builder)
      likeness.Sessions := by
  have lags := alike.builder
  cases call with
  | ifThen condition body =>
    simp only [Call.opening, Option.some.injEq] at opens
    subst opens
    refine Lockstep.bind (Run.evaluate_lockstep alike fits fun test ↦ Run.opens_lockstep alike ?_)
    refine (Build.openChain_lockstep lags stands.control standing.control test loc).mono ?_ fun _ _ refused ↦ refused
    rintro height _ opened last ⟨rfl, tracks⟩
    exact ⟨⟨.first (likeness.tests_value test) height, by simp⟩, tracks⟩
  | elseIf condition body =>
    simp only [Call.opening, Option.some.injEq] at opens
    subst opens
    refine Lockstep.bind (Run.evaluate_lockstep alike fits fun test ↦ Run.opens_lockstep alike ?_)
    refine (Build.resumeChain_lockstep lags standing.control test loc).mono ?_ fun _ _ refused ↦ refused
    exact fun _ _ _ _ tracks ↦ ⟨⟨.next (likeness.tests_value test), by simp⟩, tracks⟩
  | otherwise body =>
    simp only [Call.opening, Option.some.injEq] at opens
    subst opens
    refine Run.opens_lockstep alike ?_
    refine (Build.finishChain_lockstep lags standing.control loc).mono ?_ fun _ _ refused ↦ refused
    exact fun _ _ _ _ tracks ↦ ⟨⟨.last, by simp⟩, tracks⟩
  | switch test body =>
    simp only [Call.opening, Option.some.injEq] at opens
    subst opens
    refine Lockstep.bind (Run.evaluate_lockstep alike fits fun value ↦ Run.opens_lockstep alike ?_)
    refine (Build.openSwitch_lockstep lags stands.control standing.control value loc).mono ?_ fun _ _ refused ↦ refused
    exact fun _ _ _ _ tracks ↦ ⟨⟨.switch, by simp⟩, tracks⟩
  | case patterns body =>
    simp only [Call.opening, Option.some.injEq] at opens
    subst opens
    refine Lockstep.get_ (Lockstep.bind (Run.sound_lockstep (alike.environment.patterns_eq patterns fits) fun values _ ↦
      Run.opens_lockstep alike ?_))
    refine (Build.startCase_lockstep lags standing.control values loc).mono ?_ fun _ _ refused ↦ refused
    rintro live _ opened last ⟨rfl, tracks⟩
    exact ⟨⟨.case live, by simp⟩, tracks⟩
  | default body =>
    simp only [Call.opening, Option.some.injEq] at opens
    subst opens
    refine Run.opens_lockstep alike ?_
    refine (Build.startDefault_lockstep lags standing.control loc).mono ?_ fun _ _ refused ↦ refused
    exact fun _ _ _ _ tracks ↦ ⟨⟨.default, by simp⟩, tracks⟩
  | machine name clock initial key body =>
    simp only [Call.opening, Option.some.injEq] at opens
    subst opens
    refine Lockstep.bind (Run.build_lockstep ?_)
    refine (Build.openMachine_lockstep lags stands.control standing.control name clock initial loc).mono ?_
      fun _ _ ↦ alike.withBuilder
    rintro _ id opened last ⟨⟨rfl, untouched⟩, tracks⟩
    have steady : ∀ other, Ending.machine id = .machine other → likeness.Steady other := by
      rintro _ ⟨rfl⟩
      exact untouched.steady
    refine Lockstep.bind (Lockstep.modify_ (Lockstep.pure_ ⟨⟨.machine id untouched.kept, steady⟩, ?_, tracks⟩))
    exact (alike.withBuilder (.of_tracks tracks)).storeMachine key id
  | state name body =>
    simp only [Call.opening, Option.some.injEq] at opens
    subst opens
    refine Run.opens_lockstep alike ?_
    refine (Build.startState_lockstep lags standing.control name loc).mono ?_ fun _ _ refused ↦ refused
    rintro _ id opened last ⟨⟨rfl, kept⟩, tracks⟩
    exact ⟨⟨.state id name kept, by simp⟩, tracks⟩
  | _ => simp [Call.opening] at opens

end Opening

/-! ## Entering and leaving -/

namespace Likeness

variable {likeness : Likeness} {opened other last final : Builder} {ending again : Ending}

theorem Tracks.enter (tracks : likeness.Tracks opened other) (scope : Scope) :
    likeness.Tracks (opened.enter scope) (other.enter scope) := by
  have control := tracks.recording.control
  cases scope with
  | apart levels =>
    refine ⟨tracks.rest.recording _ _ _ _, ⟨control.frames, ?_, rfl⟩, fun _ _ ↦ rfl⟩
    change opened.control.depth + levels = other.control.depth + levels
    rw [control.depth]
  | within construct =>
    refine ⟨tracks.rest.recording _ _ _ _, ⟨control.frames, ?_, rfl⟩, tracks.recording.statements⟩
    change opened.control.depth + 1 = other.control.depth + 1
    rw [control.depth]

/-- A body that has returned does not lag any more where its construct goes on. -/
theorem Recording.left (recording : likeness.Recording opened other) (lags : likeness.Lags last final) {scope : Scope}
    (inside : ∀ construct, scope = .within construct → likeness.Tracks last final) :
    likeness.Tracks (opened.left last scope) (other.left final scope) := by
  cases scope with
  | apart levels => exact ⟨lags.rest.recording _ _ _ _, recording.control, recording.statements⟩
  | within construct =>
    have within := (inside construct rfl).recording
    exact ⟨lags.rest.recording _ _ _ _, ⟨within.control.frames, recording.control.depth, recording.control.context⟩,
      within.statements⟩

theorem Recording.dropped (recording : likeness.Recording opened other) (within : likeness.Tracks last final)
    (endings : likeness.Endings ending again) :
    likeness.Tracks (opened.dropped last ending) (other.dropped final again) := by
  have control := recording.control
  have tails : List.Forall₂ likeness.Frames opened.control.frames.tail other.control.frames.tail := by
    have pairs := control.frames
    generalize opened.control.frames = these at pairs ⊢
    generalize other.control.frames = those at pairs ⊢
    cases pairs with
    | nil => exact .nil
    | cons _ below => exact below
  have rest := within.rest.recording
  cases endings with
  | switch => exact ⟨rest _ _ _ _, ⟨tails, control.depth, control.context⟩, within.recording.statements⟩
  | machine id kept => exact ⟨rest _ _ _ _, ⟨tails, control.depth, control.context⟩, within.recording.statements⟩
  | first tests height => exact ⟨rest _ _ _ _, ⟨tails, control.depth, control.context⟩, recording.statements⟩
  | _ => exact ⟨rest _ _ _ _, ⟨control.frames, control.depth, control.context⟩, recording.statements⟩

/-- What a body has recorded for its construct. -/
theorem Lags.recordedIn (lags : likeness.Lags last final) (standing : final.control.Stands) (scope : Scope) :
    likeness.Bodies (last.recordedIn scope) (final.recordedIn scope) := by
  cases scope with
  | apart levels => exact (lags.flushed standing).recording.statements
  | within construct => exact fun _ _ ↦ rfl

end Likeness

/-! ## Finishing -/

section Finish

variable {likeness : Likeness} {first second : Session}

/-- A call that keeps both builders in step and answers nothing keeps the sessions alike. -/
theorem Run.returns_nothing {call other : Build Unit} (alike : likeness.Sessions first second)
    (step : Lockstep likeness.strict call other first.builder second.builder (fun _ _ ↦ likeness.Tracks)
      likeness.Lags) :
    Lockstep likeness.strict (do build call; return Answer.nothing) (do build other; return Answer.nothing) first second
      (fun _ _ ↦ likeness.Sessions) likeness.Sessions := by
  refine Lockstep.bind (build_lockstep (step.mono ?_ fun _ _ lags ↦ alike.withBuilder lags))
  exact fun _ _ _ _ tracks ↦ Lockstep.pure_ (alike.withBuilder (.of_tracks tracks))

/-- The same construct is finished in both sessions. -/
theorem Ending.finish_lockstep {ending other : Ending} (endings : likeness.Endings ending other)
    (closable : likeness.Closable first.builder second.builder other)
    (alike : likeness.Sessions first second) (tracks : likeness.Tracks first.builder second.builder)
    (sound : first.builder.Sound) (also : second.builder.Sound) (due : ending.Due first.builder.control)
    (owed : other.Due second.builder.control) (loc : Location) {recorded filed : Body}
    (bodies : likeness.Bodies recorded filed) :
    Lockstep likeness.strict (ending.finish loc recorded) (other.finish loc filed) first second
      (fun _ _ ↦ likeness.Sessions) likeness.Sessions := by
  cases endings with
  | first tests height =>
    obtain ⟨-, chain, base, top, level, -⟩ := due
    obtain ⟨-, grown, rest, there, flat, -⟩ := owed
    refine Run.returns_nothing alike ((Build.addBranch_lockstep tracks (by rw [top]) (by rw [there])
      (by rw [top, level]) (by rw [there, flat]) (.some tests) bodies loc).mono ?_ fun _ _ lags ↦ lags)
    exact fun _ _ _ _ extended ↦ extended.1
  | next tests =>
    obtain ⟨chain, base, top, level, -⟩ := due
    obtain ⟨grown, rest, there, flat, -⟩ := owed
    refine Run.returns_nothing alike ((Build.addBranch_lockstep tracks (by rw [top]) (by rw [there])
      (by rw [top, level]) (by rw [there, flat]) (.some tests) bodies loc).mono ?_ fun _ _ lags ↦ lags)
    exact fun _ _ _ _ extended ↦ extended.1
  | last =>
    obtain ⟨chain, base, top, level, conditions⟩ := due
    obtain ⟨grown, rest, there, flat, also_conditions⟩ := owed
    refine Lockstep.bind (Run.build_lockstep ((Build.addBranch_lockstep tracks (by rw [top]) (by rw [there])
      (by rw [top, level]) (by rw [there, flat]) .none bodies loc).mono ?_ fun _ _ lags ↦ alike.withBuilder lags))
    rintro _ _ after last ⟨extended, here, further⟩
    exact Run.returns_nothing (alike.withBuilder (.of_tracks extended)) (Build.closeChain_lockstep extended here further
      (IfChain.ordered_extend conditions _) (IfChain.ordered_extend also_conditions _))
  | switch =>
    obtain ⟨switch, base, top⟩ := due
    obtain ⟨grown, rest, there⟩ := owed
    exact Run.returns_nothing alike (Build.closeSwitch_lockstep tracks (by rw [top]) (by rw [there]))
  | case patterns =>
    obtain ⟨switch, base, place⟩ := due
    obtain ⟨grown, rest, there⟩ := owed
    cases patterns with
    | nil => exact Lockstep.pure_ alike
    | cons pattern others =>
      exact Run.returns_nothing alike (Build.addCase_lockstep tracks place.frames there.frames _ bodies loc)
  | default =>
    obtain ⟨switch, base, place⟩ := due
    obtain ⟨grown, rest, there⟩ := owed
    exact Run.returns_nothing alike (Build.addCase_lockstep tracks place.frames there.frames _ bodies loc)
  | machine id kept =>
    obtain ⟨opened, base, top⟩ := due
    obtain ⟨place, rest, there⟩ := owed
    have pairs := tracks.recording.control.frames
    rw [top, there] at pairs
    have same := (List.forall₂_cons.1 pairs).1.loc_eq
    subst same
    have frames : second.builder.control.frames = .machine id opened :: rest := by rw [there]
    refine Lockstep.bind (Run.build_lockstep ((Build.finishMachine_lockstep tracks sound also kept
      (closable id opened rest rfl frames) (by rw [top]) frames).mono ?_ fun _ _ lags ↦ alike.withBuilder lags))
    exact fun _ _ _ _ tracks ↦ Lockstep.get_ (Lockstep.pure_ (alike.withBuilder (.of_tracks tracks)))
  | state id name kept =>
    obtain ⟨opened, base, place⟩ := due
    obtain ⟨opened', rest, there⟩ := owed
    have standing : second.builder.control.Stands := ⟨also.stacked, .inr ⟨_, _, there⟩⟩
    exact Run.returns_nothing alike (Build.addState_lockstep tracks standing there.context kept name bodies loc)

end Finish

/-! ## Whole constructs -/

/-- What is refused while the first run is followed has to be refused in the second run as well. -/
def Likeness.Counts (likeness : Likeness) (trace : List Entry) : Prop :=
  ∀ entry ∈ trace.drop likeness.start, ∀ error, entry.result = .error error → likeness.strict error

/-- Two parts of running programs end in the same way and leave sessions that are related, if the first one counts. -/
def Likeness.Meets (likeness : Likeness) {α β : Type} (related : Session → Session → Prop) (first : Run α)
    (second : Run β) (session other : Session) : Prop :=
  match first session with
  | .ok _ later => likeness.Counts later.trace → ∃ result last, second other = .ok result last ∧ related later last
  | .error (.refused error) later => likeness.Counts later.trace → likeness.strict error →
      ∃ again last, second other = .error (.refused again) last ∧ related later last
  | .error (.broken _) _ => True

/-- They leave sessions that are alike. -/
abbrev Likeness.Mirrors (likeness : Likeness) {α β : Type} (first : Run α) (second : Run β) (session other : Session) :
    Prop := likeness.Meets likeness.Sessions first second session other

/-- Steps of the second run that go with steps of the first one, wherever they start. -/
def Likeness.Follow (likeness : Likeness) (steps : List Step → Run Unit) (these those : List Step) : Prop :=
  ∀ first second : Session, first.Stands → second.Stands → likeness.Sessions first second →
    likeness.Mirrors (steps these) (steps those) first second

section Construct

variable {likeness : Likeness} {first second : Session}

theorem Likeness.Counts.of_prefix {trace later : List Entry} (counts : likeness.Counts later) (grown : trace <+: later) :
    likeness.Counts trace := by
  obtain ⟨more, same⟩ := grown
  rw [Counts, ← same, List.drop_append] at counts
  exact fun entry mem ↦ counts entry (List.mem_append_left _ mem)

theorem Likeness.Meets.of_lockstep {α β : Type} {related : Session → Session → Prop} {action : Run α} {other : Run β}
    (step : Lockstep likeness.strict action other first second (fun _ _ ↦ related) related) :
    likeness.Meets related action other first second := by
  rw [Meets]
  split
  · rename_i ran
    exact fun _ ↦ step.of_ok ran
  · rename_i ran
    exact fun _ ↦ step.of_refused ran
  · trivial

/-- Only runs that count need to be followed. -/
theorem Likeness.Meets.of_counts {α β : Type} {related : Session → Session → Prop} {action : Run α} {other : Run β}
    (follows : ∀ later, EndsIn action first later → likeness.Counts later.trace →
      likeness.Meets related action other first second) : likeness.Meets related action other first second := by
  rw [Meets]
  split
  · rename_i value later ran
    intro counts
    have meets := follows later (.inl ⟨value, ran⟩) counts
    rw [Meets, ran] at meets
    exact meets counts
  · rename_i error later ran
    intro counts
    have meets := follows later (.inr ⟨error, ran⟩) counts
    rw [Meets, ran] at meets
    exact meets counts
  · trivial

theorem Likeness.Meets.mono {α β : Type} {related wider : Session → Session → Prop} {action : Run α} {other : Run β}
    (meets : likeness.Meets related action other first second)
    (implies : ∀ later last, related later last → wider later last) :
    likeness.Meets wider action other first second := by
  rw [Meets] at meets ⊢
  split
  · rename_i ran
    rw [ran] at meets
    intro counts
    obtain ⟨result, last, again, holds⟩ := meets counts
    exact ⟨result, last, again, implies _ _ holds⟩
  · rename_i ran
    rw [ran] at meets
    intro counts sure
    obtain ⟨again, last, refused, holds⟩ := meets counts sure
    exact ⟨again, last, refused, implies _ _ holds⟩
  · trivial

/-- The bodies of a construct that has been opened in both sessions start alike. -/
theorem Likeness.Sessions.enter (alike : likeness.Sessions first second)
    (tracks : likeness.Tracks first.builder second.builder) {ending other : Ending}
    (endings : likeness.Endings ending other) :
    likeness.Sessions (first.withBuilder (first.builder.enter ending.scope))
      (second.withBuilder (second.builder.enter other.scope)) := by
  rw [endings.scope]
  exact alike.withBuilder (.of_tracks (tracks.enter other.scope))

theorem Ending.trace_of_finish {ending : Ending} {session later : Session} {loc : Location} {recorded : Body}
    (due : ending.Due session.builder.control) (ended : EndsIn (ending.finish loc recorded) session later) :
    later.trace = session.trace := by
  have kept : Ends (ending.finish loc recorded) session (.always fun later ↦ later.trace = session.trace) := by
    refine (Ending.finish_ends due loc recorded).mono ?_ ?_
    · rintro _ _ ⟨after, rfl, -, -⟩
      rfl
    · rintro _ _ ⟨id, -, rfl⟩
      rfl
  exact ended.holds kept

/-- The bodies of an open construct end in the same way, and the construct is finished or dropped in both sessions. -/
theorem Ending.run_meets {related : Session → Session → Prop} {ending other : Ending} (sound : first.builder.Sound)
    (also : second.builder.Sound) (due : ending.Due first.builder.control) (owed : other.Due second.builder.control)
    (loc : Location) {these those : List Step}
    (meets : likeness.Meets related (runBody these) (runBody those)
      (first.withBuilder (first.builder.enter ending.scope)) (second.withBuilder (second.builder.enter other.scope)))
    (finishes : ∀ last final, runBody these (first.withBuilder (first.builder.enter ending.scope)) = .ok () last →
      runBody those (second.withBuilder (second.builder.enter other.scope)) = .ok () final → related last final →
        likeness.Meets related (ending.finish loc (last.builder.recordedIn ending.scope))
          (other.finish loc (final.builder.recordedIn other.scope))
          (last.withBuilder (first.builder.left last.builder ending.scope))
          (final.withBuilder (second.builder.left final.builder other.scope)))
    (drops : ∀ error last final, likeness.strict error → related last final →
      related (last.withBuilder (first.builder.dropped last.builder ending))
        (final.withBuilder (second.builder.dropped final.builder other))) :
    likeness.Meets related (ending.run loc (runBody these)) (other.run loc (runBody those)) first second := by
  have entered := sound.enters due
  have proceeds := (proceed these).1
  have proceeding := (proceed those).1
  rw [Likeness.Meets] at meets
  rcases ran : runBody these (first.withBuilder (first.builder.enter ending.scope)) with
    ⟨_, last⟩ | ⟨error | fault, last⟩
  · rw [ran] at meets
    have leaves := sound.leaves due
      (Ends.of_ok ran (proceeds (first.withBuilder (first.builder.enter ending.scope)) entered.1.sound entered.2))
    have runs := Ending.run_of_returned loc sound due proceeds ran
    refine .of_counts fun later ended counts ↦ ?_
    have counted : likeness.Counts last.trace := by
      rw [EndsIn, runs] at ended
      rwa [Ending.trace_of_finish leaves.due ended] at counts
    obtain ⟨_, final, again, followed⟩ := meets counted
    have finished := finishes last final ran again followed
    rw [Likeness.Meets, ← runs] at finished
    rw [Likeness.Meets, Ending.run_of_returned loc also owed proceeding again]
    exact finished
  · rw [ran] at meets
    rw [Likeness.Meets, Ending.run_of_refused loc sound due proceeds ran]
    intro counts sure
    obtain ⟨again, final, refused, followed⟩ := meets counts sure
    exact ⟨again, _, Ending.run_of_refused loc also owed proceeding refused, drops error last final sure followed⟩
  · rw [ran] at meets
    rw [Likeness.Meets, Ending.run_of_broken loc ran]
    trivial

section Ends

variable {ending other : Ending} (endings : likeness.Endings ending other)
  (recording : likeness.Recording first.builder second.builder) {last final : Session}
  (followed : likeness.Sessions last final)

include endings recording followed

/-- A construct is finished in both sessions, after bodies that have ended alike. -/
theorem Ending.finish_mirrors (sound : first.builder.Sound) (also : second.builder.Sound)
    (due : ending.Due first.builder.control) (owed : other.Due second.builder.control) (loc : Location)
    {these those : List Step}
    (closable : likeness.Closable (first.builder.left last.builder ending.scope)
      (second.builder.left final.builder other.scope) other)
    (ran : runBody these (first.withBuilder (first.builder.enter ending.scope)) = .ok () last)
    (again : runBody those (second.withBuilder (second.builder.enter other.scope)) = .ok () final) :
    likeness.Mirrors (ending.finish loc (last.builder.recordedIn ending.scope))
      (other.finish loc (final.builder.recordedIn other.scope))
      (last.withBuilder (first.builder.left last.builder ending.scope))
      (final.withBuilder (second.builder.left final.builder other.scope)) := by
  have entered := sound.enters due
  have entering := also.enters owed
  have leaves := sound.leaves due (Ends.of_ok ran
    ((proceed these).1 (first.withBuilder (first.builder.enter ending.scope)) entered.1.sound entered.2))
  have stays := Ends.of_ok again
    ((proceed those).1 (second.withBuilder (second.builder.enter other.scope)) entering.1.sound entering.2)
  have leaving := also.leaves owed stays
  have inside : ∀ construct, other.scope = .within construct → likeness.Tracks last.builder final.builder := by
    intro construct within
    obtain ⟨frame, base, top, rfl⟩ := owed.inside within
    obtain ⟨-, place⟩ := also.enterConstruct top
    rw [within] at stays
    obtain ⟨later, here, -⟩ := stays.level.inside _ _ place
    exact followed.builder.tracks_of_flushed (Builder.flushed_of_atConstruct stays.sound.stacked here)
  have left : likeness.Tracks (first.builder.left last.builder ending.scope)
      (second.builder.left final.builder other.scope) := by
    rw [endings.scope]
    exact recording.left followed.builder inside
  have recorded : likeness.Bodies (last.builder.recordedIn ending.scope) (final.builder.recordedIn other.scope) := by
    rw [endings.scope]
    exact followed.builder.recordedIn ⟨stays.sound.stacked, stays.level.placed entering.2⟩ other.scope
  exact .of_lockstep (Ending.finish_lockstep endings closable (followed.withBuilder (.of_tracks left)) left leaves.sound
    leaving.sound leaves.due leaving.due loc recorded)

/-- A construct is dropped in both sessions. -/
theorem Ending.sessions_dropped {error : BuildError} (sure : likeness.strict error) :
    likeness.Sessions (last.withBuilder (first.builder.dropped last.builder ending))
      (final.withBuilder (second.builder.dropped final.builder other)) :=
  followed.withBuilder (.of_tracks (recording.dropped (followed.builder.tracks_of_strict sure) endings))

end Ends

/-- A construct is opened, runs its body and is finished in both sessions, whatever bodies it has in them. -/
theorem construct_mirrors {loc : Location} {call again : Call (List Step)} {opening : Run Ending}
    {these those : List Step} (opens : call.opening loc = some opening) (reopens : again.opening loc = some opening)
    (inner : call.body? = some these) (within : again.body? = some those) (fits : call.Fits likeness)
    (stands : first.Stands) (standing : second.Stands) (alike : likeness.Sessions first second)
    (bodies : likeness.Follow runBody these those) :
    likeness.Mirrors (runCall loc call) (runCall loc again) first second := by
  rw [runCall_eq_opening opens inner, runCall_eq_opening reopens within]
  have step := Call.opening_lockstep alike stands standing opens fits
  rcases ran : opening first with ⟨ending, opened⟩ | ⟨error | fault, opened⟩
  · obtain ⟨other, last, rerun, ⟨endings, steady⟩, same, tracks⟩ := step.of_ok ran
    have made := Ends.of_ok ran (Call.opening_ends opens stands.sound stands.placed)
    have remade := Ends.of_ok rerun (Call.opening_ends opens standing.sound standing.placed)
    have due := made.builder.due stands.sound.stacked
    have owed := remade.builder.due standing.sound.stacked
    have entered := made.leads.sound.enters due
    have entering := remade.leads.sound.enters owed
    have within := bodies _ _ ⟨entered.1.sound, entered.2⟩ ⟨entering.1.sound, entering.2⟩ (same.enter tracks endings)
    have mirrors := Ending.run_meets made.leads.sound remade.leads.sound due owed loc within
      (fun _ _ returned again alike ↦ Ending.finish_mirrors endings tracks.recording alike made.leads.sound
        remade.leads.sound due owed loc (endings.closable steady _ _) returned again)
      fun _ _ _ sure alike ↦ Ending.sessions_dropped endings tracks.recording alike sure
    simp only [Likeness.Meets, bind, EStateM.bind, ran, rerun] at mirrors ⊢
    exact mirrors
  · simp only [Likeness.Meets, bind, EStateM.bind, ran]
    intro _ sure
    obtain ⟨other, last, refused, same⟩ := step.of_refused ran sure
    exact ⟨other, last, by rw [refused], same⟩
  · simp only [Likeness.Meets, bind, EStateM.bind, ran]

end Construct

/-! ## Calls without a body -/

section Simple

variable {likeness : Likeness} {first second : Session} (alike : likeness.Sessions first second)

include alike

theorem Run.storeValue_lockstep (name : Option String) (value : Value) :
    Lockstep likeness.strict (Run.storeValue name (likeness.value value)) (Run.storeValue name value) first second
      (fun _ _ ↦ likeness.Sessions) likeness.Sessions := by
  cases name with
  | none => exact Lockstep.pure_ alike
  | some name =>
    exact Lockstep.modify_
      ⟨alike.builder, alike.environment.storeValue name value, alike.fresh, alike.found, alike.trace⟩

theorem Run.ongoing_lockstep (stands : first.Stands) (standing : second.Stands) {key : String}
    (seen : ¬likeness.unknown key) (state : String) (storeAs : Option String) (loc : Location) :
    Lockstep likeness.strict (Run.ongoing key state storeAs loc) (Run.ongoing key state storeAs loc) first second
      (fun _ _ ↦ likeness.Sessions) likeness.Sessions := by
  refine Lockstep.get_ ?_
  rw [alike.environment.machines key seen]
  cases second.environment.machines.get? key with
  | none => exact Lockstep.pure_ alike
  | some id =>
    refine Lockstep.bind (Run.build_lockstep ((Build.ongoing_lockstep alike.builder stands.sound standing.sound id state
      loc).mono ?_ fun _ _ lags ↦ alike.withBuilder lags))
    rintro _ value builder last ⟨rfl, lags⟩
    exact Lockstep.bind ((Run.storeValue_lockstep (alike.withBuilder lags) storeAs value).mono
      (fun _ _ _ _ same ↦ Lockstep.pure_ same) fun _ _ same ↦ same)

theorem Run.machineInfo_lockstep {key : String} (seen : ¬likeness.unknown key) (storeAs : Option String) :
    Lockstep likeness.strict (Run.machineInfo key storeAs) (Run.machineInfo key storeAs) first second
      (fun _ _ ↦ likeness.Sessions) likeness.Sessions := by
  refine Lockstep.get_ ?_
  rw [alike.environment.machines key seen]
  cases second.environment.machines.get? key with
  | none => exact Lockstep.pure_ alike
  | some id =>
    refine Lockstep.get_ ?_
    have register : first.builder.machineRegister? (likeness.ids id) =
        (second.builder.machineRegister? id).map likeness.signal := by
      have pair := alike.builder.rest.machines id
      rw [Builder.machineRegister?, Builder.machineRegister?]
      generalize first.builder.machines.get? (likeness.ids id) = machine at pair ⊢
      generalize second.builder.machines.get? id = other at pair ⊢
      cases pair with
      | none => rfl
      | some same => exact same.register
    dsimp only
    rw [register]
    cases second.builder.machineRegister? id with
    | none => exact Lockstep.pure_ alike
    | some signal =>
      exact Lockstep.bind ((Run.storeValue_lockstep alike storeAs (.signal signal)).mono
        (fun _ _ _ _ same ↦ Lockstep.pure_ same) fun _ _ same ↦ same)

/-- A call without a body does the same in both sessions. -/
theorem simple_lockstep (stands : first.Stands) (standing : second.Stands) (loc : Location) {call : Call (List Step)}
    (simple : call.body? = none) (fits : call.Fits likeness) :
    Lockstep likeness.strict (runCall loc call) (runCall loc call) first second (fun _ _ ↦ likeness.Sessions)
      likeness.Sessions := by
  have answered : ∀ {α : Type} {action : Run α}, Lockstep likeness.strict action action first second
      (fun _ _ ↦ likeness.Sessions) likeness.Sessions → Lockstep likeness.strict
        (action >>= fun _ ↦ pure Answer.nothing) (action >>= fun _ ↦ pure Answer.nothing) first second
        (fun _ _ ↦ likeness.Sessions) likeness.Sessions :=
    fun step ↦ Lockstep.bind (step.mono (fun _ _ _ _ same ↦ Lockstep.pure_ same) fun _ _ same ↦ same)
  have lags := alike.builder
  have built : ∀ {α : Type} {call : Build α}, Lockstep likeness.strict call call first.builder second.builder
      (fun _ _ ↦ likeness.Lags) likeness.Lags → Lockstep likeness.strict (Run.build call) (Run.build call) first second
        (fun _ _ ↦ likeness.Sessions) likeness.Sessions := fun step ↦
    Run.build_lockstep (step.mono (fun _ _ _ _ lags ↦ alike.withBuilder lags) fun _ _ lags ↦ alike.withBuilder lags)
  cases call with
  | add domain statements =>
    refine answered (Lockstep.get_ (Lockstep.bind (Run.sound_lockstep (alike.environment.statements_eq statements fits)
      fun values _ ↦ Run.build_lockstep ?_)))
    exact (Build.add_lockstep lags stands.control standing.control domain values loc).mono
      (fun _ _ _ _ tracks ↦ alike.withBuilder (.of_tracks tracks)) fun _ _ lags ↦ alike.withBuilder lags
  | goto state =>
    exact answered (built ((Build.goto_lockstep lags stands.control standing.control state loc).mono
      (fun _ _ _ _ tracks ↦ .of_tracks tracks) fun _ _ lags ↦ lags))
  | ongoing key state storeAs =>
    exact Run.ongoing_lockstep alike stands standing (fits _ (List.mem_singleton_self _)) state storeAs loc
  | machineInfo key storeAs => exact Run.machineInfo_lockstep alike (fits _ (List.mem_singleton_self _)) storeAs
  | component name component =>
    exact answered (built (Build.addPart_lockstep lags name loc fun domain _ ↦ .refl domain component))
  | part name => exact answered (built (Build.part_lockstep lags (fits _ (List.mem_singleton_self _)) loc))
  | domain domain =>
    refine answered (built (Lockstep.bind ?_))
    cases checked : domain.check loc with
    | ok value => exact Lockstep.pure_ (Build.addDomain_lockstep lags domain loc)
    | error error => exact Lockstep.throw_refused lags
  | raise message => exact Lockstep.throw_refused alike
  | settings => exact Lockstep.get_ (Lockstep.pure_ alike)
  | _ => simp [Call.body?] at simple

end Simple

/-! ## Modules -/

section Module

variable {likeness : Likeness} {first second : Session}

/-- The session in which the steps of a module start. -/
def Session.inModule (session : Session) (settings : Settings) (loc : Location) : Session :=
  { session with builder := .start settings session.started loc, started := session.started + 1 }

/-- A module starts alike in both sessions, with a builder of its own. -/
theorem Likeness.sessions_inModule (environment : likeness.Environments first.environment second.environment)
    (fresh : ∀ count index, likeness.ids ⟨second.started + count, index⟩ = ⟨first.started + count, index⟩)
    (found : ∀ count index, likeness.Untouched ⟨second.started + count, index⟩)
    (trace : likeness.traces first.trace second.trace) (settings : Settings) (loc : Location) :
    likeness.Sessions (first.inModule settings loc) (second.inModule settings loc) where
  builder := by
    have bare : ∀ (session : Session) (id : MachineId), (session.inModule settings loc).builder.machines.get? id = none := by
      intro session id
      simp [Session.inModule, Builder.start, Arena.empty, Arena.get?]
    refine .of_tracks ⟨⟨rfl, fun _ _ found ↦ absurd found.symm (Option.some_ne_none _),
      fun _ _ found ↦ absurd found.symm (Option.some_ne_none _),
      fun id ↦ by rw [bare, bare]; exact .none, fun count ↦ ?_, fun count ↦ ?_, ⟨fun _ mem ↦ mem, fun _ ↦ .inl⟩,
      ⟨fun _ mem ↦ mem, fun _ ↦ .inl⟩, fun _ _ ↦ rfl, fun _ _ ↦ .nil, fun _ _ ↦ .nil⟩, ⟨.nil, rfl, rfl⟩, fun _ _ ↦ rfl⟩
    · exact fresh 0 _
    · exact found 0 _
  environment := environment
  fresh count index := by
    have later := fresh (count + 1) index
    rwa [← Nat.add_assoc, Nat.add_right_comm, ← Nat.add_assoc, Nat.add_right_comm first.started] at later
  found count index := by
    have later := found (count + 1) index
    rwa [← Nat.add_assoc, Nat.add_right_comm] at later
  trace := trace

theorem Likeness.Sessions.module (alike : likeness.Sessions first second) (settings : Settings) (loc : Location) :
    likeness.Sessions (first.inModule settings loc) (second.inModule settings loc) :=
  likeness.sessions_inModule alike.environment alike.fresh alike.found alike.trace settings loc

theorem runCall_module_of_returned {loc : Location} {name : Option String} {settings : Settings} {body : List Step}
    {session last : Session} (ran : runAll body (session.inModule settings loc) = .ok () last) :
    runCall loc (.module name settings body) session =
      (Run.build (Build.addPart name last.builder.toComponent loc) >>= fun _ ↦ pure Answer.nothing)
        (last.withBuilder session.builder) := by
  change runAll body { session with builder := .start settings session.started loc, started := session.started + 1 } =
    .ok () last at ran
  simp only [runCall, Run.module, bind, EStateM.bind, get_apply, modify_apply, ran]
  rfl

theorem runCall_module_of_error {loc : Location} {name : Option String} {settings : Settings} {body : List Step}
    {session last : Session} {failure : Failure} (ran : runAll body (session.inModule settings loc) = .error failure last) :
    runCall loc (.module name settings body) session = .error failure last := by
  change runAll body { session with builder := .start settings session.started loc, started := session.started + 1 } =
    .error failure last at ran
  simp only [runCall, Run.module, bind, EStateM.bind, get_apply, modify_apply, ran]

theorem runAll_inModule {steps : List Step} {settings : Settings} {loc : Location} {session last : Session}
    (ran : runAll steps (session.inModule settings loc) = .ok () last) :
    last.builder.Sound ∧ ∃ behind, last.builder.control.AtBody behind [] := by
  have placed : (session.inModule settings loc).builder.control.Placed := Builder.placed_start ..
  have stays := Ends.of_ok ran ((proceed steps).2 _ (Builder.sound_start ..) placed)
  exact ⟨stays.sound, (stays.level.placed placed).atModule stays.level.depth⟩

/-- The steps of a module run on a builder of their own in both sessions, and the modules become parts. -/
theorem module_meets {related : Session → Session → Prop} {loc : Location} (name : Option String) (settings : Settings)
    {these those : List Step}
    (meets : likeness.Meets related (runAll these) (runAll those) (first.inModule settings loc)
      (second.inModule settings loc))
    (joins : ∀ last final, runAll these (first.inModule settings loc) = .ok () last →
      runAll those (second.inModule settings loc) = .ok () final → related last final →
        likeness.Meets related (Run.build (Build.addPart name last.builder.toComponent loc) >>= fun _ ↦ pure Answer.nothing)
          (Run.build (Build.addPart name final.builder.toComponent loc) >>= fun _ ↦ pure Answer.nothing)
          (last.withBuilder first.builder) (final.withBuilder second.builder)) :
    likeness.Meets related (runCall loc (.module name settings these)) (runCall loc (.module name settings those)) first
      second := by
  rw [Likeness.Meets] at meets
  rcases ran : runAll these (first.inModule settings loc) with ⟨_, last⟩ | ⟨error | fault, last⟩
  · rw [ran] at meets
    refine .of_counts fun later ended counts ↦ ?_
    have counted : likeness.Counts last.trace := by
      have kept : Ends (Run.build (Build.addPart name last.builder.toComponent loc) >>= fun _ ↦ pure Answer.nothing)
          (last.withBuilder first.builder) (.always last.Extends) :=
        (ends_bind ..).2 ((Run.build_extends _ (last.withBuilder first.builder)).mono (fun _ _ grown ↦ grown)
          fun _ _ grown ↦ grown)
      rw [EndsIn, runCall_module_of_returned ran] at ended
      exact counts.of_prefix (EndsIn.holds ended kept)
    obtain ⟨_, final, again, followed⟩ := meets counted
    have joined := joins last final ran again followed
    rw [Likeness.Meets] at joined
    rw [Likeness.Meets, runCall_module_of_returned ran, runCall_module_of_returned again]
    exact joined
  · rw [ran] at meets
    rw [Likeness.Meets, runCall_module_of_error ran]
    intro counts sure
    obtain ⟨again, final, refused, followed⟩ := meets counts sure
    exact ⟨again, final, runCall_module_of_error refused, followed⟩
  · rw [Likeness.Meets, runCall_module_of_error ran]
    trivial

/-- Modules whose steps have ended alike become parts that agree. -/
theorem addPart_mirrors {loc : Location} (name : Option String) {settings : Settings} {these those : List Step}
    (outer : likeness.Lags first.builder second.builder) {last final : Session}
    (ran : runAll these (first.inModule settings loc) = .ok () last)
    (again : runAll those (second.inModule settings loc) = .ok () final) (followed : likeness.Sessions last final) :
    likeness.Mirrors (Run.build (Build.addPart name last.builder.toComponent loc) >>= fun _ ↦ pure Answer.nothing)
      (Run.build (Build.addPart name final.builder.toComponent loc) >>= fun _ ↦ pure Answer.nothing)
      (last.withBuilder first.builder) (final.withBuilder second.builder) := by
  have back : likeness.Sessions (last.withBuilder first.builder) (final.withBuilder second.builder) :=
    followed.withBuilder outer
  obtain ⟨settled, behind, place⟩ := runAll_inModule ran
  obtain ⟨also, grown, there⟩ := runAll_inModule again
  refine .of_lockstep (Lockstep.bind (Run.build_lockstep ((Build.addPart_lockstep back.builder name loc fun domain seen ↦
    followed.builder.components settled also place there seen).mono ?_ fun _ _ lags ↦ back.withBuilder lags)))
  exact fun _ _ _ _ lags ↦ Lockstep.pure_ (back.withBuilder lags)

end Module

/-! ## Steps -/

/-- The same call with another body, if it has one. -/
def Call.withBody (call : Call (List Step)) (body : List Step) : Call (List Step) :=
  match call with
  | .ifThen condition _ => .ifThen condition body
  | .elseIf condition _ => .elseIf condition body
  | .otherwise _ => .otherwise body
  | .switch test _ => .switch test body
  | .case patterns _ => .case patterns body
  | .default _ => .default body
  | .machine name clock initial key _ => .machine name clock initial key body
  | .state name _ => .state name body
  | .module name chosen _ => .module name chosen body
  | other => other

/-- The same steps, save for some that add statements to one of the domains that may be dropped. -/
inductive Step.Omits (drops : String → Prop) : List Step → List Step → Prop
  | nil : Omits drops [] []
  | omitted {domain : String} (dropped : drops domain) (statements : List StatementTerm) (label : String)
    (loc : Location) (caught : Bool) {these those : List Step} (rest : Omits drops these those) :
    Omits drops (⟨.add domain statements, label, loc, caught⟩ :: these) those
  | kept (step : Step) (simple : step.call.body? = none) {these those : List Step} (rest : Omits drops these those) :
    Omits drops (step :: these) (step :: those)
  | within (step : Step) {body other : List Step} (inner : step.call.body? = some body) (bodies : Omits drops body other)
    {these those : List Step} (rest : Omits drops these those) :
    Omits drops (step :: these) ({ step with call := step.call.withBody other } :: those)

/-- A property of all calls at any depth. -/
inductive Step.Every (holds : Call (List Step) → Prop) : List Step → Prop
  | nil : Every holds []
  | cons {step : Step} {rest : List Step} (here : holds step.call)
    (within : ∀ body, step.call.body? = some body → Every holds body) (others : Every holds rest) :
    Every holds (step :: rest)

theorem Step.every_of {holds : Call (List Step) → Prop} (all : ∀ call, holds call) (steps : List Step) :
    Step.Every holds steps := by
  induction steps using Step.list_induction with
  | nil => exact .nil
  | cons step rest bodies ih => exact .cons (all step.call) bodies ih

theorem Call.body?_withBody {call : Call (List Step)} {body : List Step} (inner : call.body? = some body)
    (other : List Step) : (call.withBody other).body? = some other := by
  cases call with
  | add => simp [Call.body?] at inner
  | goto => simp [Call.body?] at inner
  | ongoing => simp [Call.body?] at inner
  | machineInfo => simp [Call.body?] at inner
  | component => simp [Call.body?] at inner
  | part => simp [Call.body?] at inner
  | domain => simp [Call.body?] at inner
  | raise => simp [Call.body?] at inner
  | settings => simp [Call.body?] at inner
  | _ => rfl

theorem Call.opening_withBody (loc : Location) (call : Call (List Step)) (other : List Step) :
    (call.withBody other).opening loc = call.opening loc := by cases call <;> rfl

theorem Call.mentions_withBody (call : Call (List Step)) (other : List Step) :
    (call.withBody other).mentions = call.mentions := by cases call <;> rfl

theorem Call.withBody_self {call : Call (List Step)} {body : List Step} (inner : call.body? = some body) :
    call.withBody body = call := by
  cases call <;> simp_all [Call.body?, Call.withBody]

/-- Nothing has to be dropped. -/
theorem Step.Omits.refl (drops : String → Prop) (steps : List Step) : Step.Omits drops steps steps := by
  induction steps using Step.list_induction with
  | nil => exact .nil
  | cons step rest bodies ih =>
    obtain ⟨call, label, loc, caught⟩ := step
    cases inner : call.body? with
    | none => exact .kept _ inner ih
    | some body =>
      have same := Step.Omits.within ⟨call, label, loc, caught⟩ inner (bodies body inner) ih
      rw [Call.withBody_self inner] at same
      exact same

section Steps

variable {likeness : Likeness} {first second : Session}

theorem Run.traced_meets {related : Session → Session → Prop} (label : String) (loc : Location)
    {action other : Run Answer} (meets : likeness.Meets related action other first second)
    (traced : ∀ {later last : Session} {entry other : Entry}, related later last → entry.Like other →
      related { later with trace := later.trace ++ [entry] } { last with trace := last.trace ++ [other] }) :
    likeness.Meets related (Run.traced label loc action) (Run.traced label loc other) first second := by
  rcases ran : action first with ⟨answer, later⟩ | ⟨error | fault, later⟩
  · rw [Likeness.Meets, ran] at meets
    simp only [Likeness.Meets, Run.traced, bind, EStateM.bind, Run.settle, ran, modify_apply, pure, EStateM.pure]
    intro counts
    obtain ⟨result, last, again, same⟩ := meets (counts.of_prefix (List.prefix_append ..))
    rw [again]
    exact ⟨_, _, rfl, traced same ⟨rfl, rfl, iff_of_true ⟨_, rfl⟩ ⟨_, rfl⟩⟩⟩
  · rw [Likeness.Meets, ran] at meets
    simp only [Likeness.Meets, Run.traced, bind, EStateM.bind, Run.settle, ran, modify_apply, throw_apply]
    intro counts sure
    obtain ⟨again, last, refused, same⟩ := meets (counts.of_prefix (List.prefix_append ..)) sure
    rw [refused]
    exact ⟨_, _, rfl, traced same ⟨rfl, rfl, iff_of_false (by simp) (by simp)⟩⟩
  · simp only [Likeness.Meets, Run.traced, bind, EStateM.bind, Run.settle, ran]

theorem Run.traced_mirrors (label : String) (loc : Location) {action other : Run Answer}
    (mirrors : likeness.Mirrors action other first second) :
    likeness.Mirrors (Run.traced label loc action) (Run.traced label loc other) first second :=
  Run.traced_meets label loc mirrors fun alike same ↦ alike.traced same

/-- If a step is refused, the refusal is in the part of the trace that counts. -/
def Likeness.Marks (likeness : Likeness) (action : Run Unit) (session : Session) : Prop :=
  Ends action session ⟨fun _ _ ↦ True, fun error later ↦ likeness.Counts later.trace → likeness.strict error⟩

theorem Run.traced_marks (label : String) (loc : Location) {action : Run Answer}
    (reaches : Ends action first (.always fun later ↦ likeness.start ≤ later.trace.length)) :
    likeness.Marks (Run.traced label loc action) first := by
  refine (Run.ends_traced ..).2 (reaches.mono (fun _ _ _ ↦ trivial) fun error later length counts ↦ ?_)
  refine counts ⟨label, loc, later.builder.diagnostics.length, .error error⟩ ?_ error rfl
  rw [List.drop_append_of_le_length length]
  exact List.mem_append_right _ (List.mem_singleton_self _)

theorem Step.marks (step : Step) (alike : likeness.Sessions first second) : likeness.Marks step.run first := by
  obtain ⟨call, label, loc, caught⟩ := step
  have keeps : Run.Keeps Session.Extends (runCall loc call) :=
    runCall_keeps adding_extends loc (fun body _ ↦ steps_extend body) fun _ _ _ ↦ trivial
  exact Run.traced_marks label loc ((keeps first).mono_always fun later grown ↦
    Nat.le_trans (likeness.reached alike.trace) grown.length_le)

section Related

variable {related : Session → Session → Prop}

theorem Likeness.Meets.bind {α β γ δ : Type} {action : Run α} {other : Run β} {next : α → Run γ} {then_ : β → Run δ}
    (here : likeness.Meets related action other first second)
    (grows : ∀ value later, action first = .ok value later → Ends (next value) later (.always later.Extends))
    (rest : ∀ value result later last, action first = .ok value later → other second = .ok result last →
      related later last → likeness.Meets related (next value) (then_ result) later last) :
    likeness.Meets related (action >>= next) (other >>= then_) first second := by
  rcases ran : action first with ⟨value, later⟩ | ⟨error | fault, later⟩
  · refine .of_counts fun final ended counts ↦ ?_
    have counted : likeness.Counts later.trace := by
      simp only [EndsIn, Bind.bind, EStateM.bind, ran] at ended
      exact counts.of_prefix (EndsIn.holds ended (grows value later ran))
    rw [Meets, ran] at here
    obtain ⟨result, last, again, same⟩ := here counted
    have meets := rest value result later last ran again same
    simp only [Meets, Bind.bind, EStateM.bind, ran, again] at meets ⊢
    exact meets
  · rw [Meets, ran] at here
    simp only [Meets, Bind.bind, EStateM.bind, ran]
    intro counts sure
    obtain ⟨again, last, refused, same⟩ := here counts sure
    exact ⟨again, last, by rw [refused], same⟩
  · simp only [Meets, Bind.bind, EStateM.bind, ran]

theorem Run.caught_meets {action other : Run Unit} (here : likeness.Meets related action other first second)
    (marks : likeness.Marks action first) :
    likeness.Meets related (Run.caught action) (Run.caught other) first second := by
  rw [Likeness.Meets] at here
  rcases ran : action first with ⟨value, later⟩ | ⟨error | fault, later⟩
  · rw [ran] at here
    simp only [Likeness.Meets, Run.caught, Bind.bind, EStateM.bind, Run.settle, ran, pure, EStateM.pure]
    intro counts
    obtain ⟨result, last, again, same⟩ := here counts
    exact ⟨(), last, by rw [again], same⟩
  · rw [ran] at here
    simp only [Likeness.Meets, Run.caught, Bind.bind, EStateM.bind, Run.settle, ran, pure, EStateM.pure]
    intro counts
    obtain ⟨again, last, refused, same⟩ := here counts (Ends.of_refused ran marks counts)
    exact ⟨(), last, by rw [refused], same⟩
  · simp only [Likeness.Meets, Run.caught, Bind.bind, EStateM.bind, Run.settle, ran]

end Related

/-- Between two steps, the session stands. -/
theorem Step.stands (step : Step) {session : Session} (stands : session.Stands) :
    Ends step.run session (.always Session.Stands) :=
  (step.run_proceeds (fun body _ ↦ proceed body) session stands.sound stands.placed).mono_always fun _ stays ↦
    ⟨stays.sound, stays.level.placed stands.placed⟩

theorem Step.stands_caught (step : Step) {session : Session} (stands : session.Stands) :
    Ends (Run.caught step.run) session (.always Session.Stands) := (Run.ends_caught ..).2 (step.stands stands)

section Cons

variable {related : Session → Session → Prop} {step again : Step} {these those : List Step} (stands : first.Stands)
  (standing : second.Stands) (here : likeness.Meets related step.run again.run first second)
  (marks : likeness.Marks step.run first)

include stands standing here marks

/-- What holds of two steps and of those behind them holds of all of them together. -/
theorem Likeness.Meets.all_cons (follow : ∀ later last : Session, later.Stands → last.Stands → related later last →
    likeness.Meets related (runAll these) (runAll those) later last) :
    likeness.Meets related (runAll (step :: these)) (runAll (again :: those)) first second := by
  refine (Run.caught_meets here marks).bind (fun _ later _ ↦ (steps_extend these).2 later) ?_
  intro _ _ later last ran rerun same
  exact follow later last (Ends.of_ok ran (step.stands_caught stands)) (Ends.of_ok rerun (again.stands_caught standing))
    same

theorem Likeness.Meets.body_cons (same : again.caught = step.caught)
    (follow : ∀ later last : Session, later.Stands → last.Stands → related later last →
      likeness.Meets related (runBody these) (runBody those) later last) :
    likeness.Meets related (runBody (step :: these)) (runBody (again :: those)) first second := by
  simp only [runBody, same]
  split
  · refine (Run.caught_meets here marks).bind (fun _ later _ ↦ (steps_extend these).1 later) ?_
    intro _ _ later last ran rerun alike
    exact follow later last (Ends.of_ok ran (step.stands_caught stands))
      (Ends.of_ok rerun (again.stands_caught standing)) alike
  · refine here.bind (fun _ later _ ↦ (steps_extend these).1 later) fun _ _ later last ran rerun alike ↦ ?_
    exact follow later last (Ends.of_ok ran (step.stands stands)) (Ends.of_ok rerun (again.stands standing)) alike

end Cons

/-! ### Steps of the first run alone -/

/-- What is added to a domain that is not observed is added in the first run alone. -/
theorem Step.add_left (alike : likeness.Sessions first second) (stands : first.Stands) (standing : second.Stands)
    (lenient : likeness.lenient) {domain : String} (unseen : ¬likeness.observed domain)
    (statements : List StatementTerm) (label : String) (loc : Location) (caught : Bool) :
    Ends (Step.run ⟨.add domain statements, label, loc, caught⟩) first
      ⟨fun _ later ↦ likeness.Sessions later second, fun _ _ ↦ True⟩ := by
  refine (Run.ends_traced ..).2 ?_
  simp only [runCall, Run.addStatements, ends_bind, ends_get, ends_pure, Run.ends_sound, Run.ends_build]
  intro values evaluated
  refine Build.add_ends stands.sound.stacked stands.placed domain values loc (fun advice _ _ _ ↦ ?_)
    (fun _ ↦ trivial) fun _ _ _ _ ↦ trivial
  have noted : likeness.Lags (first.builder.noted advice) second.builder := by
    have both := alike.builder.noted advice []
    rwa [Builder.noted_nil] at both
  exact ⟨noted.recorded_left standing.control lenient unseen values, alike.environment, alike.fresh, alike.found,
    likeness.skipped lenient _ alike.trace⟩

/-- A step of the first run alone does not matter if the run is only followed while it is accepted. -/
theorem Likeness.Meets.skip {step : Step} {next other : Run Unit} (lenient : likeness.lenient)
    (here : Ends step.run first ⟨fun _ later ↦ likeness.Mirrors next other later second, fun _ _ ↦ True⟩)
    (marks : likeness.Marks step.run first) (grows : ∀ later : Session, Ends next later (.always later.Extends)) :
    likeness.Mirrors (Run.caught step.run >>= fun _ ↦ next) other first second ∧
      likeness.Mirrors (step.run >>= fun _ ↦ next) other first second := by
  rcases ran : step.run first with ⟨_, later⟩ | ⟨error | fault, later⟩
  · have mirrors := here.of_ok ran
    simp only [Meets, Run.caught, Bind.bind, EStateM.bind, Run.settle, ran, pure, EStateM.pure] at mirrors ⊢
    exact ⟨mirrors, mirrors⟩
  · constructor
    · refine .of_counts fun last ended counts ↦ ?_
      simp only [EndsIn, Run.caught, Bind.bind, EStateM.bind, Run.settle, ran, pure, EStateM.pure] at ended
      have sure := Ends.of_refused ran marks (counts.of_prefix (EndsIn.holds ended (grows later)))
      exact absurd sure (likeness.ordinary lenient error)
    · simp only [Meets, Bind.bind, EStateM.bind, ran]
      exact fun _ sure ↦ absurd sure (likeness.ordinary lenient error)
  · simp only [Meets, Run.caught, Bind.bind, EStateM.bind, Run.settle, ran, and_self]

/-- Steps of which some that add to domains that are not observed are missing go with all of them. -/
theorem Step.Omits.follow {drops : String → Prop} {these those : List Step} (omits : Step.Omits drops these those)
    (unseen : ∀ domain, drops domain → likeness.lenient ∧ ¬likeness.observed domain)
    (fits : Step.Every (Call.Fits likeness) those) :
    likeness.Follow runBody these those ∧ likeness.Follow runAll these those := by
  induction omits with
  | nil =>
    refine ⟨fun _ _ _ _ alike ↦ ?_, fun _ _ _ _ alike ↦ ?_⟩
    · exact .of_lockstep (Lockstep.pure_ alike)
    · exact .of_lockstep (Lockstep.pure_ alike)
  | @omitted domain dropped statements label loc caught these those rest ih =>
    obtain ⟨lenient, hidden⟩ := unseen domain dropped
    obtain ⟨body, all⟩ := ih fits
    have kept : ∀ {first second : Session} {next other : Run Unit}, first.Stands → second.Stands →
        likeness.Sessions first second →
        (∀ later : Session, later.Stands → likeness.Sessions later second → likeness.Mirrors next other later second) →
        Ends (Step.run ⟨.add domain statements, label, loc, caught⟩) first
          ⟨fun _ later ↦ likeness.Mirrors next other later second, fun _ _ ↦ True⟩ := by
      intro first second next other stands standing alike follows
      refine ((Step.add_left alike stands standing lenient hidden statements label loc caught).and
        (Step.stands _ stands)).mono ?_ fun _ _ _ ↦ trivial
      exact fun _ later ⟨same, stands⟩ ↦ follows later stands same
    refine ⟨fun first second stands standing alike ↦ ?_, fun first second stands standing alike ↦ ?_⟩
    · have skips := Likeness.Meets.skip lenient
        (kept stands standing alike fun later now same ↦ body later second now standing same) (Step.marks _ alike)
        (steps_extend these).1
      simp only [runBody]
      split
      · exact skips.1
      · exact skips.2
    · exact (Likeness.Meets.skip lenient
        (kept stands standing alike fun later now same ↦ all later second now standing same) (Step.marks _ alike)
        (steps_extend these).2).1
  | kept step simple rest ih =>
    cases fits with | cons here _ others =>
    obtain ⟨body, all⟩ := ih others
    have mirrors : ∀ {first second : Session}, first.Stands → second.Stands → likeness.Sessions first second →
        likeness.Mirrors step.run step.run first second := by
      intro first second stands standing alike
      obtain ⟨call, label, loc, caught⟩ := step
      exact Run.traced_mirrors label loc (.of_lockstep (simple_lockstep alike stands standing loc simple here))
    refine ⟨fun first second stands standing alike ↦ ?_, fun first second stands standing alike ↦ ?_⟩
    · exact Likeness.Meets.body_cons stands standing (mirrors stands standing alike) (step.marks alike) rfl body
    · exact Likeness.Meets.all_cons stands standing (mirrors stands standing alike) (step.marks alike) all
  | @within step body other inner bodies these those rest ih_bodies ih =>
    cases fits with | cons here within others =>
    obtain ⟨follow, all⟩ := ih others
    have inside := ih_bodies (within _ (Call.body?_withBody inner other))
    have mirrors : ∀ {first second : Session}, first.Stands → second.Stands → likeness.Sessions first second →
        likeness.Mirrors step.run (Step.run { step with call := step.call.withBody other }) first second := by
      intro first second stands standing alike
      obtain ⟨call, label, loc, caught⟩ := step
      refine Run.traced_mirrors label loc ?_
      rw [Call.Fits, Call.mentions_withBody] at here
      cases construct : call.isConstruct with
      | true =>
        obtain ⟨opening, _, opens, -⟩ := Call.exists_opening construct loc
        exact construct_mirrors opens ((Call.opening_withBody ..).trans opens) inner (Call.body?_withBody inner other)
          here stands standing alike inside.1
      | false =>
        cases call with
        | module name chosen steps =>
          obtain rfl := Option.some.inj inner
          refine module_meets name chosen (inside.2 _ _ ?_ ?_ (alike.module chosen loc))
            fun _ _ ran again followed ↦ addPart_mirrors name alike.builder ran again followed
          · exact ⟨Builder.sound_start .., Builder.placed_start ..⟩
          · exact ⟨Builder.sound_start .., Builder.placed_start ..⟩
        | _ => simp_all [Call.isConstruct, Call.body?]
    refine ⟨fun first second stands standing alike ↦ ?_, fun first second stands standing alike ↦ ?_⟩
    · exact Likeness.Meets.body_cons stands standing (mirrors stands standing alike) (step.marks alike) rfl follow
    · exact Likeness.Meets.all_cons stands standing (mirrors stands standing alike) (step.marks alike) all

/-- Steps that mean the same in both runs go with themselves. -/
theorem Step.Every.follow {steps : List Step} (fits : Step.Every (Call.Fits likeness) steps) :
    likeness.Follow runBody steps steps ∧ likeness.Follow runAll steps steps :=
  (Step.Omits.refl (fun _ ↦ False) steps).follow (fun _ none ↦ none.elim) fits

end Steps

end RegisterTransfer
