import RegisterTransfer.Proofs.AlikeBuilders

/-!
# Calls in step

The same call on two builders that are alike returns on both or is refused on both, and leaves them alike. Where the
second builder has been spared some statements, only what the first one accepts has to be accepted by the second. Every
way of putting calls together has one rule, and every call on a builder one statement.
-/

namespace RegisterTransfer

section Rules

variable {σ α β γ δ : Type}

/-- Two calls end in the same way: what returns in the first run does so in the second one, and what is refused there
is refused here, at least if the refusal is `strict`. Nothing is said about runs that a fault has stopped. -/
def Lockstep (strict : BuildError → Prop) (first : EStateM Failure σ α) (second : EStateM Failure σ β) (state other : σ)
    (returned : α → β → σ → σ → Prop) (refused : σ → σ → Prop) : Prop :=
  match first state with
  | .ok value after => ∃ result last, second other = .ok result last ∧ returned value result after last
  | .error (.refused error) after =>
    strict error → ∃ again last, second other = .error (.refused again) last ∧ refused after last
  | .error (.broken _) _ => True

namespace Lockstep

variable {strict : BuildError → Prop} {first : EStateM Failure σ α} {second : EStateM Failure σ β} {state other : σ}
  {returned : α → β → σ → σ → Prop} {refused : σ → σ → Prop}

theorem of_ok {value : α} {after : σ} (step : Lockstep strict first second state other returned refused)
    (ran : first state = .ok value after) :
    ∃ result last, second other = .ok result last ∧ returned value result after last := by
  simpa only [Lockstep, ran] using step

theorem of_refused {error : BuildError} {after : σ} (step : Lockstep strict first second state other returned refused)
    (ran : first state = .error (.refused error) after) (sure : strict error) :
    ∃ again last, second other = .error (.refused again) last ∧ refused after last := by
  rw [Lockstep, ran] at step
  exact step sure

/-- Two calls that return. -/
theorem of_eq {value : α} {result : β} {after last : σ} (ran : first state = .ok value after)
    (again : second other = .ok result last) (holds : returned value result after last) :
    Lockstep strict first second state other returned refused := by
  simp only [Lockstep, ran]
  exact ⟨result, last, again, holds⟩

theorem mono {wanted : α → β → σ → σ → Prop} {accepted : σ → σ → Prop}
    (step : Lockstep strict first second state other returned refused)
    (returns : ∀ value result after last, returned value result after last → wanted value result after last)
    (refuses : ∀ after last, refused after last → accepted after last) :
    Lockstep strict first second state other wanted accepted := by
  unfold Lockstep at step ⊢
  split at step
  · obtain ⟨result, last, ran, holds⟩ := step
    exact ⟨result, last, ran, returns _ _ _ _ holds⟩
  · intro sure
    obtain ⟨error, last, ran, holds⟩ := step sure
    exact ⟨error, last, ran, refuses _ _ holds⟩
  · trivial

theorem bind {next : α → EStateM Failure σ γ} {then_ : β → EStateM Failure σ δ} {done : γ → δ → σ → σ → Prop}
    (step : Lockstep strict first second state other
      (fun value result after last ↦ Lockstep strict (next value) (then_ result) after last done refused) refused) :
    Lockstep strict (first >>= next) (second >>= then_) state other done refused := by
  rcases ran : first state with ⟨value, after⟩ | ⟨error | fault, after⟩
  · obtain ⟨result, last, again, holds⟩ := step.of_ok ran
    simp only [Lockstep, Bind.bind, EStateM.bind, ran, again]
    exact holds
  · simp only [Lockstep, Bind.bind, EStateM.bind, ran]
    intro sure
    obtain ⟨error, last, again, holds⟩ := step.of_refused ran sure
    exact ⟨error, last, by rw [again], holds⟩
  · simp only [Lockstep, Bind.bind, EStateM.bind, ran]

theorem pure_ {value : α} {result : β} (holds : returned value result state other) :
    Lockstep strict (pure value) (pure result) state other returned refused := ⟨result, other, rfl, holds⟩

/-- Both calls go on from the states they are in. -/
theorem get_ {next : σ → EStateM Failure σ α} {then_ : σ → EStateM Failure σ β}
    (step : Lockstep strict (next state) (then_ other) state other returned refused) :
    Lockstep strict (get >>= next) (get >>= then_) state other returned refused := step

theorem modify_ {change : σ → σ} {alter : σ → σ} {returned : PUnit → PUnit → σ → σ → Prop}
    (holds : returned ⟨⟩ ⟨⟩ (change state) (alter other)) :
    Lockstep strict (modify change) (modify alter) state other returned refused := ⟨_, _, rfl, holds⟩

theorem throw_refused {error again : BuildError} (holds : refused state other) :
    Lockstep strict (throw (.refused error)) (throw (.refused again) : EStateM Failure σ β) state other returned refused :=
  fun _ ↦ ⟨again, other, rfl, holds⟩

theorem throw_broken {fault : Fault} :
    Lockstep strict (throw (.broken fault)) second state other returned refused := trivial

end Lockstep

end Rules

namespace Drivers

variable {likeness : Likeness} {first second : Drivers}

theorem free_of_claimed (claimed : ∀ signal domain, second.get? signal = some domain →
    first.get? (likeness.signal signal) = some domain) {domain : String} {statements : List Statement}
    (free : first.Free domain (Statement.writtenAll (likeness.statements statements))) :
    second.Free domain (Statement.writtenAll statements) := fun signal mem earlier found ↦
  free _ ((likeness.mem_written_statements ..).2 ⟨signal, mem, rfl⟩) earlier (claimed signal earlier found)

/-- Claims of renamed signals keep the tables of claims alike. -/
theorem claimed_claimAll (claimed : ∀ signal domain, second.get? signal = some domain →
    first.get? (likeness.signal signal) = some domain) {domain : String} {statements : List Statement}
    (free : first.Free domain (Statement.writtenAll (likeness.statements statements))) (signal : Signal)
    (claimant : String) (found : (second.claimAll domain (Statement.writtenAll statements)).get? signal = some claimant) :
    (first.claimAll domain (Statement.writtenAll (likeness.statements statements))).get? (likeness.signal signal) =
      some claimant := by
  rw [get?_claimAll] at found ⊢
  simp only [likeness.mem_written_statements, likeness.signal_injective.eq_iff, exists_eq_right]
  split at found
  · rename_i mem
    rw [if_pos mem]
    cases known : second.get? signal with
    | some earlier =>
      rw [known, Option.getD_some] at found
      rw [claimed signal earlier known, Option.getD_some, found]
    | none =>
      rw [known, Option.getD_none] at found
      cases before : first.get? (likeness.signal signal) with
      | none => exact found
      | some earlier =>
        rw [Option.getD_some, ← found]
        exact congrArg some (free _ ((likeness.mem_written_statements ..).2 ⟨signal, mem, rfl⟩) earlier before)
  · rename_i absent
    rw [if_neg absent]
    exact claimed signal claimant found

end Drivers

namespace Likeness

variable {likeness : Likeness} {first second : Builder}

/-- A conflict in the first run is one in the second run, unless an extra claim is in the way. -/
theorem Rest.conflict (rest : likeness.Rest first second) {domain : String} {loc : Location}
    {statements : List Statement} {error : BuildError} (sure : likeness.strict error)
    (refused : first.drivers.checkAll domain loc (Statement.writtenAll (likeness.statements statements)) = .error error) :
    ∃ again, second.drivers.checkAll domain loc (Statement.writtenAll statements) = .error again := by
  cases checked : second.drivers.checkAll domain loc (Statement.writtenAll statements) with
  | error again => exact ⟨again, rfl⟩
  | ok value =>
    have free := (Drivers.checkAll_eq_ok_iff ..).1 checked
    have conflict : ¬first.drivers.Free domain (Statement.writtenAll (likeness.statements statements)) := by
      rw [← Drivers.checkAll_eq_ok_iff first.drivers domain loc, refused]
      exact fun same ↦ nomatch same
    obtain ⟨signal, mem, earlier, claimed, apart, failed⟩ := Drivers.checkAll_of_conflict conflict loc
    obtain ⟨other, listed, rfl⟩ := (likeness.mem_written_statements ..).1 mem
    rw [failed, Except.error.injEq] at refused
    rcases rest.free other earlier claimed with also | excused
    · exact absurd (free other listed earlier also) apart
    · exact absurd (refused ▸ sure) (excused domain loc)

/-- The same statements are filed on both, and their signals claimed. -/
theorem Tracks.recorded (tracks : likeness.Tracks first.flushed second.flushed) {domain : String}
    {statements : List Statement}
    (free : first.flushed.drivers.Free domain (Statement.writtenAll (likeness.statements statements))) :
    likeness.Tracks (first.recorded domain (likeness.statements statements)) (second.recorded domain statements) where
  rest := {
    settings := tracks.rest.settings
    claimed := Drivers.claimed_claimAll tracks.rest.claimed free
    free signal claimant found := by
      change (Drivers.claimAll first.flushed.drivers domain _).get? (likeness.signal signal) = some claimant at found
      change (Drivers.claimAll second.flushed.drivers domain _).get? signal = some claimant ∨ _
      rw [Drivers.get?_claimAll] at found ⊢
      simp only [likeness.mem_written_statements, likeness.signal_injective.eq_iff, exists_eq_right] at found
      split at found
      · rename_i written
        rw [if_pos written]
        left
        have here := (likeness.mem_written_statements statements _).2 ⟨signal, written, rfl⟩
        cases known : second.flushed.drivers.get? signal with
        | some earlier => rwa [tracks.rest.claimed signal earlier known] at found
        | none =>
          cases before : first.flushed.drivers.get? (likeness.signal signal) with
          | none => rwa [before] at found
          | some earlier =>
            rw [before, Option.getD_some, free _ here earlier before] at found
            exact found
      · rename_i unwritten
        rw [if_neg unwritten]
        exact tracks.rest.free signal claimant found
    machines := tracks.rest.machines
    fresh := tracks.rest.fresh
    found := tracks.rest.found
    named := tracks.rest.named
    domains := tracks.rest.domains
    indicators := tracks.rest.indicators
    partsByName := tracks.rest.partsByName
    otherParts := tracks.rest.otherParts }
  recording := ⟨tracks.recording.control, tracks.recording.statements.append domain statements⟩

/-- Statements of a domain that is not observed may be filed in the first run alone. The second builder lags behind if
they have closed a chain. -/
theorem Lags.recorded_left (lags : likeness.Lags first second) (stands : second.control.Stands)
    (lenient : likeness.lenient) {domain : String} (unseen : ¬likeness.observed domain) (statements : List Statement) :
    likeness.Lags (first.recorded domain statements) second := by
  have same := lags.flushed stands
  have rest : likeness.Rest first.flushed second := by
    have back := same.rest.recording first.flushed.control second.control first.flushed.statements second.statements
    rw [Builder.flushed_eq second] at back
    exact back
  refine ⟨?_, .inr ⟨lenient, same.recording.control, same.recording.statements.append_left unseen statements⟩⟩
  refine ⟨rest.settings, fun signal claimant found ↦ ?_,
    fun _ _ _ ↦ .inr fun _ _ ↦ likeness.ordinary lenient _, rest.machines, rest.fresh,
    rest.found, rest.named, rest.domains, rest.indicators, rest.partsByName, rest.otherParts⟩
  have before := rest.claimed signal claimant found
  change (Drivers.claimAll first.flushed.drivers domain _).get? (likeness.signal signal) = some claimant
  rw [Drivers.get?_claimAll, before, Option.getD_some, ite_self]

end Likeness

namespace Build

variable {likeness : Likeness} {first second : Builder} {strict : BuildError → Prop}
  {refused : Builder → Builder → Prop}

theorem refuse_lockstep {α β : Type} {returned : α → β → Builder → Builder → Prop} (cause again : BuildError.Cause)
    (loc : Location) (holds : refused first second) :
    Lockstep strict (refuse cause loc) (refuse again loc) first second returned refused :=
  Lockstep.throw_refused holds

theorem checkPlace_lockstep {returned : Unit → Unit → Builder → Builder → Prop} (keyword : Keyword) (loc : Location)
    (same : first.control.context = second.control.context)
    (returns : second.control.context = keyword.place → returned () () first second)
    (refuses : refused first second) :
    Lockstep strict (checkPlace keyword loc) (checkPlace keyword loc) first second returned refused := by
  refine Lockstep.get_ ?_
  rw [same]
  dsimp only
  split
  · rename_i place
    exact Lockstep.pure_ (returns place)
  · generalize second.control.context = context
    generalize keyword.place = place
    cases context with
    | some construct => exact refuse_lockstep _ _ _ refuses
    | none =>
      cases place with
      | some place => exact refuse_lockstep _ _ _ refuses
      | none => exact Lockstep.throw_broken

theorem accepted_lockstep {α β : Type} {returned : α → β → Builder → Builder → Prop}
    {result : Except BuildError α} {again : Except BuildError β}
    (returns : ∀ value, result = .ok value → ∃ other, again = .ok other ∧ returned value other first second)
    (refuses : ∀ error, result = .error error → strict error → (∃ error, again = .error error) ∧ refused first second) :
    Lockstep strict (accepted result) (accepted again) first second returned refused := by
  cases result with
  | ok value =>
    obtain ⟨other, rfl, holds⟩ := returns value rfl
    exact Lockstep.pure_ holds
  | error error =>
    intro sure
    obtain ⟨⟨other, rfl⟩, holds⟩ := refuses error rfl sure
    exact ⟨other, second, rfl, holds⟩

/-! ## Statements -/

theorem openFrame_eq (stands : first.control.Stands) (frame : Frame) :
    openFrame frame first = .ok () (first.opening frame) := by
  simp only [openFrame, bind, EStateM.bind, flush_of_placed stands.stacked stands.placed]
  rfl

section Stands

variable (lags : likeness.Lags first second) (stands : first.control.Stands) (standing : second.control.Stands)

include lags stands standing

theorem record_lockstep (domain : String) (statements : List Statement) (loc : Location) :
    Lockstep likeness.strict (record domain (likeness.statements statements) loc) (record domain statements loc) first
      second (fun _ _ ↦ likeness.Tracks) likeness.Lags := by
  have same := lags.flushed standing
  refine Lockstep.bind (Lockstep.of_eq (flush_of_placed stands.stacked stands.placed)
    (flush_of_placed standing.stacked standing.placed) ?_)
  refine Lockstep.get_ (Lockstep.bind (accepted_lockstep (fun _ checked ↦ ?_) fun error checked sure ↦ ?_))
  · have free := (Drivers.checkAll_eq_ok_iff ..).1 checked
    have also := Drivers.free_of_claimed same.rest.claimed free
    refine ⟨(), (Drivers.checkAll_eq_ok_iff ..).2 also, Lockstep.get_ (Lockstep.bind ?_)⟩
    rw [Drivers.driveAll_of_free free, Drivers.driveAll_of_free also]
    exact Lockstep.pure_ (Lockstep.modify_ (same.recorded free))
  · exact ⟨same.rest.conflict sure checked, .of_tracks same⟩

theorem add_lockstep (domain : String) (statements : List Statement) (loc : Location) :
    Lockstep likeness.strict (add domain (likeness.statements statements) loc) (add domain statements loc) first second
      (fun _ _ ↦ likeness.Tracks) likeness.Lags := by
  refine Lockstep.get_ ?_
  rw [lags.context, likeness.all_isPlain_statements]
  cases second.control.context with
  | some construct => exact Lockstep.bind (refuse_lockstep _ _ _ lags)
  | none =>
    cases statements.all Statement.isPlain with
    | false => exact Lockstep.bind (refuse_lockstep _ _ _ lags)
    | true =>
      by_cases submodules : domain = "submodules"
      · simp only [submodules, ↓reduceIte]
        refine Lockstep.bind (Lockstep.modify_ ?_)
        exact record_lockstep (lags.noted _ _) stands standing _ statements loc
      · simp only [submodules, ↓reduceIte]
        exact record_lockstep lags stands standing domain statements loc

/-! ## Opening constructs -/

theorem openChain_lockstep (condition : Value) (loc : Location) :
    Lockstep likeness.strict (openChain (likeness.value condition) loc) (openChain condition loc) first second
      (fun height other opened last ↦ height = other ∧ likeness.Tracks opened last) likeness.Lags := by
  obtain ⟨advice, advised⟩ := exists_adviseSigned_eq (likeness.value condition) loc first
  obtain ⟨others, again⟩ := exists_adviseSigned_eq condition loc second
  refine Lockstep.bind (checkPlace_lockstep _ loc lags.context (fun place ↦ ?_) lags)
  refine Lockstep.bind (Lockstep.of_eq advised again (Lockstep.get_ ?_))
  have noted := lags.noted advice others
  have opened : likeness.Frames (.chain ⟨(first.noted advice).control.depth, loc, []⟩)
      (.chain ⟨(second.noted others).control.depth, loc, []⟩) := .chain ⟨noted.depth, rfl, .nil⟩
  have tracks := noted.opening standing opened
  refine Lockstep.bind (Lockstep.of_eq (openFrame_eq (show (first.noted advice).control.Stands from stands) _)
    (openFrame_eq (show (second.noted others).control.Stands from standing) _) (Lockstep.get_ ?_))
  exact Lockstep.pure_ ⟨by rw [tracks.recording.control.height], tracks⟩

theorem openSwitch_lockstep (test : Value) (loc : Location) :
    Lockstep likeness.strict (openSwitch (likeness.value test) loc) (openSwitch test loc) first second
      (fun _ _ ↦ likeness.Tracks) likeness.Lags := by
  refine Lockstep.bind (checkPlace_lockstep _ loc lags.context (fun place ↦ ?_) lags)
  exact Lockstep.of_eq (openFrame_eq stands _) (openFrame_eq standing _)
    (lags.opening standing (.switch ⟨likeness.tests_value test, rfl, .nil⟩))

theorem openMachine_lockstep (name domain initial : Option String) (loc : Location) :
    Lockstep likeness.strict (openMachine name domain initial loc) (openMachine name domain initial loc) first second
      (fun id other opened last ↦ (id = likeness.ids other ∧ likeness.Untouched other) ∧ likeness.Tracks opened last)
      likeness.Lags := by
  refine Lockstep.bind (checkPlace_lockstep _ loc lags.context (fun place ↦ ?_) lags)
  refine Lockstep.get_ ?_
  rw [lags.rest.settings]
  dsimp only
  split
  · exact Lockstep.bind (refuse_lockstep _ _ _ lags)
  · refine Lockstep.get_ (Lockstep.bind (Lockstep.modify_ ?_))
    have entered := lags.withNewMachine (.opened second.machines.nextKey
      (name.getD second.settings.fsmDefaultName) (domain.getD second.settings.fsmDefaultDomain) initial)
    have frames := Likeness.Frames.machine second.machines.nextKey loc lags.rest.untouched_nextKey.kept
    rw [lags.rest.ids_nextKey] at frames
    refine Lockstep.bind (Lockstep.of_eq (openFrame_eq (show (first.withNewMachine _).control.Stands from stands) _)
      (openFrame_eq (show (second.withNewMachine _).control.Stands from standing) _) (Lockstep.pure_ ?_))
    exact ⟨⟨lags.rest.ids_nextKey.symm, lags.rest.untouched_nextKey⟩, entered.opening standing frames⟩

/-! ## Going on with a chain -/

omit stands

theorem requireChain_lockstep (cause : BuildError.Cause) (loc : Location) :
    Lockstep likeness.strict (requireChain cause loc) (requireChain cause loc) first second
      (fun _ _ ↦ likeness.Tracks) likeness.Lags := by
  refine Lockstep.get_ ?_
  cases open_ : first.control.openChain? with
  | none =>
    intro sure
    have same := (lags.tracks_of_strict sure).recording.control.openChain?
    rw [open_] at same
    have none : second.control.openChain? = none := by
      generalize second.control.openChain? = chain at same ⊢
      cases same
      rfl
    simp only [none, Option.isNone_none, ↓reduceIte]
    exact ⟨_, _, rfl, lags⟩
  | some chain =>
    have tracks := lags.tracks_of_openChain standing open_
    have same := tracks.recording.control.openChain?
    rw [open_] at same
    generalize second.control.openChain? = other at same ⊢
    cases same
    exact Lockstep.pure_ tracks

theorem resumeChain_lockstep (condition : Value) (loc : Location) :
    Lockstep likeness.strict (resumeChain (likeness.value condition) loc) (resumeChain condition loc) first second
      (fun _ _ ↦ likeness.Tracks) likeness.Lags := by
  obtain ⟨advice, advised⟩ := exists_adviseSigned_eq (likeness.value condition) loc first
  obtain ⟨others, again⟩ := exists_adviseSigned_eq condition loc second
  refine Lockstep.bind (checkPlace_lockstep _ loc lags.context (fun place ↦ ?_) lags)
  refine Lockstep.bind (Lockstep.of_eq advised again ?_)
  exact requireChain_lockstep (lags.noted advice others) standing _ loc

theorem finishChain_lockstep (loc : Location) :
    Lockstep likeness.strict (finishChain loc) (finishChain loc) first second
      (fun _ _ ↦ likeness.Tracks) likeness.Lags := by
  refine Lockstep.bind (checkPlace_lockstep _ loc lags.context (fun place ↦ ?_) lags)
  exact requireChain_lockstep lags standing _ loc

end Stands

/-! ## Cases -/

theorem topSwitch_eq {builder : Builder} {switch : OpenSwitch} {base : List Frame}
    (top : builder.control.frames = .switch switch :: base) : topSwitch builder = .ok switch builder := by
  simp only [topSwitch, bind, EStateM.bind, get_apply, Control.top?, top, List.head?_cons]
  rfl

theorem exists_adviseAfterDefault_eq {builder : Builder} {switch : OpenSwitch} {base : List Frame}
    (top : builder.control.frames = .switch switch :: base) (loc : Location) :
    ∃ advice, adviseAfterDefault loc builder = .ok () (builder.noted advice) := by
  cases present : switch.cases.contains [] with
  | true =>
    refine ⟨[.caseAfterDefault loc], ?_⟩
    simp only [adviseAfterDefault, bind, EStateM.bind, topSwitch_eq top, present, ↓reduceIte]
    rfl
  | false =>
    refine ⟨[], ?_⟩
    simp only [adviseAfterDefault, bind, EStateM.bind, topSwitch_eq top, present, Bool.false_eq_true, ↓reduceIte]
    rw [Builder.noted_nil]
    rfl

/-- A written pattern and its renamed form read as the same pattern, or neither can match, or both are refused. -/
theorem read_written (likeness : Likeness) (width : Nat) (loc : Location) (written : WrittenPattern Value) :
    (∃ pattern, (likeness.written written).read width loc = .ok (.pattern pattern) ∧
        written.read width loc = .ok (.pattern pattern)) ∨
      (∃ advice other, (likeness.written written).read width loc = .ok (.dead advice) ∧
        written.read width loc = .ok (.dead other)) ∨
      ∃ error other, (likeness.written written).read width loc = .error error ∧ written.read width loc = .error other := by
  cases written with
  | bits digits =>
    cases read : WrittenPattern.read width loc (.bits digits) with
    | error error => exact .inr (.inr ⟨error, error, read, rfl⟩)
    | ok reading =>
      cases reading with
      | pattern pattern => exact .inl ⟨pattern, read, rfl⟩
      | dead advice => exact .inr (.inl ⟨advice, advice, read, rfl⟩)
  | value source =>
    simp only [Likeness.written, WrittenPattern.read, WrittenPattern.readValue, likeness.asConst_value]
    cases source.asConst with
    | none => exact .inr (.inr ⟨_, _, rfl, rfl⟩)
    | some constant =>
      dsimp only
      split
      · exact .inr (.inl ⟨_, _, rfl, rfl⟩)
      · exact .inl ⟨_, rfl, rfl⟩

theorem readPatterns_lockstep (width : Nat) (loc : Location) (patterns : List (WrittenPattern Value))
    (tracks : likeness.Tracks first second) :
    Lockstep likeness.strict (readPatterns width loc (patterns.map likeness.written)) (readPatterns width loc patterns)
      first second (fun live other opened last ↦ live = other ∧ likeness.Tracks opened last) likeness.Lags := by
  induction patterns generalizing first second with
  | nil => exact Lockstep.pure_ ⟨rfl, tracks⟩
  | cons written rest ih =>
    rw [List.map_cons]
    rcases read_written likeness width loc written with ⟨pattern, here, there⟩ | ⟨advice, other, here, there⟩ |
      ⟨error, other, here, there⟩
    · simp only [readPatterns, here, there]
      refine Lockstep.bind (Lockstep.pure_ (Lockstep.bind ((ih tracks).mono ?_ fun _ _ lags ↦ lags)))
      rintro _ live opened last ⟨rfl, same⟩
      exact Lockstep.pure_ ⟨rfl, same⟩
    · simp only [readPatterns, here, there]
      refine Lockstep.bind (Lockstep.pure_ (Lockstep.bind (Lockstep.modify_ (ih ?_))))
      exact tracks.noted [advice] [other]
    · simp only [readPatterns, here, there]
      exact Lockstep.bind (Lockstep.throw_refused (.of_tracks tracks))

section Construct

variable (lags : likeness.Lags first second) (standing : second.control.Stands)

include lags standing

/-- Directly inside of a construct, no chain can lag behind. -/
theorem tracks_of_context {construct : Construct} (within : second.control.context = some construct) :
    likeness.Tracks first second := by
  obtain ⟨frame, base, place, -⟩ := standing.placed.atConstruct within
  exact lags.tracks_of_flushed (Builder.flushed_of_atConstruct standing.stacked place)

/-- Directly inside of a switch, switches that are alike are on top. -/
theorem switches_of_context (within : second.control.context = some .switch) :
    ∃ switch rest other base, first.control.frames = .switch switch :: rest ∧
      second.control.frames = .switch other :: base ∧ likeness.Switches switch other := by
  obtain ⟨other, base, top⟩ := standing.placed.topSwitch
  have top := (top within).frames
  obtain ⟨frame, rest, same, alike, -⟩ := (tracks_of_context lags standing within).recording.control.top top
  cases alike with
  | switch alike => exact ⟨_, rest, other, base, same, top, alike⟩

theorem startCase_lockstep (patterns : List (WrittenPattern Value)) (loc : Location) :
    Lockstep likeness.strict (startCase (patterns.map likeness.written) loc) (startCase patterns loc) first second
      (fun live other opened last ↦ live = other ∧ likeness.Tracks opened last) likeness.Lags := by
  refine Lockstep.bind (checkPlace_lockstep _ loc lags.context (fun place ↦ ?_) lags)
  obtain ⟨switch, rest, other, base, top, there, alike⟩ := switches_of_context lags standing place
  obtain ⟨advice, advised⟩ := exists_adviseAfterDefault_eq top loc
  obtain ⟨others, again⟩ := exists_adviseAfterDefault_eq there loc
  refine Lockstep.bind (Lockstep.of_eq (topSwitch_eq top) (topSwitch_eq there) ?_)
  refine Lockstep.bind (Lockstep.of_eq advised again ?_)
  rw [alike.width]
  exact readPatterns_lockstep _ loc patterns ((tracks_of_context lags standing place).noted advice others)

theorem startDefault_lockstep (loc : Location) :
    Lockstep likeness.strict (startDefault loc) (startDefault loc) first second (fun _ _ ↦ likeness.Tracks)
      likeness.Lags := by
  refine Lockstep.bind (checkPlace_lockstep _ loc lags.context (fun place ↦ ?_) lags)
  obtain ⟨switch, rest, other, base, top, there, -⟩ := switches_of_context lags standing place
  obtain ⟨advice, advised⟩ := exists_adviseAfterDefault_eq top loc
  obtain ⟨others, again⟩ := exists_adviseAfterDefault_eq there loc
  exact Lockstep.of_eq advised again ((tracks_of_context lags standing place).noted advice others)

end Construct

/-! ## States and transitions -/

section Machines

/-- Corresponding keys lead to machines that are alike, or to none. -/
theorem fetch_lockstep {returned : Machine → Machine → Builder → Builder → Prop} (rest : likeness.Rest first second)
    (id : MachineId) (returns : ∀ machine other, first.machines.get? (likeness.ids id) = some machine →
      second.machines.get? id = some other → likeness.Machines id machine other → returned machine other first second) :
    Lockstep strict (Build.sound (first.machines.fetch (likeness.ids id))) (Build.sound (second.machines.fetch id)) first
      second returned refused := by
  have alike := rest.machines id
  rw [Arena.fetch, Arena.fetch]
  cases found : first.machines.get? (likeness.ids id) with
  | none =>
    rw [found] at alike
    generalize second.machines.get? id = known at alike ⊢
    cases alike
    exact Lockstep.throw_broken
  | some machine =>
    cases known : second.machines.get? id with
    | none =>
      rw [found, known] at alike
      cases alike
    | some other =>
      rw [found, known] at alike
      cases alike with
      | some alike => exact Lockstep.pure_ (returns machine other found known alike)

variable (lags : likeness.Lags first second)

include lags

/-- Mentioning a state on both. -/
theorem mention_lockstep (id : MachineId) (state : String) :
    Lockstep likeness.strict (changeMachine (likeness.ids id) fun machine ↦ machine.mention (likeness.ids id) state)
      (changeMachine id fun machine ↦ machine.mention id state) first second
      (fun _ _ after last ↦ likeness.Lags after last ∧ after.control = first.control ∧ last.control = second.control)
      likeness.Lags := by
  refine Lockstep.get_ (Lockstep.bind (fetch_lockstep lags.rest id fun machine other _ _ alike ↦ ?_))
  exact Lockstep.modify_ ⟨lags.withMachine (alike.mention state), rfl, rfl⟩

theorem startState_lockstep (standing : second.control.Stands) (state : String) (loc : Location) :
    Lockstep likeness.strict (startState state loc) (startState state loc) first second
      (fun id other after last ↦ (id = likeness.ids other ∧ ¬likeness.lost other) ∧ likeness.Tracks after last)
      likeness.Lags := by
  refine Lockstep.bind (checkPlace_lockstep _ loc lags.context (fun place ↦ ?_) lags)
  obtain ⟨id, opened, base, inside⟩ := standing.placed.topMachine
  have there := (inside place).frames
  obtain ⟨frame, rest, here, alike, -⟩ := (tracks_of_context lags standing place).recording.control.top there
  cases alike with
  | machine id opened kept =>
    have top : topMachine first = .ok (likeness.ids id) first := by
      simp only [topMachine, bind, EStateM.bind, get_apply, Control.top?, here, List.head?_cons]
      rfl
    have again : topMachine second = .ok id second := by
      simp only [topMachine, bind, EStateM.bind, get_apply, Control.top?, there, List.head?_cons]
      rfl
    refine Lockstep.bind (Lockstep.of_eq top again (Lockstep.get_ ?_))
    refine Lockstep.bind (fetch_lockstep lags.rest id fun machine other _ _ alike ↦ ?_)
    rw [(alike.kept kept).contains_states]
    split
    · exact Lockstep.bind (refuse_lockstep _ _ _ lags)
    · refine Lockstep.bind ((mention_lockstep lags id state).mono ?_ fun _ _ refused ↦ refused)
      rintro _ _ after last ⟨same, -, level⟩
      refine Lockstep.pure_ ⟨⟨rfl, kept⟩, ?_⟩
      exact tracks_of_context same (by rw [level]; exact standing) (by rw [level]; exact place)

theorem goto_lockstep (stands : first.control.Stands) (standing : second.control.Stands) (state : String)
    (loc : Location) :
    Lockstep likeness.strict (goto state loc) (goto state loc) first second (fun _ _ ↦ likeness.Tracks)
      likeness.Lags := by
  have innermost : Option.Rel (fun id other ↦ id = likeness.ids other ∧ ¬likeness.lost other)
      first.control.innermostMachine? second.control.innermostMachine? := by
    have same := (lags.flushed standing).recording.control.innermostMachine?
    rwa [Builder.innermostMachine?_flushed, Builder.innermostMachine?_flushed] at same
  have current : Lockstep likeness.strict (currentMachine loc) (currentMachine loc) first second
      (fun id other after last ↦ (id = likeness.ids other ∧ ¬likeness.lost other) ∧ after = first ∧ last = second)
      likeness.Lags := by
    refine Lockstep.get_ ?_
    dsimp only
    rw [lags.context]
    split
    · exact Lockstep.bind (refuse_lockstep _ _ _ lags)
    · generalize first.control.innermostMachine? = these at innermost ⊢
      generalize second.control.innermostMachine? = those at innermost ⊢
      cases innermost with
      | none => exact refuse_lockstep _ _ _ lags
      | some same => exact Lockstep.pure_ ⟨same, rfl, rfl⟩
  refine Lockstep.bind (current.mono ?_ fun _ _ refused ↦ refused)
  rintro _ id _ _ ⟨⟨rfl, kept⟩, rfl, rfl⟩
  refine Lockstep.get_ (Lockstep.bind (fetch_lockstep lags.rest id fun machine other _ _ alike ↦ ?_))
  refine Lockstep.bind ((mention_lockstep lags id state).mono ?_ fun _ _ refused ↦ refused)
  rintro _ _ after last ⟨same, here, there⟩
  rw [(alike.kept kept).domain]
  exact record_lockstep same (by rw [here]; exact stands) (by rw [there]; exact standing) other.domain
    [.transition id state loc] loc

/-- The indicator of a state is the same in both runs, also for a machine that is lost. -/
theorem ongoing_lockstep (sound : first.Sound) (also : second.Sound) (id : MachineId) (state : String)
    (loc : Location) :
    Lockstep likeness.strict (ongoing (likeness.ids id) state loc) (ongoing id state loc) first second
      (fun value other after last ↦ value = likeness.value other ∧ likeness.Lags after last) likeness.Lags := by
  refine Lockstep.get_ ?_
  have pair := lags.rest.machines id
  cases found : first.machines.get? (likeness.ids id) with
  | none =>
    rw [found] at pair
    generalize second.machines.get? id = known at pair ⊢
    cases pair
    exact refuse_lockstep _ _ _ lags
  | some machine =>
    cases known : second.machines.get? id with
    | none =>
      rw [found, known] at pair
      cases pair
    | some other =>
      rw [found, known] at pair
      cases pair with
      | some alike =>
        have proper := sound.proper _ _ found
        have owned := also.proper _ _ known
        have refusal : (!machine.indicators.contains state && machine.register.isSome) =
            (!other.indicators.contains state && other.register.isSome) := by
          rw [alike.isSome_register]
          cases register : other.register with
          | none => rw [Option.isSome_none, Bool.and_false, Bool.and_false]
          | some signal =>
            have complete : other.register ≠ none := by simp [register]
            have kept : ¬likeness.lost id := fun lost ↦ complete (alike.incomplete lost)
            rw [(alike.kept kept).contains_indicators proper owned complete]
        simp only [refusal, proper.mention_eq, owned.mention_eq, proper.fetch_mention, owned.fetch_mention]
        split
        · exact Lockstep.bind (refuse_lockstep _ _ _ lags)
        · refine Lockstep.bind (Lockstep.modify_ (Lockstep.bind (Lockstep.pure_ (Lockstep.pure_ ⟨?_, ?_⟩))))
          · rw [Likeness.value, Likeness.signal_indicator, alike.name]
          · exact lags.withMachine (alike.mention state)

end Machines

/-! ## Finishing constructs -/

section Finish

variable {base rest : List Frame}

theorem addBranch_eq {builder : Builder} {chain : IfChain} (top : builder.control.frames = .chain chain :: base)
    (level : chain.depth = builder.control.depth) (test : Option Value) (body : Body) (loc : Location) :
    addBranch test body loc builder =
      .ok () (builder.withFrames (.chain (chain.extend ⟨test, body, loc⟩) :: base)) := by
  have behind : builder.control.openChain? = some chain := by simp [Control.openChain?, Control.top?, top, level]
  simp only [addBranch, bind, EStateM.bind, get_apply, behind, modify_apply]
  simp [Control.replaceTop, top, Builder.withFrames, IfChain.extend]

theorem addCase_eq {builder : Builder} {switch : OpenSwitch} (top : builder.control.frames = .switch switch :: base)
    (patterns : List Pattern) (body : Body) (loc : Location) : addCase patterns body loc builder =
      .ok () (builder.withFrames (.switch (switch.record patterns ⟨body, loc⟩) :: base)) := by
  simp only [addCase, bind, EStateM.bind, topSwitch_eq top, modify_apply]
  simp [Control.replaceTop, top, Builder.withFrames, OpenSwitch.record]

variable {refused : Builder → Builder → Prop} (tracks : likeness.Tracks first second)

include tracks

/-- One more branch for the chain on top of both stacks. -/
theorem addBranch_lockstep {chain grown : IfChain} (top : first.control.frames = .chain chain :: base)
    (there : second.control.frames = .chain grown :: rest) (level : chain.depth = first.control.depth)
    (flat : grown.depth = second.control.depth) {test again : Option Value}
    (tests : Option.Rel likeness.Tests test again) {recorded filed : Body} (bodies : likeness.Bodies recorded filed)
    (loc : Location) :
    Lockstep likeness.strict (addBranch test recorded loc) (addBranch again filed loc) first second
      (fun _ _ after last ↦ likeness.Tracks after last ∧
        after.control.frames = .chain (chain.extend ⟨test, recorded, loc⟩) :: base ∧
        last.control.frames = .chain (grown.extend ⟨again, filed, loc⟩) :: rest) refused := by
  refine Lockstep.of_eq (addBranch_eq top level _ _ _) (addBranch_eq there flat _ _ _) ⟨?_, rfl, rfl⟩
  have pairs := tracks.recording.control.frames
  rw [top, there] at pairs
  obtain ⟨head, below⟩ := List.forall₂_cons.1 pairs
  cases head with
  | chain alike =>
    exact ⟨tracks.rest.withFrames _ _, ⟨.cons (.chain (alike.extend ⟨tests, rfl, bodies⟩)) below,
      tracks.recording.control.depth, tracks.recording.control.context⟩, tracks.recording.statements⟩

/-- One more case for the switch on top of both stacks. -/
theorem addCase_lockstep {switch grown : OpenSwitch} (top : first.control.frames = .switch switch :: base)
    (there : second.control.frames = .switch grown :: rest) (patterns : List Pattern) {recorded filed : Body}
    (bodies : likeness.Bodies recorded filed) (loc : Location) :
    Lockstep likeness.strict (addCase patterns recorded loc) (addCase patterns filed loc) first second
      (fun _ _ ↦ likeness.Tracks) refused := by
  refine Lockstep.of_eq (addCase_eq top _ _ _) (addCase_eq there _ _ _) ?_
  have pairs := tracks.recording.control.frames
  rw [top, there] at pairs
  obtain ⟨head, below⟩ := List.forall₂_cons.1 pairs
  cases head with
  | switch same =>
    exact ⟨tracks.rest.withFrames _ _, ⟨.cons (.switch (same.record patterns bodies loc)) below,
      tracks.recording.control.depth, tracks.recording.control.context⟩, tracks.recording.statements⟩

theorem closeChain_lockstep {chain grown : IfChain} (top : first.control.frames = .chain chain :: base)
    (there : second.control.frames = .chain grown :: rest) (ordered : IfChain.Ordered chain.branches)
    (also : IfChain.Ordered grown.branches) :
    Lockstep likeness.strict closeTop closeTop first second (fun _ _ ↦ likeness.Tracks) refused := by
  refine Lockstep.of_eq (closeTop_chain top ordered) (closeTop_chain there also) ?_
  have pairs := tracks.recording.control.frames
  rw [top, there] at pairs
  obtain ⟨head, below⟩ := List.forall₂_cons.1 pairs
  cases head with
  | chain same =>
    exact ⟨tracks.rest.recording _ _ _ _, ⟨below, tracks.recording.control.depth, tracks.recording.control.context⟩,
      same.close tracks.recording.statements⟩

theorem closeSwitch_lockstep {switch grown : OpenSwitch} (top : first.control.frames = .switch switch :: base)
    (there : second.control.frames = .switch grown :: rest) :
    Lockstep likeness.strict closeTop closeTop first second (fun _ _ ↦ likeness.Tracks) refused := by
  refine Lockstep.of_eq (closeTop_switch top) (closeTop_switch there) ?_
  have pairs := tracks.recording.control.frames
  rw [top, there] at pairs
  obtain ⟨head, below⟩ := List.forall₂_cons.1 pairs
  cases head with
  | switch same =>
    exact ⟨tracks.rest.recording _ _ _ _, ⟨below, tracks.recording.control.depth, tracks.recording.control.context⟩,
      same.lower tracks.recording.statements⟩

/-- The machine on top of both stacks is closed, or it is refused and both lose its frame. -/
theorem finishMachine_lockstep (sound : first.Sound) (also : second.Sound) {id : MachineId} {loc : Location}
    (kept : ¬likeness.lost id) (ready : ∀ machine other, first.machines.get? (likeness.ids id) = some machine →
      second.machines.get? id = some other → likeness.Machines id machine other →
        likeness.Ready id machine other loc) (top : first.control.frames = .machine (likeness.ids id) loc :: rest)
    (there : second.control.frames = .machine id loc :: base) :
    Lockstep likeness.strict (finishMachine (likeness.ids id)) (finishMachine id) first second
      (fun _ _ ↦ likeness.Tracks) likeness.Lags := by
  have below : List.Forall₂ likeness.Frames rest base := by
    have pairs := tracks.recording.control.frames
    rw [top, there] at pairs
    exact (List.forall₂_cons.1 pairs).2
  have popped : likeness.Tracks (first.withFrames rest) (second.withFrames base) :=
    ⟨tracks.rest.withFrames _ _, ⟨below, tracks.recording.control.depth, tracks.recording.control.context⟩,
      tracks.recording.statements⟩
  obtain ⟨machine, found, -⟩ := sound.running (likeness.ids id) (by rw [top]; exact List.mem_cons_self ..)
  obtain ⟨other, known, -⟩ := also.running id (by rw [there]; exact List.mem_cons_self ..)
  have alike : likeness.Machines id machine other := by
    have pair := tracks.rest.machines id
    rw [found, known] at pair
    cases pair
    assumption
  rcases alike.close kept (sound.proper _ _ found) (also.proper _ _ known) (ready machine other found known alike) with
    ⟨error, refused, fails⟩ | ⟨closing, closed, returned, again, closings⟩
  · rw [Lockstep, finishMachine_of_refused top found refused]
    intro sure
    obtain ⟨error, again⟩ := fails sure
    exact ⟨error, _, finishMachine_of_refused there known again, .of_tracks popped⟩
  · exact Lockstep.of_eq (finishMachine_of_closed top found returned) (finishMachine_of_closed there known again)
      (popped.finishing closings kept _ _)

theorem addState_lockstep (standing : second.control.Stands) {construct : Construct}
    (within : second.control.context = some construct) {id : MachineId} (kept : ¬likeness.lost id) (name : String)
    {recorded filed : Body} (bodies : likeness.Bodies recorded filed) (loc : Location) :
    Lockstep likeness.strict (addState (likeness.ids id) name recorded loc) (addState id name filed loc) first second
      (fun _ _ ↦ likeness.Tracks) likeness.Lags := by
  refine Lockstep.get_ (Lockstep.bind (fetch_lockstep tracks.rest id fun machine other found known alike ↦ ?_))
  have same := alike.kept kept
  cases declared : other.states.contains name with
  | true =>
    have also : machine.states.contains name = true := by rw [same.contains_states, declared]
    rw [Table.insertFirst, Table.insertFirst, if_pos also, if_pos declared]
    exact Lockstep.bind Lockstep.throw_broken
  | false =>
    have also : machine.states.contains name = false := by rw [same.contains_states, declared]
    have absent : name ∉ other.states.keys := by
      rw [← Table.contains_iff_mem_keys, declared]
      exact Bool.false_ne_true
    rw [Table.insertFirst, Table.insertFirst, also, declared]
    refine Lockstep.bind (Lockstep.pure_ (Lockstep.get_ (Lockstep.bind ?_)))
    refine fetch_lockstep tracks.rest id fun machine' other' refound reknown _ ↦ Lockstep.modify_ ?_
    rw [found, Option.some.injEq] at refound
    rw [known, Option.some.injEq] at reknown
    subst refound reknown
    have changed : likeness.Machines id { machine with states := machine.states.insert name ⟨recorded, loc⟩ }
        { other with states := other.states.insert name ⟨filed, loc⟩ } :=
      ⟨alike.name, alike.register, alike.incomplete, fun _ ↦ same.declare absent bodies loc⟩
    exact tracks_of_context ((Likeness.Lags.of_tracks tracks).withMachine changed) standing within

end Finish

/-! ## Parts and clock domains -/

section Parts

variable (lags : likeness.Lags first second)

include lags

theorem addPart_lockstep (name : Option String) {component other : Component} (loc : Location)
    (alike : ∀ domain, likeness.observed domain → Likeness.Components domain component other) :
    Lockstep likeness.strict (addPart name component loc) (addPart name other loc) first second
      (fun _ _ ↦ likeness.Lags) likeness.Lags := by
  have rest := lags.rest
  cases name with
  | none =>
    refine Lockstep.modify_ (lags.congr ?_ rfl rfl rfl rfl)
    exact ⟨rest.settings, rest.claimed, rest.free, rest.machines, rest.fresh, rest.found, rest.named, rest.domains,
      rest.indicators, rest.partsByName, fun domain seen ↦
        List.rel_append (rest.otherParts domain seen) (.cons ⟨rfl, alike domain seen⟩ .nil)⟩
  | some name =>
    refine Lockstep.get_ ?_
    by_cases known : first.namedParts.contains name = true
    · rw [if_pos known]
      intro sure
      have also := rest.named.contains_first known fun extra ↦ extra.2 loc sure
      exact ⟨_, second, by simp only [also, ↓reduceIte]; rfl, lags⟩
    · have unknown := rest.named.contains_second known
      rw [if_neg known, if_neg unknown]
      refine Lockstep.modify_ (lags.congr ?_ rfl rfl rfl rfl)
      refine ⟨rest.settings, rest.claimed, rest.free, rest.machines, rest.fresh, rest.found, rest.named.insert ..,
        rest.domains, rest.indicators, fun domain seen ↦ ?_, rest.otherParts⟩
      rw [Table.contains_iff_mem_keys] at known unknown
      rw [Table.entries_insert_of_notMem _ _ _ known, Table.entries_insert_of_notMem _ _ _ unknown]
      exact List.rel_append (rest.partsByName domain seen) (.cons ⟨rfl, rfl, alike domain seen⟩ .nil)

theorem part_lockstep {name : String} (seen : ¬likeness.taken name) (loc : Location) :
    Lockstep likeness.strict (part name loc) (part name loc) first second (fun _ _ ↦ likeness.Lags) likeness.Lags := by
  refine Lockstep.get_ ?_
  have named : name ∈ first.namedParts.keys ↔ name ∈ second.namedParts.keys :=
    ⟨fun mem ↦ (lags.rest.named.missing name mem).resolve_right fun extra ↦ seen extra.1, lags.rest.named.known name⟩
  rw [← not_iff_not, ← Table.get?_eq_none_iff, ← Table.get?_eq_none_iff] at named
  cases found : first.namedParts.get? name with
  | none =>
    rw [named.1 found]
    exact refuse_lockstep _ _ _ lags
  | some held =>
    cases known : second.namedParts.get? name with
    | none => simp [named.2 known] at found
    | some other => exact Lockstep.pure_ lags

theorem addDomain_lockstep (domain : ClockDomain) (loc : Location) :
    Lockstep likeness.strict (addDomain domain loc) (addDomain domain loc) first second (fun _ _ ↦ likeness.Lags)
      likeness.Lags := by
  refine Lockstep.get_ ?_
  have rest := lags.rest
  by_cases known : first.domains.contains domain.name = true
  · rw [if_pos known]
    intro sure
    have also := rest.domains.contains_first known fun extra ↦ extra loc sure
    exact ⟨_, second, by simp only [also, ↓reduceIte]; rfl, lags⟩
  · rw [if_neg known, if_neg (rest.domains.contains_second known)]
    refine Lockstep.modify_ (lags.congr ?_ rfl rfl rfl rfl)
    exact ⟨rest.settings, rest.claimed, rest.free, rest.machines, rest.fresh, rest.found, rest.named,
      rest.domains.insert .., rest.indicators, rest.partsByName, rest.otherParts⟩

end Parts

end Build

end RegisterTransfer
