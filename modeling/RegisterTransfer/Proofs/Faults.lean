import RegisterTransfer.Proofs.Parts

/-!
# Faults

No call on a sound builder breaks an assumption of its own: the frame a call expects is on top of the stack, the
machines it looks up are in the arena, and a machine has an indicator and a number for every state it has. What is left
are arguments outside the domain of an operation, which a program brings along itself.
-/

namespace RegisterTransfer

/-- Whether a fault is about an argument, a slice out of range or a name that nothing is stored under. -/
def Fault.isArgument : Fault → Bool
  | .sliceRange _ _ _ | .unboundName _ => true
  | _ => false

/-! ## Calls that no fault stops -/

section Faultless

variable {σ α β : Type}

/-- No fault stops an action, unless it is excused. -/
def Faultless (excused : Fault → Prop) (action : EStateM Failure σ α) (state : σ) : Prop :=
  ∀ fault after, action state = .error (.broken fault) after → excused fault

variable {excused : Fault → Prop} {action : EStateM Failure σ α} {state : σ}

theorem Faultless.of_ok {value : α} {after : σ} (ran : action state = .ok value after) :
    Faultless excused action state := by
  intro fault after broken
  rw [ran] at broken
  contradiction

theorem Faultless.bind {next : α → EStateM Failure σ β} (first : Faultless excused action state)
    (rest : Ends action state ⟨fun value after ↦ Faultless excused (next value) after, fun _ _ ↦ True⟩) :
    Faultless excused (action >>= next) state := by
  intro fault after broken
  simp only [Bind.bind, EStateM.bind] at broken
  split at broken
  · rename_i value middle ran
    exact Ends.of_ok ran rest fault after broken
  · rename_i failure middle ran
    rw [EStateM.Result.error.injEq] at broken
    rw [broken.1] at ran
    exact first fault middle ran

/-- An action with another one behind it that nothing stops. -/
theorem Faultless.bind_always {next : α → EStateM Failure σ β} (first : Faultless excused action state)
    (rest : ∀ value after, Faultless excused (next value) after) : Faultless excused (action >>= next) state := by
  refine .bind first ?_
  unfold Ends
  split
  · exact rest _ _
  · trivial
  · trivial

theorem Faultless.ite {condition : Prop} [Decidable condition] {first second : EStateM Failure σ α}
    (holds : condition → Faultless excused first state) (fails : ¬condition → Faultless excused second state) :
    Faultless excused (if condition then first else second) state := by
  split
  · exact holds ‹_›
  · exact fails ‹_›

theorem faultless_pure (value : α) : Faultless excused (pure value : EStateM Failure σ α) state := .of_ok rfl

theorem faultless_modify (change : σ → σ) : Faultless excused (modify change : EStateM Failure σ PUnit) state :=
  .of_ok rfl

theorem faultless_get_bind {next : σ → EStateM Failure σ β} (rest : Faultless excused (next state) state) :
    Faultless excused (get >>= next) state := rest

theorem faultless_modify_bind {change : σ → σ} {next : PUnit → EStateM Failure σ β}
    (rest : Faultless excused (next ⟨⟩) (change state)) : Faultless excused (modify change >>= next) state := rest

theorem faultless_refused (error : BuildError) :
    Faultless excused (throw (.refused error) : EStateM Failure σ α) state := by
  intro fault after broken
  simp [throw_apply] at broken

end Faultless

/-! ## Calls on a builder -/

namespace Build

variable {α β : Type} {excused : Fault → Prop} {builder : Builder}

theorem faultless_refuse (cause : BuildError.Cause) (loc : Location) :
    Faultless excused (refuse cause loc : Build α) builder := faultless_refused _

/-- Nothing follows a refusal. -/
theorem faultless_refuse_bind (cause : BuildError.Cause) (loc : Location) (next : α → Build β) :
    Faultless excused (refuse cause loc >>= next) builder := (faultless_refuse _ _).bind trivial

theorem faultless_accepted (result : Except BuildError α) : Faultless excused (accepted result) builder := by
  cases result with
  | ok value => exact faultless_pure value
  | error error => exact faultless_refused error

theorem faultless_sound_bind {result : Except Fault α} {value : α} (ok : result = .ok value)
    {next : α → Build β} (rest : Faultless excused (next value) builder) :
    Faultless excused (Build.sound result >>= next) builder := by
  rw [ok]
  exact rest

/-- A look-up of a machine of the builder. -/
theorem faultless_fetch_bind {id : MachineId} {machine : Machine} (found : builder.machines.get? id = some machine)
    {next : Machine → Build α} (rest : Faultless excused (next machine) builder) :
    Faultless excused (Build.sound (builder.machines.fetch id) >>= next) builder :=
  faultless_sound_bind ((Arena.fetch_eq_ok_iff ..).2 found) rest

theorem changeMachine_faultless {id : MachineId} {machine : Machine} (f : Machine → Machine)
    (found : builder.machines.get? id = some machine) : Faultless excused (changeMachine id f) builder :=
  faultless_get_bind (faultless_fetch_bind found (faultless_modify _))

/-! ### Checks and advice -/

/-- A keyword whose place is not the current one is refused, since one of the two is a construct. -/
theorem checkPlace_faultless (keyword : Keyword) (loc : Location) :
    Faultless excused (checkPlace keyword loc) builder := by
  refine faultless_get_bind (.ite (fun _ ↦ faultless_pure _) fun other ↦ ?_)
  split
  · exact faultless_refuse _ _
  · exact faultless_refuse _ _
  · rename_i outside unplaced
    exact absurd (outside.trans unplaced.symm) other

theorem report_faultless (diagnostic : Diagnostic) : Faultless excused (report diagnostic) builder :=
  faultless_modify _

theorem adviseSigned_faultless (condition : Value) (loc : Location) :
    Faultless excused (adviseSigned condition loc) builder :=
  faultless_get_bind (.ite (fun _ ↦ report_faultless _) fun _ ↦ faultless_pure _)

theorem requireChain_faultless (cause : BuildError.Cause) (loc : Location) :
    Faultless excused (requireChain cause loc) builder :=
  faultless_get_bind (.ite (fun _ ↦ faultless_refuse _ _) fun _ ↦ faultless_pure _)

theorem resumeChain_faultless (condition : Value) (loc : Location) :
    Faultless excused (resumeChain condition loc) builder :=
  (checkPlace_faultless _ _).bind_always fun _ _ ↦ (adviseSigned_faultless _ _).bind_always fun _ _ ↦
    requireChain_faultless _ _

theorem finishChain_faultless (loc : Location) : Faultless excused (finishChain loc) builder :=
  (checkPlace_faultless _ _).bind_always fun _ _ ↦ requireChain_faultless _ _

/-! ### Statements and new constructs -/

section Placed

variable (sound : builder.Sound) (placed : builder.control.Placed)

include sound placed

theorem openFrame_faultless (frame : Frame) : Faultless excused (openFrame frame) builder :=
  .bind_always (.of_ok (flush_of_placed sound.stacked placed)) fun _ _ ↦ faultless_modify _

theorem record_faultless (domain : String) (statements : List Statement) (loc : Location) :
    Faultless excused (record domain statements loc) builder := by
  refine .bind_always (.of_ok (flush_of_placed sound.stacked placed)) fun _ _ ↦ faultless_get_bind ?_
  refine (faultless_accepted _).bind_always fun _ _ ↦ faultless_get_bind ?_
  exact (faultless_accepted _).bind_always fun _ _ ↦ faultless_modify _

theorem add_faultless (domain : String) (statements : List Statement) (loc : Location) :
    Faultless excused (add domain statements loc) builder := by
  have filed : ∀ advice, Faultless excused (record domain statements loc) (builder.noted advice) :=
    fun advice ↦ record_faultless (sound.leads_noted advice).sound placed _ _ _
  refine faultless_get_bind ?_
  cases builder.control.context with
  | some construct => exact faultless_refuse_bind _ _ _
  | none =>
    dsimp only
    split
    · split
      · exact faultless_modify_bind (filed [.submodulesDomain loc])
      · simpa using filed []
    · exact faultless_refuse_bind _ _ _

theorem openChain_faultless (condition : Value) (loc : Location) :
    Faultless excused (openChain condition loc) builder := by
  refine .bind (checkPlace_faultless _ _) (checkPlace_ends _ _ (fun _ ↦ ?_) fun _ ↦ trivial)
  refine .bind (adviseSigned_faultless _ _) (adviseSigned_ends _ _ fun advice ↦ ?_)
  refine faultless_get_bind (.bind_always ?_ fun _ _ ↦ ?_)
  · exact openFrame_faultless (sound.leads_noted advice).sound placed _
  · exact faultless_get_bind (faultless_pure _)

theorem openSwitch_faultless (test : Value) (loc : Location) : Faultless excused (openSwitch test loc) builder :=
  .bind (checkPlace_faultless _ _) (checkPlace_ends _ _ (fun _ ↦ openFrame_faultless sound placed _) fun _ ↦ trivial)

theorem openMachine_faultless (name domain initial : Option String) (loc : Location) :
    Faultless excused (openMachine name domain initial loc) builder := by
  refine .bind (checkPlace_faultless _ _) (checkPlace_ends _ _ (fun _ ↦ ?_) fun _ ↦ trivial)
  refine faultless_get_bind ?_
  dsimp only
  split
  · exact faultless_refuse_bind _ _ _
  · rename_i clocked
    refine faultless_get_bind (faultless_modify_bind ?_)
    refine .bind_always ?_ fun _ _ ↦ faultless_pure _
    exact openFrame_faultless (sound.leads_withNewMachine initial clocked).sound placed _

theorem goto_faultless (state : String) (loc : Location) : Faultless excused (goto state loc) builder := by
  have current : Faultless excused (currentMachine loc) builder := by
    refine faultless_get_bind ?_
    dsimp only
    split
    · exact faultless_refuse_bind _ _ _
    · split
      · exact faultless_pure _
      · exact faultless_refuse _ _
  have innermost : Ends (currentMachine loc) builder
      ⟨fun id after ↦ after = builder ∧ builder.control.innermostMachine? = some id, fun _ _ ↦ True⟩ := by
    simp only [currentMachine, ends_bind, ends_get, ends_ite, ends_refuse]
    split
    · trivial
    · cases innermost : builder.control.innermostMachine? with
      | none => trivial
      | some id => exact ⟨rfl, rfl⟩
  refine current.bind (innermost.mono ?_ fun _ _ _ ↦ trivial)
  rintro id _ ⟨rfl, innermost⟩
  obtain ⟨machine, found, incomplete⟩ := sound.running id (Control.mem_machines_of_innermost innermost)
  refine faultless_get_bind (faultless_fetch_bind found ?_)
  refine (changeMachine_faultless _ found).bind (changeMachine_ends _ _ fun _ again ↦ ?_)
  rw [found, Option.some.injEq] at again
  subst again
  exact record_faultless (sound.leads_mention found incomplete state).sound placed _ _ _

end Placed

/-! ### Inside of constructs -/

theorem addBranch_faultless {chain : IfChain} {base : List Frame}
    (top : builder.control.frames = .chain chain :: base) (level : chain.depth = builder.control.depth)
    (test : Option Value) (body : Body) (loc : Location) : Faultless excused (addBranch test body loc) builder := by
  have behind : builder.control.openChain? = some chain := by simp [Control.openChain?, Control.top?, top, level]
  refine faultless_get_bind ?_
  rw [behind]
  exact faultless_modify _

section Switch

variable {switch : OpenSwitch} {base : List Frame}

theorem topSwitch_faultless (top : builder.control.frames = .switch switch :: base) :
    Faultless excused topSwitch builder := by
  refine faultless_get_bind ?_
  rw [Control.top?, top, List.head?_cons]
  exact faultless_pure _

theorem adviseAfterDefault_faultless (top : builder.control.frames = .switch switch :: base) (loc : Location) :
    Faultless excused (adviseAfterDefault loc) builder :=
  (topSwitch_faultless top).bind_always fun _ _ ↦ .ite (fun _ ↦ report_faultless _) fun _ ↦ faultless_pure _

theorem readPatterns_faultless (width : Nat) (loc : Location) (patterns : List (WrittenPattern Value)) :
    Faultless excused (readPatterns width loc patterns) builder := by
  induction patterns generalizing builder with
  | nil => exact faultless_pure _
  | cons written rest ih =>
    refine (faultless_accepted _).bind_always fun reading after ↦ ?_
    cases reading with
    | pattern pattern => exact ih.bind_always fun _ _ ↦ faultless_pure _
    | dead advice => exact (report_faultless _).bind_always fun _ _ ↦ ih

theorem startCase_faultless
    (top : builder.control.context = some .switch → builder.control.frames = .switch switch :: base)
    (patterns : List (WrittenPattern Value)) (loc : Location) :
    Faultless excused (startCase patterns loc) builder := by
  refine .bind (checkPlace_faultless _ _) (checkPlace_ends _ _ (fun context ↦ ?_) fun _ ↦ trivial)
  refine (topSwitch_faultless (top context)).bind (topSwitch_ends (top context) ?_)
  exact (adviseAfterDefault_faultless (top context) _).bind_always fun _ _ ↦ readPatterns_faultless _ _ _

theorem startDefault_faultless
    (top : builder.control.context = some .switch → builder.control.frames = .switch switch :: base)
    (loc : Location) : Faultless excused (startDefault loc) builder :=
  .bind (checkPlace_faultless _ _)
    (checkPlace_ends _ _ (fun context ↦ adviseAfterDefault_faultless (top context) _) fun _ ↦ trivial)

theorem addCase_faultless (top : builder.control.frames = .switch switch :: base) (patterns : List Pattern)
    (body : Body) (loc : Location) : Faultless excused (addCase patterns body loc) builder :=
  (topSwitch_faultless top).bind_always fun _ _ ↦ faultless_modify _

end Switch

theorem startState_faultless (sound : builder.Sound) {id : MachineId} {place : Location} {base : List Frame}
    (top : builder.control.context = some .machine → builder.control.frames = .machine id place :: base)
    (state : String) (loc : Location) : Faultless excused (startState state loc) builder := by
  refine .bind (checkPlace_faultless _ _) (checkPlace_ends _ _ (fun context ↦ ?_) fun _ ↦ trivial)
  have topmost : topMachine builder = .ok id builder := by
    simp only [topMachine, bind, EStateM.bind, get_apply, Control.top?, top context, List.head?_cons]
    rfl
  obtain ⟨machine, found, -⟩ := sound.running id (by simp [top context])
  refine (Faultless.of_ok topmost).bind (.of_eq_ok topmost ?_)
  refine faultless_get_bind (faultless_fetch_bind found ?_)
  split
  · exact faultless_refuse_bind _ _ _
  · exact (changeMachine_faultless _ found).bind_always fun _ _ ↦ faultless_pure _

/-- The state is a new one, and the machine is one of the builder. -/
theorem addState_faultless {id : MachineId} {machine : Machine} {state : String}
    (found : builder.machines.get? id = some machine) (absent : state ∉ machine.states.keys) (body : Body)
    (loc : Location) : Faultless excused (addState id state body loc) builder := by
  have inserted := (Table.insertFirst_eq_ok_iff _ _ _ (MachineState.mk body loc)).2 ⟨absent, rfl⟩
  exact faultless_get_bind (faultless_fetch_bind found
    (faultless_sound_bind inserted (changeMachine_faultless _ found)))

theorem finishMachine_faultless (sound : builder.Sound) {id : MachineId} {loc : Location} {base : List Frame}
    (top : builder.control.frames = .machine id loc :: base) : Faultless excused (finishMachine id) builder := by
  obtain ⟨machine, found, -⟩ := sound.running id (by simp [top])
  refine faultless_get_bind (faultless_fetch_bind found (.bind_always ?_ fun _ _ ↦ faultless_modify _))
  refine faultless_get_bind ?_
  simp only [Control.pop?, top]
  refine faultless_modify_bind (.bind_always ?_ fun branches after ↦ .of_ok (appendBranches_eq branches after))
  have again : (builder.withFrames base).machines.get? id = some machine := found
  refine faultless_get_bind (faultless_fetch_bind again ?_)
  rcases (sound.proper id machine found).close_cases loc with ⟨error, refused⟩ | ⟨closing, _, _, closed, -⟩
  · rw [refused]
    exact (faultless_refused error).bind trivial
  · rw [closed]
    exact .bind (faultless_pure closing) (faultless_modify_bind (faultless_pure _))

/-- A machine that is not complete has an indicator for every state it has a number for. -/
theorem ongoing_faultless (sound : builder.Sound) (id : MachineId) (state : String) (loc : Location) :
    Faultless excused (ongoing id state loc) builder := by
  refine faultless_get_bind ?_
  split
  · exact faultless_refuse _ _
  · rename_i machine found
    dsimp only
    split
    · exact faultless_refuse_bind _ _ _
    · have indicated : ∃ signal, (if machine.indicators.contains state then machine
          else machine.mention id state).indicators.get? state = some signal := by
        split
        · rename_i known
          exact Option.isSome_iff_exists.1 known
        · exact Table.exists_get?_of_mem_keys ((sound.proper id machine found).mem_indicators_mention state)
      obtain ⟨signal, listed⟩ := indicated
      exact faultless_modify_bind (faultless_sound_bind (Table.fetch_eq_ok listed) (faultless_pure _))

/-! ### Parts and clock domains -/

theorem addPart_faultless (name : Option String) (component : Component) (loc : Location) :
    Faultless excused (addPart name component loc) builder := by
  cases name with
  | none => exact faultless_modify _
  | some name =>
    refine faultless_get_bind ?_
    split
    · exact faultless_refuse_bind _ _ _
    · exact faultless_modify _

theorem part_faultless (name : String) (loc : Location) : Faultless excused (part name loc) builder := by
  refine faultless_get_bind ?_
  split
  · exact faultless_pure _
  · exact faultless_refuse _ _

theorem addDomain_faultless (domain : ClockDomain) (loc : Location) :
    Faultless excused (addDomain domain loc) builder := by
  refine faultless_get_bind ?_
  split
  · exact faultless_refuse_bind _ _ _
  · exact faultless_modify _

end Build

/-! ## Parts of a running program -/

namespace Run

variable {α β : Type} {excused : Fault → Prop} {session : Session}

theorem faultless_build {call : Build α} (safe : Faultless excused call session.builder) :
    Faultless excused (build call) session := by
  intro fault after broken
  unfold build at broken
  split at broken
  · contradiction
  · rename_i failure builder ran
    rw [EStateM.Result.error.injEq] at broken
    rw [broken.1] at ran
    exact safe fault builder ran

theorem faultless_settle {action : Run α} (safe : Faultless excused action session) :
    Faultless excused (settle action) session := by
  intro fault after broken
  unfold settle at broken
  split at broken
  · contradiction
  · contradiction
  · rename_i other later ran
    rw [EStateM.Result.error.injEq, Failure.broken.injEq] at broken
    rw [broken.1] at ran
    exact safe fault later ran

theorem faultless_caught {action : Run Unit} (safe : Faultless excused action session) :
    Faultless excused (caught action) session :=
  (faultless_settle safe).bind_always fun _ _ ↦ faultless_pure _

theorem faultless_traced (label : String) (loc : Location) {action : Run Answer}
    (safe : Faultless excused action session) : Faultless excused (traced label loc action) session := by
  refine (faultless_settle safe).bind_always fun result _ ↦ faultless_modify_bind ?_
  cases result with
  | ok answer => exact faultless_pure _
  | error error => exact faultless_refused error

theorem faultless_storeValue (name : Option String) (value : Value) :
    Faultless excused (storeValue name value) session := by
  cases name with
  | none => exact faultless_pure _
  | some name => exact faultless_modify _

/-- An action that no fault stops in a sound session, unless it is excused. -/
def Harmless (excused : Fault → Prop) (action : Run α) : Prop :=
  ∀ session : Session, session.builder.Sound → session.builder.control.Placed → Faultless excused action session

theorem Harmless.bind {first : Run α} {next : α → Run β} (harmless : Harmless excused first)
    (proceeds : Proceeds first) (rest : ∀ value, Harmless excused (next value)) :
    Harmless excused (first >>= next) := by
  intro session sound placed
  refine (harmless session sound placed).bind ((proceeds session sound placed).mono (fun value later stays ↦ ?_)
    fun _ _ _ ↦ trivial)
  exact rest value later stays.sound (stays.level.placed placed)

end Run

/-! ## Open constructs -/

namespace Ending

variable {excused : Fault → Prop} {ending : Ending} {session : Session} (sound : session.builder.Sound)
  (due : ending.Due session.builder.control)

include sound due

theorem faultless_finish (undeclared : ∀ id name, ending = .state id name → ∃ machine,
      session.builder.machines.get? id = some machine ∧ name ∉ machine.states.keys) (loc : Location) (recorded : Body) :
    Faultless excused (ending.finish loc recorded) session := by
  have answered : ∀ {call : Build Unit}, Faultless excused call session.builder →
      Faultless excused (do Run.build call; return Answer.nothing) session :=
    fun safe ↦ (Run.faultless_build safe).bind_always fun _ _ ↦ faultless_pure _
  cases ending with
  | first test height =>
    obtain ⟨-, chain, base, top, level, -⟩ := due
    exact answered (Build.addBranch_faultless (congrArg Control.frames top) (by rw [top, level]) _ _ _)
  | next test =>
    obtain ⟨chain, base, top, level, -⟩ := due
    exact answered (Build.addBranch_faultless (congrArg Control.frames top) (by rw [top, level]) _ _ _)
  | last =>
    obtain ⟨chain, base, top, level, conditions⟩ := due
    have frames := congrArg Control.frames top
    have height : chain.depth = session.builder.control.depth := by rw [top, level]
    refine (Run.faultless_build (Build.addBranch_faultless frames height _ _ _)).bind ?_
    refine (Run.ends_build ..).2 (Build.addBranch_ends frames height _ _ _ ?_)
    refine (Run.faultless_build ?_).bind_always fun _ _ ↦ faultless_pure _
    exact .of_ok (Build.closeTop_chain rfl (IfChain.ordered_extend conditions _))
  | switch =>
    obtain ⟨switch, base, top⟩ := due
    exact answered (.of_ok (Build.closeTop_switch (congrArg Control.frames top)))
  | case patterns =>
    obtain ⟨switch, base, place⟩ := due
    rw [finish]
    split
    · exact faultless_pure _
    · exact answered (Build.addCase_faultless place.frames _ _ _)
  | default =>
    obtain ⟨switch, base, place⟩ := due
    exact answered (Build.addCase_faultless place.frames _ _ _)
  | machine id =>
    obtain ⟨opened, base, top⟩ := due
    refine Faultless.bind_always (Run.faultless_build ?_) fun _ _ ↦ faultless_get_bind (faultless_pure _)
    exact Build.finishMachine_faultless sound (congrArg Control.frames top)
  | state id name =>
    obtain ⟨machine, found, absent⟩ := undeclared id name rfl
    exact answered (Build.addState_faultless found absent _ _)

/-- An open construct is as safe as its body. -/
theorem faultless_run {builder : Builder} (opens : builder.Opens ending session.builder) {body : Run Unit}
    (harmless : Run.Harmless excused body) (proceeds : Run.Proceeds body) (loc : Location) :
    Faultless excused (ending.run loc body) session := by
  intro fault after broken
  obtain ⟨entered, placed⟩ := sound.enters due
  have kept := proceeds (session.withBuilder (session.builder.enter ending.scope)) entered.sound placed
  rcases ran : body (session.withBuilder (session.builder.enter ending.scope)) with ⟨_, last⟩ | ⟨error | other, last⟩
  · have leaves := sound.leaves due (Ends.of_ok ran kept)
    rw [run_of_returned loc sound due proceeds ran] at broken
    refine faultless_finish leaves.sound leaves.due ?_ loc _ fault after broken
    rintro id name rfl
    exact opens.undeclared (sound.leads_left due leaves.stays)
  · simp [run_of_refused loc sound due proceeds ran] at broken
  · rw [run_of_broken loc ran, EStateM.Result.error.injEq, Failure.broken.injEq] at broken
    exact broken.1 ▸ harmless _ entered.sound placed other last ran

end Ending

end RegisterTransfer
