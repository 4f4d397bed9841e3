import RegisterTransfer.Proofs.Reached

/-!
# What runs keep

Of all calls on a builder, only one touches the parts of the module. So a relation between sessions that depends on
their traces and on those parts alone holds between the start and the end of every run, if it does where an entry joins
the trace, where a part is added and where a module of its own is run.
-/

namespace RegisterTransfer

/-! ## Calls that leave the parts alone -/

/-- The builders hold the same parts. -/
structure Builder.SameParts (before after : Builder) : Prop where
  named : after.namedParts = before.namedParts
  anonymous : after.anonymousParts = before.anonymousParts

namespace Build

variable {α β : Type}

def KeepsParts (call : Build α) : Prop := ∀ builder, Ends call builder (.always builder.SameParts)

theorem pure_keepsParts (value : α) : KeepsParts (Pure.pure value : Build α) := fun _ ↦ ⟨rfl, rfl⟩

theorem get_keepsParts : KeepsParts (MonadState.get : Build Builder) := fun _ ↦ ⟨rfl, rfl⟩

theorem refuse_keepsParts (cause : BuildError.Cause) (loc : Location) : KeepsParts (refuse cause loc : Build α) :=
  fun _ ↦ ⟨rfl, rfl⟩

theorem broken_keepsParts (fault : Fault) : KeepsParts (throw (.broken fault) : Build α) := fun _ ↦ trivial

theorem modify_keepsParts {change : Builder → Builder} (same : ∀ builder : Builder, builder.SameParts (change builder)) :
    KeepsParts (modify change : Build PUnit) := same

theorem accepted_keepsParts (result : Except BuildError α) : KeepsParts (accepted result) := by
  cases result with
  | ok value => exact pure_keepsParts value
  | error error => exact fun _ ↦ ⟨rfl, rfl⟩

theorem settled_keepsParts (result : Except Failure α) : KeepsParts (settled result) := by
  rcases result with ⟨error | fault⟩ | value
  · exact fun _ ↦ ⟨rfl, rfl⟩
  · exact broken_keepsParts fault
  · exact pure_keepsParts value

theorem sound_keepsParts (result : Except Fault α) : KeepsParts (Build.sound result) := by
  cases result with
  | ok value => exact pure_keepsParts value
  | error fault => exact broken_keepsParts fault

theorem KeepsParts.bind {call : Build α} {next : α → Build β} (first : KeepsParts call)
    (others : ∀ value, KeepsParts (next value)) : KeepsParts (call >>= next) := by
  intro builder
  refine (ends_bind ..).2 ((first builder).mono (fun value middle before ↦ ?_) fun _ _ before ↦ before)
  exact (others value middle).mono_always fun _ after ↦
    ⟨after.named.trans before.named, after.anonymous.trans before.anonymous⟩

/-- A call that only changes something else, and what follows it. -/
theorem KeepsParts.modify_bind {change : Builder → Builder} {next : PUnit → Build β}
    (same : ∀ builder : Builder, builder.SameParts (change builder)) (others : ∀ value, KeepsParts (next value)) :
    KeepsParts (modify change >>= next) := (modify_keepsParts same).bind others

theorem refuse_bind_keepsParts (cause : BuildError.Cause) (loc : Location) (next : α → Build β) :
    KeepsParts (refuse cause loc >>= next) := fun _ ↦ ⟨rfl, rfl⟩

/-! ### Closing and opening constructs -/

theorem appendBranches_keepsParts (branches : List (String × Statement)) : KeepsParts (appendBranches branches) := by
  induction branches with
  | nil => exact pure_keepsParts _
  | cons entry rest ih => exact .modify_bind (fun _ ↦ ⟨rfl, rfl⟩) fun _ ↦ ih

theorem lowerFrame_keepsParts (frame : Frame) : KeepsParts (lowerFrame frame) := by
  cases frame with
  | chain chain => exact sound_keepsParts _
  | switch switch => exact pure_keepsParts _
  | machine id loc =>
    refine get_keepsParts.bind fun _ ↦ (sound_keepsParts _).bind fun _ ↦ (settled_keepsParts _).bind fun _ ↦ ?_
    exact .modify_bind (fun _ ↦ ⟨rfl, rfl⟩) fun _ ↦ pure_keepsParts _

theorem closeTop_keepsParts : KeepsParts closeTop := by
  refine get_keepsParts.bind fun _ ↦ ?_
  split
  · exact pure_keepsParts _
  · refine .modify_bind (fun _ ↦ ⟨rfl, rfl⟩) fun _ ↦ ?_
    exact (lowerFrame_keepsParts _).bind fun _ ↦ appendBranches_keepsParts _

theorem closeFrames_keepsParts (count : Nat) : KeepsParts (closeFrames count) := by
  induction count with
  | zero => exact pure_keepsParts _
  | succ count ih => exact closeTop_keepsParts.bind fun _ ↦ ih

theorem flush_keepsParts : KeepsParts flush := get_keepsParts.bind fun _ ↦ closeFrames_keepsParts _

theorem openFrame_keepsParts (frame : Frame) : KeepsParts (openFrame frame) :=
  flush_keepsParts.bind fun _ ↦ modify_keepsParts fun _ ↦ ⟨rfl, rfl⟩

/-! ### Checks and statements -/

theorem checkPlace_keepsParts (keyword : Keyword) (loc : Location) : KeepsParts (checkPlace keyword loc) := by
  refine get_keepsParts.bind fun _ ↦ ?_
  dsimp only
  split
  · exact pure_keepsParts _
  · split
    · exact refuse_keepsParts _ _
    · exact refuse_keepsParts _ _
    · exact broken_keepsParts _

theorem report_keepsParts (diagnostic : Diagnostic) : KeepsParts (report diagnostic) :=
  modify_keepsParts fun _ ↦ ⟨rfl, rfl⟩

theorem adviseSigned_keepsParts (condition : Value) (loc : Location) : KeepsParts (adviseSigned condition loc) := by
  refine get_keepsParts.bind fun _ ↦ ?_
  split
  · exact report_keepsParts _
  · exact pure_keepsParts _

theorem record_keepsParts (domain : String) (statements : List Statement) (loc : Location) :
    KeepsParts (record domain statements loc) := by
  refine flush_keepsParts.bind fun _ ↦ get_keepsParts.bind fun _ ↦ (accepted_keepsParts _).bind fun _ ↦ ?_
  refine get_keepsParts.bind fun _ ↦ (accepted_keepsParts _).bind fun _ ↦ ?_
  exact modify_keepsParts fun _ ↦ ⟨rfl, rfl⟩

theorem add_keepsParts (domain : String) (statements : List Statement) (loc : Location) :
    KeepsParts (add domain statements loc) := by
  have filed := record_keepsParts domain statements loc
  refine get_keepsParts.bind fun builder ↦ ?_
  cases builder.control.context with
  | some construct => exact refuse_bind_keepsParts _ _ _
  | none =>
    dsimp only
    split
    · split
      · exact (report_keepsParts _).bind fun _ ↦ filed
      · exact filed
    · exact refuse_bind_keepsParts _ _ _

/-! ### Conditional chains -/

theorem openChain_keepsParts (condition : Value) (loc : Location) : KeepsParts (openChain condition loc) := by
  refine (checkPlace_keepsParts _ _).bind fun _ ↦ (adviseSigned_keepsParts _ _).bind fun _ ↦ ?_
  refine get_keepsParts.bind fun _ ↦ (openFrame_keepsParts _).bind fun _ ↦ ?_
  exact get_keepsParts.bind fun _ ↦ pure_keepsParts _

theorem requireChain_keepsParts (cause : BuildError.Cause) (loc : Location) : KeepsParts (requireChain cause loc) := by
  refine get_keepsParts.bind fun _ ↦ ?_
  split
  · exact refuse_keepsParts _ _
  · exact pure_keepsParts _

theorem resumeChain_keepsParts (condition : Value) (loc : Location) : KeepsParts (resumeChain condition loc) := by
  refine (checkPlace_keepsParts _ _).bind fun _ ↦ (adviseSigned_keepsParts _ _).bind fun _ ↦ ?_
  exact requireChain_keepsParts _ _

theorem finishChain_keepsParts (loc : Location) : KeepsParts (finishChain loc) :=
  (checkPlace_keepsParts _ _).bind fun _ ↦ requireChain_keepsParts _ _

theorem addBranch_keepsParts (test : Option Value) (body : Body) (loc : Location) :
    KeepsParts (addBranch test body loc) := by
  refine get_keepsParts.bind fun _ ↦ ?_
  split
  · exact broken_keepsParts _
  · exact modify_keepsParts fun _ ↦ ⟨rfl, rfl⟩

/-! ### Switches -/

theorem openSwitch_keepsParts (test : Value) (loc : Location) : KeepsParts (openSwitch test loc) :=
  (checkPlace_keepsParts _ _).bind fun _ ↦ openFrame_keepsParts _

theorem topSwitch_keepsParts : KeepsParts topSwitch := by
  refine get_keepsParts.bind fun _ ↦ ?_
  split
  · exact pure_keepsParts _
  · exact broken_keepsParts _

theorem adviseAfterDefault_keepsParts (loc : Location) : KeepsParts (adviseAfterDefault loc) := by
  refine topSwitch_keepsParts.bind fun _ ↦ ?_
  split
  · exact report_keepsParts _
  · exact pure_keepsParts _

theorem readPatterns_keepsParts (width : Nat) (loc : Location) (patterns : List (WrittenPattern Value)) :
    KeepsParts (readPatterns width loc patterns) := by
  induction patterns with
  | nil => exact pure_keepsParts _
  | cons written rest ih =>
    refine (accepted_keepsParts _).bind fun reading ↦ ?_
    cases reading with
    | pattern pattern => exact ih.bind fun _ ↦ pure_keepsParts _
    | dead advice => exact (report_keepsParts _).bind fun _ ↦ ih

theorem startCase_keepsParts (patterns : List (WrittenPattern Value)) (loc : Location) :
    KeepsParts (startCase patterns loc) := by
  refine (checkPlace_keepsParts _ _).bind fun _ ↦ topSwitch_keepsParts.bind fun _ ↦ ?_
  exact (adviseAfterDefault_keepsParts _).bind fun _ ↦ readPatterns_keepsParts _ _ _

theorem startDefault_keepsParts (loc : Location) : KeepsParts (startDefault loc) :=
  (checkPlace_keepsParts _ _).bind fun _ ↦ adviseAfterDefault_keepsParts _

theorem addCase_keepsParts (patterns : List Pattern) (body : Body) (loc : Location) :
    KeepsParts (addCase patterns body loc) :=
  topSwitch_keepsParts.bind fun _ ↦ modify_keepsParts fun _ ↦ ⟨rfl, rfl⟩

/-! ### State machines -/

theorem changeMachine_keepsParts (id : MachineId) (f : Machine → Machine) : KeepsParts (changeMachine id f) := by
  refine get_keepsParts.bind fun _ ↦ (sound_keepsParts _).bind fun _ ↦ ?_
  exact modify_keepsParts fun _ ↦ ⟨rfl, rfl⟩

theorem openMachine_keepsParts (name domain initial : Option String) (loc : Location) :
    KeepsParts (openMachine name domain initial loc) := by
  refine (checkPlace_keepsParts _ _).bind fun _ ↦ get_keepsParts.bind fun _ ↦ ?_
  dsimp only
  split
  · exact refuse_bind_keepsParts _ _ _
  · refine get_keepsParts.bind fun _ ↦ .modify_bind (fun _ ↦ ⟨rfl, rfl⟩) fun _ ↦ ?_
    exact (openFrame_keepsParts _).bind fun _ ↦ pure_keepsParts _

theorem finishMachine_keepsParts (id : MachineId) : KeepsParts (finishMachine id) := by
  refine get_keepsParts.bind fun _ ↦ (sound_keepsParts _).bind fun _ ↦ closeTop_keepsParts.bind fun _ ↦ ?_
  exact modify_keepsParts fun _ ↦ ⟨rfl, rfl⟩

theorem startState_keepsParts (state : String) (loc : Location) : KeepsParts (startState state loc) := by
  have top : KeepsParts topMachine := by
    refine get_keepsParts.bind fun _ ↦ ?_
    split
    · exact pure_keepsParts _
    · exact broken_keepsParts _
  refine (checkPlace_keepsParts _ _).bind fun _ ↦ top.bind fun _ ↦ get_keepsParts.bind fun _ ↦ ?_
  refine (sound_keepsParts _).bind fun _ ↦ ?_
  split
  · exact refuse_bind_keepsParts _ _ _
  · exact (changeMachine_keepsParts _ _).bind fun _ ↦ pure_keepsParts _

theorem addState_keepsParts (id : MachineId) (state : String) (body : Body) (loc : Location) :
    KeepsParts (addState id state body loc) := by
  refine get_keepsParts.bind fun _ ↦ (sound_keepsParts _).bind fun _ ↦ (sound_keepsParts _).bind fun _ ↦ ?_
  exact changeMachine_keepsParts _ _

theorem goto_keepsParts (state : String) (loc : Location) : KeepsParts (goto state loc) := by
  have current : KeepsParts (currentMachine loc) := by
    refine get_keepsParts.bind fun _ ↦ ?_
    dsimp only
    split
    · exact refuse_bind_keepsParts _ _ _
    · split
      · exact pure_keepsParts _
      · exact refuse_keepsParts _ _
  refine current.bind fun _ ↦ get_keepsParts.bind fun _ ↦ (sound_keepsParts _).bind fun _ ↦ ?_
  exact (changeMachine_keepsParts _ _).bind fun _ ↦ record_keepsParts _ _ _

theorem ongoing_keepsParts (id : MachineId) (state : String) (loc : Location) : KeepsParts (ongoing id state loc) := by
  refine get_keepsParts.bind fun _ ↦ ?_
  split
  · exact refuse_keepsParts _ _
  · dsimp only
    split
    · exact refuse_bind_keepsParts _ _ _
    · refine .modify_bind (fun _ ↦ ⟨rfl, rfl⟩) fun _ ↦ ?_
      exact (sound_keepsParts _).bind fun _ ↦ pure_keepsParts _

/-! ### Parts and clock domains -/

theorem part_keepsParts (name : String) (loc : Location) : KeepsParts (part name loc) := by
  refine get_keepsParts.bind fun _ ↦ ?_
  split
  · exact pure_keepsParts _
  · exact refuse_keepsParts _ _

theorem addDomain_keepsParts (domain : ClockDomain) (loc : Location) : KeepsParts (addDomain domain loc) := by
  refine get_keepsParts.bind fun _ ↦ ?_
  split
  · exact refuse_bind_keepsParts _ _ _
  · exact modify_keepsParts fun _ ↦ ⟨rfl, rfl⟩

end Build

/-! ## Relations between sessions -/

/-- The sessions agree on their traces and on the parts of their modules. -/
structure Session.Agrees (before after : Session) : Prop extends before.builder.SameParts after.builder where
  trace : after.trace = before.trace

/-- A relation between sessions and later ones that nothing but the trace and the parts of the module can break. -/
structure Onward (R : Session → Session → Prop) : Prop where
  agrees : ∀ {before after : Session}, before.Agrees after → R before after
  trans : ∀ {first second third : Session}, R first second → R second third → R first third
  entry : ∀ (session : Session) (entry : Entry), R session { session with trace := session.trace ++ [entry] }

namespace Run

variable {α β : Type}

/-- The relation holds between the sessions before and after an action. -/
def Keeps (R : Session → Session → Prop) (action : Run α) : Prop :=
  ∀ session, Ends action session (.always (R session))

section Keeps

variable {R : Session → Session → Prop} (onward : Onward R)

include onward

theorem keeps_same {change : Session → Session} (same : ∀ session : Session, session.Agrees (change session)) :
    Keeps R (modify change : Run PUnit) := fun session ↦ onward.agrees (same session)

theorem keeps_pure (value : α) : Keeps R (Pure.pure value : Run α) := fun _ ↦ onward.agrees ⟨⟨rfl, rfl⟩, rfl⟩

theorem keeps_get : Keeps R (MonadState.get : Run Session) := fun _ ↦ onward.agrees ⟨⟨rfl, rfl⟩, rfl⟩

theorem keeps_refused (error : BuildError) : Keeps R (throw (.refused error) : Run α) :=
  fun _ ↦ onward.agrees ⟨⟨rfl, rfl⟩, rfl⟩

theorem keeps_sound (result : Except Fault α) : Keeps R (Run.sound result) :=
  fun _ ↦ (ends_sound ..).2 fun _ _ ↦ onward.agrees ⟨⟨rfl, rfl⟩, rfl⟩

theorem keeps_build {call : Build α} (keeps : call.KeepsParts) : Keeps R (Run.build call) := by
  intro session
  refine (ends_build ..).2 ((keeps session.builder).mono ?_ ?_)
  · exact fun _ _ same ↦ onward.agrees ⟨same, rfl⟩
  · exact fun _ _ same ↦ onward.agrees ⟨same, rfl⟩

theorem keeps_bind {action : Run α} {next : α → Run β} (first : Keeps R action)
    (others : ∀ value, Keeps R (next value)) : Keeps R (action >>= next) := by
  intro session
  refine (ends_bind ..).2 ((first session).mono (fun value middle before ↦ ?_) fun _ _ before ↦ before)
  exact (others value middle).mono_always fun _ after ↦ onward.trans before after

theorem keeps_onRefusal {action : Run α} (keeps : Keeps R action) {cleanup : Builder → Builder}
    (same : ∀ builder : Builder, builder.SameParts (cleanup builder)) : Keeps R (Run.onRefusal action cleanup) := by
  refine fun session ↦ (ends_onRefusal ..).2 ((keeps session).mono (fun _ _ before ↦ before) fun _ later before ↦ ?_)
  exact onward.trans before (onward.agrees ⟨same later.builder, rfl⟩)

theorem keeps_capture (levels : Nat) {body : Run Unit} (keeps : Keeps R body) : Keeps R (Run.capture levels body) := by
  intro session
  have inner := keeps_bind onward keeps fun _ ↦ keeps_build onward Build.flush_keepsParts
  have entered : R session (session.withBuilder (session.builder.enterBody levels)) :=
    onward.agrees ⟨⟨rfl, rfl⟩, rfl⟩
  refine (ends_capture ..).2 ((inner _).mono (fun _ later before ↦ ?_) fun _ later before ↦ ?_)
  · exact onward.trans entered (onward.trans before (onward.agrees ⟨⟨rfl, rfl⟩, rfl⟩))
  · exact onward.trans entered (onward.trans before (onward.agrees ⟨⟨rfl, rfl⟩, rfl⟩))

theorem keeps_inside (construct : Construct) {body : Run Unit} (keeps : Keeps R body) :
    Keeps R (Run.inside construct body) := by
  intro session
  have entered : R session (session.withBuilder (session.builder.enterConstruct construct)) :=
    onward.agrees ⟨⟨rfl, rfl⟩, rfl⟩
  refine (ends_inside ..).2 ((keeps _).mono (fun _ later before ↦ ?_) fun _ later before ↦ ?_)
  · exact onward.trans entered (onward.trans before (onward.agrees ⟨⟨rfl, rfl⟩, rfl⟩))
  · exact onward.trans entered (onward.trans before (onward.agrees ⟨⟨rfl, rfl⟩, rfl⟩))

omit onward in
theorem keeps_caught {action : Run Unit} (keeps : Keeps R action) : Keeps R (Run.caught action) :=
  fun _ ↦ (ends_caught ..).2 (keeps _)

theorem keeps_traced (label : String) (loc : Location) {action : Run Answer} (keeps : Keeps R action) :
    Keeps R (Run.traced label loc action) := by
  refine fun session ↦ (ends_traced ..).2 ((keeps session).mono ?_ ?_)
  · exact fun _ later before ↦ onward.trans before (onward.entry later _)
  · exact fun _ later before ↦ onward.trans before (onward.entry later _)

theorem keeps_evaluate (term : Term) : Keeps R (evaluate term) :=
  keeps_bind onward (keeps_get onward) fun _ ↦ keeps_sound onward _

theorem keeps_storeMachine (key : String) (id : MachineId) : Keeps R (storeMachine key id) :=
  keeps_same onward fun _ ↦ ⟨⟨rfl, rfl⟩, rfl⟩

theorem keeps_storeValue (name : Option String) (value : Value) : Keeps R (storeValue name value) := by
  cases name with
  | none => exact keeps_pure onward _
  | some name => exact keeps_same onward fun _ ↦ ⟨⟨rfl, rfl⟩, rfl⟩

/-! ### Constructs with bodies -/

section Constructs

variable {body : Run Unit} (keeps : Keeps R body)

include keeps

/-- A body is recorded, and a call puts it in its place. -/
theorem keeps_recorded (levels : Nat) {call : Body → Build Unit} (calls : ∀ recorded, (call recorded).KeepsParts) :
    Keeps R (do build (call (← capture levels body))) :=
  keeps_bind onward (keeps_capture onward levels keeps) fun recorded ↦ keeps_build onward (calls recorded)

theorem keeps_ifThen (condition : Value) (loc : Location) : Keeps R (ifThen condition loc body) := by
  refine keeps_bind onward (keeps_build onward (Build.openChain_keepsParts _ _)) fun height ↦ ?_
  refine keeps_onRefusal onward ?_ fun _ ↦ ⟨rfl, rfl⟩
  exact keeps_recorded onward keeps 1 fun _ ↦ Build.addBranch_keepsParts _ _ _

theorem keeps_elseIf (condition : Value) (loc : Location) : Keeps R (elseIf condition loc body) := by
  refine keeps_bind onward (keeps_build onward (Build.resumeChain_keepsParts _ _)) fun _ ↦ ?_
  exact keeps_recorded onward keeps 1 fun _ ↦ Build.addBranch_keepsParts _ _ _

theorem keeps_otherwise (loc : Location) : Keeps R (otherwise loc body) := by
  refine keeps_bind onward (keeps_build onward (Build.finishChain_keepsParts _)) fun _ ↦ ?_
  refine keeps_bind onward (keeps_capture onward 1 keeps) fun _ ↦ ?_
  refine keeps_bind onward (keeps_build onward (Build.addBranch_keepsParts _ _ _)) fun _ ↦ ?_
  exact keeps_build onward Build.closeTop_keepsParts

theorem keeps_switch (test : Value) (loc : Location) : Keeps R (switch test loc body) := by
  refine keeps_bind onward (keeps_build onward (Build.openSwitch_keepsParts _ _)) fun _ ↦ ?_
  refine keeps_bind onward (keeps_inside onward _ keeps) fun _ ↦ ?_
  exact keeps_build onward Build.closeTop_keepsParts

theorem keeps_case (patterns : List (WrittenPattern Value)) (loc : Location) : Keeps R (case patterns loc body) := by
  refine keeps_bind onward (keeps_build onward (Build.startCase_keepsParts _ _)) fun live ↦ ?_
  refine keeps_bind onward (keeps_capture onward 0 keeps) fun recorded ↦ ?_
  split
  · exact keeps_pure onward _
  · exact keeps_build onward (Build.addCase_keepsParts _ _ _)

theorem keeps_default (loc : Location) : Keeps R (default loc body) := by
  refine keeps_bind onward (keeps_build onward (Build.startDefault_keepsParts _)) fun _ ↦ ?_
  exact keeps_recorded onward keeps 0 fun _ ↦ Build.addCase_keepsParts _ _ _

theorem keeps_state (name : String) (loc : Location) : Keeps R (state name loc body) := by
  refine keeps_bind onward (keeps_build onward (Build.startState_keepsParts _ _)) fun _ ↦ ?_
  exact keeps_recorded onward keeps 0 fun _ ↦ Build.addState_keepsParts _ _ _ _

end Constructs

theorem keeps_machine {body : MachineId → Run Unit} (keeps : ∀ id, Keeps R (body id))
    (name domain initial : Option String) (loc : Location) : Keeps R (machine name domain initial loc body) := by
  refine keeps_bind onward (keeps_build onward (Build.openMachine_keepsParts _ _ _ _)) fun id ↦ ?_
  refine keeps_bind onward (keeps_inside onward _ (keeps id)) fun _ ↦ ?_
  exact keeps_bind onward (keeps_build onward (Build.finishMachine_keepsParts _)) fun _ ↦ keeps_pure onward _

theorem keeps_ongoing (key state : String) (storeAs : Option String) (loc : Location) :
    Keeps R (ongoing key state storeAs loc) := by
  refine keeps_bind onward (keeps_get onward) fun session ↦ ?_
  split
  · exact keeps_pure onward _
  · refine keeps_bind onward (keeps_build onward (Build.ongoing_keepsParts _ _ _)) fun value ↦ ?_
    exact keeps_bind onward (keeps_storeValue onward _ _) fun _ ↦ keeps_pure onward _

theorem keeps_machineInfo (key : String) (storeAs : Option String) : Keeps R (machineInfo key storeAs) := by
  refine keeps_bind onward (keeps_get onward) fun session ↦ ?_
  split
  · exact keeps_pure onward _
  · refine keeps_bind onward (keeps_get onward) fun _ ↦ ?_
    dsimp only
    split
    · exact keeps_bind onward (keeps_storeValue onward _ _) fun _ ↦ keeps_pure onward _
    · exact keeps_pure onward _

end Keeps

end Run

/-! ## Steps -/

/-- A component that steps bring along, wherever they stand. -/
inductive Brings (component : Component) : List Step → Prop
  | here {steps : List Step} {step : Step} {name : Option String} :
    step ∈ steps → step.call = .component name component → Brings component steps
  | within {steps body : List Step} {step : Step} :
    step ∈ steps → step.call.body? = some body → Brings component body → Brings component steps

theorem Brings.of_tail {component : Component} {step : Step} {rest : List Step} (brings : Brings component rest) :
    Brings component (step :: rest) := by
  cases brings with
  | here mem call => exact .here (List.mem_cons_of_mem _ mem) call
  | within mem body brings => exact .within (List.mem_cons_of_mem _ mem) body brings

/-- The relation is kept where a call adds a part. -/
structure Adding (R : Session → Session → Prop) (given : Component → Prop) : Prop extends Onward R where
  component : ∀ (name : Option String) (component : Component) (loc : Location), given component →
    Run.Keeps R (Run.build (Build.addPart name component loc))
  module : ∀ (name : Option String) (settings : Settings) (loc : Location) (steps : List Step),
    Run.Keeps R (runAll steps) → Run.Keeps R (Run.module name settings loc (runAll steps))

section Steps

variable {R : Session → Session → Prop} {given : Component → Prop} (adding : Adding R given)

include adding

theorem runCall_keeps (loc : Location) {call : Call (List Step)}
    (bodies : ∀ body, call.body? = some body → Run.Keeps R (runBody body) ∧ Run.Keeps R (runAll body))
    (brought : ∀ name component, call = .component name component → given component) :
    Run.Keeps R (runCall loc call) := by
  have onward := adding.toOnward
  have answered : ∀ {action : Run Unit}, Run.Keeps R action → Run.Keeps R (do action; return Answer.nothing) :=
    fun keeps ↦ Run.keeps_bind onward keeps fun _ ↦ Run.keeps_pure onward _
  cases call with
  | add domain statements =>
    refine answered (Run.keeps_bind onward (Run.keeps_get onward) fun session ↦ ?_)
    refine Run.keeps_bind onward (Run.keeps_sound onward _) fun _ ↦ ?_
    exact Run.keeps_build onward (Build.add_keepsParts _ _ _)
  | ifThen condition body =>
    refine Run.keeps_bind onward (Run.keeps_evaluate onward _) fun _ ↦ ?_
    exact answered (Run.keeps_ifThen onward (bodies body rfl).1 _ _)
  | elseIf condition body =>
    refine Run.keeps_bind onward (Run.keeps_evaluate onward _) fun _ ↦ ?_
    exact answered (Run.keeps_elseIf onward (bodies body rfl).1 _ _)
  | otherwise body => exact answered (Run.keeps_otherwise onward (bodies body rfl).1 _)
  | switch test body =>
    refine Run.keeps_bind onward (Run.keeps_evaluate onward _) fun _ ↦ ?_
    exact answered (Run.keeps_switch onward (bodies body rfl).1 _ _)
  | case patterns body =>
    refine Run.keeps_bind onward (Run.keeps_get onward) fun _ ↦ ?_
    refine Run.keeps_bind onward (Run.keeps_sound onward _) fun _ ↦ ?_
    exact answered (Run.keeps_case onward (bodies body rfl).1 _ _)
  | default body => exact answered (Run.keeps_default onward (bodies body rfl).1 _)
  | machine name domain initial key body =>
    have inner : ∀ id, Run.Keeps R (do Run.storeMachine key id; runBody body) := fun id ↦
      Run.keeps_bind onward (Run.keeps_storeMachine onward _ _) fun _ ↦ (bodies body rfl).1
    refine Run.keeps_bind onward (Run.keeps_machine onward inner _ _ _ _) fun _ ↦ ?_
    exact Run.keeps_bind onward (Run.keeps_get onward) fun _ ↦ Run.keeps_pure onward _
  | state name body => exact answered (Run.keeps_state onward (bodies body rfl).1 _ _)
  | goto state => exact answered (Run.keeps_build onward (Build.goto_keepsParts _ _))
  | ongoing key state storeAs => exact Run.keeps_ongoing onward key state storeAs loc
  | machineInfo key storeAs => exact Run.keeps_machineInfo onward key storeAs
  | module name settings body => exact answered (adding.module name settings loc body (bodies body rfl).2)
  | component name component => exact answered (adding.component name component loc (brought name component rfl))
  | part name =>
    exact Run.keeps_bind onward (Run.keeps_build onward (Build.part_keepsParts _ _)) fun _ ↦ Run.keeps_pure onward _
  | domain domain =>
    refine answered (Run.keeps_build onward ((Build.accepted_keepsParts _).bind fun _ ↦ ?_))
    exact Build.addDomain_keepsParts _ _
  | raise message => exact Run.keeps_refused onward _
  | settings => exact Run.keeps_bind onward (Run.keeps_get onward) fun _ ↦ Run.keeps_pure onward _

theorem keeps_steps (steps : List Step) (brought : ∀ component, Brings component steps → given component) :
    Run.Keeps R (runBody steps) ∧ Run.Keeps R (runAll steps) := by
  have onward := adding.toOnward
  induction steps using Step.list_induction with
  | nil => exact ⟨Run.keeps_pure onward _, Run.keeps_pure onward _⟩
  | cons step rest bodies ih =>
    have others := ih fun component brings ↦ brought component brings.of_tail
    have first : Run.Keeps R step.run := by
      have call := runCall_keeps adding step.loc
        (fun body same ↦ bodies body same fun component brings ↦
          brought component (.within (List.mem_cons_self ..) same brings))
        fun name component same ↦ brought component (.here (List.mem_cons_self ..) same)
      obtain ⟨call, label, loc, caught⟩ := step
      exact Run.keeps_traced onward label loc call
    refine ⟨?_, Run.keeps_bind onward (Run.keeps_caught first) fun _ ↦ others.2⟩
    simp only [runBody]
    split
    · exact Run.keeps_bind onward (Run.keeps_caught first) fun _ ↦ others.1
    · exact Run.keeps_bind onward first fun _ ↦ others.1

end Steps

end RegisterTransfer
