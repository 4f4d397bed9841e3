import RegisterTransfer.Proofs.Faults

/-!
# Programs and their faults

The terms of a program are the only place where a fault comes up while its steps run, and a component is the only one
when its module is elaborated. So whatever a program describes, it stops for what it has brought along itself, or it
comes to a report.
-/

namespace RegisterTransfer

/-! ## Terms -/

/-- A result whose fault, if it has one, is about an argument. -/
def Argued {α : Type} (result : Except Fault α) : Prop := ∀ fault, result = .error fault → fault.isArgument = true

section Argued

variable {α β : Type}

theorem argued_ok (value : α) : Argued (.ok value) := fun _ failed ↦ nomatch failed

theorem argued_error {fault : Fault} (argument : fault.isArgument = true) :
    Argued (.error fault : Except Fault α) := by
  intro other failed
  rw [Except.error.injEq] at failed
  exact failed ▸ argument

theorem Argued.bind {result : Except Fault α} {next : α → Except Fault β} (first : Argued result)
    (rest : ∀ value, Argued (next value)) : Argued (result >>= next) := by
  cases result with
  | ok value => exact rest value
  | error fault => exact argued_error (first fault rfl)

end Argued

theorem Environment.argued_value (environment : Environment) (name : String) : Argued (environment.value name) := by
  unfold Environment.value
  split
  · exact argued_ok _
  · exact argued_error rfl

theorem Environment.argued_machine (environment : Environment) (name : String) :
    Argued (environment.machine name) := by
  unfold Environment.machine
  split
  · exact argued_ok _
  · exact argued_error rfl

theorem Value.argued_checkedSlice (value : Value) (start stop : Nat) : Argued (value.checkedSlice start stop) := by
  unfold Value.checkedSlice
  split
  · exact argued_ok _
  · exact argued_error rfl

section Terms

variable (environment : Environment)

mutual

theorem Term.argued_eval : ∀ term : Term, Argued (term.eval environment)
  | .literal value => argued_ok value
  | .stored name => environment.argued_value name
  | .operator _ operands => (Term.argued_evalAll operands).bind fun _ ↦ argued_ok _
  | .asBool operand => (Term.argued_eval operand).bind fun _ ↦ argued_ok _
  | .cat parts => (Term.argued_evalAll parts).bind fun _ ↦ argued_ok _
  | .slice operand start stop => (Term.argued_eval operand).bind fun value ↦ value.argued_checkedSlice start stop

theorem Term.argued_evalAll : ∀ terms : List Term, Argued (Term.evalAll environment terms)
  | [] => argued_ok []
  | term :: rest => (Term.argued_eval term).bind fun _ ↦ (Term.argued_evalAll rest).bind fun _ ↦ argued_ok _

end

mutual

theorem StatementTerm.argued_eval : ∀ statement : StatementTerm, Argued (statement.eval environment)
  | .assign target source =>
    (target.argued_eval environment).bind fun _ ↦ (source.argued_eval environment).bind fun _ ↦ argued_ok _
  | .property _ test _ => (test.argued_eval environment).bind fun _ ↦ argued_ok _
  | .switch test cases _ =>
    (test.argued_eval environment).bind fun _ ↦ (StatementTerm.argued_evalCases cases).bind fun _ ↦ argued_ok _
  | .transition machine _ _ => (environment.argued_machine machine).bind fun _ ↦ argued_ok _

theorem StatementTerm.argued_evalCases :
    ∀ cases : List (Case (List StatementTerm)), Argued (StatementTerm.evalCases environment cases)
  | [] => argued_ok []
  | branch :: rest =>
    (StatementTerm.argued_evalCase branch).bind fun _ ↦ (StatementTerm.argued_evalCases rest).bind fun _ ↦ argued_ok _

theorem StatementTerm.argued_evalCase :
    ∀ branch : Case (List StatementTerm), Argued (StatementTerm.evalCase environment branch)
  | ⟨_, body, _⟩ => (StatementTerm.argued_evalAll body).bind fun _ ↦ argued_ok _

theorem StatementTerm.argued_evalAll :
    ∀ statements : List StatementTerm, Argued (StatementTerm.evalAll environment statements)
  | [] => argued_ok []
  | statement :: rest =>
    (StatementTerm.argued_eval statement).bind fun _ ↦ (StatementTerm.argued_evalAll rest).bind fun _ ↦ argued_ok _

end

theorem WrittenPattern.argued_evalAll (patterns : List (WrittenPattern Term)) :
    Argued (WrittenPattern.evalAll environment patterns) := by
  induction patterns with
  | nil => exact argued_ok []
  | cons pattern rest ih =>
    have first : Argued (pattern.eval environment) := by
      cases pattern with
      | bits digits => exact argued_ok _
      | value source => exact (source.argued_eval environment).bind fun _ ↦ argued_ok _
    exact first.bind fun _ ↦ ih.bind fun _ ↦ argued_ok _

end Terms

/-! ## Steps -/

namespace Run

variable {α : Type} {session : Session}

/-- An action that stops for arguments only. -/
abbrev Tame (action : Run α) : Prop := Harmless (fun fault ↦ fault.isArgument = true) action

theorem faultless_sound {result : Except Fault α} (argued : Argued result) :
    Faultless (fun fault ↦ fault.isArgument = true) (Run.sound result) session := by
  cases result with
  | ok value => exact faultless_pure value
  | error fault =>
    intro other after broken
    rw [Run.sound, throw_apply, EStateM.Result.error.injEq, Failure.broken.injEq] at broken
    exact broken.1 ▸ argued fault rfl

/-- The value of a term, and what is done with it where the program stands. -/
theorem faultless_evaluate_bind (term : Term) {next : Value → Run α}
    (rest : ∀ value, Faultless (fun fault ↦ fault.isArgument = true) (next value) session) :
    Faultless (fun fault ↦ fault.isArgument = true) (do next (← evaluate term)) session := by
  refine .bind (faultless_get_bind (faultless_sound (term.argued_eval _))) ?_
  exact evaluate_ends term fun value _ ↦ rest value

theorem addStatements_faultless (sound : session.builder.Sound) (placed : session.builder.control.Placed)
    (domain : String) (statements : List StatementTerm) (loc : Location) :
    Faultless (fun fault ↦ fault.isArgument = true) (addStatements domain statements loc) session := by
  refine faultless_get_bind (.bind (faultless_sound (StatementTerm.argued_evalAll _ statements)) ?_)
  exact (ends_sound ..).2 fun _ _ ↦ faultless_build (Build.add_faultless sound placed _ _ _)

theorem ongoing_faultless {excused : Fault → Prop} (sound : session.builder.Sound) (key state : String)
    (storeAs : Option String) (loc : Location) : Faultless excused (ongoing key state storeAs loc) session := by
  refine faultless_get_bind ?_
  split
  · exact faultless_pure _
  · refine (faultless_build (Build.ongoing_faultless sound _ _ _)).bind_always fun _ _ ↦ ?_
    exact (faultless_storeValue _ _).bind_always fun _ _ ↦ faultless_pure _

theorem machineInfo_faultless {excused : Fault → Prop} (key : String) (storeAs : Option String) :
    Faultless excused (machineInfo key storeAs) session := by
  refine faultless_get_bind ?_
  split
  · exact faultless_pure _
  · refine faultless_get_bind ?_
    dsimp only
    split
    · exact (faultless_storeValue _ _).bind_always fun _ _ ↦ faultless_pure _
    · exact faultless_pure _

end Run

/-- To open a construct is safe but for the arguments of its call. -/
theorem Call.opening_faultless {loc : Location} {call : Call (List Step)} {opening : Run Ending}
    (opens : call.opening loc = some opening) {session : Session} (sound : session.builder.Sound)
    (placed : session.builder.control.Placed) : Faultless (fun fault ↦ fault.isArgument = true) opening session := by
  cases call with
  | ifThen condition body =>
    cases opens
    refine Run.faultless_evaluate_bind condition fun value ↦ ?_
    exact (Run.faultless_build (Build.openChain_faultless sound placed _ _)).bind_always fun _ _ ↦ faultless_pure _
  | elseIf condition body =>
    cases opens
    refine Run.faultless_evaluate_bind condition fun value ↦ ?_
    exact (Run.faultless_build (Build.resumeChain_faultless _ _)).bind_always fun _ _ ↦ faultless_pure _
  | otherwise body =>
    cases opens
    exact (Run.faultless_build (Build.finishChain_faultless _)).bind_always fun _ _ ↦ faultless_pure _
  | switch test body =>
    cases opens
    refine Run.faultless_evaluate_bind test fun value ↦ ?_
    exact (Run.faultless_build (Build.openSwitch_faultless sound placed _ _)).bind_always fun _ _ ↦ faultless_pure _
  | case patterns body =>
    cases opens
    obtain ⟨_, _, top⟩ := placed.topSwitch
    refine faultless_get_bind (.bind (Run.faultless_sound (WrittenPattern.argued_evalAll _ patterns)) ?_)
    refine (Run.ends_sound ..).2 fun values _ ↦ .bind_always (Run.faultless_build ?_) fun _ _ ↦ faultless_pure _
    exact Build.startCase_faultless (fun context ↦ (top context).frames) _ _
  | default body =>
    cases opens
    obtain ⟨_, _, top⟩ := placed.topSwitch
    refine .bind_always (Run.faultless_build ?_) fun _ _ ↦ faultless_pure _
    exact Build.startDefault_faultless (fun context ↦ (top context).frames) _
  | machine name domain initial key body =>
    cases opens
    refine .bind_always (Run.faultless_build (Build.openMachine_faultless sound placed _ _ _ _)) fun _ _ ↦ ?_
    exact faultless_modify_bind (faultless_pure _)
  | state name body =>
    cases opens
    obtain ⟨_, _, _, top⟩ := placed.topMachine
    refine .bind_always (Run.faultless_build ?_) fun _ _ ↦ faultless_pure _
    exact Build.startState_faultless sound (fun context ↦ (top context).frames) _ _
  | _ => simp [Call.opening] at opens

theorem runCall_tame (loc : Location) {call : Call (List Step)}
    (bodies : ∀ body, call.body? = some body → Run.Tame (runBody body) ∧ Run.Tame (runAll body)) :
    Run.Tame (runCall loc call) := by
  intro session sound placed
  have answered : ∀ {action : Run Unit}, Faultless (fun fault ↦ fault.isArgument = true) action session →
      Faultless (fun fault ↦ fault.isArgument = true) (do action; return Answer.nothing) session :=
    fun safe ↦ safe.bind_always fun _ _ ↦ faultless_pure _
  cases construct : call.isConstruct with
  | true =>
    obtain ⟨opening, body, opens, inner⟩ := call.exists_opening construct loc
    rw [runCall_eq_opening opens inner]
    refine (Call.opening_faultless opens sound placed).bind ((Call.opening_ends opens sound placed).mono
      (fun ending opened made ↦ ?_) fun _ _ _ ↦ trivial)
    exact Ending.faultless_run made.leads.sound (made.builder.due sound.stacked) made.builder (bodies body inner).1
      (proceed body).1 loc
  | false =>
    cases call with
    | add domain statements => exact answered (Run.addStatements_faultless sound placed domain statements loc)
    | goto state => exact answered (Run.faultless_build (Build.goto_faultless sound placed state loc))
    | ongoing key state storeAs => exact Run.ongoing_faultless sound key state storeAs loc
    | machineInfo key storeAs => exact Run.machineInfo_faultless key storeAs
    | module name settings body =>
      refine answered (faultless_get_bind (faultless_modify_bind (.bind_always ?_ fun _ _ ↦ ?_)))
      · exact (bodies body rfl).2 _ (Builder.sound_start ..) (Builder.placed_start ..)
      · exact faultless_get_bind (faultless_modify_bind (Run.faultless_build (Build.addPart_faultless _ _ _)))
    | component name component => exact answered (Run.faultless_build (Build.addPart_faultless _ _ _))
    | part name =>
      exact (Run.faultless_build (Build.part_faultless _ _)).bind_always fun _ _ ↦ faultless_pure _
    | domain domain =>
      refine answered (Run.faultless_build ((Build.faultless_accepted _).bind_always fun _ _ ↦ ?_))
      exact Build.addDomain_faultless _ _
    | raise message => exact faultless_refused _
    | settings => exact faultless_get_bind (faultless_pure _)
    | ifThen | elseIf | otherwise | switch | case | default | machine | state => simp [Call.isConstruct] at construct

theorem steps_tame (steps : List Step) : Run.Tame (runBody steps) ∧ Run.Tame (runAll steps) := by
  induction steps using Step.list_induction with
  | nil => exact ⟨fun _ _ _ ↦ faultless_pure _, fun _ _ _ ↦ faultless_pure _⟩
  | cons step rest bodies ih =>
    have first : Run.Tame step.run := by
      intro session sound placed
      obtain ⟨call, label, loc, caught⟩ := step
      exact Run.faultless_traced label loc (runCall_tame loc bodies session sound placed)
    have proceeds := step.run_proceeds fun body _ ↦ proceed body
    have caught : Run.Tame (Run.caught step.run) :=
      fun session sound placed ↦ Run.faultless_caught (first session sound placed)
    have caught_proceeds : Run.Proceeds (Run.caught step.run) :=
      fun session sound placed ↦ (Run.ends_caught ..).2 (proceeds session sound placed)
    refine ⟨?_, caught.bind caught_proceeds fun _ ↦ ih.2⟩
    simp only [runBody]
    split
    · exact caught.bind caught_proceeds fun _ ↦ ih.1
    · exact first.bind proceeds fun _ ↦ ih.1

/-! ## Programs -/

/-- What a component breaks, one of the given components breaks. -/
def Component.BreaksLike (component : Component) (given : Component → Prop) (platform : Option Platform) : Prop :=
  ∀ fault, component.elaborate platform = .error (.broken fault) →
    ∃ other, given other ∧ other.elaborate platform = .error (.broken fault)

/-- A module breaks like its parts. -/
theorem Builder.breaksLike_toComponent {builder : Builder} {behind : Option IfChain} (sound : builder.Sound)
    (place : builder.control.AtBody behind []) {given : Component → Prop} {platform : Option Platform}
    (parts : ∀ part ∈ builder.parts, part.2.1.BreaksLike given platform) :
    builder.toComponent.BreaksLike given platform := by
  intro fault broken
  obtain ⟨part, mem, failed⟩ := ((elaborate_eq_error_iff sound place _).1 broken).exists_failing
  exact parts part mem fault failed

/-- A program comes to a report, unless one of its own arguments is out of place or one of its own components is
broken. -/
theorem Program.run_faultless (program : Program) : (∃ report, program.run = .ok report) ∨
    ∃ fault, program.run = .error fault ∧ (fault.isArgument = true ∨
      ∃ component, Brings component program.steps ∧
        component.elaborate program.platform = .error (.broken fault)) := by
  have sound := Builder.sound_start program.settings 0 program.loc
  have placed := Builder.placed_start program.settings 0 program.loc
  have adding : Adding _ fun component ↦ component.BreaksLike (Brings · program.steps) program.platform :=
    adding_retains fun _ _ sound place parts ↦ Builder.breaksLike_toComponent sound place parts
  have retains := (keeps_steps adding program.steps fun component brings fault broken ↦
    ⟨component, brings, broken⟩).2 program.start
  unfold run
  split
  · rename_i fault session ran
    exact .inr ⟨fault, rfl, .inl ((steps_tame program.steps).2 program.start sound placed fault session ran)⟩
  · exact .inl ⟨_, rfl⟩
  · rename_i session ran
    have stays := Ends.of_ok ran ((proceed program.steps).2 program.start sound placed)
    obtain ⟨behind, place⟩ := stays.level.body _ _ (Control.atBody_nil [])
    have parts := (Ends.of_ok ran retains).fits_of_start
    split
    · exact .inl ⟨_, rfl⟩
    · exact .inl ⟨_, rfl⟩
    · rename_i fault broken
      exact .inr ⟨fault, rfl, .inr (session.builder.breaksLike_toComponent stays.sound place parts fault broken)⟩

end RegisterTransfer
