import RegisterTransfer.Proofs.StateNumbers

/-!
# Advice stays

A diagnostic that a module has been given stays where it is: whatever is called next, and whether or not the call is
refused, what is new stands behind it. A module of its own has its own list, and leaves that of the module around it
alone.
-/

namespace RegisterTransfer

namespace Builder

variable (builder : Builder)

theorem diagnostics_flushed : builder.flushed.diagnostics = builder.diagnostics := by rw [flushed_eq]

theorem diagnostics_opening (frame : Frame) : builder.diagnostics <+: (builder.opening frame).diagnostics :=
  builder.diagnostics_flushed.symm ▸ List.prefix_rfl

theorem diagnostics_recorded (domain : String) (statements : List Statement) :
    builder.diagnostics <+: (builder.recorded domain statements).diagnostics :=
  builder.diagnostics_flushed.symm ▸ List.prefix_rfl

theorem diagnostics_enter (scope : Scope) : (builder.enter scope).diagnostics = builder.diagnostics := by
  cases scope <;> rfl

theorem diagnostics_left (last : Builder) (scope : Scope) :
    (builder.left last scope).diagnostics = last.diagnostics := by
  cases scope <;> rfl

/-- Opening a construct puts advice behind that given before. -/
theorem Opens.diagnostics {builder opened : Builder} {ending : Ending} (opens : builder.Opens ending opened) :
    builder.diagnostics <+: opened.diagnostics := by
  cases opens with
  | first test loc advice place =>
    exact (List.prefix_append _ advice).trans (diagnostics_opening (builder.noted advice) _)
  | next test advice top level growing => exact List.prefix_append ..
  | last top level growing => exact List.prefix_rfl
  | switch test loc place => exact diagnostics_opening ..
  | case patterns advice place => exact List.prefix_append ..
  | default advice place => exact List.prefix_append ..
  | machine initial loc place clocked => exact diagnostics_opening (builder.withNewMachine _) _
  | state name place found incomplete absent => exact List.prefix_rfl

theorem Concludes.diagnostics {builder after : Builder} {loc : Location} {recorded : Body} {ending : Ending}
    (concludes : builder.Concludes loc recorded ending after) : after.diagnostics = builder.diagnostics := by
  cases concludes <;> rfl

end Builder

/-- Calls that record nothing give no advice. -/
theorem runCall_quiet_diagnostics (loc : Location) {call : Call (List Step)} (quiet : call.isQuiet = true)
    (session : Session) : Ends (runCall loc call) session
      (.always fun later ↦ later.builder.diagnostics = session.builder.diagnostics) :=
  runCall_quiet_ends loc quiet (fun body _ ↦ proceed body)
    (fun later ↦ later.diagnostics = session.builder.diagnostics) (fun _ _ _ ↦ rfl) fun _ _ _ _ _ _ _ _ _ _ ↦ rfl

/-- What was advised before stands in front of what is advised later. -/
def Session.Advised (before : Session) (_ : List Event) (later : Session) : Prop :=
  before.builder.diagnostics <+: later.builder.diagnostics

theorem runCall_advised (loc : Location) {call : Call (List Step)} (simple : call.isConstruct = false)
    {session : Session} (sound : session.builder.Sound) (placed : session.builder.control.Placed) :
    Ends (runCall loc call) session
      (.always fun later ↦ session.builder.diagnostics <+: later.builder.diagnostics) := by
  cases call with
  | add domain statements =>
    simp only [runCall, Run.addStatements, ends_bind, ends_get, Run.ends_sound, Run.ends_build, ends_pure]
    intro values _
    refine Build.add_ends sound.stacked placed domain values loc (fun advice _ _ _ ↦ ?_) (fun _ ↦ List.prefix_rfl)
      fun _ advice _ _ ↦ ?_
    · exact (List.prefix_append _ advice).trans ((session.builder.noted advice).diagnostics_recorded domain values)
    · change _ <+: (session.builder.noted advice).flushed.diagnostics
      rw [Builder.diagnostics_flushed]
      exact List.prefix_append ..
  | goto target =>
    simp only [runCall, ends_bind, Run.ends_build, ends_pure]
    refine Build.goto_ends sound.stacked placed target loc (fun id machine _ _ _ ↦ ?_) fun _ _ ↦ List.prefix_rfl
    exact (session.builder.withMachine id (machine.mention id target)).diagnostics_recorded _ _
  | ifThen | elseIf | otherwise | switch | case | default | machine | state => simp [Call.isConstruct] at simple
  | _ =>
    exact (runCall_quiet_diagnostics loc rfl session).mono_always fun later same ↦ same ▸ List.prefix_rfl

theorem recounts_advised : Recounts Session.Advised where
  refl _ := List.prefix_rfl
  trans := List.IsPrefix.trans
  entry _ advised := advised
  simple loc _ simple _ sound placed := runCall_advised loc simple sound placed
  advised _ _ := List.prefix_append ..
  opened _ opens := by
    rw [Session.Advised, Session.builder_withBuilder, Builder.diagnostics_enter]
    exact opens.builder.diagnostics
  finished _ _ advised _ concludes := by
    rw [Session.Advised, Session.builder_withBuilder, concludes.diagnostics, Builder.diagnostics_left]
    exact advised
  dropped _ _ advised _ := advised

/-! ## The advice of a call -/

/-- What a call with a body advises before the body starts: what is new among the diagnostics where the construct is
opened, or refused. -/
def Call.advice (loc : Location) (call : Call (List Step)) (session : Session) : List Diagnostic :=
  match call.opening loc with
  | none => []
  | some opening =>
    match opening session with
    | .ok _ opened | .error _ opened => opened.builder.diagnostics.drop session.builder.diagnostics.length

section Advice

variable {loc : Location} {call : Call (List Step)} {session opened : Session} {opening : Run Ending}

theorem Call.advice_of_ok {ending : Ending} (opens : call.opening loc = some opening)
    (ran : opening session = .ok ending opened) :
    call.advice loc session = opened.builder.diagnostics.drop session.builder.diagnostics.length := by
  simp only [advice, opens, ran]

theorem Call.advice_of_error {failure : Failure} (opens : call.opening loc = some opening)
    (ran : opening session = .error failure opened) :
    call.advice loc session = opened.builder.diagnostics.drop session.builder.diagnostics.length := by
  simp only [advice, opens, ran]

/-- What a call advises stands behind the advice given before, and stays there: neither its own body nor a refusal takes
it back. -/
theorem runCall_advice_prefix (construct : call.isConstruct = true)
    (sound : session.builder.Sound) (placed : session.builder.control.Placed) : Ends (runCall loc call) session
      (.always fun later ↦ session.builder.diagnostics ++ call.advice loc session <+: later.builder.diagnostics) := by
  obtain ⟨opening, body, opens, inner⟩ := call.exists_opening construct loc
  have split : ∀ {opened : Session}, session.builder.diagnostics <+: opened.builder.diagnostics →
      call.advice loc session = opened.builder.diagnostics.drop session.builder.diagnostics.length →
        session.builder.diagnostics ++ call.advice loc session = opened.builder.diagnostics := by
    rintro opened ⟨advice, grown⟩ advised
    rw [advised, ← grown, List.drop_left]
  refine construct_ends opens inner sound placed ?_ fun ending opened ran opens_ ↦ ?_
  · rintro error advice _ rfl refused
    have whole := split (List.prefix_append _ advice) (Call.advice_of_error opens refused)
    exact whole ▸ List.prefix_rfl
  · have start := split opens_.builder.diagnostics (Call.advice_of_ok opens ran)
    have entered := opens_.leads.sound.enters (opens_.builder.due sound.stacked)
    have kept : ∀ {last : Session},
        Session.Advised (opened.withBuilder (opened.builder.enter ending.scope)) [] last →
          session.builder.diagnostics ++ call.advice loc session <+: last.builder.diagnostics := by
      intro last advised
      rw [Session.Advised, Session.builder_withBuilder, Builder.diagnostics_enter, ← start] at advised
      exact advised
    refine (recounts_advised.body body _ entered.1.sound entered.2).mono ?_ fun _ last advised _ ↦ kept advised
    intro _ last advised _
    refine ⟨fun after concludes ↦ ?_, fun _ ↦ kept advised⟩
    change _ <+: after.diagnostics
    rw [concludes.diagnostics, Builder.diagnostics_left]
    exact kept advised

end Advice

end RegisterTransfer
