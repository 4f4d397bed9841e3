import RegisterTransfer.Proofs.Reached

/-!
# Later sessions

A session that a program comes by may lie in bodies at any depth, and what comes later lies behind them as well: when a
body ends, its construct is closed or dropped, and the program goes on around it. Builders only ever evolve on the way,
so that what is complete at one time stays as it is.
-/

namespace RegisterTransfer

/-! ## Leaving bodies -/

/-- A construct that has been entered, from where its body ends: nothing that has been built is taken back. -/
theorem Call.leaves {loc : Location} {call : Call (List Step)} {enter : Run Unit} {body : List Step}
    {outer inner last : Session} (construct : call.isConstruct = true) (enters : call.enter loc = some enter)
    (inside : call.body? = some body) (sound : outer.builder.Sound) (placed : outer.builder.control.Placed)
    (entered : enter outer = .ok () inner) (ran : EndsIn (runBody body) inner last) :
    Ends (runCall loc call) outer (.always fun later ↦ last.builder.Evolves later.builder) := by
  obtain ⟨opening, ending, opened, opens, accepted, rfl⟩ := Call.opened_of_enter construct enters entered
  have dropped : last.builder.Evolves (opened.builder.dropped last.builder ending) := .of_same rfl rfl rfl rfl
  have left : last.builder.Evolves (opened.builder.left last.builder ending.scope) := by
    cases ending.scope with
    | apart levels => exact .of_same rfl rfl rfl rfl
    | within construct => exact .of_same rfl rfl rfl rfl
  refine construct_ends opens inside sound placed (fun error advice after _ refused ↦ ?_) fun other again opens' made ↦ ?_
  · rw [accepted] at refused
    contradiction
  · obtain ⟨rfl, rfl⟩ := EStateM.Result.ok.inj (accepted.symm.trans opens')
    refine ran.ends (fun _ leaves ↦ ⟨fun after concludes ↦ ?_, fun _ ↦ dropped⟩) fun _ _ ↦ dropped
    exact left.trans (made.builder.leads_concluded sound made.leads leaves concludes).evolves

/-! ## Later sessions -/

/-- The sessions that a program comes by behind a given one: after every further step, where a body starts, and behind
the body that the session lies in, once its construct has ended. -/
inductive Later (session : Session) : Session → Prop
  | here : Later session session
  | stepped {middle later : Session} (step : Step) :
    Later session middle → EndsIn step.run middle later → Later session later
  | entered {middle later : Session} {loc : Location} {call : Call (List Step)} {enter : Run Unit} :
    Later session middle → call.isConstruct = true → call.enter loc = some enter → enter middle = .ok () later →
      Later session later
  | left {outer inner last later : Session} {enter : Run Unit} {body : List Step} (step : Step) :
    Reached outer → step.call.isConstruct = true → step.call.enter step.loc = some enter →
      enter outer = .ok () inner → step.call.body? = some body → EndsIn (runBody body) inner last →
        Later session last → EndsIn step.run outer later → Later session later

theorem Later.evolves {session later : Session} (reached : Reached session) (behind : Later session later) :
    Reached later ∧ session.builder.Evolves later.builder := by
  induction behind with
  | here => exact ⟨reached, .refl _⟩
  | stepped step _ ended ih =>
    have stays := ended.holds (step.run_proceeds (fun body _ ↦ proceed body) _ ih.1.sound.1 ih.1.sound.2)
    exact ⟨ih.1.stepped step ended, ih.2.trans stays.evolves⟩
  | entered _ construct enters entered ih =>
    have enters' := Ends.of_ok entered (Call.enter_ends enters ih.1.sound.1 ih.1.sound.2)
    exact ⟨.entered ih.1 enters entered, ih.2.trans (enters'.2.2 construct)⟩
  | @left outer _ last _ _ _ step outside construct enters entered body ran _ ended ih =>
    have leaves := step.call.leaves construct enters body outside.sound.1 outside.sound.2 entered ran
    have kept : Ends step.run outer (.always fun later ↦ last.builder.Evolves later.builder) := by
      obtain ⟨call, label, loc, caught⟩ := step
      exact (Run.ends_traced ..).2 leaves
    exact ⟨outside.stepped step ended, ih.2.trans (ended.holds kept)⟩

end RegisterTransfer
