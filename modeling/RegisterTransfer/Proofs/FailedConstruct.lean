import RegisterTransfer.Proofs.Elaboration

/-!
# Refused constructs

A refused construct leaves the body around it as it was, or with the chain closed that lay behind. Two things
outlive the refusal all the same: a machine that was completed inside of the construct stays complete, with the
assignments of its indicators, and a transition called directly inside of a switch stays in the body around the
switch. If neither has happened, nothing of the refused construct reaches the fragment.
-/

namespace RegisterTransfer

namespace Call

variable {body : Type}

/-- The steps directly inside of a switch. -/
def switchSteps : Call (List Step) → List Step
  | .switch _ steps => steps
  | _ => []

end Call

namespace Builder

/-- The transitions among some steps, of the innermost machine, each with the domain it is filed under. -/
def transitions (builder : Builder) (steps : List Step) : List (String × Statement) :=
  match builder.control.innermostMachine? with
  | none => []
  | some id =>
    match builder.machines.get? id with
    | none => []
    | some machine => steps.filterMap fun step ↦
      match step.call with
      | .goto state => some (machine.domain, .transition id state step.loc)
      | _ => none

/-- The builder as it was, or with the chain closed that could still grow. -/
def Resting (before after : Builder) : Prop :=
  (after.control = before.control ∧ after.statements = before.statements) ∨
    (after.control = before.flushed.control ∧ after.statements = before.flushed.statements)

/-- Nothing has come from a refused call: the open constructs and the statements are as before, or with the chain
closed that lay behind, and so are the declared states, the indicators and the complete machines. -/
structure Untouched (before after : Builder) : Prop where
  resting : before.Resting after
  declared : ∀ id machine, before.machines.get? id = some machine →
    ∃ later, after.machines.get? id = some later ∧ later.states = machine.states
  indicators : after.indicators = before.indicators
  complete : after.complete = before.complete

theorem transitions_nil (builder : Builder) : builder.transitions [] = [] := by
  unfold transitions
  split
  · rfl
  · split <;> rfl

theorem transitions_cons (builder : Builder) (step : Step) (rest : List Step) :
    builder.transitions (step :: rest) = builder.transitions [step] ++ builder.transitions rest := by
  unfold transitions
  split
  · rfl
  · split
    · rfl
    · rw [← List.filterMap_append, List.singleton_append]

theorem transitions_of_ne_goto (builder : Builder) {step : Step} (other : ∀ state, step.call ≠ .goto state) :
    builder.transitions [step] = [] := by
  unfold transitions
  split
  · rfl
  · split
    · rfl
    · rw [List.filterMap_cons]
      split
      · rfl
      · rename_i listed
        split at listed
        · rename_i call
          exact absurd call (other _)
        · simp at listed

theorem appendAll_append (body : Body) (first second : List (String × Statement)) :
    body.appendAll (first ++ second) = (body.appendAll first).appendAll second := List.foldl_append

theorem Leads.transitions_eq {before after : Builder} (sound : before.Sound) (leads : before.Leads after)
    (innermost : after.control.innermostMachine? = before.control.innermostMachine?) (steps : List Step) :
    after.transitions steps = before.transitions steps := by
  unfold transitions
  rw [innermost]
  cases running : before.control.innermostMachine? with
  | none => rfl
  | some id =>
    obtain ⟨machine, found, -⟩ := sound.running id (Control.mem_machines_of_innermost running)
    obtain ⟨later, refound, grown⟩ := leads.evolves.machines id machine found
    simp only [found, refound, grown.domain]

end Builder

/-! ## Directly inside of a switch -/

/-- Directly inside of a construct, what belongs elsewhere is refused at once, and cases and states are kept with their
construct. -/
theorem runCall_keeps_statements {session : Session} (sound : session.builder.Sound)
    (placed : session.builder.control.Placed) (inside : session.builder.control.context ≠ none) (loc : Location)
    (call : Call (List Step)) (other : ∀ state, call ≠ .goto state) :
    Ends (runCall loc call) session (.always fun later ↦ later.builder.statements = session.builder.statements) := by
  cases construct : call.isConstruct with
  | true =>
    obtain ⟨opening, body, opens, inner⟩ := call.exists_opening construct loc
    refine construct_ends opens inner sound placed ?_ fun ending opened _ made ↦ ?_
    · rintro error advice _ rfl -
      rfl
    · have due := made.builder.due sound.stacked
      have own := made.builder.not_opensFrame inside
      refine Ends.of_forall (fun _ last leaves ↦ ⟨fun after concludes ↦ ?_, fun _ ↦ ?_⟩) fun _ last stays ↦ ?_
      · exact made.builder.statements_concluded concludes inside
      · exact made.builder.statements_dropped_of_not_opensFrame due leaves.stays own
      · exact made.builder.statements_dropped_of_not_opensFrame due stays own
  | false =>
    cases call with
    | add domain statements =>
      simp only [runCall, Run.addStatements, ends_bind, ends_get, Run.ends_sound, Run.ends_build, ends_pure]
      refine fun values _ ↦ Build.add_ends sound.stacked placed _ _ _ (fun _ context ↦ absurd context inside) ?_ ?_
      · exact fun _ ↦ rfl
      · exact fun _ _ context ↦ absurd context inside
    | goto state => exact absurd rfl (other state)
    | ifThen | elseIf | otherwise | switch | case | default | machine | state => simp [Call.isConstruct] at construct
    | _ => exact (runCall_rests loc rfl (fun body _ ↦ proceed body) sound).mono_always fun _ rests ↦ rests.2.2

section InSwitch

variable {session : Session} {switch : OpenSwitch} {base : List Frame} (sound : session.builder.Sound)
  (place : session.builder.control.AtConstruct (.switch switch) base)

include sound place

theorem Step.run_inSwitch (step : Step) : Ends step.run session (.always fun later ↦
    later.builder.statements = session.builder.statements.appendAll (session.builder.transitions [step])) := by
  obtain ⟨call, label, loc, caught⟩ := step
  apply (Run.ends_traced ..).2
  by_cases goto : ∃ state, call = .goto state
  · obtain ⟨state, rfl⟩ := goto
    simp only [runCall, ends_bind, Run.ends_build, ends_pure]
    refine Build.goto_ends sound.stacked (.inr ⟨_, _, place⟩) _ _ (fun id machine _ innermost found ↦ ?_) ?_
    · have here : (session.builder.withMachine id (machine.mention id state)).control.AtConstruct _ base := place
      have stacked : Control.Stacked (session.builder.withMachine id (machine.mention id state)).control.frames :=
        sound.stacked
      have same := Builder.flushed_of_atConstruct stacked here
      simp only [Builder.transitions, innermost, found]
      change (Builder.recorded _ _ _).statements = _
      rw [Builder.recorded, same]
      rfl
    · intro error outside
      have innermost : session.builder.control.innermostMachine? = none := by
        apply outside.resolve_left
        rw [place.context]
        simp [Frame.construct]
      simp only [Builder.transitions, innermost]
      rfl
  · have other : ∀ state, call ≠ .goto state := fun state same ↦ goto ⟨state, same⟩
    rw [Builder.transitions_of_ne_goto _ other]
    exact runCall_keeps_statements sound (.inr ⟨_, _, place⟩) (by simp [place.context]) loc call other

end InSwitch

/-- The inside of a switch files the transitions of the steps that have run, and nothing else. -/
theorem runBody_inSwitch (steps : List Step) {session : Session} {switch : OpenSwitch} {base : List Frame}
    (sound : session.builder.Sound) (place : session.builder.control.AtConstruct (.switch switch) base) :
    Ends (runBody steps) session (.always fun later ↦ ∃ ran, ran <+: steps ∧
      later.builder.statements = session.builder.statements.appendAll (session.builder.transitions ran)) := by
  induction steps generalizing session switch with
  | nil => exact ⟨[], List.nil_prefix, by rw [Builder.transitions_nil]; rfl⟩
  | cons step rest ih =>
    have placed : session.builder.control.Placed := .inr ⟨_, _, place⟩
    have first := (step.run_proceeds (fun body _ ↦ proceed body) session sound placed).and
      (step.run_inSwitch sound place)
    have go_on : ∀ {later : Session}, session.builder.Stays later.builder →
        later.builder.statements = session.builder.statements.appendAll (session.builder.transitions [step]) →
        Ends (runBody rest) later (.always fun last ↦ ∃ ran, ran <+: step :: rest ∧
          last.builder.statements = session.builder.statements.appendAll (session.builder.transitions ran)) := by
      intro later stays statements
      obtain ⟨top, again, grows⟩ := stays.level.inside _ _ place
      have innermost : later.builder.control.innermostMachine? = session.builder.control.innermostMachine? := by
        unfold Control.innermostMachine?
        rw [place.frames, again.frames]
        cases grows <;> rfl
      have more : ∃ grown, later.builder.control.AtConstruct (.switch grown) base := by
        cases grows <;> exact ⟨_, again⟩
      obtain ⟨grown, again⟩ := more
      apply (ih stays.sound again).mono_always
      rintro last ⟨ran, before, filed⟩
      refine ⟨step :: ran, (List.prefix_cons_inj step).2 before, ?_⟩
      rw [filed, statements, (stays.leads place.declaring?_eq).transitions_eq sound innermost,
        ← Builder.appendAll_append,
        ← Builder.transitions_cons]
    simp only [runBody]
    split
    · refine (ends_bind ..).2 ((Run.ends_caught ..).2 (first.mono ?_ ?_))
      · exact fun _ _ ends ↦ go_on ends.1 ends.2
      · exact fun _ _ ends ↦ go_on ends.1 ends.2
    · refine (ends_bind ..).2 (first.mono ?_ ?_)
      · exact fun _ _ ends ↦ go_on ends.1 ends.2
      · exact fun _ _ ends ↦ ⟨[step], (List.prefix_cons_inj step).2 List.nil_prefix, ends.2⟩

/-! ## Refused constructs -/

namespace Call

variable {body : Type}

/-- Whether a call opens a construct of its own. -/
def opens : Call body → Bool
  | .ifThen _ _ | .switch _ _ | .machine _ _ _ _ _ => true
  | _ => false

/-- Whether a call goes on with a construct that is open. -/
def continues : Call body → Bool
  | .elseIf _ _ | .otherwise _ | .case _ _ | .default _ | .state _ _ => true
  | _ => false

theorem isConstruct_of_opens {call : Call body} (opens : call.opens = true) : call.isConstruct = true := by
  cases call with
  | ifThen condition steps => rfl
  | switch test steps => rfl
  | machine name domain initial key steps => rfl
  | _ => simp [Call.opens] at opens

theorem isConstruct_of_continues {call : Call body} (continues : call.continues = true) : call.isConstruct = true := by
  cases call with
  | elseIf | otherwise | case | default | state => rfl
  | _ => simp [Call.continues] at continues

theorem opens_of_continues {call : Call body} (continues : call.continues = true) : call.opens = false := by
  cases call with
  | elseIf | otherwise | case | default | state => rfl
  | _ => simp [Call.continues] at continues

end Call

/-- The construct that a call opens has a frame of its own if the call has, and a switch comes from a switch call. -/
theorem Call.opening_opensFrame {loc : Location} {call : Call (List Step)} {opening : Run Ending} {body : List Step}
    (opens : call.opening loc = some opening) (inner : call.body? = some body) (session : Session) :
    Ends opening session ⟨fun ending _ ↦ ending.opensFrame = call.opens ∧ (ending = .switch → call.switchSteps = body),
      fun _ _ ↦ True⟩ := by
  cases call with
  | ifThen | elseIf | otherwise | switch | case | default | machine | state =>
    simp only [Call.opening, Option.some.injEq] at opens
    simp only [Call.body?, Option.some.injEq] at inner
    subst opens inner
    simp only [ends_bind, ends_pure]
    repeat refine Ends.of_forall (fun _ _ ↦ ?_) fun _ _ ↦ trivial
    exact ⟨rfl, by simp [Call.switchSteps]⟩
  | _ => simp [Call.opening] at opens

/-- A refused branch, case or state leaves its place as it was. -/
theorem refused_continuing_ends {session : Session} (sound : session.builder.Sound)
    (placed : session.builder.control.Placed) (loc : Location) {call : Call (List Step)}
    (continues : call.continues = true) :
    Ends (runCall loc call) session ⟨fun _ _ ↦ True, fun _ later ↦ session.builder.Rests later.builder⟩ := by
  obtain ⟨opening, body, opens, inner⟩ := call.exists_opening (Call.isConstruct_of_continues continues) loc
  refine construct_ends opens inner sound placed ?_ fun ending opened ran made ↦ ?_
  · rintro error advice _ rfl -
    exact ⟨sound.leads_noted advice, rfl, rfl⟩
  · have own : ending.opensFrame = false :=
      (Ends.of_ok ran (Call.opening_opensFrame opens inner session)).1.trans (Call.opens_of_continues continues)
    have due := made.builder.due sound.stacked
    have rests : ∀ {last : Session}, (opened.builder.enter ending.scope).Stays last.builder →
        session.builder.Rests (opened.builder.dropped last.builder ending) := fun stays ↦
      ⟨made.builder.leads_dropped sound placed made.leads stays, made.builder.control_dropped.trans (by simp [own]),
        made.builder.statements_dropped_of_not_opensFrame due stays own⟩
    exact Ends.of_forall (fun _ last leaves ↦ ⟨fun _ _ ↦ trivial, fun _ ↦ rests leaves.stays⟩) fun _ _ stays ↦ rests stays

/-- The inside of an open switch files transitions of its direct steps, behind what was recorded before. -/
theorem Session.Opens.runs_inSwitch {session opened : Session} (opens : session.Opens .switch opened)
    (sound : session.builder.Sound) (body : List Step) :
    Ends (runBody body) (opened.withBuilder (opened.builder.enterConstruct .switch)) (.always fun last ↦
      ∃ ran, ran <+: body ∧ last.builder.statements =
        session.builder.flushed.statements.appendAll (session.builder.transitions ran)) := by
  obtain ⟨-, ⟨frame, pushed⟩, statements⟩ := opens.builder.of_opensFrame rfl
  obtain ⟨switch, base, top⟩ := opens.builder.due sound.stacked
  obtain ⟨start, place⟩ := opens.leads.sound.enterConstruct top
  set entered := opened.withBuilder (opened.builder.enterConstruct .switch)
  have known : entered.builder.Sound := start.sound
  have innermost : entered.builder.control.innermostMachine? = session.builder.control.innermostMachine? := by
    have frames : entered.builder.control.frames = frame :: session.builder.flushed.control.frames :=
      congrArg Control.frames pushed
    have same : frame = .switch switch := (List.cons.inj (frames.symm.trans (congrArg Control.frames top))).1
    rw [← session.builder.innermostMachine?_flushed, Control.innermostMachine?, frames, same]
    rfl
  refine (runBody_inSwitch body known place).mono_always ?_
  rintro last ⟨ran, before, filed⟩
  have leads : session.builder.Leads entered.builder := opens.leads.trans start
  refine ⟨ran, before, filed.trans ?_⟩
  rw [leads.transitions_eq sound innermost, ← statements]
  rfl

/-- The place is as it was, or the chain behind it is closed and transitions among those of some steps have stayed. -/
def Builder.LeavesBehind (before after : Builder) (direct : List Step) : Prop :=
  ∃ ran, ran <+: direct ∧ (after.control = before.control ∧ after.statements = before.statements ∧ ran = [] ∨
    after.control = before.flushed.control ∧
      after.statements = before.flushed.statements.appendAll (before.transitions ran))

/-- What a construct leaves that is dropped, given what the inside of a switch has filed. -/
theorem Builder.Opens.leavesBehind {builder opened last : Builder} {ending : Ending}
    (opens : builder.Opens ending opened) (sound : builder.Sound) (stays : (opened.enter ending.scope).Stays last)
    {direct : List Step} (files : ending = .switch → ∃ ran, ran <+: direct ∧
      last.statements = builder.flushed.statements.appendAll (builder.transitions ran)) :
    builder.LeavesBehind (opened.dropped last ending) direct := by
  have due := opens.due sound.stacked
  have control : (opened.dropped last ending).control = _ := opens.control_dropped
  cases own : ending.opensFrame with
  | false =>
    have statements := opens.statements_dropped_of_not_opensFrame due stays own
    exact ⟨[], List.nil_prefix, .inl ⟨control.trans (by simp [own]), statements, rfl⟩⟩
  | true =>
    have closed := control.trans (if_pos own)
    by_cases switch : ending = .switch
    · obtain ⟨ran, before, filed⟩ := files switch
      subst switch
      exact ⟨ran, before, .inr ⟨closed, filed⟩⟩
    · have statements := (opens.statements_dropped due stays switch).trans (opens.of_opensFrame own).2.2
      exact ⟨[], List.nil_prefix, .inr ⟨closed, by rw [Builder.transitions_nil, statements]; rfl⟩⟩

/-- A refused construct leaves its place as it was, or with the chain behind it closed and, if it is a switch, with
the transitions among those of its direct steps that have run. -/
theorem refused_construct_ends {session : Session} (sound : session.builder.Sound)
    (placed : session.builder.control.Placed) (loc : Location) {call : Call (List Step)}
    (construct : call.isConstruct = true) :
    Ends (runCall loc call) session ⟨fun _ _ ↦ True, fun _ later ↦ session.builder.Leads later.builder ∧
      session.builder.LeavesBehind later.builder call.switchSteps⟩ := by
  obtain ⟨opening, body, opens, inner⟩ := call.exists_opening construct loc
  refine construct_ends opens inner sound placed ?_ fun ending opened accepted made ↦ ?_
  · rintro error advice _ rfl -
    exact ⟨sound.leads_noted advice, [], List.nil_prefix, .inl ⟨rfl, rfl, rfl⟩⟩
  have direct := (Ends.of_ok accepted (Call.opening_opensFrame opens inner session)).2
  have files : Ends (runBody body) (opened.withBuilder (opened.builder.enter ending.scope)) (.always fun last ↦
      ending = .switch → ∃ ran, ran <+: call.switchSteps ∧ last.builder.statements =
        session.builder.flushed.statements.appendAll (session.builder.transitions ran)) := by
    by_cases switch : ending = .switch
    · rw [direct switch]
      subst switch
      exact (made.runs_inSwitch sound body).mono_always fun _ files _ ↦ files
    · exact Ends.of_forall (fun _ _ same ↦ absurd same switch) fun _ _ same ↦ absurd same switch
  refine files.mono (fun _ last files leaves ↦ ⟨fun _ _ ↦ trivial, fun _ ↦ ⟨?_, ?_⟩⟩) fun _ last files stays ↦ ⟨?_, ?_⟩
  · exact made.builder.leads_dropped sound placed made.leads leaves.stays
  · exact made.builder.leavesBehind sound leaves.stays files
  · exact made.builder.leads_dropped sound placed made.leads stays
  · exact made.builder.leavesBehind sound stays files

/-! ## What reaches the fragment -/

namespace Builder

theorem length_appendAll_split (body : Body) (branches : List (String × Statement)) (domain : String) :
    (body.statementsOf domain).length ≤ ((body.appendAll branches).statementsOf domain).length := by
  rw [Body.statementsOf_appendAll, List.length_append]
  omega

theorem length_flushed (builder : Builder) (domain : String) :
    (builder.statements.statementsOf domain).length ≤ (builder.flushed.statements.statementsOf domain).length := by
  unfold flushed
  split
  · exact Nat.le_refl _
  · exact length_appendAll_split ..

/-- Transitions that stay behind are no part of a chain that is closed. -/
theorem transitions_eq_nil {before after : Builder} {ran : List Step}
    (statements : after.statements = before.flushed.statements.appendAll (before.transitions ran))
    (resting : before.Resting after) : before.transitions ran = [] := by
  by_contra listed
  obtain ⟨stray, mem⟩ := List.exists_mem_of_ne_nil _ listed
  have filed : stray.2 ∈ ((before.transitions ran).filter fun branch ↦ branch.1 = stray.1).map Prod.snd :=
    List.mem_map_of_mem (List.mem_filter.2 ⟨mem, by simp⟩)
  have more :
      (before.flushed.statements.statementsOf stray.1).length < (after.statements.statementsOf stray.1).length := by
    rw [statements, Body.statementsOf_appendAll, List.length_append]
    have positive := List.length_pos_of_mem filed
    omega
  have least := length_flushed before stray.1
  rcases resting with ⟨-, same⟩ | ⟨-, same⟩
  · rw [same] at more
    omega
  · rw [same] at more
    omega

theorem Resting.flushed {before after : Builder} {behind : Option IfChain} (sound : before.Sound)
    (known : after.Sound) (place : before.control.AtBody behind []) (resting : before.Resting after) :
    (∃ later, after.control.AtBody later []) ∧ after.flushed.statements = before.flushed.statements := by
  rcases resting with ⟨control, statements⟩ | ⟨control, statements⟩
  · refine ⟨⟨behind, by rw [control]; exact place⟩, ?_⟩
    unfold Builder.flushed
    rw [control]
    split
    · exact statements
    · rw [statements]
  · have here : after.control.AtBody none [] := by
      rw [control]
      exact atBody_flushed sound.stacked place
    refine ⟨⟨none, here⟩, ?_⟩
    rw [statements_flushed known.stacked here]
    exact statements

/-- What is settled without a machine that is still open is settled for good. -/
theorem Evolves.settled_eq {before after : Builder} (evolves : before.Evolves after) {domain : String}
    {leaf : Statement}
    (filed : before.Filed [] domain leaf) : leaf.settled after.machines = leaf.settled before.machines := by
  cases leaf with
  | assign target source => rfl
  | property kind test name => rfl
  | switch test cases loc => exact absurd filed (by simp [Filed])
  | transition id state loc =>
    obtain ⟨machine, found, -, -, open_⟩ := filed
    have complete : machine.register.isSome = true := by
      cases register : machine.register with
      | none => simpa using open_ register
      | some signal => rfl
    obtain ⟨later, refound, grows⟩ := evolves.machines id machine found
    rw [grows.final complete] at refound
    rw [Statement.settled, Statement.settled, found, refound]

theorem settledStatements_flushed {before after : Builder} {behind : Option IfChain} (sound : before.Sound)
    (place : before.control.AtBody behind []) (evolves : before.Evolves after)
    (statements : after.flushed.statements = before.flushed.statements)
    (indicators : after.indicators = before.indicators) :
    after.flushed.settledStatements = before.flushed.settledStatements := by
  have filed := (sound.leads_flushed (.inl ⟨_, _, place⟩)).sound.filed
  rw [control_flushed sound.stacked place] at filed
  have machines : before.flushed.machines = before.machines ∧ after.flushed.machines = after.machines := by
    rw [flushed_eq before, flushed_eq after]
    exact ⟨rfl, rfl⟩
  have mapped : (before.flushed.statements.map fun _ listed ↦ Statement.settledAll after.machines listed) =
      before.flushed.statements.map fun _ listed ↦ Statement.settledAll before.machines listed := by
    refine Table.ext_entries (List.map_congr_left fun entry mem ↦ ?_)
    rw [Prod.mk.injEq]
    refine ⟨rfl, Statement.settledAll_congr fun id state loc inner ↦ ?_⟩
    rw [← Body.statementsOf_of_mem mem] at inner
    exact evolves.settled_eq (Filed.evolve before.flushed_evolves (fun _ mem ↦ mem) (filed entry.1 _ inner))
  have same : after.flushed.indicators = before.flushed.indicators := by
    rw [flushed_eq before, flushed_eq after]
    exact indicators
  rw [settledStatements, settledStatements, statements, machines.1, machines.2, mapped, same]

/-- The complete machines of a fragment do not change with the builder they were taken from. -/
theorem machines_elaborate {before after : Builder} {behind later : Option IfChain} (sound : before.Sound)
    (known : after.Sound) (place : before.control.AtBody behind []) (again : after.control.AtBody later [])
    (evolves : before.Evolves after) (complete : after.complete = before.complete) {platform : Option Platform}
    {fragment last : Fragment} (elaborated : before.elaborate platform = .ok fragment)
    (elaborated' : after.elaborate platform = .ok last) : last.machines = fragment.machines := by
  have assembled : before.flushed.assemble platform = .ok fragment := by
    rw [← elaborated, elaborate, flushAll_of_atBody sound place]
  have assembled' : after.flushed.assemble platform = .ok last := by
    rw [← elaborated', elaborate, flushAll_of_atBody known again]
  obtain ⟨-, start, entered, -, -, bare, entering, rfl⟩ := steps_of_assemble assembled
  obtain ⟨-, start', entered', -, -, bare', entering', rfl⟩ := steps_of_assemble assembled'
  rw [flushed_eq before] at entering
  rw [flushed_eq after] at entering'
  dsimp only at entering entering'
  rw [complete] at entering'
  change entered'.machines = entered.machines
  refine enterMachines_congr (fun entry mem ↦ ?_) (bare'.trans bare.symm) entering entering'
  obtain ⟨machine, found, register⟩ := sound.entered entry.1 entry.2 ((Table.get?_eq_some_iff ..).2 mem)
  obtain ⟨grown, refound, grows⟩ := evolves.machines entry.2 machine found
  rw [refound, found, grows.final register]

end Builder

/-- A refused construct leaves no trace exactly if no machine was completed inside of it and, where it is a switch, no
transition has been called directly inside of it. Then the module has the statements and the machines that it would
have had before. -/
theorem untouched_iff_of_refused {session later : Session} {loc : Location} {call : Call (List Step)}
    {error : BuildError} (reached : Reached session) (construct : call.isConstruct = true)
    (refused : runCall loc call session = .error (.refused error) later) :
    (∃ ran, ran <+: call.switchSteps ∧
      (later.builder.statements = session.builder.statements ∨ later.builder.statements =
        session.builder.flushed.statements.appendAll (session.builder.transitions ran)) ∧
      (session.builder.Untouched later.builder ↔ session.builder.transitions ran = [] ∧
        ∀ id, later.builder.Completed id → session.builder.Completed id)) ∧
    (session.builder.Untouched later.builder → session.builder.control.depth = 0 → ∀ platform fragment last,
      session.builder.elaborate platform = .ok fragment → later.builder.elaborate platform = .ok last →
        last.statements = fragment.statements ∧ last.machines = fragment.machines) := by
  obtain ⟨sound, placed⟩ := reached.sound
  obtain ⟨leads, ran, before, place⟩ := Ends.of_refused refused (refused_construct_ends sound placed loc construct)
  refine ⟨⟨ran, before, ?_, fun untouched ↦ ?_, fun nothing ↦ ?_⟩,
    fun untouched level platform fragment last made again ↦ ?_⟩
  · rcases place with ⟨-, statements, -⟩ | ⟨-, statements⟩
    · exact .inl statements
    · exact .inr statements
  · refine ⟨?_, ?_⟩
    · rcases place with ⟨-, -, rfl⟩ | ⟨-, statements⟩
      · exact Builder.transitions_nil _
      · exact Builder.transitions_eq_nil statements untouched.resting
    · rcases sound.finishes_cases leads.evolves with ⟨-, -, incomplete⟩ | ⟨other, -⟩
      · exact incomplete
      · exact absurd untouched.complete other
  · rcases sound.finishes_cases leads.evolves with ⟨indicators, complete, -⟩ | ⟨-, id, completed, open_⟩
    · refine ⟨?_, fun id machine found ↦ leads.keeps id machine found (by simp), indicators, complete⟩
      rcases place with ⟨control, statements, -⟩ | ⟨control, statements⟩
      · exact .inl ⟨control, statements⟩
      · rw [nothing.1] at statements
        exact .inr ⟨control, statements⟩
    · exact absurd (nothing.2 id completed) open_
  · obtain ⟨behind, here⟩ := placed.atModule level
    obtain ⟨⟨behind', here'⟩, statements⟩ := untouched.resting.flushed sound leads.sound here
    refine ⟨?_, Builder.machines_elaborate sound leads.sound here here' leads.evolves untouched.complete made again⟩
    have first := Builder.elaborate_eq sound here platform
    have second := Builder.elaborate_eq leads.sound here' platform
    rw [made] at first
    rw [again] at second
    split at first
    · simp at first
    · split at second
      · simp at second
      · obtain ⟨_, same, first, -⟩ := first
        obtain ⟨_, same', second, -⟩ := second
        rw [Except.ok.injEq] at same same'
        rw [same, same', first, second]
        exact Builder.settledStatements_flushed sound here leads.evolves statements untouched.indicators

/-! ## A machine completed in a branch that is refused -/

/-- A branch that completes a machine with one state before it is refused. -/
def machineInBranch : Call (List Step) :=
  .ifThen (.literal (.const (.ofShape 1 (.unsigned 1)))) [
    ⟨.machine (some "m") none none "m" [⟨.state "A" [], "state", ⟨"design", 3, 1⟩, false⟩], "fsm", ⟨"design", 2, 1⟩,
      false⟩,
    ⟨.raise "stop", "fail", ⟨"design", 4, 1⟩, false⟩]

/-- A module with that branch alone, whose refusal is caught. -/
def failedBranch : Program where
  settings := {}
  loc := ⟨"design", 0, 1⟩
  steps := [⟨machineInBranch, "if", ⟨"design", 1, 1⟩, true⟩]
  platform := none

theorem failedBranch_refused : ∃ later error fragment,
    runCall ⟨"design", 1, 1⟩ machineInBranch failedBranch.start = .error (.refused error) later ∧
      later.builder.elaborate none = .ok fragment ∧ later.builder.complete.keys = ["m"] ∧
        (fragment.statements.statementsOf combinational).length = 1 ∧ fragment.machines.keys = ["m"] := by
  have computed : (Run.refused? (runCall ⟨"design", 1, 1⟩ machineInBranch) failedBranch.start).any (fun refusal ↦
      (refusal.2.builder.fragment? none).any fun fragment ↦ decide (refusal.2.builder.complete.keys = ["m"] ∧
        (fragment.statements.statementsOf combinational).length = 1 ∧ fragment.machines.keys = ["m"])) = true := by
    decide +kernel
  obtain ⟨⟨error, later⟩, refused, made⟩ := (Option.any_eq_true _ _).1 computed
  obtain ⟨fragment, made, content⟩ := (Option.any_eq_true _ _).1 made
  exact ⟨later, error, fragment, Run.refused_of_refused? refused, Builder.elaborate_of_fragment? made,
    of_decide_eq_true content⟩

/-- From a module without anything, the refused branch leaves a machine and the assignment of an indicator. -/
theorem failedBranch_touched : ∃ later error fragment, Reached failedBranch.start ∧
    runCall ⟨"design", 1, 1⟩ machineInBranch failedBranch.start = .error (.refused error) later ∧
      ¬failedBranch.start.builder.Untouched later.builder ∧ later.builder.elaborate none = .ok fragment ∧
        (fragment.statements.statementsOf combinational).length = 1 ∧ fragment.machines.keys = ["m"] := by
  obtain ⟨later, error, fragment, refused, elaborated, complete, content⟩ := failedBranch_refused
  refine ⟨later, error, fragment, .start failedBranch, refused, fun untouched ↦ ?_, elaborated, content⟩
  have empty : failedBranch.start.builder.complete = ∅ := rfl
  have same : ["m"] = [] := by
    calc ["m"] = later.builder.complete.keys := complete.symm
      _ = failedBranch.start.builder.complete.keys := congrArg Table.keys untouched.complete
      _ = [] := congrArg Table.keys empty
  exact List.cons_ne_nil _ _ same

theorem failedBranch_untouched_iff : ∃ later error,
    runCall ⟨"design", 1, 1⟩ machineInBranch failedBranch.start = .error (.refused error) later ∧
      ∃ ran, ran <+: machineInBranch.switchSteps ∧
        (failedBranch.start.builder.Untouched later.builder ↔ failedBranch.start.builder.transitions ran = [] ∧
          ∀ id, later.builder.Completed id → failedBranch.start.builder.Completed id) := by
  obtain ⟨later, error, -, refused, -⟩ := failedBranch_refused
  obtain ⟨⟨ran, before, -, iff⟩, -⟩ := untouched_iff_of_refused (.start failedBranch) rfl refused
  exact ⟨later, error, refused, ran, before, iff⟩

end RegisterTransfer
