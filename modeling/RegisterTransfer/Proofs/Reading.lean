import RegisterTransfer.Proofs.Accepted
import RegisterTransfer.Proofs.Description

/-!
# Runs as they are read

An accepted run and the reading of its program go hand in hand: wherever the run stands, the builder knows what
the ledger lists, its place is that of the passage, and its statements are those that the blocks come to.
-/

namespace RegisterTransfer

/-! ## Machines that close -/

namespace Machine

/-- The states as they are declared, by what their blocks come to. -/
def declaredAs (arms : List (Arm String (List Block))) : List (String × MachineState) :=
  arms.map fun arm ↦ (arm.guard, ⟨Block.lowerAll arm.body ∅, arm.loc⟩)

theorem stateCases_declaredAs {encoding : Table String Nat} {arms : List (Arm String (List Block))}
    {cases : List (Case Body)} (listed : stateCases encoding (declaredAs arms) = .ok cases) :
    Block.stateCases encoding arms = cases := by
  induction arms generalizing cases with
  | nil =>
    rw [declaredAs, List.map_nil, stateCases, Except.ok.injEq] at listed
    exact listed
  | cons arm rest ih =>
    obtain ⟨name, blocks, loc⟩ := arm
    simp only [declaredAs, List.map_cons, stateCases, bind, Except.bind, pure, Except.pure, Table.fetch] at listed
    rw [Block.stateCases]
    cases known : encoding.get? name with
    | none => simp [known] at listed
    | some code =>
      simp only [known] at listed
      split at listed
      · simp at listed
      · rename_i others listed'
        rw [Except.ok.injEq] at listed
        rw [← listed]
        exact congrArg _ (ih listed')

/-- A machine closes into the branches that its states come to. -/
theorem branches_of_close {machine : Machine} {id : MachineId} {loc : Location} {closing : Closing}
    {arms : List (Arm String (List Block))} (states : machine.states.entries = declaredAs arms)
    (closed : machine.close id loc = .ok closing) : ∃ register, closing.machine.register = some register ∧
      closing.branches = Lowering.split (.signal register) (Block.stateCases closing.machine.encoding arms) loc := by
  unfold close at closed
  split at closed
  · simp at closed
  · split at closed
    · rename_i absent
      rw [Except.ok.injEq] at closed
      subst closed
      rw [initialState?, Option.or_eq_none_iff] at absent
      have none : arms = [] := by
        have keys : machine.states.keys = [] := List.head?_eq_none_iff.1 absent.2
        rw [Table.keys, states, declaredAs, List.map_map, List.map_eq_nil_iff] at keys
        exact keys
      rw [none]
      exact ⟨_, rfl, rfl⟩
    · dsimp only at closed
      split at closed
      · rename_i indicators cases assigned listed
        rw [Except.ok.injEq] at closed
        subst closed
        rw [states] at listed
        exact ⟨_, rfl, by rw [stateCases_declaredAs listed]⟩
      · simp at closed
      · simp at closed

end Machine

/-! ## Where a run stands -/

/-- What a session knows that reading keeps in its ledger. -/
def Ledger.of (session : Session) : Ledger :=
  ⟨session.environment, session.started, session.builder.settings, session.builder.machines,
    session.builder.indicators⟩

theorem Ledger.environment_of (session : Session) : (Ledger.of session).environment = session.environment := rfl

namespace Builder

/-- The same machines and indicators, under the same settings. -/
structure Alike (before after : Builder) : Prop where
  settings : after.settings = before.settings
  machines : after.machines = before.machines
  indicators : after.indicators = before.indicators

theorem alike_flushed (builder : Builder) : builder.Alike builder.flushed := by
  rw [flushed_eq]
  exact ⟨rfl, rfl, rfl⟩

theorem alike_opening (builder : Builder) (advice : List Diagnostic) (frame : Frame) :
    builder.Alike ((builder.noted advice).opening frame) := by
  obtain ⟨settings, machines, indicators⟩ := (builder.noted advice).alike_flushed
  exact ⟨settings, machines, indicators⟩

end Builder

theorem Ledger.of_withBuilder {session : Session} {builder : Builder} (alike : session.builder.Alike builder) :
    Ledger.of (session.withBuilder builder) = Ledger.of session := by
  obtain ⟨settings, machines, indicators⟩ := alike
  rw [Ledger.of, Session.builder_withBuilder, settings, machines, indicators]
  rfl

namespace Build

variable {builder : Builder} (stacked : Control.Stacked builder.control.frames) (placed : builder.control.Placed)

include stacked placed

theorem openChain_alike (condition : Value) (loc : Location) : Ends (openChain condition loc) builder
    ⟨fun _ opened ↦ builder.control.context = none ∧ builder.Alike opened, fun _ _ ↦ True⟩ :=
  openChain_ends stacked placed condition loc (fun _ context ↦ ⟨context, Builder.alike_opening ..⟩)
    fun _ ↦ trivial

theorem openSwitch_alike (test : Value) (loc : Location) : Ends (openSwitch test loc) builder
    ⟨fun _ opened ↦ builder.Alike opened, fun _ _ ↦ True⟩ := by
  refine openSwitch_ends stacked placed test loc (fun _ ↦ ?_) fun _ ↦ trivial
  have alike := builder.alike_opening [] (.switch ⟨test, loc, ∅⟩)
  rwa [Builder.noted_nil] at alike

theorem openMachine_alike (name domain initial : Option String) (loc : Location) :
    Ends (openMachine name domain initial loc) builder
      ⟨fun id opened ↦ builder.control.context = none ∧ id = builder.machines.nextKey ∧
        (builder.withNewMachine (.opened (name.getD builder.settings.fsmDefaultName)
          (domain.getD builder.settings.fsmDefaultDomain) initial)).Alike opened, fun _ _ ↦ True⟩ := by
  refine openMachine_ends stacked placed name domain initial loc (fun machine context _ made ↦ ⟨context, rfl, ?_⟩)
    fun _ ↦ trivial
  have alike := (builder.withNewMachine machine).alike_opening [] (.machine builder.machines.nextKey loc)
  rw [Builder.noted_nil] at alike
  exact made ▸ alike

end Build

/-- The chain of a stack that goes on with these branches. -/
def OpenArms.toChain (chain : OpenArms) (depth : Nat) : IfChain := ⟨depth, chain.loc, Block.branches chain.arms⟩

namespace Draft

theorem lowerAll_blocks (draft : Draft) (depth : Nat) : Block.lowerAll draft.blocks ∅ =
    ((draft.chain.map (OpenArms.toChain · depth)).map fun chain ↦
      chain.close (Block.lowerAll draft.done ∅)).getD (Block.lowerAll draft.done ∅) := by
  rw [blocks, Block.lowerAll_append]
  cases draft.chain with
  | none => rfl
  | some chain =>
    change IfChain.close ⟨0, chain.loc, Block.branches chain.arms ++ []⟩ _ = _
    rw [List.append_nil]
    rfl

end Draft

namespace Passage

/-- Whether a builder stands where reading does, over the frames `base`. The innermost machine is that of `around`,
and directly inside of a construct the statements are those of the body around it. -/
def At (passage : Passage) (around : Option MachineId) (base : List Frame) (outside : Body) (builder : Builder) :
    Prop :=
  match passage with
  | .body draft => builder.control.AtBody (draft.chain.map (OpenArms.toChain · base.length)) base ∧
      base.findSome? Control.machineOf? = around ∧ builder.statements = Block.lowerAll draft.done ∅
  | .cases test loc arms =>
    builder.control.AtConstruct (.switch ⟨test, loc, Block.firstCases (Block.cases test.width arms)⟩) base ∧
      base.findSome? Control.machineOf? = around ∧ builder.statements = outside
  | .states id loc arms => builder.control.AtConstruct (.machine id loc) base ∧
      around = some id ∧ builder.statements = outside ∧ ∃ machine, builder.machines.get? id = some machine ∧
        machine.states.entries = Machine.declaredAs arms

/-- A later passage of the same body or construct. -/
inductive Grows : Passage → Passage → Prop
  | body (draft later : Draft) : Grows (.body draft) (.body later)
  | cases (test : Value) (loc : Location)
    (arms later : List (Arm (Option (List (WrittenPattern Value))) (List Block))) :
    Grows (.cases test loc arms) (.cases test loc later)
  | states (id : MachineId) (loc : Location) (arms later : List (Arm String (List Block))) :
    Grows (.states id loc arms) (.states id loc later)

theorem Grows.refl (passage : Passage) : passage.Grows passage := by
  cases passage with
  | body draft => exact .body draft draft
  | cases test loc arms => exact .cases test loc arms arms
  | states id loc arms => exact .states id loc arms arms

theorem Grows.trans {first second third : Passage} (earlier : first.Grows second) (later : second.Grows third) :
    first.Grows third := by
  cases earlier with
  | body => cases later; exact .body ..
  | cases => cases later; exact .cases ..
  | states => cases later; exact .states ..

section At

variable {passage : Passage} {around : Option MachineId} {base : List Frame} {outside : Body} {builder : Builder}
  (place : passage.At around base outside builder)

include place

theorem At.placed : builder.control.Placed := by
  cases passage with
  | body draft => exact .inl ⟨_, _, place.1⟩
  | cases test loc arms => exact .inr ⟨_, _, place.1⟩
  | states id loc arms => exact .inr ⟨_, _, place.1⟩

theorem At.innermost : builder.control.innermostMachine? = around := by
  cases passage with
  | body draft =>
    rw [Control.innermostMachine?, place.1.frames, ← place.2.1]
    cases draft.chain <;> rfl
  | cases test loc arms =>
    rw [Control.innermostMachine?, place.1.frames, ← place.2.1]
    rfl
  | states id loc arms =>
    rw [Control.innermostMachine?, place.1.frames, place.2.1]
    rfl

theorem At.body_of_context (context : builder.control.context = none) : ∃ draft, passage = .body draft := by
  cases passage with
  | body draft => exact ⟨draft, rfl⟩
  | cases test loc arms =>
    have within := place.1.context
    rw [context] at within
    contradiction
  | states id loc arms =>
    have within := place.1.context
    rw [context] at within
    contradiction

theorem At.cases_of_context (context : builder.control.context = some .switch) :
    ∃ test loc arms, passage = .cases test loc arms := by
  cases passage with
  | cases test loc arms => exact ⟨test, loc, arms, rfl⟩
  | body draft =>
    have within := place.1.context
    rw [context] at within
    contradiction
  | states id loc arms =>
    have within := place.1.context
    rw [context] at within
    simp [Frame.construct] at within

theorem At.states_of_context (context : builder.control.context = some .machine) :
    ∃ id loc arms, passage = .states id loc arms := by
  cases passage with
  | states id loc arms => exact ⟨id, loc, arms, rfl⟩
  | body draft =>
    have within := place.1.context
    rw [context] at within
    contradiction
  | cases test loc arms =>
    have within := place.1.context
    rw [context] at within
    simp [Frame.construct] at within

/-- A call that leaves the place and the statements alone declares no state. -/
theorem At.of_rests {after : Builder} (rests : builder.Rests after) : passage.At around base outside after := by
  obtain ⟨leads, control, statements⟩ := rests
  cases passage with
  | body draft => exact ⟨by rw [control]; exact place.1, place.2.1, statements.trans place.2.2⟩
  | cases test loc arms => exact ⟨by rw [control]; exact place.1, place.2.1, statements.trans place.2.2⟩
  | states id loc arms =>
    obtain ⟨here, inside, same, machine, found, states⟩ := place
    obtain ⟨later, refound, kept⟩ := leads.keeps id machine found (by simp)
    exact ⟨by rw [control]; exact here, inside, statements.trans same, later, refound, by rw [kept, states]⟩

end At

/-- Behind a body, the statements are those of all its blocks. -/
theorem At.flushed {draft : Draft} {around : Option MachineId} {base : List Frame} {outside : Body} {builder : Builder}
    (place : (body draft).At around base outside builder) (stacked : Control.Stacked builder.control.frames) :
    builder.flushed.control = ⟨base, base.length, none⟩ ∧
      builder.flushed.statements = Block.lowerAll draft.blocks ∅ := by
  refine ⟨Builder.control_flushed stacked place.1, ?_⟩
  rw [Builder.statements_flushed stacked place.1, place.2.2, draft.lowerAll_blocks base.length]

end Passage

/-! ## Steps that can be read -/

/-- Whether a call sends a machine to a state. -/
def Call.isGoto {body : Type} : Call body → Bool
  | .goto _ => true
  | _ => false

mutual

/-- Whether no transition is called directly inside of a switch. -/
def Step.tidy : Step → Bool
  | ⟨call, _, _, _⟩ => tidyCall call

def tidyCall : Call (List Step) → Bool
  | .switch _ steps => (steps.all fun step ↦ !step.call.isGoto) && tidyAll steps
  | .ifThen _ steps | .elseIf _ steps | .otherwise steps | .case _ steps | .default steps
  | .machine _ _ _ _ steps | .state _ steps | .module _ _ steps => tidyAll steps
  | _ => true

def tidyAll : List Step → Bool
  | [] => true
  | step :: rest => step.tidy && tidyAll rest

end

/-- Whether accepted runs of steps, as a body or as a module, come to a session of some kind. -/
def ComesTo (steps : List Step) (session : Session) (wanted : Session → Prop) : Prop :=
  Ends (runBody steps) session ⟨fun _ later ↦ later.Accepted → wanted later, fun _ later ↦ ¬later.Accepted⟩ ∧
    Ends (runAll steps) session ⟨fun _ later ↦ later.Accepted → wanted later, fun _ _ ↦ False⟩

theorem ComesTo.mono {steps : List Step} {session : Session} {holds wanted : Session → Prop}
    (comes : ComesTo steps session holds) (implies : ∀ later, holds later → wanted later) :
    ComesTo steps session wanted :=
  ⟨comes.1.mono (fun _ later holds accepted ↦ implies later (holds accepted)) fun _ _ refused ↦ refused,
    comes.2.mono (fun _ later holds accepted ↦ implies later (holds accepted)) fun _ _ refused ↦ refused⟩

/-- Behind a refusal nothing is left to show, as the trace keeps it. -/
theorem ComesTo.of_not_accepted {session : Session} (refused : ¬session.Accepted) (sound : session.builder.Sound)
    (placed : session.builder.control.Placed) (steps : List Step) (wanted : Session → Prop) :
    ComesTo steps session wanted := by
  obtain ⟨body, whole⟩ := steps_extend steps
  have ran := (proceed steps).2 session sound placed
  refine ⟨(body session).mono ?_ ?_, ((whole session).and ran).mono ?_ fun _ _ ended ↦ ended.2⟩
  · exact fun _ later before now ↦ absurd (now.of_prefix before) refused
  · exact fun _ later before now ↦ refused (now.of_prefix before)
  · exact fun _ later ended now ↦ absurd (now.of_prefix ended.1) refused

theorem ComesTo.cons {step : Step} {rest : List Step} {session : Session} {wanted : Session → Prop}
    (first : Ends step.run session ⟨fun _ middle ↦ ComesTo rest middle wanted,
      fun _ middle ↦ ¬middle.Accepted ∧ ComesTo rest middle wanted⟩) : ComesTo (step :: rest) session wanted := by
  constructor
  · simp only [runBody]
    split
    · exact (ends_bind ..).2 ((Run.ends_caught ..).2 (first.mono (fun _ _ comes ↦ comes.1) fun _ _ ended ↦ ended.2.1))
    · exact (ends_bind ..).2 (first.mono (fun _ _ comes ↦ comes.1) fun _ _ ended ↦ ended.1)
  · apply (ends_bind ..).2
    apply (Run.ends_caught ..).2
    exact first.mono (fun _ _ comes ↦ comes.2) fun _ _ ended ↦ ended.2.2

/-- Reading from one session leads to another, to the place where that one stands. -/
def Ledger.Follows (read : Ledger → Passage → Option (Ledger × Passage)) (passage : Passage)
    (around : Option MachineId) (base : List Frame) (outside : Body) (session later : Session) : Prop :=
  ∃ after, read (.of session) passage = some (.of later, after) ∧ passage.Grows after ∧
    after.At around base outside later.builder

/-- Whether accepted runs of steps are followed by reading. -/
def Reads (steps : List Step) : Prop :=
  ∀ (session : Session) (passage : Passage) (around : Option MachineId) (base : List Frame) (outside : Body),
    session.builder.Sound → passage.At around base outside session.builder →
      (∀ test loc arms, passage = .cases test loc arms → ∀ step ∈ steps, step.call.isGoto = false) →
        ComesTo steps session (Ledger.Follows (readAll around steps) passage around base outside session)

namespace Run

variable {steps : List Step} (reads : Reads steps) {session : Session} (sound : session.builder.Sound)
  {around : Option MachineId}

include reads sound

/-- The recorded body is what the blocks of the body come to. -/
theorem capture_reads {levels : Nat}
    (height : session.builder.control.depth + levels = session.builder.control.frames.length)
    (innermost : session.builder.control.frames.findSome? Control.machineOf? = around) {post : Post Session Body}
    (returned : ∀ recorded later, session.builder.Restores later.builder →
      (later.Accepted → ∃ draft, readAll around steps (.of session) (.body .empty) = some (.of later, .body draft) ∧
        recorded = Block.lowerAll draft.blocks ∅) → post.returned recorded later)
    (refused : ∀ error later, post.refused error later) : Ends (capture levels (runBody steps)) session post := by
  have restores : Ends (capture levels (runBody steps)) session
      ⟨fun _ later ↦ session.builder.Restores later.builder, fun _ _ ↦ True⟩ :=
    capture_ends (proceed steps).1 sound height (fun _ _ restores _ ↦ restores) fun _ _ _ ↦ trivial
  have follows : Ends (capture levels (runBody steps)) session
      ⟨fun recorded later ↦ later.Accepted → ∃ draft, readAll around steps (.of session) (.body .empty) =
        some (.of later, .body draft) ∧ recorded = Block.lowerAll draft.blocks ∅, fun _ _ ↦ True⟩ := by
    rw [ends_capture]
    simp only [ends_bind, ends_build]
    obtain ⟨start, place⟩ := sound.enterBody height
    have here : (Passage.body .empty).At around session.builder.control.frames ∅
        (session.withBuilder (session.builder.enterBody levels)).builder := ⟨place, innermost, rfl⟩
    have runs := (proceed steps).1 (session.withBuilder (session.builder.enterBody levels)) start.sound here.placed
    refine (runs.and (reads _ _ _ _ _ start.sound here (by simp)).1).mono ?_ fun _ _ _ ↦ trivial
    rintro _ inner ⟨stays, follows⟩
    apply Ends.of_eq_ok (Build.flush_of_placed stays.sound.stacked (stays.level.placed here.placed))
    intro accepted
    obtain ⟨after, read, grows, there⟩ := follows accepted
    cases grows with
    | body _ draft =>
      refine ⟨draft, ?_, (there.flushed stays.sound.stacked).2⟩
      obtain ⟨settings, machines, indicators⟩ := inner.builder.alike_flushed
      have same : Ledger.of (inner.withBuilder (session.builder.leaveBody inner.builder.flushed)) = Ledger.of inner :=
        Ledger.of_withBuilder ⟨settings, machines, indicators⟩
      exact read.trans (by rw [← same]; rfl)
  exact (restores.and follows).mono (fun recorded later ended ↦ returned recorded later ended.1 ended.2)
    fun error later _ ↦ refused error later

/-! ## Chains -/

/-- A branch that is put on the chain on top of the stack. -/
theorem branch_reads {base : List Frame} {chain : IfChain}
    (control : session.builder.control = ⟨.chain chain :: base, base.length, none⟩) (height : chain.depth = base.length)
    (innermost : base.findSome? Control.machineOf? = around) (test : Option Value) (loc : Location)
    {post : Post Session Unit}
    (returned : ∀ recorded later, later.builder.control =
        ⟨.chain (chain.extend ⟨test, recorded, loc⟩) :: base, base.length, none⟩ →
      later.builder.statements = session.builder.statements →
      (later.Accepted → ∃ draft, readAll around steps (.of session) (.body .empty) = some (.of later, .body draft) ∧
        recorded = Block.lowerAll draft.blocks ∅) → post.returned () later)
    (refused : ∀ error later, post.refused error later) :
    Ends (do build (Build.addBranch test (← capture 1 (runBody steps)) loc)) session post := by
  simp only [ends_bind, ends_build]
  have level : session.builder.control.depth + 1 = session.builder.control.frames.length := by
    rw [control, List.length_cons]
  have around_eq : session.builder.control.frames.findSome? Control.machineOf? = around := by
    rw [control]
    exact innermost
  refine capture_reads reads sound level around_eq (fun recorded later restores follows ↦ ?_) refused
  have here := restores.control.trans control
  have frames : later.builder.control.frames = .chain chain :: base := by rw [here]
  refine Build.addBranch_ends frames (by rw [here, height]) _ _ _ (returned recorded _ ?_ restores.statements follows)
  rw [Session.builder_withBuilder, Builder.withFrames, here]

section Chains

variable {passage : Passage} {base : List Frame} {outside : Body}
  (place : passage.At around base outside session.builder)

include place

theorem ifThen_reads (condition : Value) (loc : Location) :
    Ends (ifThen condition loc (runBody steps)) session
      ⟨fun _ later ↦ later.Accepted → ∃ draft inner, passage = .body draft ∧
          readAll around steps (.of session) (.body .empty) = some (.of later, .body inner) ∧
          (Passage.body ⟨draft.blocks, some ⟨[⟨condition, inner.blocks, loc⟩], loc⟩⟩).At around base outside
            later.builder, fun _ _ ↦ True⟩ := by
  unfold ifThen
  rw [ends_bind, ends_build]
  have opens := (Build.openChain_opens sound place.placed condition loc).and
    (Build.openChain_alike sound.stacked place.placed condition loc)
  refine opens.mono ?_ fun _ _ _ ↦ trivial
  rintro _ opened ⟨⟨leads, statements, behind, base', place', rfl, control⟩, context, alike⟩
  obtain ⟨draft, rfl⟩ := place.body_of_context context
  have known : (session.withBuilder opened).builder.Sound := leads.sound
  have same : base' = base := place'.base_eq.trans place.1.base_eq.symm
  subst same
  refine (ends_onRefusal ..).2 (branch_reads reads known control rfl place.2.1 _ _
    (fun recorded later there filed follows accepted ↦ ?_) fun _ _ ↦ trivial)
  obtain ⟨inner, read, recorded_eq⟩ := follows accepted
  rw [Ledger.of_withBuilder alike] at read
  refine ⟨draft, inner, rfl, read, ?_, place.2.1, ?_⟩
  · have growing : ((IfChain.mk base'.length loc []).extend
        ⟨some condition, Block.lowerAll inner.blocks ∅, loc⟩).Growing :=
      IfChain.growing_extend (by simp) condition _ loc
    rw [there, recorded_eq]
    exact Control.atBody_chain growing rfl
  · exact (filed.trans statements).trans (place.flushed sound.stacked).2

theorem elseIf_reads (condition : Value) (loc : Location) :
    Ends (elseIf condition loc (runBody steps)) session
      ⟨fun _ later ↦ later.Accepted → ∃ draft chain inner, passage = .body draft ∧ draft.chain = some chain ∧
          readAll around steps (.of session) (.body .empty) = some (.of later, .body inner) ∧
          (Passage.body ⟨draft.done, some { chain with arms := chain.arms ++ [⟨condition, inner.blocks, loc⟩] }⟩).At
            around base outside later.builder, fun _ _ ↦ True⟩ := by
  unfold elseIf
  rw [ends_bind, ends_build]
  refine Build.resumeChain_ends _ _ (fun behind advice context open_ ↦ ?_) fun _ _ ↦ trivial
  obtain ⟨draft, rfl⟩ := place.body_of_context context
  have noted := sound.leads_noted advice
  have known : (session.withBuilder (session.builder.noted advice)).builder.Sound := noted.sound
  rw [place.1.openChain? sound.stacked, Option.map_eq_some_iff] at open_
  obtain ⟨chain, listed, rfl⟩ := open_
  have here := place.1
  rw [listed] at here
  obtain ⟨height, growing⟩ := here.growing _ rfl
  refine branch_reads reads known here.eq height place.2.1 _ _ (fun recorded later there filed follows accepted ↦ ?_)
    fun _ _ ↦ trivial
  obtain ⟨inner, read, recorded_eq⟩ := follows accepted
  refine ⟨draft, chain, inner, rfl, listed, read, ?_, place.2.1, filed.trans place.2.2⟩
  rw [there, recorded_eq]
  have grown := Control.atBody_chain (IfChain.growing_extend growing.2 condition
    (Block.lowerAll inner.blocks ∅) loc) height
  have chain_eq : (chain.toChain base.length).extend ⟨some condition, Block.lowerAll inner.blocks ∅, loc⟩ =
      OpenArms.toChain { chain with arms := chain.arms ++ [⟨condition, inner.blocks, loc⟩] } base.length := by
    rw [OpenArms.toChain, OpenArms.toChain, IfChain.extend, Block.branches_append]
  rw [chain_eq] at grown ⊢
  exact grown

theorem otherwise_reads (loc : Location) :
    Ends (otherwise loc (runBody steps)) session
      ⟨fun _ later ↦ later.Accepted → ∃ draft chain inner, passage = .body draft ∧ draft.chain = some chain ∧
          readAll around steps (.of session) (.body .empty) = some (.of later, .body inner) ∧
          (Passage.body ⟨draft.done ++ [.chain chain.arms (some ⟨(), inner.blocks, loc⟩) chain.loc], none⟩).At
            around base outside later.builder, fun _ _ ↦ True⟩ := by
  unfold otherwise
  rw [ends_bind, ends_build]
  refine Build.finishChain_ends _ (fun behind context open_ ↦ ?_) fun _ ↦ trivial
  obtain ⟨draft, rfl⟩ := place.body_of_context context
  rw [place.1.openChain? sound.stacked, Option.map_eq_some_iff] at open_
  obtain ⟨chain, listed, rfl⟩ := open_
  have here := place.1
  rw [listed] at here
  obtain ⟨height, growing⟩ := here.growing _ rfl
  have branch : Ends (do build (Build.addBranch none (← capture 1 (runBody steps)) loc)) session
      ⟨fun _ later ↦ ∃ recorded, later.builder.control =
          ⟨.chain ((chain.toChain base.length).extend ⟨none, recorded, loc⟩) :: base, base.length, none⟩ ∧
        later.builder.statements = session.builder.statements ∧
        (later.Accepted → ∃ draft, readAll around steps (.of session) (.body .empty) =
          some (.of later, .body draft) ∧ recorded = Block.lowerAll draft.blocks ∅), fun _ _ ↦ True⟩ :=
    branch_reads reads sound here.eq height place.2.1 _ _
      (fun recorded later there filed follows ↦ ⟨recorded, there, filed, follows⟩) fun _ _ ↦ trivial
  rw [ends_bind] at branch
  refine (ends_bind ..).2 (branch.mono (fun recorded middle added ↦ (ends_bind ..).2 (Ends.mono added ?_ ?_)) ?_)
  · rintro _ later ⟨recorded, there, filed, follows⟩
    have frames := congrArg Control.frames there
    refine (ends_build ..).2 (Ends.of_eq_ok (Build.closeTop_chain frames (IfChain.ordered_extend growing.2 _))
      fun accepted ↦ ?_)
    obtain ⟨inner, read, recorded_eq⟩ := follows accepted
    refine ⟨draft, chain, inner, rfl, listed, read, ?_, place.2.1, ?_⟩
    · have left := Control.atBody_left there
      exact left
    · change IfChain.close _ later.builder.statements = _
      rw [filed, place.2.2, recorded_eq, Block.lowerAll_append, OpenArms.toChain, IfChain.extend]
      rfl
  · exact fun _ _ _ ↦ trivial
  · exact fun _ _ _ ↦ trivial

end Chains

/-! ## Switches -/

section Switches

variable {passage : Passage} {base : List Frame} {outside : Body}
  (place : passage.At around base outside session.builder)

include place

theorem switch_reads (straight : ∀ step ∈ steps, step.call.isGoto = false) (test : Value) (loc : Location) :
    Ends (switch test loc (runBody steps)) session
      ⟨fun _ later ↦ later.Accepted → ∃ draft arms, passage = .body draft ∧
          readAll around steps (.of session) (.cases test loc []) = some (.of later, .cases test loc arms) ∧
          (Passage.body (draft.add (.switch test arms loc))).At around base outside later.builder,
        fun _ _ ↦ True⟩ := by
  unfold switch
  rw [ends_bind, ends_build]
  have opens := (Build.openSwitch_opens sound place.placed test loc).and
    (Build.openSwitch_alike sound.stacked place.placed test loc)
  refine opens.mono ?_ fun _ _ _ ↦ trivial
  rintro _ opened ⟨⟨leads, statements, context, behind, base', place', control, -⟩, alike⟩
  obtain ⟨draft, rfl⟩ := place.body_of_context context
  have same : base' = base := place'.base_eq.trans place.1.base_eq.symm
  subst same
  obtain ⟨start, top⟩ := leads.sound.enterConstruct control
  set entered := session.withBuilder (opened.enterConstruct .switch) with entered_def
  have here : (Passage.cases test loc []).At around base' opened.statements entered.builder := ⟨top, place.2.1, rfl⟩
  have inside : Ends (runBody steps) entered ⟨fun _ later ↦ later.Accepted →
      Ledger.Follows (readAll around steps) (.cases test loc []) around base' opened.statements entered later,
        fun _ later ↦ ¬later.Accepted⟩ := (reads _ _ _ _ _ start.sound here fun _ _ _ _ ↦ straight).1
  have runs := ((proceed steps).1 entered start.sound here.placed).and inside
  refine (ends_bind ..).2 ((ends_inside ..).2 (runs.mono ?_ fun _ _ _ ↦ trivial))
  rintro _ inner ⟨stays, follows⟩
  obtain ⟨frame, again, grows⟩ := stays.level.inside _ _ top
  have frames : ∃ switch, inner.builder.control.frames = .switch switch :: base' := by
    cases grows <;> exact ⟨_, again.frames⟩
  obtain ⟨closing, frames⟩ := frames
  refine (ends_build ..).2 (Ends.of_eq_ok (Build.closeTop_switch frames) fun accepted ↦ ?_)
  obtain ⟨after, read, grown, there⟩ := follows accepted
  cases grown with
  | cases _ _ _ arms =>
    have known : Ledger.of entered = Ledger.of session :=
      Ledger.of_withBuilder ⟨alike.settings, alike.machines, alike.indicators⟩
    rw [known] at read
    refine ⟨draft, arms, rfl, read, ?_, place.2.1, ?_⟩
    · have left := again.left control
      exact left
    · have listed := there.1.frames.symm.trans frames
      rw [List.cons.injEq, Frame.switch.injEq] at listed
      change inner.builder.statements.appendAll closing.lower = _
      rw [there.2.2, statements, (place.flushed sound.stacked).2, ← listed.1, Draft.add, Block.lowerAll_append]
      rfl

theorem case_reads (patterns : List (WrittenPattern Value)) (loc : Location) :
    Ends (case patterns loc (runBody steps)) session
      ⟨fun _ later ↦ later.Accepted → ∃ test start arms inner, passage = .cases test start arms ∧
          readAll around steps (.of session) (.body .empty) = some (.of later, .body inner) ∧
          (Passage.cases test start (arms ++ [⟨some patterns, inner.blocks, loc⟩])).At around base outside
            later.builder, fun _ _ ↦ True⟩ := by
  obtain ⟨switch, base', top⟩ := place.placed.topSwitch
  unfold case
  rw [ends_bind, ends_build]
  refine Build.startCase_ends (fun context ↦ (top context).frames) _ _ (fun advice context ↦ ?_) fun _ _ ↦ trivial
  obtain ⟨test, start, arms, rfl⟩ := place.cases_of_context context
  obtain ⟨same, rfl⟩ := (top context).frames_eq place.1
  cases same
  have here := place.1
  have known : (session.withBuilder (session.builder.noted advice)).builder.Sound := (sound.leads_noted advice).sound
  have innermost : session.builder.control.frames.findSome? Control.machineOf? = around := place.innermost
  refine (ends_bind ..).2 (capture_reads reads known (by simp [Builder.noted, here.frames, here.depth]) innermost
    (fun recorded later restores follows ↦ ?_) fun _ _ ↦ trivial)
  have there := here
  rw [← show later.builder.control = session.builder.control from restores.control] at there
  have filed : later.builder.statements = outside := restores.statements.trans place.2.2
  apply (ends_ite ..).2
  split
  · rename_i dead
    intro accepted
    obtain ⟨inner, read, -⟩ := follows accepted
    refine ⟨test, start, arms, inner, rfl, read, ?_, place.2.1, filed⟩
    rw [Block.cases_append, Block.cases, Block.cases, if_pos dead, List.append_nil]
    exact there
  · rename_i live
    refine (ends_build ..).2 (Build.addCase_ends there.frames _ _ _ fun accepted ↦ ?_)
    obtain ⟨inner, read, recorded_eq⟩ := follows accepted
    refine ⟨test, start, arms, inner, rfl, read, ?_, place.2.1, filed⟩
    rw [Block.cases_append, Block.cases, Block.cases, if_neg live, Block.firstCases_append, ← recorded_eq]
    exact ⟨rfl, there.depth, there.context⟩

theorem default_reads (loc : Location) :
    Ends (default loc (runBody steps)) session
      ⟨fun _ later ↦ later.Accepted → ∃ test start arms inner, passage = .cases test start arms ∧
          readAll around steps (.of session) (.body .empty) = some (.of later, .body inner) ∧
          (Passage.cases test start (arms ++ [⟨none, inner.blocks, loc⟩])).At around base outside later.builder,
        fun _ _ ↦ True⟩ := by
  obtain ⟨switch, base', top⟩ := place.placed.topSwitch
  unfold default
  rw [ends_bind, ends_build]
  refine Build.startDefault_ends (fun context ↦ (top context).frames) _ (fun advice context ↦ ?_) fun _ ↦ trivial
  obtain ⟨test, start, arms, rfl⟩ := place.cases_of_context context
  obtain ⟨same, rfl⟩ := (top context).frames_eq place.1
  cases same
  have here := place.1
  have known : (session.withBuilder (session.builder.noted advice)).builder.Sound := (sound.leads_noted advice).sound
  have innermost : session.builder.control.frames.findSome? Control.machineOf? = around := place.innermost
  refine (ends_bind ..).2 (capture_reads reads known (by simp [Builder.noted, here.frames, here.depth]) innermost
    (fun recorded later restores follows ↦ ?_) fun _ _ ↦ trivial)
  have there := here
  rw [← show later.builder.control = session.builder.control from restores.control] at there
  have filed : later.builder.statements = outside := restores.statements.trans place.2.2
  refine (ends_build ..).2 (Build.addCase_ends there.frames _ _ _ fun accepted ↦ ?_)
  obtain ⟨inner, read, recorded_eq⟩ := follows accepted
  refine ⟨test, start, arms, inner, rfl, read, ?_, place.2.1, filed⟩
  rw [Block.cases_append, Block.cases, Block.cases, Block.firstCases_append, ← recorded_eq]
  exact ⟨rfl, there.depth, there.context⟩

end Switches

/-! ## Machines -/

section Machines

variable {passage : Passage} {base : List Frame} {outside : Body}
  (place : passage.At around base outside session.builder)

include place

theorem machine_reads (name domain initial : Option String) (key : String) (loc : Location) :
    Ends (machine name domain initial loc fun id ↦ do storeMachine key id; runBody steps) session
      ⟨fun _ later ↦ later.Accepted → ∃ draft, passage = .body draft ∧
          ∃ after, readCall around loc (.machine name domain initial key steps) (.of session) passage =
            some (.of later, .body after) ∧ (Passage.body after).At around base outside later.builder,
        fun _ _ ↦ True⟩ := by
  unfold machine
  rw [ends_bind, ends_build]
  have opens := (Build.openMachine_opens sound place.placed name domain initial loc).and
    (Build.openMachine_alike sound.stacked place.placed name domain initial loc)
  refine opens.mono ?_ fun _ _ _ ↦ trivial
  rintro id opened ⟨⟨leads, -, statements, behind, base', place', control, -⟩, context, rfl, kept⟩
  obtain ⟨draft, rfl⟩ := place.body_of_context context
  have same : base' = base := place'.base_eq.trans place.1.base_eq.symm
  subst same
  set id := session.builder.machines.nextKey with id_def
  obtain ⟨start, top⟩ := leads.sound.enterConstruct control
  set entered : Session := { session.withBuilder (opened.enterConstruct .machine) with
    environment := session.environment.storeMachine key id } with entered_def
  have found : ∃ new, opened.machines.get? id = some new ∧ new.states = ∅ := by
    rw [kept.machines]
    exact ⟨_, Arena.get?_push_nextKey .., rfl⟩
  obtain ⟨new, found, fresh⟩ := found
  have here : (Passage.states id loc []).At (some id) base' opened.statements entered.builder :=
    ⟨top, rfl, rfl, new, found, congrArg Table.entries fresh⟩
  have inside : Ends (runBody steps) entered ⟨fun _ later ↦ later.Accepted →
      Ledger.Follows (readAll (some id) steps) (.states id loc []) (some id) base' opened.statements entered later,
        fun _ later ↦ ¬later.Accepted⟩ := (reads _ _ _ _ _ start.sound here (by simp)).1
  have runs := ((proceed steps).1 entered start.sound here.placed).and inside
  refine (ends_bind ..).2 ((ends_inside ..).2 ((ends_bind ..).2 ((ends_modify ..).2 ?_)))
  refine runs.mono ?_ fun _ _ _ ↦ trivial
  rintro _ inner ⟨stays, follows⟩
  obtain ⟨frame, again, grows⟩ := stays.level.inside _ _ top
  cases grows
  have frames : inner.builder.control.frames = .machine id loc :: base' := again.frames
  refine (ends_bind ..).2 ((ends_build ..).2 (Build.finishMachine_ends frames
    (fun machine closing refound closed accepted ↦ ?_) fun _ ↦ trivial))
  obtain ⟨after, read, grown, there⟩ := follows accepted
  cases grown with
  | states _ _ _ arms =>
    obtain ⟨-, -, outside_eq, machine', found', states⟩ := there
    rw [show inner.builder.machines.get? id = some machine from refound, Option.some.injEq] at found'
    subst found'
    obtain ⟨register, registered, branches⟩ := Machine.branches_of_close states closed
    refine ⟨draft, rfl, draft.add (.machine register closing.machine.encoding arms loc), ?_, ?_, place.2.1, ?_⟩
    · have known : Ledger.of entered = (Ledger.of session).withNewMachine key
          (.opened (name.getD session.builder.settings.fsmDefaultName)
            (domain.getD session.builder.settings.fsmDefaultDomain) initial) := by
        rw [Ledger.of, entered_def]
        change Ledger.mk _ _ opened.settings opened.machines opened.indicators = _
        rw [kept.settings, kept.machines, kept.indicators]
        rfl
      rw [known] at read
      have fetched : (Ledger.of inner).machines.get? id = some machine := refound
      have fresh : (Ledger.of session).machines.nextKey = id := rfl
      exact readCall_machine fresh read fetched closed registered
    · have left := again.left control
      exact left
    · change inner.builder.statements.appendAll closing.branches = _
      rw [outside_eq, statements, (place.flushed sound.stacked).2, branches, Draft.add, Block.lowerAll_append]
      rfl

theorem state_reads (name : String) (loc : Location) :
    Ends (state name loc (runBody steps)) session
      ⟨fun _ later ↦ later.Accepted → ∃ id start arms, passage = .states id start arms ∧
          ∃ grown, readCall around loc (.state name steps) (.of session) passage =
            some (.of later, .states id start grown) ∧
            (Passage.states id start grown).At around base outside later.builder, fun _ _ ↦ True⟩ := by
  obtain ⟨id, start, base', top⟩ := place.placed.topMachine
  unfold state
  rw [ends_bind, ends_build]
  refine Build.startState_ends (fun context ↦ (top context).frames) _ _ (fun machine context found absent ↦ ?_)
    fun _ ↦ trivial
  obtain ⟨id', start', arms, rfl⟩ := place.states_of_context context
  obtain ⟨same, rfl⟩ := (top context).frames_eq place.1
  cases same
  obtain ⟨here, rfl, filed, _, refound, states⟩ := place
  rw [found, Option.some.injEq] at refound
  subst refound
  obtain ⟨_, refound, incomplete⟩ := sound.running id (by simp [here.frames])
  rw [found, Option.some.injEq] at refound
  subst refound
  set mentioned := session.withBuilder (session.builder.withMachine id (machine.mention id name)) with mentioned_def
  have known : mentioned.builder.Sound := (sound.leads_mention found incomplete name).sound
  have level : mentioned.builder.control.depth + 0 = mentioned.builder.control.frames.length := by
    change session.builder.control.depth = session.builder.control.frames.length
    rw [here.eq]
    rfl
  have innermost : mentioned.builder.control.frames.findSome? Control.machineOf? = some id := by
    change session.builder.control.frames.findSome? Control.machineOf? = some id
    rw [here.frames]
    rfl
  have now : mentioned.builder.machines.get? id = some (machine.mention id name) := by
    change (session.builder.withMachine id (machine.mention id name)).machines.get? id = _
    rw [Builder.get?_withMachine, if_pos rfl, found, Option.map_some]
  refine (ends_bind ..).2 (capture_reads reads known level innermost (fun recorded later restores follows ↦ ?_)
    fun _ _ ↦ trivial)
  obtain ⟨grown, then_found, kept⟩ := restores.keeps id _ now (by simp)
  have control : later.builder.control = session.builder.control := restores.control
  refine (ends_build ..).2 (Build.addState_ends _ _ _ _ fun last last_found fresh accepted ↦ ?_)
  rw [then_found, Option.some.injEq] at last_found
  subst last_found
  obtain ⟨inner, read, recorded_eq⟩ := follows accepted
  refine ⟨id, start, arms, rfl, arms ++ [⟨name, inner.blocks, loc⟩], ?_, ?_, rfl, ?_,
    { grown with states := grown.states.insert name ⟨recorded, loc⟩ }, ?_, ?_⟩
  · have last : (Ledger.of later).machines.get? id = some grown := then_found
    rw [recorded_eq]
    exact readCall_state found read last
  · change later.builder.control.AtConstruct _ _
    rw [control]
    exact here
  · exact restores.statements.trans filed
  · change (later.builder.withMachine id _).machines.get? id = _
    rw [Builder.get?_withMachine, if_pos rfl, then_found, Option.map_some]
  · change (grown.states.insert name ⟨recorded, loc⟩).entries = _
    rw [Table.entries_insert_of_notMem _ _ _ fresh, kept, Machine.states_mention, states, Machine.declaredAs,
      Machine.declaredAs, List.map_append, recorded_eq]
    rfl

end Machines

end Run

/-! ## Calls without bodies -/

namespace Passage

variable {around : Option MachineId} {base : List Frame} {outside : Body} {builder : Builder}

theorem At.recorded {draft : Draft} (place : (body draft).At around base outside builder)
    (stacked : Control.Stacked builder.control.frames) {block : Block} {domain : String} {statements : List Statement}
    (filed : ∀ body, block.lower body = body.append domain statements) :
    (body (draft.add block)).At around base outside (builder.recorded domain statements) := by
  obtain ⟨control, lowered⟩ := place.flushed stacked
  refine ⟨?_, place.2.1, ?_⟩
  · change Control.AtBody none base builder.flushed.control
    rw [control]
    exact Control.atBody_nil base
  · change builder.flushed.statements.append domain statements = _
    rw [lowered, Draft.add, Block.lowerAll_append, ← filed]
    rfl

end Passage

theorem Builder.alike_recorded (builder : Builder) (domain : String) (statements : List Statement) :
    builder.Alike (builder.recorded domain statements) := by
  obtain ⟨settings, machines, indicators⟩ := builder.alike_flushed
  exact ⟨settings, machines, indicators⟩

namespace Build

variable {builder : Builder} (sound : builder.Sound) {passage : Passage} {around : Option MachineId} {base : List Frame}
  {outside : Body} (place : passage.At around base outside builder)

include sound place

theorem add_reads (domain : String) (statements : List Statement) (loc : Location) :
    Ends (add domain statements loc) builder
      ⟨fun _ after ↦ builder.Alike after ∧ ∃ draft plain, passage = .body draft ∧
          (Passage.body (draft.add (.file domain statements plain))).At around base outside after, fun _ _ ↦ True⟩ := by
  refine add_ends sound.stacked place.placed _ _ _ (fun advice context plain _ ↦ ?_) (fun _ ↦ trivial)
    fun _ _ _ _ ↦ trivial
  obtain ⟨draft, rfl⟩ := place.body_of_context context
  have noted : (Passage.body draft).At around base outside (builder.noted advice) := place
  obtain ⟨settings, machines, indicators⟩ := (builder.noted advice).alike_recorded domain statements
  exact ⟨⟨settings, machines, indicators⟩, draft, plain, rfl, noted.recorded sound.stacked fun _ ↦ rfl⟩

theorem goto_reads (straight : ∀ test loc arms, passage ≠ .cases test loc arms) (state : String) (loc : Location) :
    Ends (goto state loc) builder
      ⟨fun _ after ↦ ∃ draft id machine, passage = .body draft ∧ around = some id ∧
          builder.machines.get? id = some machine ∧ (builder.withMachine id (machine.mention id state)).Alike after ∧
          (Passage.body (draft.add (.goto machine.domain id state loc))).At around base outside after,
        fun _ _ ↦ True⟩ := by
  refine goto_ends sound.stacked place.placed _ _ (fun id machine elsewhere innermost found ↦ ?_) fun _ _ ↦ trivial
  have drafted : ∃ draft, passage = .body draft := by
    cases passage with
    | body draft => exact ⟨draft, rfl⟩
    | cases test start arms => exact absurd rfl (straight test start arms)
    | states other start arms => exact absurd place.1.context elsewhere
  obtain ⟨draft, rfl⟩ := drafted
  have mentioned :
      (Passage.body draft).At around base outside (builder.withMachine id (machine.mention id state)) := place
  exact ⟨draft, id, machine, rfl, place.innermost.symm.trans innermost, found, Builder.alike_recorded _ _ _,
    mentioned.recorded sound.stacked fun _ ↦ rfl⟩

end Build

/-! ## Steps -/

theorem tidyAll_of_body {call : Call (List Step)} {steps : List Step} (tidy : tidyCall call = true)
    (within : call.body? = some steps) : tidyAll steps = true := by
  cases call <;> simp only [Call.body?, Option.some.injEq, reduceCtorEq] at within
  all_goals
    subst within
    simp only [tidyCall, Bool.and_eq_true] at tidy
    first | exact tidy | exact tidy.2

section Calls

variable {session : Session} (passage : Passage) (around : Option MachineId) (loc : Location)

theorem runModule_reads {steps : List Step} (reads : Reads steps) (name : Option String) (chosen : Settings) :
    Ends (runCall loc (.module name chosen steps)) session
      ⟨fun _ later ↦ later.Accepted →
        readCall around loc (.module name chosen steps) (.of session) passage = some (.of later, passage),
        fun _ _ ↦ True⟩ := by
  simp only [runCall, Run.module, ends_bind, ends_get, ends_modify, ends_pure, Run.ends_build]
  set opened : Session := { session with
    builder := .start chosen session.started loc
    started := session.started + 1 } with opened_def
  have here : (Passage.body .empty).At none [] ∅ opened.builder := ⟨Control.atBody_nil [], rfl, rfl⟩
  refine ((reads opened _ none [] ∅ (Builder.sound_start ..) here (by simp)).2).mono (fun _ inner follows ↦ ?_)
    fun _ _ _ ↦ trivial
  refine Build.addPart_ends _ _ _ (fun named anonymous _ accepted ↦ ?_) fun _ ↦ trivial
  obtain ⟨after, read, -⟩ := follows accepted
  have started : Ledger.of opened = .start chosen session.environment session.started := rfl
  rw [started] at read
  simp only [readCall, Option.bind_eq_bind]
  exact (congrArg (Option.bind · _) read).trans rfl

theorem runOngoing_reads (key state : String) (storeAs : Option String) :
    Ends (runCall loc (.ongoing key state storeAs)) session
      ⟨fun _ later ↦ readCall around loc (.ongoing key state storeAs) (.of session) passage =
        some (.of later, passage), fun _ _ ↦ True⟩ := by
  simp only [runCall, Run.ongoing, ends_bind, ends_get, readCall, Ledger.ongoing, Ledger.environment_of]
  cases known : session.environment.machines.get? key with
  | none => rfl
  | some id =>
    refine (ends_bind ..).2 ((Run.ends_build ..).2 (Build.ongoing_ends _ _ _
      (fun machine mentioned signal found _ kind fetched ↦ ?_) fun _ ↦ trivial))
    have listed : (Ledger.of session).machines.get? id = some machine := found
    subst kind
    simp only [listed, fetched, Option.bind_eq_bind, Option.bind_some]
    cases storeAs <;> rfl

theorem runMachineInfo_reads (key : String) (storeAs : Option String) :
    Ends (runCall loc (.machineInfo key storeAs)) session
      ⟨fun _ later ↦ readCall around loc (.machineInfo key storeAs) (.of session) passage =
        some (.of later, passage), fun _ _ ↦ True⟩ := by
  simp only [runCall, Run.machineInfo, ends_bind, ends_get, readCall, Ledger.register, Ledger.environment_of]
  cases known : session.environment.machines.get? key with
  | none => rfl
  | some id =>
    have listed :
        ((Ledger.of session).machines.get? id).bind Machine.register = session.builder.machineRegister? id := rfl
    simp only [ends_bind, ends_get, listed]
    cases session.builder.machineRegister? id with
    | none => rfl
    | some register => cases storeAs <;> rfl

/-- Reading passes over a quiet call. -/
theorem runQuiet_reads {call : Call (List Step)} (quiet : call.isQuiet = true)
    (bodies : ∀ steps, call.body? = some steps → Reads steps) :
    Ends (runCall loc call) session
      ⟨fun _ later ↦ later.Accepted → readCall around loc call (.of session) passage = some (.of later, passage),
        fun _ _ ↦ True⟩ := by
  cases call with
  | ongoing key state storeAs =>
    exact (runOngoing_reads passage around loc key state storeAs).mono (fun _ _ read _ ↦ read) fun _ _ _ ↦ trivial
  | machineInfo key storeAs =>
    exact (runMachineInfo_reads passage around loc key storeAs).mono (fun _ _ read _ ↦ read) fun _ _ _ ↦ trivial
  | module name chosen steps => exact runModule_reads passage around loc (bodies steps rfl) name chosen
  | component name component =>
    simp only [runCall, ends_bind, Run.ends_build, ends_pure]
    exact Build.addPart_ends _ _ _ (fun _ _ _ _ ↦ rfl) fun _ ↦ trivial
  | part name =>
    simp only [runCall, ends_bind, Run.ends_build, ends_pure]
    exact Build.part_ends _ _ (fun _ _ ↦ rfl) fun _ ↦ trivial
  | domain domain =>
    simp only [runCall, Run.addDomain, ends_bind, Run.ends_build, ends_pure, Build.ends_accepted]
    split
    · exact Build.addDomain_ends _ _ (fun _ _ ↦ rfl) fun _ ↦ trivial
    · trivial
  | raise message => exact trivial
  | settings => exact fun _ ↦ rfl
  | _ => simp [Call.isQuiet] at quiet

variable {passage around}

/-- Whether accepted runs of a call are followed by reading. -/
def Call.Followed (call : Call (List Step)) (loc : Location) (passage : Passage) (around : Option MachineId)
    (base : List Frame) (outside : Body) (session : Session) : Prop :=
  Ends (runCall loc call) session
    ⟨fun _ later ↦ later.Accepted →
      Ledger.Follows (readCall around loc call) passage around base outside session later, fun _ _ ↦ True⟩

variable (sound : session.builder.Sound) {base : List Frame} {outside : Body}
  (place : passage.At around base outside session.builder)

include sound place

theorem runAdd_reads (domain : String) (statements : List StatementTerm) :
    (Call.add domain statements).Followed loc passage around base outside session := by
  simp only [Call.Followed, runCall, Run.addStatements, ends_bind, ends_get, Run.ends_sound, Run.ends_build, ends_pure]
  intro values evaluated
  refine (Build.add_reads sound place domain values loc).mono ?_ fun _ _ _ ↦ trivial
  rintro _ after ⟨alike, draft, plain, rfl, there⟩ -
  refine ⟨_, ?_, .body draft _, there⟩
  rw [Ledger.of_withBuilder alike]
  simp only [readCall, Passage.draft?, Ledger.environment_of, evaluated, Except.toOption, Option.bind_eq_bind,
    Option.bind_some, dif_pos plain]
  rfl

/-- A transition is followed outside of switches. -/
theorem runGoto_reads (elsewhere : ∀ test start arms, passage ≠ .cases test start arms) (state : String) :
    (Call.goto state).Followed loc passage around base outside session := by
  simp only [Call.Followed, runCall, ends_bind, Run.ends_build, ends_pure]
  refine (Build.goto_reads sound place elsewhere state loc).mono ?_ fun _ _ _ ↦ trivial
  rintro _ after ⟨draft, id, machine, rfl, rfl, found, alike, there⟩ -
  refine ⟨_, ?_, .body draft _, there⟩
  have listed : (Ledger.of session).machines.get? id = some machine := found
  have alike :
      (session.withBuilder (session.builder.withMachine id (machine.mention id state))).builder.Alike after :=
    alike
  have mentioned : Ledger.of (session.withBuilder after) =
      (Ledger.of session).withMachine id (machine.mention id state) := (Ledger.of_withBuilder alike).trans rfl
  simp only [readCall, Passage.draft?, listed, mentioned, Option.bind_eq_bind, Option.bind_some]
  rfl

section Bodies

variable {steps : List Step} (reads : Reads steps)

include reads

theorem runIfThen_reads (condition : Term) :
    (Call.ifThen condition steps).Followed loc passage around base outside session := by
  simp only [Call.Followed, runCall, ends_bind, ends_pure]
  apply Run.evaluate_ends _
  intro value evaluated
  refine (Run.ifThen_reads reads sound place value loc).mono ?_ fun _ _ _ ↦ trivial
  intro _ later follows accepted
  obtain ⟨draft, inner, rfl, read, there⟩ := follows accepted
  refine ⟨_, ?_, .body draft _, there⟩
  simp only [readCall, Passage.draft?, Ledger.environment_of, evaluated, read, Option.bind_eq_bind, Option.bind_some]
  rfl

theorem runElseIf_reads (condition : Term) :
    (Call.elseIf condition steps).Followed loc passage around base outside session := by
  simp only [Call.Followed, runCall, ends_bind, ends_pure]
  apply Run.evaluate_ends _
  intro value evaluated
  refine (Run.elseIf_reads reads sound place value loc).mono ?_ fun _ _ _ ↦ trivial
  intro _ later follows accepted
  obtain ⟨draft, chain, inner, rfl, open_, read, there⟩ := follows accepted
  refine ⟨_, ?_, .body draft _, there⟩
  simp only [readCall, Passage.draft?, open_, Ledger.environment_of, evaluated, read, Option.bind_eq_bind,
    Option.bind_some]
  rfl

theorem runOtherwise_reads :
    (Call.otherwise steps).Followed loc passage around base outside session := by
  simp only [Call.Followed, runCall, ends_bind, ends_pure]
  refine (Run.otherwise_reads reads sound place loc).mono ?_ fun _ _ _ ↦ trivial
  intro _ later follows accepted
  obtain ⟨draft, chain, inner, rfl, open_, read, there⟩ := follows accepted
  refine ⟨_, ?_, .body draft _, there⟩
  simp only [readCall, Passage.draft?, open_, read, Option.bind_eq_bind, Option.bind_some]
  rfl

theorem runSwitch_reads (straight : ∀ step ∈ steps, step.call.isGoto = false) (test : Term) :
    (Call.switch test steps).Followed loc passage around base outside session := by
  simp only [Call.Followed, runCall, ends_bind, ends_pure]
  apply Run.evaluate_ends _
  intro value evaluated
  refine (Run.switch_reads reads sound place straight value loc).mono ?_ fun _ _ _ ↦ trivial
  intro _ later follows accepted
  obtain ⟨draft, arms, rfl, read, there⟩ := follows accepted
  refine ⟨_, ?_, .body draft _, there⟩
  simp only [readCall, Passage.draft?, Passage.cases?, Ledger.environment_of, evaluated, Except.toOption, read,
    Option.bind_eq_bind, Option.bind_some]
  rfl

theorem runCase_reads (patterns : List (WrittenPattern Term)) :
    (Call.case patterns steps).Followed loc passage around base outside session := by
  simp only [Call.Followed, runCall, ends_bind, ends_get, Run.ends_sound, ends_pure]
  intro written evaluated
  refine (Run.case_reads reads sound place written loc).mono ?_ fun _ _ _ ↦ trivial
  intro _ later follows accepted
  obtain ⟨test, start, arms, inner, rfl, read, there⟩ := follows accepted
  refine ⟨_, ?_, .cases test start arms _, there⟩
  simp only [readCall, Passage.draft?, Passage.cases?, Ledger.environment_of, evaluated, read, Option.bind_eq_bind,
    Option.bind_some]
  rfl

theorem runDefault_reads :
    (Call.default steps).Followed loc passage around base outside session := by
  simp only [Call.Followed, runCall, ends_bind, ends_pure]
  refine (Run.default_reads reads sound place loc).mono ?_ fun _ _ _ ↦ trivial
  intro _ later follows accepted
  obtain ⟨test, start, arms, inner, rfl, read, there⟩ := follows accepted
  refine ⟨_, ?_, .cases test start arms _, there⟩
  simp only [readCall, Passage.draft?, Passage.cases?, read, Option.bind_eq_bind, Option.bind_some]
  rfl

theorem runMachine_reads (name domain initial : Option String) (key : String) :
    (Call.machine name domain initial key steps).Followed loc passage around base outside session := by
  simp only [Call.Followed, runCall, ends_bind, ends_get, ends_pure]
  refine (Run.machine_reads reads sound place name domain initial key loc).mono ?_ fun _ _ _ ↦ trivial
  intro id later follows accepted
  obtain ⟨draft, rfl, after, read, there⟩ := follows accepted
  exact ⟨.body after, read, .body draft after, there⟩

theorem runState_reads (name : String) :
    (Call.state name steps).Followed loc passage around base outside session := by
  simp only [Call.Followed, runCall, ends_bind, ends_pure]
  refine (Run.state_reads reads sound place name loc).mono ?_ fun _ _ _ ↦ trivial
  intro _ later follows accepted
  obtain ⟨id, start, arms, rfl, grown, read, there⟩ := follows accepted
  exact ⟨.states id start grown, read, .states id start arms grown, there⟩

end Bodies

theorem runCall_reads {call : Call (List Step)}
    (bodies : ∀ steps, call.body? = some steps → tidyAll steps = true → Reads steps) (tidy : tidyCall call = true)
    (straight : ∀ test loc arms, passage = .cases test loc arms → call.isGoto = false) :
    call.Followed loc passage around base outside session := by
  have reads : ∀ steps, call.body? = some steps → Reads steps :=
    fun steps within ↦ bodies steps within (tidyAll_of_body tidy within)
  cases call with
  | add domain statements => exact runAdd_reads loc sound place domain statements
  | ifThen condition steps => exact runIfThen_reads loc sound place (reads steps rfl) condition
  | elseIf condition steps => exact runElseIf_reads loc sound place (reads steps rfl) condition
  | otherwise steps => exact runOtherwise_reads loc sound place (reads steps rfl)
  | switch test steps =>
    have direct : ∀ step ∈ steps, step.call.isGoto = false := by
      rw [tidyCall, Bool.and_eq_true, List.all_eq_true] at tidy
      exact fun step mem ↦ by simpa using tidy.1 step mem
    exact runSwitch_reads loc sound place (reads steps rfl) direct test
  | case patterns steps => exact runCase_reads loc sound place (reads steps rfl) patterns
  | default steps => exact runDefault_reads loc sound place (reads steps rfl)
  | machine name domain initial key steps =>
    exact runMachine_reads loc sound place (reads steps rfl) name domain initial key
  | state name steps => exact runState_reads loc sound place (reads steps rfl) name
  | goto state =>
    have elsewhere : ∀ test start arms, passage ≠ .cases test start arms :=
      fun test start arms same ↦ by simpa [Call.isGoto] using straight test start arms same
    exact runGoto_reads loc sound place elsewhere state
  | _ =>
    refine ((runCall_rests loc rfl (fun steps _ ↦ proceed steps) sound).and
      (runQuiet_reads passage around loc rfl reads)).mono ?_ fun _ _ _ ↦ trivial
    exact fun _ _ both accepted ↦ ⟨passage, both.2 accepted, .refl passage, place.of_rests both.1⟩

end Calls

/-- Reading goes on behind a step that it has followed. -/
theorem Ledger.Follows.comesTo {step : Step} {rest : List Step} (reads : Reads rest) {session middle : Session}
    {passage : Passage} {around : Option MachineId} {base : List Frame} {outside : Body}
    (straight : ∀ test loc arms, passage = .cases test loc arms → ∀ step ∈ rest, step.call.isGoto = false)
    (sound : middle.builder.Sound) (follows : Follows (step.read around) passage around base outside session middle) :
    ComesTo rest middle (Follows (readAll around (step :: rest)) passage around base outside session) := by
  obtain ⟨between, read, grows, there⟩ := follows
  have others : ∀ test loc arms, between = .cases test loc arms → ∀ step ∈ rest, step.call.isGoto = false := by
    cases grows with
    | body => simp
    | states => simp
    | cases test loc arms later => exact fun _ _ _ _ ↦ straight test loc arms rfl
  apply (reads middle between around base outside sound there others).mono
  intro later onward
  obtain ⟨after, read_rest, more, last⟩ := onward
  refine ⟨after, ?_, grows.trans more, last⟩
  simp only [readAll, read, Option.bind_eq_bind, Option.bind_some, read_rest]

theorem Step.run_reads {step : Step}
    (bodies : ∀ steps, step.call.body? = some steps → tidyAll steps = true → Reads steps) (tidy : step.tidy = true)
    {session : Session} (sound : session.builder.Sound) {passage : Passage} {around : Option MachineId}
    {base : List Frame} {outside : Body} (place : passage.At around base outside session.builder)
    (straight : ∀ test loc arms, passage = .cases test loc arms → step.call.isGoto = false) :
    Ends step.run session
      ⟨fun _ later ↦ later.Accepted → Ledger.Follows (step.read around) passage around base outside session later,
        fun _ later ↦ ¬later.Accepted⟩ := by
  obtain ⟨call, label, loc, caught⟩ := step
  exact Run.ends_traced_accepted (fun _ _ follows ↦ follows) (runCall_reads loc sound place bodies tidy straight)

/-- Every accepted run of tidy steps is followed by reading. -/
theorem reads_of_tidy (steps : List Step) (tidy : tidyAll steps = true) : Reads steps := by
  induction steps using Step.list_induction with
  | nil =>
    intro session passage around base outside sound place straight
    exact ⟨fun _ ↦ ⟨passage, rfl, .refl passage, place⟩, fun _ ↦ ⟨passage, rfl, .refl passage, place⟩⟩
  | cons step rest bodies ih =>
    intro session passage around base outside sound place straight
    rw [tidyAll, Bool.and_eq_true] at tidy
    have reads := Step.run_reads bodies tidy.1 sound place fun test loc arms same ↦
      straight test loc arms same step (List.mem_cons_self ..)
    have ran := (step.run_proceeds fun steps _ ↦ proceed steps) session sound place.placed
    have others := fun test loc arms same later mem ↦ straight test loc arms same later (List.mem_cons_of_mem step mem)
    refine ComesTo.cons ((ran.and reads).mono (fun _ middle ended ↦ ?_) fun _ middle ended ↦ ⟨ended.2, ?_⟩)
    · by_cases accepted : middle.Accepted
      · exact (ended.2 accepted).comesTo (ih tidy.2) others ended.1.sound
      · exact .of_not_accepted accepted ended.1.sound (ended.1.level.placed place.placed) _ _
    · exact .of_not_accepted ended.2 ended.1.sound (ended.1.level.placed place.placed) _ _

end RegisterTransfer
