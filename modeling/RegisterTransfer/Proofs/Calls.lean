import RegisterTransfer.Arena.Lemmas
import RegisterTransfer.Builder.Conditional
import RegisterTransfer.Builder.Machine
import RegisterTransfer.Builder.Parts
import RegisterTransfer.Builder.Statements
import RegisterTransfer.Builder.Switch
import RegisterTransfer.Proofs.Places

/-!
# What each call does

Every call on a builder has one specification: the builder it leaves where it returns, and the one it leaves
where it is refused. Callers use these and never look into the calls themselves.
-/

namespace RegisterTransfer

theorem Arena.fetch_eq_ok_iff {α : Type} (arena : Arena α) (key : Arena.Key) (item : α) :
    arena.fetch key = .ok item ↔ arena.get? key = some item := by
  rw [fetch]
  cases arena.get? key with
  | none => simp
  | some found => simp

/-! ## Claims -/

namespace Drivers

/-- Claim signals for a domain where they are not claimed yet. -/
def claimAll (drivers : Drivers) (domain : String) (signals : List Signal) : Drivers :=
  signals.foldl (fun drivers signal ↦ drivers.insertIfAbsent signal domain) drivers

/-- Whether no signal is claimed by another domain. -/
def Free (drivers : Drivers) (domain : String) (signals : List Signal) : Prop :=
  ∀ signal ∈ signals, ∀ earlier, drivers.get? signal = some earlier → earlier = domain

theorem get?_claimAll (drivers : Drivers) (domain : String) (signals : List Signal) (signal : Signal) :
    (drivers.claimAll domain signals).get? signal =
      if signal ∈ signals then some ((drivers.get? signal).getD domain) else drivers.get? signal := by
  induction signals generalizing drivers with
  | nil => rfl
  | cons first rest ih =>
    have step : drivers.claimAll domain (first :: rest) =
      Drivers.claimAll (drivers.insertIfAbsent first domain) domain rest := rfl
    rw [step, ih, Table.get?_insertIfAbsent]
    by_cases same : signal = first
    · subst same
      simp
    · simp [same]

theorem check_eq_ok_iff (drivers : Drivers) (signal : Signal) (domain : String) (loc : Location) :
    drivers.check signal domain loc = .ok () ↔ ∀ earlier, drivers.get? signal = some earlier → earlier = domain := by
  rw [check]
  cases drivers.get? signal with
  | none => simp
  | some earlier =>
    by_cases same : earlier = domain
    · simp [same]
    · simp [same]

theorem checkAll_eq_ok_iff (drivers : Drivers) (domain : String) (loc : Location) (signals : List Signal) :
    drivers.checkAll domain loc signals = .ok () ↔ drivers.Free domain signals := by
  induction signals with
  | nil => simp [checkAll, Free]
  | cons signal rest ih =>
    have unfolded : drivers.checkAll domain loc (signal :: rest) =
      (drivers.check signal domain loc >>= fun _ ↦ drivers.checkAll domain loc rest) := rfl
    have free : drivers.Free domain (signal :: rest) ↔
        drivers.check signal domain loc = .ok () ∧ drivers.Free domain rest := by
      rw [check_eq_ok_iff]
      simp [Free]
    rw [unfolded, free, ← ih]
    cases drivers.check signal domain loc with
    | error error => simp [bind, Except.bind]
    | ok value => simp [bind, Except.bind]

theorem checkAll_of_conflict {drivers : Drivers} {domain : String} {signals : List Signal}
    (conflict : ¬drivers.Free domain signals) (loc : Location) :
    ∃ signal ∈ signals, ∃ earlier, drivers.get? signal = some earlier ∧ earlier ≠ domain ∧
      drivers.checkAll domain loc signals = .error ⟨.driverConflict signal domain earlier, loc⟩ := by
  induction signals with
  | nil => exact absurd (fun _ mem ↦ absurd mem List.not_mem_nil) conflict
  | cons first rest ih =>
    have unfolded : drivers.checkAll domain loc (first :: rest) =
      (drivers.check first domain loc >>= fun _ ↦ drivers.checkAll domain loc rest) := rfl
    rw [unfolded]
    have passed : (∀ earlier, drivers.get? first = some earlier → earlier = domain) →
        ∃ signal ∈ first :: rest, ∃ earlier, drivers.get? signal = some earlier ∧ earlier ≠ domain ∧
          (drivers.check first domain loc >>= fun _ ↦ drivers.checkAll domain loc rest) =
            .error ⟨.driverConflict signal domain earlier, loc⟩ := by
      intro free
      have others : ¬drivers.Free domain rest := by
        refine fun all ↦ conflict fun signal mem ↦ ?_
        rcases List.mem_cons.1 mem with rfl | mem
        · exact free
        · exact all signal mem
      obtain ⟨signal, mem, earlier, claimed, other, refused⟩ := ih others
      refine ⟨signal, List.mem_cons_of_mem _ mem, earlier, claimed, other, ?_⟩
      rw [(check_eq_ok_iff ..).2 free]
      exact refused
    cases claimed : drivers.get? first with
    | none => exact passed (by simp [claimed])
    | some earlier =>
      by_cases same : earlier = domain
      · exact passed (by simp [claimed, same])
      · refine ⟨first, List.mem_cons_self .., earlier, claimed, same, ?_⟩
        simp [check, claimed, same, bind, Except.bind]

theorem Free.rest {drivers : Drivers} {domain : String} {signal : Signal} {rest : List Signal}
    (free : drivers.Free domain (signal :: rest)) :
    Drivers.Free (drivers.insertIfAbsent signal domain) domain rest := by
  intro other mem earlier found
  rw [Table.get?_insertIfAbsent] at found
  by_cases same : other = signal
  · subst same
    rw [if_pos rfl, Option.some.injEq] at found
    subst found
    cases claimed : drivers.get? other with
    | none => rfl
    | some earlier => exact free other (List.mem_cons_self ..) earlier claimed
  · rw [if_neg same] at found
    exact free other (List.mem_cons_of_mem _ mem) earlier found

theorem driveAll_of_free {drivers : Drivers} {domain : String} {signals : List Signal}
    (free : drivers.Free domain signals) (loc : Location) :
    driveAll domain loc drivers signals = .ok (drivers.claimAll domain signals) := by
  induction signals generalizing drivers with
  | nil => rfl
  | cons signal rest ih =>
    have checked : drivers.check signal domain loc = .ok () :=
      (check_eq_ok_iff ..).2 (free signal (List.mem_cons_self ..))
    simp only [driveAll, drive, checked, bind, Except.bind, pure, Except.pure]
    exact ih free.rest

end Drivers

/-! ## What calls make of a builder -/

namespace Builder

def withFrames (builder : Builder) (frames : List Frame) : Builder :=
  { builder with control := { builder.control with frames := frames } }

/-- The builder after some more advice. -/
def noted (builder : Builder) (advice : List Diagnostic) : Builder :=
  { builder with diagnostics := builder.diagnostics ++ advice }

@[simp] theorem noted_nil (builder : Builder) : builder.noted [] = builder := by simp [noted]

@[simp] theorem noted_noted (builder : Builder) (first second : List Diagnostic) :
    (builder.noted first).noted second = builder.noted (first ++ second) := by
  simp [noted, List.append_assoc]

theorem flushed_noted (builder : Builder) (advice : List Diagnostic) :
    (builder.noted advice).flushed = builder.flushed.noted advice := by
  have same : (builder.noted advice).control.openChain? = builder.control.openChain? := rfl
  rw [flushed, flushed, same]
  split <;> rfl

def withMachine (builder : Builder) (id : MachineId) (machine : Machine) : Builder :=
  { builder with machines := builder.machines.modify id fun _ ↦ machine }

/-- The builder after a frame is pushed behind what has ended. -/
def opening (builder : Builder) (frame : Frame) : Builder :=
  builder.flushed.withFrames (frame :: builder.flushed.control.frames)

theorem control_opening {builder : Builder} {behind : Option IfChain} {base : List Frame}
    (stacked : Control.Stacked builder.control.frames) (place : builder.control.AtBody behind base) (frame : Frame) :
    (builder.opening frame).control = ⟨frame :: base, base.length, none⟩ := by
  rw [opening, withFrames, control_flushed stacked place]

theorem machines_opening (builder : Builder) (frame : Frame) : (builder.opening frame).machines = builder.machines :=
  builder.machines_flushed_eq

/-- The builder once statements are filed and their signals claimed. -/
def recorded (builder : Builder) (domain : String) (statements : List Statement) : Builder :=
  { builder.flushed with
    drivers := builder.flushed.drivers.claimAll domain (Statement.writtenAll statements)
    statements := builder.flushed.statements.append domain statements }

theorem drivers_recorded (builder : Builder) (domain : String) (statements : List Statement) (signal : Signal) :
    (builder.recorded domain statements).drivers.get? signal =
      if signal ∈ Statement.targetsAll statements then some ((builder.drivers.get? signal).getD domain)
      else builder.drivers.get? signal := by
  change (builder.flushed.drivers.claimAll domain (Statement.writtenAll statements)).get? signal = _
  rw [Drivers.get?_claimAll, drivers_flushed]
  simp only [Statement.writtenAll, List.mem_eraseDups]

def withNewMachine (builder : Builder) (machine : Machine) : Builder :=
  { builder with machines := builder.machines.push machine }

/-- The builder once the machine `id` is closed and entered as complete under its name. -/
def finishing (builder : Builder) (id : MachineId) (name : String) (closing : Machine.Closing) : Builder :=
  { builder with
    machines := builder.machines.modify id fun _ ↦ closing.machine
    indicators := builder.indicators ++ closing.indicators
    statements := builder.statements.appendAll closing.branches
    complete := builder.complete.insert name id }

/-- The parts with one more, which is the last of its kind. -/
def Joins (builder : Builder) (name : Option String) (component : Component) (loc : Location)
    (named : Table String (Component × Location)) (anonymous : List (Component × Location)) : Prop :=
  match name with
  | none => named = builder.namedParts ∧ anonymous = builder.anonymousParts ++ [(component, loc)]
  | some name => named.entries = builder.namedParts.entries ++ [(name, component, loc)] ∧
      anonymous = builder.anonymousParts

end Builder

namespace WrittenPattern

/-- The patterns of a case that can match, as they are compared. -/
def live (width : Nat) (loc : Location) (patterns : List (WrittenPattern Value)) : List Pattern :=
  patterns.filterMap fun written ↦ match written.read width loc with
    | .ok (.pattern pattern) => some pattern
    | _ => none

end WrittenPattern

/-- A switch with one case more, unless one with the same patterns came first. -/
def OpenSwitch.record (switch : OpenSwitch) (patterns : List Pattern) (recorded : SwitchCase) : OpenSwitch :=
  { switch with cases := switch.cases.insertIfAbsent patterns recorded }

namespace Build

variable {builder : Builder}

/-! ## Checks and advice -/

theorem checkPlace_of_place {keyword : Keyword} (place : builder.control.context = keyword.place) (loc : Location) :
    checkPlace keyword loc builder = .ok () builder := by
  simp only [checkPlace, bind, EStateM.bind, get_apply, place, ↓reduceIte, pure, EStateM.pure]

theorem checkPlace_ends {post : Post Builder Unit} (keyword : Keyword) (loc : Location)
    (returned : builder.control.context = keyword.place → post.returned () builder)
    (refused : ∀ error, post.refused error builder) : Ends (checkPlace keyword loc) builder post := by
  simp only [checkPlace, ends_bind, ends_get, ends_ite, ends_pure]
  split
  · rename_i same
    exact returned same
  · split
    · exact refused _
    · exact refused _
    · trivial

theorem report_ends {post : Post Builder Unit} (diagnostic : Diagnostic)
    (returned : post.returned () (builder.noted [diagnostic])) : Ends (report diagnostic) builder post := returned

theorem exists_adviseSigned_eq (condition : Value) (loc : Location) (builder : Builder) :
    ∃ advice, adviseSigned condition loc builder = .ok () (builder.noted advice) := by
  cases asked : builder.settings.warnSignedCondition && condition.shape.signed with
  | true => exact ⟨[.signedCondition loc], by simp [adviseSigned, bind, EStateM.bind, get_apply, asked, report]; rfl⟩
  | false =>
    refine ⟨[], ?_⟩
    rw [Builder.noted_nil]
    simp [adviseSigned, bind, EStateM.bind, get_apply, asked, pure, EStateM.pure]

theorem adviseSigned_ends {post : Post Builder Unit} (condition : Value) (loc : Location)
    (returned : ∀ advice, post.returned () (builder.noted advice)) :
    Ends (adviseSigned condition loc) builder post := by
  obtain ⟨advice, advised⟩ := exists_adviseSigned_eq condition loc builder
  exact Ends.of_eq_ok advised (returned advice)

/-- The advice on the name of a domain. -/
def domainAdvice (domain : String) (loc : Location) : List Diagnostic :=
  if domain = "submodules" then [.submodulesDomain loc] else []

section Flush

variable (stacked : Control.Stacked builder.control.frames) (placed : builder.control.Placed)

include stacked placed

theorem openFrame_ends {post : Post Builder Unit} (frame : Frame)
    (returned : post.returned () (builder.opening frame)) : Ends (openFrame frame) builder post := by
  simp only [openFrame, ends_bind]
  exact Ends.of_eq_ok (flush_of_placed stacked placed) returned

/-! ## Statements -/

theorem record_ends {post : Post Builder Unit} (domain : String) (statements : List Statement) (loc : Location)
    (returned : builder.flushed.drivers.Free domain (Statement.writtenAll statements) →
      post.returned () (builder.recorded domain statements))
    (refused : ∀ error,
      builder.flushed.drivers.checkAll domain loc (Statement.writtenAll statements) = .error error →
        post.refused error builder.flushed) :
    Ends (record domain statements loc) builder post := by
  simp only [record, ends_bind, ends_get]
  apply Ends.of_eq_ok (flush_of_placed stacked placed)
  simp only [ends_accepted]
  cases checked : builder.flushed.drivers.checkAll domain loc (Statement.writtenAll statements) with
  | error error => exact refused error checked
  | ok value =>
    have free := (Drivers.checkAll_eq_ok_iff ..).1 checked
    simp only [Drivers.driveAll_of_free free]
    exact returned free

theorem add_ends {post : Post Builder Unit} (domain : String) (statements : List Statement) (loc : Location)
    (returned : ∀ advice, builder.control.context = none → statements.all Statement.isPlain = true →
      builder.flushed.drivers.Free domain (Statement.writtenAll statements) →
        post.returned () ((builder.noted advice).recorded domain statements))
    (misplaced : ∀ error, post.refused error builder)
    (conflict : ∀ error advice, builder.control.context = none →
      builder.flushed.drivers.checkAll domain loc (Statement.writtenAll statements) = .error error →
        post.refused error (builder.noted advice).flushed) :
    Ends (add domain statements loc) builder post := by
  simp only [add, ends_bind, ends_get]
  cases context : builder.control.context with
  | some construct => exact misplaced _
  | none =>
    have filed : ∀ advice, statements.all Statement.isPlain = true →
        Ends (record domain statements loc) (builder.noted advice) post := by
      intro advice plain
      have same : (builder.noted advice).flushed.drivers = builder.flushed.drivers := by
        rw [Builder.flushed_noted]
        rfl
      refine record_ends (show Control.Stacked (builder.noted advice).control.frames from stacked) placed domain
        statements loc ?_ ?_
      · intro free
        rw [same] at free
        exact returned advice context plain free
      · intro error checked
        rw [same] at checked
        exact conflict error advice context checked
    cases plain : statements.all Statement.isPlain with
    | false =>
      simp only [Bool.false_eq_true, ↓reduceIte, ends_bind, ends_refuse]
      exact misplaced _
    | true =>
      simp only [↓reduceIte, ends_ite, ends_bind]
      split
      · exact filed [.submodulesDomain loc] plain
      · simpa using filed [] plain

/-- Recording closes what has ended before it looks at the claims. -/
theorem record_eq (domain : String) (statements : List Statement) (loc : Location) :
    record domain statements loc builder =
      match builder.drivers.checkAll domain loc (Statement.writtenAll statements) with
      | .error error => .error (.refused error) builder.flushed
      | .ok () => .ok () (builder.recorded domain statements) := by
  have flush := flush_of_placed stacked placed
  have drivers := builder.drivers_flushed
  cases checked : builder.drivers.checkAll domain loc (Statement.writtenAll statements) with
  | error error => simp only [record, bind, EStateM.bind, flush, get_apply, drivers, checked, accepted, throw_apply]
  | ok value =>
    have claimed := Drivers.driveAll_of_free ((Drivers.checkAll_eq_ok_iff ..).1 checked) loc
    simp only [record, bind, EStateM.bind, flush, get_apply, drivers, checked, claimed, accepted, pure, EStateM.pure,
      modify_apply, Builder.recorded]

/-- The four ways in which an addition ends. -/
theorem add_eq (domain : String) (statements : List Statement) (loc : Location) :
    add domain statements loc builder =
      match builder.control.context with
      | some construct => .error (.refused ⟨.statementsInside construct, loc⟩) builder
      | none =>
        if statements.all Statement.isPlain then
          match builder.drivers.checkAll domain loc (Statement.writtenAll statements) with
          | .error error => .error (.refused error) (builder.noted (domainAdvice domain loc)).flushed
          | .ok () => .ok () ((builder.noted (domainAdvice domain loc)).recorded domain statements)
        else .error (.refused ⟨.statementKind domain, loc⟩) builder := by
  have filed (advice : List Diagnostic) := record_eq
    (show Control.Stacked (builder.noted advice).control.frames from stacked) placed domain statements loc
  cases context : builder.control.context with
  | some construct => simp only [add, bind, EStateM.bind, get_apply, context, refuse, throw_apply]
  | none =>
    cases plain : statements.all Statement.isPlain with
    | false =>
      simp only [add, bind, EStateM.bind, get_apply, context, plain, Bool.false_eq_true, ↓reduceIte, refuse,
        throw_apply]
    | true =>
      rw [domainAdvice]
      by_cases parts : domain = "submodules"
      · rw [if_pos parts]
        simp only [add, bind, EStateM.bind, get_apply, context, plain, parts, ↓reduceIte, report, modify_apply]
        rw [← parts]
        exact filed [.submodulesDomain loc]
      · have quiet := filed []
        rw [Builder.noted_nil] at quiet
        rw [if_neg parts, Builder.noted_nil]
        simp only [add, bind, EStateM.bind, get_apply, context, plain, parts, ↓reduceIte]
        exact quiet

/-! ## Conditional chains -/

theorem openChain_ends {post : Post Builder Nat} (condition : Value) (loc : Location)
    (returned : ∀ advice, builder.control.context = none →
      post.returned builder.flushed.control.height
        ((builder.noted advice).opening (.chain ⟨builder.control.depth, loc, []⟩)))
    (refused : ∀ error, post.refused error builder) : Ends (openChain condition loc) builder post := by
  simp only [openChain, ends_bind, ends_get, ends_pure]
  refine checkPlace_ends _ _ (fun context ↦ ?_) refused
  apply adviseSigned_ends _ _
  intro advice
  apply openFrame_ends (show Control.Stacked (builder.noted advice).control.frames from stacked) placed _
  have height : ((builder.noted advice).opening (.chain ⟨builder.control.depth, loc, []⟩)).control.height - 1 =
      builder.flushed.control.height := by
    simp only [Builder.opening, Builder.flushed_noted]
    simp [Builder.withFrames, Builder.noted, Control.height]
  have ends := returned advice context
  rw [← height] at ends
  exact ends

/-! ## Switches -/

theorem openSwitch_ends {post : Post Builder Unit} (test : Value) (loc : Location)
    (returned : builder.control.context = none →
      post.returned () (builder.opening (.switch ⟨test, loc, ∅⟩)))
    (refused : ∀ error, post.refused error builder) : Ends (openSwitch test loc) builder post := by
  simp only [openSwitch, ends_bind]
  refine checkPlace_ends _ _ (fun context ↦ ?_) refused
  exact openFrame_ends stacked placed _ (returned context)

/-! ## State machines -/

theorem openMachine_ends {post : Post Builder MachineId} (name domain initial : Option String) (loc : Location)
    (returned : ∀ machine, builder.control.context = none → machine.domain ≠ combinational →
      machine = .opened (name.getD builder.settings.fsmDefaultName)
        (domain.getD builder.settings.fsmDefaultDomain) initial →
      post.returned builder.machines.nextKey
        ((builder.withNewMachine machine).opening (.machine builder.machines.nextKey loc)))
    (refused : ∀ error, post.refused error builder) :
    Ends (openMachine name domain initial loc) builder post := by
  simp only [openMachine, ends_bind, ends_get, ends_ite, ends_refuse, ends_modify, ends_pure]
  refine checkPlace_ends _ _ (fun context ↦ ?_) refused
  dsimp only
  split
  · exact refused _
  · rename_i clocked
    apply openFrame_ends (show Control.Stacked (builder.withNewMachine _).control.frames from stacked) placed _
    exact returned _ context clocked rfl

theorem goto_ends {post : Post Builder Unit} (state : String) (loc : Location)
    (returned : ∀ id machine, builder.control.context ≠ some .machine →
      builder.control.innermostMachine? = some id → builder.machines.get? id = some machine →
      post.returned () ((builder.withMachine id (machine.mention id state)).recorded machine.domain
        [.transition id state loc]))
    (refused : ∀ error, builder.control.context = some .machine ∨ builder.control.innermostMachine? = none →
      post.refused error builder) : Ends (goto state loc) builder post := by
  simp only [goto, currentMachine, ends_bind, ends_get, ends_ite, ends_refuse]
  split
  · rename_i inside
    exact refused _ (.inl inside)
  · rename_i outside
    cases innermost : builder.control.innermostMachine? with
    | none => exact refused _ (.inr innermost)
    | some id =>
      simp only [ends_pure, ends_sound, Arena.fetch_eq_ok_iff]
      intro machine found
      simp only [changeMachine, ends_bind, ends_get, ends_sound, Arena.fetch_eq_ok_iff, ends_modify]
      intro same refound
      rw [found, Option.some.injEq] at refound
      subst refound
      have mentioned : Control.Stacked (builder.withMachine id (machine.mention id state)).control.frames := stacked
      refine record_ends mentioned placed _ _ _ ?_ ?_
      · exact fun _ ↦ returned id machine outside innermost found
      · intro error checked
        simp [Statement.writtenAll, Statement.targetsAll, Statement.targets, Drivers.checkAll] at checked

/-- A transition is added to the body that is being recorded, behind what has ended. -/
theorem goto_eq {id : MachineId} {machine : Machine} (outside : builder.control.context ≠ some .machine)
    (innermost : builder.control.innermostMachine? = some id) (found : builder.machines.get? id = some machine)
    (state : String) (loc : Location) : goto state loc builder =
      .ok () ((builder.withMachine id (machine.mention id state)).recorded machine.domain
        [.transition id state loc]) := by
  have fetched : builder.machines.fetch id = .ok machine := (Arena.fetch_eq_ok_iff ..).2 found
  have mentioned : Control.Stacked (builder.withMachine id (machine.mention id state)).control.frames := stacked
  have filed := record_eq mentioned placed machine.domain [.transition id state loc] loc
  simp only [goto, currentMachine, changeMachine, bind, EStateM.bind, get_apply, outside, ↓reduceIte, innermost, pure,
    EStateM.pure, fetched, Build.sound, modify_apply]
  exact filed

end Flush

theorem goto_of_misplaced
    (misplaced : builder.control.context = some .machine ∨ builder.control.innermostMachine? = none)
    (state : String) (loc : Location) :
    goto state loc builder = .error (.refused ⟨.transitionOutsideState, loc⟩) builder := by
  by_cases inside : builder.control.context = some .machine
  · simp only [goto, currentMachine, bind, EStateM.bind, get_apply, inside, ↓reduceIte, refuse, throw_apply]
  · have none := misplaced.resolve_left inside
    simp only [goto, currentMachine, bind, EStateM.bind, get_apply, inside, ↓reduceIte, none, refuse, throw_apply]

/-! ## Inside of constructs -/

theorem requireChain_ends {post : Post Builder Unit} (cause : BuildError.Cause) (loc : Location)
    (returned : ∀ chain, builder.control.openChain? = some chain → post.returned () builder)
    (refused : ∀ error, post.refused error builder) : Ends (requireChain cause loc) builder post := by
  simp only [requireChain, ends_bind, ends_get, ends_ite, ends_refuse, ends_pure]
  cases behind : builder.control.openChain? with
  | none => exact refused _
  | some chain => exact returned chain behind

theorem resumeChain_ends {post : Post Builder Unit} (condition : Value) (loc : Location)
    (returned : ∀ chain advice, builder.control.context = none → builder.control.openChain? = some chain →
      post.returned () (builder.noted advice))
    (refused : ∀ error advice, post.refused error (builder.noted advice)) :
    Ends (resumeChain condition loc) builder post := by
  simp only [resumeChain, ends_bind]
  refine checkPlace_ends _ _ (fun context ↦ ?_) fun error ↦ by simpa using refused error []
  apply adviseSigned_ends _ _
  intro advice
  refine requireChain_ends _ _ (fun chain behind ↦ ?_) fun error ↦ refused error advice
  exact returned chain advice context behind

theorem finishChain_ends {post : Post Builder Unit} (loc : Location)
    (returned : ∀ chain, builder.control.context = none → builder.control.openChain? = some chain →
      post.returned () builder)
    (refused : ∀ error, post.refused error builder) : Ends (finishChain loc) builder post := by
  simp only [finishChain, ends_bind]
  refine checkPlace_ends _ _ (fun context ↦ ?_) refused
  exact requireChain_ends _ _ (fun chain behind ↦ returned chain context behind) refused

theorem addBranch_ends {post : Post Builder Unit} {chain : IfChain} {base : List Frame}
    (top : builder.control.frames = .chain chain :: base) (level : chain.depth = builder.control.depth)
    (test : Option Value) (body : Body) (loc : Location)
    (returned : post.returned () (builder.withFrames (.chain (chain.extend ⟨test, body, loc⟩) :: base))) :
    Ends (addBranch test body loc) builder post := by
  have behind : builder.control.openChain? = some chain := by
    simp [Control.openChain?, Control.top?, top, level]
  simp only [addBranch, ends_bind, ends_get, behind, ends_modify]
  simpa [Control.replaceTop, top, Builder.withFrames, IfChain.extend] using returned

theorem topSwitch_ends {post : Post Builder OpenSwitch} {switch : OpenSwitch} {base : List Frame}
    (top : builder.control.frames = .switch switch :: base) (returned : post.returned switch builder) :
    Ends topSwitch builder post := by
  simpa [topSwitch, Control.top?, top] using returned

theorem adviseAfterDefault_ends {post : Post Builder Unit} {switch : OpenSwitch} {base : List Frame}
    (top : builder.control.frames = .switch switch :: base) (loc : Location)
    (returned : ∀ advice, post.returned () (builder.noted advice)) :
    Ends (adviseAfterDefault loc) builder post := by
  have quiet : post.returned () builder := by simpa using returned []
  simp only [adviseAfterDefault, ends_bind, ends_ite, ends_pure]
  apply topSwitch_ends top
  dsimp only
  split
  · exact returned [.caseAfterDefault loc]
  · exact quiet

theorem readPatterns_ends {post : Post Builder (List Pattern)} (width : Nat) (loc : Location)
    (patterns : List (WrittenPattern Value))
    (returned : ∀ advice, post.returned (WrittenPattern.live width loc patterns) (builder.noted advice))
    (refused : ∀ error advice, post.refused error (builder.noted advice)) :
    Ends (readPatterns width loc patterns) builder post := by
  induction patterns generalizing builder post with
  | nil => simpa [readPatterns, WrittenPattern.live] using returned []
  | cons written rest ih =>
    simp only [readPatterns, ends_bind, ends_accepted]
    cases read : written.read width loc with
    | error error => simpa using refused error []
    | ok reading =>
      cases reading with
      | pattern pattern =>
        have kept : WrittenPattern.live width loc (written :: rest) =
            pattern :: WrittenPattern.live width loc rest := by
          simp [WrittenPattern.live, read]
        rw [kept] at returned
        simp only [ends_bind, ends_pure]
        exact ih returned refused
      | dead advice =>
        have dropped : WrittenPattern.live width loc (written :: rest) =
            WrittenPattern.live width loc rest := by
          simp [WrittenPattern.live, read]
        rw [dropped] at returned
        simp only [ends_bind]
        refine report_ends advice (ih (fun others ↦ ?_) fun error others ↦ ?_)
        · simpa using returned (advice :: others)
        · simpa using refused error (advice :: others)

theorem startCase_ends {post : Post Builder (List Pattern)} {switch : OpenSwitch} {base : List Frame}
    (top : builder.control.context = some .switch → builder.control.frames = .switch switch :: base)
    (patterns : List (WrittenPattern Value)) (loc : Location)
    (returned : ∀ advice, builder.control.context = some .switch →
      post.returned (WrittenPattern.live switch.test.width loc patterns) (builder.noted advice))
    (refused : ∀ error advice, post.refused error (builder.noted advice)) :
    Ends (startCase patterns loc) builder post := by
  simp only [startCase, ends_bind]
  refine checkPlace_ends _ _ (fun context ↦ ?_) fun error ↦ by simpa using refused error []
  apply topSwitch_ends (top context)
  apply adviseAfterDefault_ends (top context) loc
  intro advice
  refine readPatterns_ends _ _ _ (fun others ↦ ?_) fun error others ↦ ?_
  · simpa using returned (advice ++ others) context
  · simpa using refused error (advice ++ others)

theorem startDefault_ends {post : Post Builder Unit} {switch : OpenSwitch} {base : List Frame}
    (top : builder.control.context = some .switch → builder.control.frames = .switch switch :: base)
    (loc : Location)
    (returned : ∀ advice, builder.control.context = some .switch → post.returned () (builder.noted advice))
    (refused : ∀ error, post.refused error builder) : Ends (startDefault loc) builder post := by
  simp only [startDefault, ends_bind]
  refine checkPlace_ends _ _ (fun context ↦ ?_) refused
  exact adviseAfterDefault_ends (top context) loc fun advice ↦ returned advice context

theorem addCase_ends {post : Post Builder Unit} {switch : OpenSwitch} {base : List Frame}
    (top : builder.control.frames = .switch switch :: base) (patterns : List Pattern) (body : Body)
    (loc : Location)
    (returned : post.returned () (builder.withFrames (.switch (switch.record patterns ⟨body, loc⟩) :: base))) :
    Ends (addCase patterns body loc) builder post := by
  simp only [addCase, ends_bind, ends_modify]
  apply topSwitch_ends top
  simpa [Control.replaceTop, top, Builder.withFrames, OpenSwitch.record] using returned

theorem changeMachine_ends {post : Post Builder Unit} (id : MachineId) (f : Machine → Machine)
    (returned : ∀ machine, builder.machines.get? id = some machine →
      post.returned () (builder.withMachine id (f machine))) :
    Ends (changeMachine id f) builder post := by
  simp only [changeMachine, ends_bind, ends_get, ends_sound, Arena.fetch_eq_ok_iff, ends_modify]
  exact returned

theorem startState_ends {post : Post Builder MachineId} {id : MachineId} {place : Location} {base : List Frame}
    (top : builder.control.context = some .machine → builder.control.frames = .machine id place :: base)
    (state : String) (loc : Location)
    (returned : ∀ machine, builder.control.context = some .machine → builder.machines.get? id = some machine →
      state ∉ machine.states.keys → post.returned id (builder.withMachine id (machine.mention id state)))
    (refused : ∀ error, post.refused error builder) : Ends (startState state loc) builder post := by
  simp only [startState, ends_bind]
  refine checkPlace_ends _ _ (fun context ↦ ?_) refused
  have topmost : Ends topMachine builder ⟨fun value after ↦ value = id ∧ after = builder, fun _ _ ↦ False⟩ := by
    simp [topMachine, Control.top?, top context]
  refine topmost.mono ?_ fun _ _ impossible ↦ impossible.elim
  rintro _ _ ⟨rfl, rfl⟩
  simp only [ends_get, ends_sound, Arena.fetch_eq_ok_iff, ends_ite, ends_refuse, ends_bind, ends_pure]
  intro machine found
  split
  · exact refused _
  · rename_i absent
    rw [Table.contains_iff_mem_keys] at absent
    apply changeMachine_ends _ _
    intro same refound
    rw [found, Option.some.injEq] at refound
    subst refound
    exact returned machine context found absent

theorem addState_ends {post : Post Builder Unit} (id : MachineId) (state : String) (body : Body) (loc : Location)
    (returned : ∀ machine, builder.machines.get? id = some machine → state ∉ machine.states.keys →
      post.returned () (builder.withMachine id
        { machine with states := machine.states.insert state ⟨body, loc⟩ })) :
    Ends (addState id state body loc) builder post := by
  simp only [addState, ends_bind, ends_get, ends_sound, Arena.fetch_eq_ok_iff, Table.insertFirst_eq_ok_iff]
  rintro machine found _ ⟨absent, rfl⟩
  apply changeMachine_ends _ _
  intro same refound
  rw [found, Option.some.injEq] at refound
  subst refound
  exact returned machine found absent

theorem ongoing_ends {post : Post Builder Value} (id : MachineId) (state : String) (loc : Location)
    (returned : ∀ machine mentioned signal, builder.machines.get? id = some machine →
      (machine.register.isSome = true → mentioned = machine) →
      mentioned = (if machine.indicators.contains state then machine else machine.mention id state) →
      mentioned.indicators.get? state = some signal →
        post.returned (.signal signal) (builder.withMachine id mentioned))
    (refused : ∀ error, post.refused error builder) : Ends (ongoing id state loc) builder post := by
  simp only [ongoing, ends_bind, ends_get]
  cases found : builder.machines.get? id with
  | none => exact refused _
  | some machine =>
    simp only [ends_ite, ends_bind, ends_refuse, ends_modify, ends_sound, ends_pure]
    split
    · exact refused _
    · rename_i known
      intro signal fetched
      refine returned machine _ signal found ?_ rfl ?_
      · intro complete
        simp only [complete, Bool.and_true, Bool.not_eq_true, Bool.not_eq_false'] at known
        rw [if_pos known]
      · rw [Table.fetch] at fetched
        split at fetched
        · rename_i value listed
          rw [Except.ok.injEq] at fetched
          rw [listed, fetched]
        · simp at fetched

theorem finishMachine_ends {post : Post Builder Unit} {id : MachineId} {loc : Location} {base : List Frame}
    (top : builder.control.frames = .machine id loc :: base)
    (returned : ∀ machine closing, builder.machines.get? id = some machine →
      machine.close id loc = .ok closing →
        post.returned () ((builder.withFrames base).finishing id machine.name closing))
    (refused : ∀ error, post.refused error (builder.withFrames base)) :
    Ends (finishMachine id) builder post := by
  simp only [finishMachine, closeTop, ends_bind, ends_get, ends_sound, Arena.fetch_eq_ok_iff, ends_modify]
  intro machine found
  simp only [Control.pop?, top, ends_bind, ends_modify, lowerFrame, ends_get, ends_sound,
    Arena.fetch_eq_ok_iff, ends_settled, ends_pure]
  intro same refound
  rw [found, Option.some.injEq] at refound
  subst refound
  refine ⟨fun closing closed ↦ ?_, fun error _ ↦ refused error⟩
  exact Ends.of_eq_ok (appendBranches_eq ..) (returned machine closing found closed)

section Machine

variable {id : MachineId} {loc : Location} {base : List Frame} {machine : Machine}
  (top : builder.control.frames = .machine id loc :: base) (found : builder.machines.get? id = some machine)

include top found

theorem finishMachine_of_closed {closing : Machine.Closing} (closed : machine.close id loc = .ok closing) :
    finishMachine id builder = .ok () ((builder.withFrames base).finishing id machine.name closing) := by
  have fetched := (Arena.fetch_eq_ok_iff ..).2 found
  simp only [finishMachine, closeTop, bind, EStateM.bind, get_apply, fetched, sound, pure, EStateM.pure, Control.pop?,
    top, modify_apply, lowerFrame, closed, settled, appendBranches_eq]
  rfl

theorem finishMachine_of_refused {error : BuildError} (closed : machine.close id loc = .error (.refused error)) :
    finishMachine id builder = .error (.refused error) (builder.withFrames base) := by
  have fetched := (Arena.fetch_eq_ok_iff ..).2 found
  simp only [finishMachine, closeTop, bind, EStateM.bind, get_apply, fetched, sound, pure, EStateM.pure, Control.pop?,
    top, modify_apply, lowerFrame, closed, settled, throw_apply]
  rfl

end Machine

/-! ## Parts and clock domains -/

theorem addPart_ends {post : Post Builder Unit} (name : Option String) (component : Component) (loc : Location)
    (returned : ∀ named anonymous, builder.Joins name component loc named anonymous →
      post.returned () { builder with namedParts := named, anonymousParts := anonymous })
    (refused : ∀ error, post.refused error builder) : Ends (addPart name component loc) builder post := by
  cases name with
  | none => exact returned _ _ ⟨rfl, rfl⟩
  | some name =>
    simp only [addPart, ends_bind, ends_get, ends_ite, ends_refuse, ends_modify]
    split
    · exact refused _
    · rename_i absent
      rw [Table.contains_iff_mem_keys] at absent
      exact returned _ _ ⟨Table.entries_insert_of_notMem _ _ _ absent, rfl⟩

theorem part_ends {post : Post Builder Component} (name : String) (loc : Location)
    (returned : ∀ component, post.returned component builder)
    (refused : ∀ error, post.refused error builder) : Ends (part name loc) builder post := by
  simp only [part, ends_bind, ends_get]
  split
  · exact returned _
  · exact refused _

theorem addDomain_ends {post : Post Builder Unit} (domain : ClockDomain) (loc : Location)
    (returned : ∀ domains, post.returned () { builder with domains := domains })
    (refused : ∀ error, post.refused error builder) : Ends (addDomain domain loc) builder post := by
  simp only [addDomain, ends_bind, ends_get, ends_ite, ends_refuse, ends_modify]
  split
  · exact refused _
  · exact returned _

end Build

end RegisterTransfer
