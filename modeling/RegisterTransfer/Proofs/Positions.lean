import RegisterTransfer.Proofs.Additions
import RegisterTransfer.Proofs.History

/-!
# Where constructs may stand

A description shows where each call stands: directly inside of a switch or of a machine, or in a body, behind the other
calls of it. The builder has no such view. It knows the level of the body, the construct whose parts are due, and the
frame on top of the stack. As long as the calls of a body have returned, both come to the same.
-/

namespace RegisterTransfer

/-! ## Keywords -/

namespace Keyword

/-- Whether a chain may go on behind the branch of a keyword. -/
def goesOn : Keyword → Bool
  | ifThen | elseIf => true
  | otherwise | switch | case | default | machine | state => false

/-- What a body is directly inside of, if only parts of a construct may stand there. -/
def inside : Keyword → Option Construct
  | switch => some .switch
  | machine => some .machine
  | ifThen | elseIf | otherwise | case | default | state => none

end Keyword

namespace Call

variable {body : Type}

def keyword? : Call body → Option Keyword
  | .ifThen _ _ => some .ifThen
  | .elseIf _ _ => some .elseIf
  | .otherwise _ => some .otherwise
  | .switch _ _ => some .switch
  | .case _ _ => some .case
  | .default _ => some .default
  | .machine _ _ _ _ _ => some .machine
  | .state _ _ => some .state
  | _ => none

/-- Whether a chain may go on behind a call. -/
def goesOn (call : Call body) : Bool := call.keyword?.any Keyword.goesOn

/-- What the body of a call is directly inside of. -/
def inside (call : Call body) : Option Construct := call.keyword?.bind Keyword.inside

end Call

def Ending.keyword : Ending → Keyword
  | .first _ _ => .ifThen
  | .next _ => .elseIf
  | .last => .otherwise
  | .switch => .switch
  | .case _ => .case
  | .default => .default
  | .machine _ => .machine
  | .state _ _ => .state

/-- A call opens a construct of its own keyword. -/
theorem Call.opening_keyword {loc : Location} {call : Call (List Step)} {opening : Run Ending}
    (opens : call.opening loc = some opening) (session : Session) :
    Ends opening session ⟨fun ending _ ↦ call.keyword? = some ending.keyword, fun _ _ ↦ True⟩ := by
  cases call with
  | ifThen | elseIf | otherwise | switch | case | default | machine | state =>
    simp only [Call.opening, Option.some.injEq] at opens
    subst opens
    simp only [ends_bind, ends_pure]
    repeat refine Ends.of_forall (fun _ _ ↦ ?_) fun _ _ ↦ trivial
    rfl
  | _ => simp [Call.opening] at opens

/-- A construct is opened only where its keyword may stand. -/
theorem Builder.Opens.place {builder opened : Builder} {ending : Ending} (opens : builder.Opens ending opened) :
    builder.control.context = ending.keyword.place := by
  cases opens with
  | first test loc advice place => exact place.context
  | next test advice top level growing => rw [top]; rfl
  | last top level growing => rw [top]; rfl
  | switch test loc place => exact place.context
  | case patterns advice place => exact place.context
  | default advice place => exact place.context
  | machine initial loc place clocked => exact place.context
  | state name place found incomplete absent => exact place.context

/-! ## Positions -/

/-- A position in a description. -/
structure Position where
  within : Option Construct
  /-- The calls made directly in the same body so far. -/
  before : List (Call (List Step))

namespace Position

/-- The last call that matters to the constructs around it. -/
def last? (position : Position) : Option (Call (List Step)) :=
  (position.before.filter fun call ↦ !call.isQuiet).getLast?

/-- The position behind one more call. -/
def next (position : Position) (call : Call (List Step)) : Position :=
  { position with before := position.before ++ [call] }

/-- Whether a keyword may stand at a position. -/
def Admits (position : Position) : Keyword → Prop
  | .ifThen | .switch | .machine => position.within = none
  | .elseIf | .otherwise => position.within = none ∧ ∃ call, position.last? = some call ∧ call.goesOn = true
  | .case | .default => position.within = some .switch
  | .state => position.within = some .machine

theorem last?_next (position : Position) (call : Call (List Step)) :
    (position.next call).last? = if call.isQuiet = true then position.last? else some call := by
  rw [last?, next, List.filter_append]
  cases quiet : call.isQuiet with
  | true => simp [quiet, last?]
  | false => simp [quiet]

end Position

/-- A session at a position: the calls made directly in the same body so far have returned. Nothing is asked of the calls
that have been made elsewhere. -/
inductive Undisturbed : Session → Position → Prop
  | start (program : Program) : Undisturbed program.start ⟨none, []⟩
  | returned {session later : Session} {position : Position} (step : Step) :
    Undisturbed session position → step.run session = .ok () later → Undisturbed later (position.next step.call)
  | entered {session later : Session} {loc : Location} {call : Call (List Step)} {enter : Run Unit} :
    Reached session → call.enter loc = some enter → enter session = .ok () later → Undisturbed later ⟨call.inside, []⟩

theorem Undisturbed.reached {session : Session} {position : Position} (undisturbed : Undisturbed session position) :
    Reached session := by
  induction undisturbed with
  | start program => exact .start program
  | returned step _ ran ih => exact .returned step ih ran
  | entered reached enters ran => exact .entered reached enters ran

/-! ## Open chains -/

/-- Behind a construct the chain may go on if the construct was a branch of it. -/
theorem Builder.Concludes.isSome_openChain? {builder after : Builder} {loc : Location} {recorded : Body}
    {ending : Ending} (concludes : builder.Concludes loc recorded ending after) (due : ending.Due builder.control)
    (stacked : Control.Stacked after.control.frames) : after.control.openChain?.isSome = ending.keyword.goesOn := by
  have branch : ∀ {chain : IfChain} {branch : Branch} {base : List Frame}, chain.depth = base.length →
      builder.control = ⟨.chain chain :: base, base.length, none⟩ →
        (builder.withFrames (.chain (chain.extend branch) :: base)).control.openChain?.isSome = true := by
    intro chain branch base level top
    simp [Builder.withFrames, Control.openChain?, Control.top?, IfChain.extend, top, level]
  have left : ∀ {frame : Frame} {base : List Frame}, builder.control = ⟨frame :: base, base.length, none⟩ →
      after.control = ⟨base, builder.control.depth, builder.control.context⟩ →
        after.control.openChain?.isSome = false := by
    intro frame base top control
    have place := Control.atBody_left top
    rw [← control] at place
    rw [place.openChain? stacked]
    rfl
  have part : ∀ {frame : Frame} {base : List Frame}, after.control.AtConstruct frame base →
      after.control.openChain?.isSome = false := by
    intro frame base place
    rw [place.openChain? stacked]
    rfl
  cases concludes with
  | first top level => exact branch level top
  | next top level => exact branch level top
  | last top => exact left top rfl
  | switch top => exact left top rfl
  | machine top found closed => exact left top rfl
  | unmatched =>
    obtain ⟨switch, base, place⟩ := due
    exact part place
  | case matched place => exact part ⟨rfl, place.depth, place.context⟩
  | default place => exact part ⟨rfl, place.depth, place.context⟩
  | state place found absent => exact part place

section Returned

variable (loc : Location) {session : Session} (sound : session.builder.Sound)
  (placed : session.builder.control.Placed)

include sound placed

/-- Once a construct has returned, a chain may go on if the construct was a branch of it. -/
theorem construct_goesOn {call : Call (List Step)} (construct : call.isConstruct = true) :
    Ends (runCall loc call) session
      ⟨fun _ later ↦ later.builder.control.openChain?.isSome = call.goesOn, fun _ _ ↦ True⟩ := by
  obtain ⟨opening, body, opens, inner⟩ := call.exists_opening construct loc
  have ends : Ends (runCall loc call) session ⟨fun _ later ↦ later.builder.Sound →
      later.builder.control.openChain?.isSome = call.goesOn, fun _ _ ↦ True⟩ := by
    refine construct_ends opens inner sound placed (fun _ _ _ _ _ ↦ trivial) fun ending opened ran opened_ ↦ ?_
    refine .of_forall (fun _ last leaves ↦ ⟨fun after concludes kept ↦ ?_, fun _ ↦ trivial⟩) fun _ _ _ ↦ trivial
    have keyword := Ends.of_ok ran (Call.opening_keyword opens session)
    calc after.control.openChain?.isSome
      _ = ending.keyword.goesOn := concludes.isSome_openChain? leaves.due kept.stacked
      _ = call.goesOn := by rw [Call.goesOn, keyword, Option.any_some]
  refine (ends.and (runCall_proceeds loc call (fun body _ ↦ proceed body) session sound placed)).mono ?_
    fun _ _ _ ↦ trivial
  exact fun _ _ both ↦ both.1 both.2.sound

/-- What has been filed has closed a chain before. -/
theorem runCall_closes {call : Call (List Step)} (simple : call.isConstruct = false) (loud : call.isQuiet = false) :
    Ends (runCall loc call) session
      ⟨fun _ later ↦ later.builder.control.openChain?.isSome = call.goesOn, fun _ _ ↦ True⟩ := by
  have closed : ∀ {builder : Builder} (domain : String) (statements : List Statement),
      builder.control = session.builder.control →
        (builder.recorded domain statements).control.openChain?.isSome = false := by
    intro builder domain statements same
    rw [Builder.recorded, Builder.openChain?_flushed (by rw [same]; exact sound.stacked) (by rwa [same])]
    rfl
  cases call with
  | add domain statements =>
    simp only [runCall, Run.addStatements, ends_bind, ends_get, Run.ends_sound, Run.ends_build, ends_pure]
    intro values _
    exact Build.add_ends sound.stacked placed domain values loc (fun advice _ _ _ ↦ closed domain values rfl)
      (fun _ ↦ trivial) fun _ _ _ _ ↦ trivial
  | goto target =>
    simp only [runCall, ends_bind, Run.ends_build, ends_pure]
    exact Build.goto_ends sound.stacked placed target loc
      (fun id machine _ _ _ ↦ closed machine.domain [.transition id target loc] rfl) fun _ _ ↦ trivial
  | ifThen | elseIf | otherwise | switch | case | default | machine | state => simp [Call.isConstruct] at simple
  | _ => simp [Call.isQuiet] at loud

/-- Once a call has returned, a chain may go on if the call was a branch of it. Calls that have nothing to do with the
constructs around them leave a chain as it is. -/
theorem runCall_goesOn (call : Call (List Step)) : Ends (runCall loc call) session
    ⟨fun _ later ↦ later.builder.control.openChain?.isSome =
      if call.isQuiet = true then session.builder.control.openChain?.isSome else call.goesOn, fun _ _ ↦ True⟩ := by
  cases quiet : call.isQuiet with
  | true =>
    refine (runCall_rests loc quiet (fun body _ ↦ proceed body) sound).mono ?_ fun _ _ _ ↦ trivial
    rintro answer later ⟨-, control, -⟩
    exact congrArg (fun control ↦ control.openChain?.isSome) control
  | false =>
    cases construct : call.isConstruct with
    | true => exact construct_goesOn loc sound placed construct
    | false => exact runCall_closes loc sound placed construct quiet

end Returned

/-! ## Where bodies start -/

/-- What the body of a construct is directly inside of. -/
def Scope.inside : Scope → Option Construct
  | .apart _ => none
  | .within construct => some construct

theorem Ending.inside_scope (ending : Ending) : ending.scope.inside = ending.keyword.inside := by
  cases ending <;> rfl

/-- Where a body starts, no chain may go on. -/
theorem Call.enter_starts {loc : Location} {call : Call (List Step)} {enter : Run Unit}
    (enters : call.enter loc = some enter) {session : Session} (sound : session.builder.Sound)
    (placed : session.builder.control.Placed) : Ends enter session ⟨fun _ later ↦
      later.builder.control.context = call.inside ∧ later.builder.control.openChain? = none, fun _ _ ↦ True⟩ := by
  cases opens : call.opening loc with
  | none =>
    cases call with
    | module name settings body =>
      simp only [Call.enter, Option.some.injEq] at enters
      subst enters
      exact ⟨rfl, rfl⟩
    | ifThen | elseIf | otherwise | switch | case | default | machine | state => simp [Call.opening] at opens
    | _ => simp [Call.enter] at enters
  | some opening =>
    rw [Call.enter_eq_opening opens, Option.some.injEq] at enters
    subst enters
    simp only [ends_bind, Run.ends_build, ends_modify]
    refine ((Call.opening_ends opens sound placed).and (Call.opening_keyword opens session)).mono ?_ fun _ _ _ ↦ trivial
    rintro ending opened ⟨opens, keyword⟩
    have due := opens.builder.due sound.stacked
    change (opened.builder.enter ending.scope).control.context = call.inside ∧
      (opened.builder.enter ending.scope).control.openChain? = none
    rw [Call.inside, keyword, Option.bind_some, ← ending.inside_scope]
    cases scope : ending.scope with
    | apart levels =>
      obtain ⟨leads, place⟩ := opens.leads.sound.enterBody (due.height scope)
      exact ⟨rfl, place.openChain? leads.sound.stacked⟩
    | within construct =>
      obtain ⟨frame, base, top, rfl⟩ := due.inside scope
      obtain ⟨leads, place⟩ := opens.leads.sound.enterConstruct top
      exact ⟨rfl, place.openChain? leads.sound.stacked⟩

/-- Directly inside of a construct no chain may go on; in a body one may behind its branches. -/
theorem Undisturbed.agrees {session : Session} {position : Position} (undisturbed : Undisturbed session position) :
    session.builder.control.context = position.within ∧
      (session.builder.control.openChain?.isSome = true ↔ ∃ call, position.last? = some call ∧ call.goesOn = true) := by
  induction undisturbed with
  | start program =>
    have closed : program.start.builder.control.openChain? = none := rfl
    refine ⟨rfl, ?_⟩
    rw [closed]
    simp [Position.last?]
  | @returned session later position step undisturbed ran ih =>
    obtain ⟨sound, placed⟩ := undisturbed.reached.sound
    obtain ⟨call, label, loc, caught⟩ := step
    have stays := Ends.of_ok ran (Step.run_proceeds _ (fun body _ ↦ proceed body) _ sound placed)
    have goes_on : Ends (Step.run ⟨call, label, loc, caught⟩) session ⟨fun _ later ↦
        later.builder.control.openChain?.isSome =
          if call.isQuiet = true then session.builder.control.openChain?.isSome else call.goesOn,
      fun _ _ ↦ True⟩ := (Run.ends_traced ..).2 (runCall_goesOn loc sound placed call)
    refine ⟨stays.level.context.trans ih.1, ?_⟩
    rw [Ends.of_ok ran goes_on, Position.last?_next]
    split
    · exact ih.2
    · simp
  | entered reached enters ran =>
    obtain ⟨sound, placed⟩ := reached.sound
    obtain ⟨context, closed⟩ := Ends.of_ok ran (Call.enter_starts enters sound placed)
    refine ⟨context, ?_⟩
    rw [closed]
    simp [Position.last?]

/-! ## Checks -/

/-- A construct, or a branch, a case or a state of one, up to its body. -/
inductive Head
  | ifThen (condition : Value)
  | elseIf (condition : Value)
  | otherwise
  | switch (test : Value)
  | case (patterns : List (WrittenPattern Value))
  | default
  | machine (name domain initial : Option String)
  | state (name : String)

namespace Head

def keyword : Head → Keyword
  | .ifThen _ => .ifThen
  | .elseIf _ => .elseIf
  | .otherwise => .otherwise
  | .switch _ => .switch
  | .case _ => .case
  | .default => .default
  | .machine _ _ _ => .machine
  | .state _ => .state

/-- What is checked of the position before anything else is done. -/
def check (loc : Location) : Head → Build Unit
  | .elseIf condition => Build.resumeChain condition loc
  | .otherwise => Build.finishChain loc
  | head => Build.checkPlace head.keyword loc

/-- The call with a body, which is told of the machine that it belongs to. -/
def run (loc : Location) (body : Option MachineId → Run Unit) : Head → Run Unit
  | .ifThen condition => Run.ifThen condition loc (body none)
  | .elseIf condition => Run.elseIf condition loc (body none)
  | .otherwise => Run.otherwise loc (body none)
  | .switch test => Run.switch test loc (body none)
  | .case patterns => Run.case patterns loc (body none)
  | .default => Run.default loc (body none)
  | .machine name domain initial => do
    let _ ← Run.machine name domain initial loc fun id ↦ body (some id)
  | .state name => Run.state name loc (body none)

end Head

theorem Run.build_bind {α β : Type} (call : Build α) (next : α → Build β) :
    Run.build (call >>= next) = Run.build call >>= fun value ↦ Run.build (next value) := by
  funext session
  simp only [Run.build, bind, EStateM.bind]
  cases call session.builder with
  | ok value builder => rfl
  | error failure builder => rfl

/-- Every call starts with the check of its position. -/
theorem Head.run_eq_check (head : Head) (loc : Location) : ∃ rest : (Option MachineId → Run Unit) → Run Unit,
    ∀ body, head.run loc body = Run.build (head.check loc) >>= fun _ ↦ rest body := by
  cases head with
  | elseIf condition => exact ⟨_, fun body ↦ rfl⟩
  | otherwise => exact ⟨_, fun body ↦ rfl⟩
  | ifThen | switch | case | default | machine | state =>
    exact ⟨_, fun body ↦ by
      simp only [run, check, keyword, Run.ifThen, Build.openChain, Run.switch, Build.openSwitch, Run.case,
        Build.startCase, Run.default, Build.startDefault, Run.machine, Build.openMachine, Run.state, Build.startState,
        Run.build_bind, bind_assoc]
      rfl⟩

namespace Build

variable {builder : Builder}

/-- A keyword that stands elsewhere is refused. -/
theorem checkPlace_of_other {keyword : Keyword} (other : builder.control.context ≠ keyword.place) (loc : Location) :
    ∃ cause, cause.kind = .scoping ∧ checkPlace keyword loc builder = .error (.refused ⟨cause, loc⟩) builder := by
  simp only [checkPlace, bind, EStateM.bind, get_apply, other, ↓reduceIte]
  cases context : builder.control.context with
  | some construct => exact ⟨.keywordInside keyword construct, rfl, rfl⟩
  | none =>
    cases place : keyword.place with
    | some construct => exact ⟨.keywordOutside keyword construct, rfl, rfl⟩
    | none => exact absurd (context.trans place.symm) other

theorem checkPlace_accepts_iff (keyword : Keyword) (loc : Location) :
    (checkPlace keyword loc).Accepts builder ↔ builder.control.context = keyword.place := by
  refine ⟨fun ⟨_, after, accepted⟩ ↦ ?_, fun place ↦ ⟨(), builder, checkPlace_of_place place loc⟩⟩
  by_contra other
  obtain ⟨cause, -, refused⟩ := checkPlace_of_other other loc
  rw [accepted] at refused
  contradiction

theorem requireChain_of_none (closed : builder.control.openChain? = none) (cause : BuildError.Cause) (loc : Location) :
    requireChain cause loc builder = .error (.refused ⟨cause, loc⟩) builder := by
  simp only [requireChain, bind, EStateM.bind, get_apply, closed, Option.isNone_none, ↓reduceIte, refuse, throw_apply]

end Build

/-- The check of a call is passed where the construct it belongs to is around it, and, for a further branch, where a
chain may go on. -/
theorem Head.check_accepts_iff {builder : Builder} (head : Head) (loc : Location) :
    (head.check loc).Accepts builder ↔ builder.control.context = head.keyword.place ∧
      (head.keyword = .elseIf ∨ head.keyword = .otherwise → builder.control.openChain?.isSome = true) := by
  cases head with
  | elseIf condition => simpa [check, keyword, Keyword.place] using Build.resumeChain_accepts_iff condition loc
  | otherwise => simpa [check, keyword, Keyword.place] using Build.finishChain_accepts_iff loc
  | _ => simpa [check, keyword] using Build.checkPlace_accepts_iff _ loc

namespace Head

variable {builder : Builder}

/-- A call that stands elsewhere is refused as its keyword is. -/
theorem check_of_other {head : Head} (other : builder.control.context ≠ head.keyword.place) (loc : Location) :
    ∃ cause, cause.kind = .scoping ∧ head.check loc builder = .error (.refused ⟨cause, loc⟩) builder := by
  obtain ⟨cause, kind, refused⟩ := Build.checkPlace_of_other other loc
  refine ⟨cause, kind, ?_⟩
  cases head with
  | elseIf condition =>
    rw [keyword] at refused
    simp only [check, Build.resumeChain, bind, EStateM.bind, refused]
  | otherwise =>
    rw [keyword] at refused
    simp only [check, Build.finishChain, bind, EStateM.bind, refused]
  | _ => exact refused

theorem check_elseIf_of_none (outside : builder.control.context = none) (closed : builder.control.openChain? = none)
    (condition : Value) (loc : Location) : ∃ advice, (Head.elseIf condition).check loc builder =
      .error (.refused ⟨.elseIfWithoutIf, loc⟩) (builder.noted advice) := by
  obtain ⟨advice, advised⟩ := Build.exists_adviseSigned_eq condition loc builder
  have passed : Build.checkPlace .elseIf loc builder = .ok () builder := Build.checkPlace_of_place outside loc
  have going : (builder.noted advice).control.openChain? = none := closed
  have stops := Build.requireChain_of_none going .elseIfWithoutIf loc
  refine ⟨advice, ?_⟩
  simp only [check, Build.resumeChain, bind, EStateM.bind, passed, advised, stops]

theorem check_otherwise_of_none (outside : builder.control.context = none) (closed : builder.control.openChain? = none)
    (loc : Location) :
    Head.otherwise.check loc builder = .error (.refused ⟨.otherwiseWithoutIf, loc⟩) builder := by
  have passed : Build.checkPlace .otherwise loc builder = .ok () builder := Build.checkPlace_of_place outside loc
  have stops := Build.requireChain_of_none closed .otherwiseWithoutIf loc
  simp only [check, Build.finishChain, bind, EStateM.bind, passed, stops]

/-- A check that is not passed is refused, with advice at most. -/
theorem check_refused {head : Head} {loc : Location} (rejected : ¬(head.check loc).Accepts builder) :
    ∃ error advice, error.kind = .scoping ∧ error.loc = loc ∧
      head.check loc builder = .error (.refused error) (builder.noted advice) := by
  by_cases place : builder.control.context = head.keyword.place
  · have closed : (head.keyword = .elseIf ∨ head.keyword = .otherwise) ∧ builder.control.openChain? = none := by
      simpa [check_accepts_iff, place] using rejected
    cases head with
    | elseIf condition =>
      obtain ⟨advice, refused⟩ := check_elseIf_of_none place closed.2 condition loc
      exact ⟨_, advice, rfl, rfl, refused⟩
    | otherwise =>
      refine ⟨⟨.otherwiseWithoutIf, loc⟩, [], rfl, rfl, ?_⟩
      rw [Builder.noted_nil]
      exact check_otherwise_of_none place closed.2 loc
    | _ => simp [keyword] at closed
  · obtain ⟨cause, kind, refused⟩ := check_of_other place loc
    refine ⟨⟨cause, loc⟩, [], kind, rfl, ?_⟩
    rwa [Builder.noted_nil]

end Head

theorem Position.admits_iff (position : Position) (keyword : Keyword) : position.Admits keyword ↔
    position.within = keyword.place ∧ (keyword = .elseIf ∨ keyword = .otherwise →
      ∃ call, position.last? = some call ∧ call.goesOn = true) := by
  cases keyword with
  | elseIf | otherwise => simp [Admits, Keyword.place]
  | _ => simp [Admits, Keyword.place]

/-- As long as the calls of a body have returned, a call is accepted exactly where its position lets it stand. One that
stands elsewhere is refused whatever its body is, and nothing but advice is new. -/
theorem Undisturbed.admits {session : Session} {position : Position} (undisturbed : Undisturbed session position)
    (head : Head) (loc : Location) :
    (∃ rest : (Option MachineId → Run Unit) → Run Unit,
      ∀ body, head.run loc body = Run.build (head.check loc) >>= fun _ ↦ rest body) ∧
    ((head.check loc).Accepts session.builder ↔ position.Admits head.keyword) ∧
    (¬position.Admits head.keyword → ∃ error advice, error.kind = .scoping ∧ error.loc = loc ∧
      ∀ body, head.run loc body session =
        .error (.refused error) (session.withBuilder (session.builder.noted advice))) := by
  obtain ⟨within, behind⟩ := undisturbed.agrees
  obtain ⟨rest, starts⟩ := head.run_eq_check loc
  have accepts : (head.check loc).Accepts session.builder ↔ position.Admits head.keyword := by
    rw [Head.check_accepts_iff, Position.admits_iff, within, behind]
  refine ⟨⟨rest, starts⟩, accepts, fun elsewhere ↦ ?_⟩
  obtain ⟨error, advice, kind, place, refused⟩ := Head.check_refused fun passed ↦ elsewhere (accepts.1 passed)
  refine ⟨error, advice, kind, place, fun body ↦ ?_⟩
  rw [starts body]
  simp only [bind, EStateM.bind, Run.build, refused]
  rfl

/-! ## Behind a branch -/

/-- Run steps that all return. -/
def Session.ran? : List Step → Session → Option Session
  | [], session => some session
  | step :: rest, session => (step.run.returned? session).bind fun ended ↦ ran? rest ended.2

theorem Undisturbed.of_ran? {steps : List Step} {session later : Session} {position : Position}
    (undisturbed : Undisturbed session position) (ran : session.ran? steps = some later) :
    Undisturbed later ⟨position.within, position.before ++ steps.map Step.call⟩ := by
  induction steps generalizing session position with
  | nil =>
    rw [List.map_nil, List.append_nil]
    exact Option.some.inj ran ▸ undisturbed
  | cons step rest ih =>
    obtain ⟨ended, returned, ran⟩ := Option.bind_eq_some_iff.1 ran
    have others := ih (.returned step undisturbed (Run.returned_of_returned? returned)) ran
    rwa [Position.next, List.append_assoc] at others

/-- A branch in a case of a switch, and a look at the settings. -/
def branched : List Step := [
  ⟨.ifThen (.literal (.cat [])) [], "if", ⟨"design", 5, 1⟩, false⟩,
  ⟨.settings, "settings", ⟨"design", 6, 1⟩, false⟩]

theorem branched_undisturbed : ∃ session, Undisturbed session ⟨none, branched.map Step.call⟩ := by
  have computed : ((vacant.start.entered? intoSwitch).bind fun session ↦
      ((Call.enter default (.default [])).bind fun enter ↦ (enter.returned? session).bind fun entered ↦
        entered.2.ran? branched)).isSome = true := by decide +kernel
  obtain ⟨later, ran⟩ := Option.isSome_iff_exists.1 computed
  obtain ⟨session, inside, ran⟩ := Option.bind_eq_some_iff.1 ran
  obtain ⟨enter, enters, ran⟩ := Option.bind_eq_some_iff.1 ran
  obtain ⟨entered, returned, ran⟩ := Option.bind_eq_some_iff.1 ran
  have reached := (Reached.start vacant).of_entered? inside
  exact ⟨later, (Undisturbed.entered reached enters (Run.returned_of_returned? returned)).of_ran? ran⟩

/-- The chain may end behind them, and a case may not stand there. -/
theorem branched_admits : ∃ session, Undisturbed session ⟨none, branched.map Step.call⟩ ∧
    (Head.otherwise.check default).Accepts session.builder ∧
    ∃ error advice, error.kind = .scoping ∧ ∀ body, (Head.case []).run default body session =
      .error (.refused error) (session.withBuilder (session.builder.noted advice)) := by
  obtain ⟨session, undisturbed⟩ := branched_undisturbed
  obtain ⟨-, accepts, -⟩ := undisturbed.admits .otherwise default
  obtain ⟨-, -, refused⟩ := undisturbed.admits (.case []) default
  obtain ⟨error, advice, kind, -, refused⟩ := refused (by simp [Head.keyword, Position.Admits])
  exact ⟨session, undisturbed, accepts.2 ⟨rfl, _, rfl, rfl⟩, error, advice, kind, refused⟩

end RegisterTransfer
