import RegisterTransfer.Proofs.StateNumbers

/-!
# Which machines are complete

States may be mentioned before they are declared, so whether all of them are is only known when the machine is closed.
A machine is closed if every state that was mentioned has been declared, and the initial state as well if one was asked
for. Otherwise the first one that is missing is blamed, and of the machine nothing is left behind but itself.
-/

namespace RegisterTransfer

/-! ## What is missing -/

/-- What is found first is the first of its kind. -/
theorem find?_eraseDups (wanted : String → Bool) : ∀ states : List String,
    states.eraseDups.find? wanted = states.find? wanted
  | [] => rfl
  | state :: rest => by
    rw [List.eraseDups_cons, List.find?_cons, List.find?_cons]
    cases here : wanted state with
    | true => rfl
    | false =>
      rw [find?_eraseDups wanted, List.find?_filter]
      refine congrArg (List.find? · rest) (funext fun other ↦ ?_)
      by_cases same : other = state
      · simp [same, here]
      · simp [same]
termination_by states => states.length
decreasing_by exact Nat.lt_succ_of_le (List.length_filter_le _ rest)

namespace Machine

/-- Why a machine is not complete: a state that was mentioned is not declared, or the initial state is not. -/
def missing? (initial : Option String) (mentions declarations : List String) : Option BuildError.Cause :=
  ((mentions.find? (· ∉ declarations)).map .stateUndefined).or
    ((initial.filter (· ∉ declarations)).map .initialUndefined)

theorem missing?_eq_none_iff (initial : Option String) (mentions declarations : List String) :
    missing? initial mentions declarations = none ↔
      (∀ state ∈ mentions, state ∈ declarations) ∧ ∀ state, initial = some state → state ∈ declarations := by
  simp [missing?, Option.filter_eq_none_iff]

theorem missing?_of_mention {mentions declarations : List String} {state : String}
    (first : mentions.find? (· ∉ declarations) = some state) (initial : Option String) :
    missing? initial mentions declarations = some (.stateUndefined state) := by
  rw [missing?, first]
  rfl

theorem missing?_of_initial {mentions declarations : List String} {state : String}
    (declared : ∀ state ∈ mentions, state ∈ declarations) (absent : state ∉ declarations) :
    missing? (some state) mentions declarations = some (.initialUndefined state) := by
  have none : mentions.find? (· ∉ declarations) = none := by simpa using declared
  rw [missing?, none]
  simp [Option.filter, absent]

/-- The check of a machine sees what has been mentioned and declared since it was opened. -/
theorem Counts.checkComplete {name domain : String} {initial : Option String} {machine : Machine}
    {mentions declarations : List String}
    (counts : (opened name domain initial).Counts machine mentions declarations) (loc : Location) :
    machine.checkComplete loc = match missing? initial mentions declarations with
      | some cause => .error ⟨cause, loc⟩
      | none => .ok () := by
  have states : machine.states.keys = declarations := counts.states
  have contains (state : String) : machine.states.contains state = decide (state ∈ declarations) := by
    rw [Bool.eq_iff_iff, Table.contains_iff_mem_keys, states, decide_eq_true_iff]
  have first : machine.undefined? = mentions.find? (· ∉ declarations) := by
    have mentioned : machine.encoding.keys = mentions.eraseDups := counts.encoding
    rw [undefined?, mentioned, find?_eraseDups]
    simp [contains]
  have asked : machine.initial = initial := counts.initial
  rw [Machine.checkComplete, first, missing?, asked]
  cases mentions.find? (· ∉ declarations) with
  | some state => rfl
  | none =>
    cases initial with
    | none => rfl
    | some state =>
      by_cases declared : state ∈ declarations
      · simp [contains, Option.filter, declared]
      · simp [contains, Option.filter, declared]

theorem close_of_missing {machine : Machine} {id : MachineId} {loc : Location} {error : BuildError}
    (missing : machine.checkComplete loc = .error error) : machine.close id loc = .error (.refused error) := by
  rw [close, missing]

theorem Proper.close_of_complete {machine : Machine} {id : MachineId} (proper : machine.Proper id) {loc : Location}
    (complete : machine.checkComplete loc = .ok ()) : ∃ closing, machine.close id loc = .ok closing := by
  cases starts : machine.initialState? with
  | none => exact ⟨_, by rw [close, complete, starts]⟩
  | some first => exact ⟨_, (proper.close_numbered complete starts).2⟩

end Machine

/-! ## Machine calls -/

/-- The start of the inside of a machine that has been opened. -/
def Session.insideMachine (opened : Session) : Session :=
  opened.withBuilder (opened.builder.enterConstruct .machine)

/-- What a machine leaves that is not complete: it has no register, nothing is recorded for it, it is not among the
complete machines, and the stack is as it was before, but for a chain that had ended. -/
structure Session.Abandons (session last after : Session) (id : MachineId) : Prop where
  register : ∃ machine, after.builder.machines.get? id = some machine ∧ machine.register = none
  indicators : after.builder.indicators = last.builder.indicators
  unassigned : ∀ state, after.builder.indicators.filter (Machine.indicates id state) = []
  statements : after.builder.statements = session.builder.flushed.statements
  complete : after.builder.complete = last.builder.complete
  absent : ∀ name, after.builder.complete.get? name ≠ some id
  control : after.builder.control = session.builder.flushed.control

/-- The builder outside of a machine whose frame lies on `base`. -/
def Builder.onMachine (builder : Builder) (id : MachineId) (loc : Location) (base : List Frame) : Builder :=
  { builder with control := ⟨.machine id loc :: base, base.length, none⟩ }

/-- A machine of the builder is about to be closed, after its inside has returned in `last`. -/
structure Session.Concludes (session last : Session) (id : MachineId) (loc : Location) (base : List Frame)
    (machine : Machine) : Prop where
  sound : (last.builder.onMachine id loc base).Sound
  around : session.builder.flushed.control = ⟨base, base.length, none⟩
  statements : last.builder.statements = session.builder.flushed.statements
  found : last.builder.machines.get? id = some machine
  incomplete : machine.register = none

namespace Session.Concludes

variable {session last : Session} {id : MachineId} {loc : Location} {base : List Frame} {machine : Machine}
  (concludes : session.Concludes last id loc base machine)

include concludes

/-- Without the frame of the machine, nothing is left of it. -/
theorem abandons :
    session.Abandons last (last.withBuilder ((last.builder.onMachine id loc base).withFrames base)) id where
  register := ⟨machine, concludes.found, concludes.incomplete⟩
  indicators := rfl
  unassigned state := by
    have assigned := concludes.sound.assigned id state
    have found : (last.builder.onMachine id loc base).machines.get? id = some machine := concludes.found
    rwa [found, Option.map_some, Option.getD_some, Machine.indications_of_incomplete concludes.incomplete] at assigned
  statements := concludes.statements
  complete := rfl
  absent name entered := by
    obtain ⟨other, found, register⟩ := concludes.sound.entered name id entered
    have same := concludes.found.symm.trans found
    rw [Option.some.injEq] at same
    rw [← same, concludes.incomplete] at register
    contradiction
  control := concludes.around.symm

theorem finish_of_missing {error : BuildError} (missing : machine.checkComplete loc = .error error) :
    (Ending.machine id).finish loc ∅ (last.withBuilder (last.builder.onMachine id loc base)) =
      .error (.refused error) (last.withBuilder ((last.builder.onMachine id loc base).withFrames base)) := by
  have found : (last.builder.onMachine id loc base).machines.get? id = some machine := concludes.found
  have refused := Build.finishMachine_of_refused rfl found (Machine.close_of_missing missing)
  simp only [Ending.finish, bind, EStateM.bind, Run.build, Session.builder_withBuilder, refused]
  rfl

theorem finish_of_complete (complete : machine.checkComplete loc = .ok ()) :
    ∃ answer after, (Ending.machine id).finish loc ∅ (last.withBuilder (last.builder.onMachine id loc base)) =
      .ok answer after := by
  obtain ⟨closing, closed⟩ := (concludes.sound.proper id machine concludes.found).close_of_complete complete
  have found : (last.builder.onMachine id loc base).machines.get? id = some machine := concludes.found
  have finished := Build.finishMachine_of_closed rfl found closed
  simp only [Ending.finish, bind, EStateM.bind, Run.build, Session.builder_withBuilder, finished, get_apply]
  exact ⟨_, _, rfl⟩

end Session.Concludes

section Close

variable {session opened last : Session} {name domain initial : Option String} {key : String} {body : List Step}
  {loc : Location} {opening : Run Ending} {id : MachineId} (reached : Reached session)
  (opens : (Call.machine name domain initial key body).opening loc = some opening)
  (accepted : opening session = .ok (.machine id) opened) (returned : runBody body opened.insideMachine = .ok () last)

include reached opens accepted returned

/-- Where the inside of a machine has returned, all that has happened is known of the machine. -/
theorem insideMachine_ends : ∃ base machine, session.Concludes last id loc base machine ∧
    runCall loc (.machine name domain initial key body) session =
      (Ending.machine id).finish loc ∅ (last.withBuilder (last.builder.onMachine id loc base)) ∧
    ∃ name clock, (Machine.opened name clock initial).Counts machine
      (Event.mentions id (bodyEvents body opened.insideMachine))
      (Event.declarations id (bodyEvents body opened.insideMachine)) := by
  obtain ⟨sound, placed⟩ := reached.sound
  have opened_ := Ends.of_ok accepted (Call.opening_ends opens sound placed)
  have due := opened_.builder.due sound.stacked
  have ran := Ending.run_of_returned loc opened_.leads.sound due (proceed body).1 returned
  obtain ⟨given, clock, base, new, around, top⟩ : ∃ name clock base,
      opened.builder.machines.get? id = some (.opened name clock initial) ∧
      session.builder.flushed.control = ⟨base, base.length, none⟩ ∧
      opened.builder.control = ⟨.machine id loc :: base, base.length, none⟩ := by
    obtain ⟨_, name, clock, base, same, facts⟩ := Ends.of_ok accepted (opening_machine_ends opens sound placed)
    rw [Ending.machine.injEq] at same
    exact ⟨name, clock, base, same ▸ facts⟩
  obtain ⟨start, place⟩ := opened_.leads.sound.enterConstruct top
  have stays := Ends.of_ok returned ((proceed body).1 _ start.sound (.inr ⟨_, _, place⟩))
  have leaves := opened_.leads.sound.leaves due stays
  obtain ⟨later, here, grows⟩ := stays.level.inside _ _ place
  have frames : last.builder.control.frames = .machine id loc :: base := by
    cases grows
    exact here.frames
  have left : opened.builder.left last.builder (.within .machine) = last.builder.onMachine id loc base := by
    simp only [Builder.left, Builder.onMachine, frames, top]
  have counts := Ends.of_ok returned ((recounts_counts id).body body _ start.sound (.inr ⟨_, _, place⟩))
  obtain ⟨machine, found, counts⟩ := counts _ new
  have ended : (last.builder.onMachine id loc base).Sound := left ▸ leaves.sound
  obtain ⟨again, refound, incomplete⟩ := ended.running id (by simp [Builder.onMachine, Control.machines, Control.machineOf?])
  have same := found.symm.trans refound
  rw [Option.some.injEq] at same
  subst same
  refine ⟨base, machine, ⟨ended, around, ?_, found, incomplete⟩, ?_, given, clock, counts⟩
  · rw [stays.kept rfl]
    exact opened_.builder.machine_eq.2.1
  · have called : runCall loc (.machine name domain initial key body) session =
        (Ending.machine id).run loc (runBody body) opened := by
      rw [runCall_eq_opening opens rfl]
      simp only [bind, EStateM.bind, accepted]
    rw [called, ran]
    exact congrArg (fun left ↦ (Ending.machine id).finish loc ∅ (last.withBuilder left)) left

/-- A machine call whose inside has returned returns if and only if every state that was mentioned has been declared,
and the initial state as well if one was asked for. Otherwise it is refused where the machine was opened, for the first
state that was mentioned and not declared, or else for the initial state, and nothing is left of the machine. -/
theorem Reached.machine_closes :
    ((∃ answer after, runCall loc (.machine name domain initial key body) session = .ok answer after) ↔
      (∀ state ∈ Event.mentions id (bodyEvents body opened.insideMachine),
        state ∈ Event.declarations id (bodyEvents body opened.insideMachine)) ∧
      ∀ state, initial = some state → state ∈ Event.declarations id (bodyEvents body opened.insideMachine)) ∧
    (∀ state, (Event.mentions id (bodyEvents body opened.insideMachine)).find?
        (· ∉ Event.declarations id (bodyEvents body opened.insideMachine)) = some state →
      ∃ error after, runCall loc (.machine name domain initial key body) session = .error (.refused error) after ∧
        error.kind = .naming ∧ error = ⟨.stateUndefined state, loc⟩ ∧ session.Abandons last after id) ∧
    ∀ state, initial = some state →
      (∀ state ∈ Event.mentions id (bodyEvents body opened.insideMachine),
        state ∈ Event.declarations id (bodyEvents body opened.insideMachine)) →
      state ∉ Event.declarations id (bodyEvents body opened.insideMachine) →
      ∃ error after, runCall loc (.machine name domain initial key body) session = .error (.refused error) after ∧
        error.kind = .naming ∧ error = ⟨.initialUndefined state, loc⟩ ∧ session.Abandons last after id := by
  obtain ⟨base, machine, concludes, called, given, clock, counts⟩ := insideMachine_ends reached opens accepted returned
  set mentions := Event.mentions id (bodyEvents body opened.insideMachine)
  set declarations := Event.declarations id (bodyEvents body opened.insideMachine)
  have checked := counts.checkComplete loc
  have refused : ∀ cause, Machine.missing? initial mentions declarations = some cause →
      ∃ after, runCall loc (.machine name domain initial key body) session = .error (.refused ⟨cause, loc⟩) after ∧
        session.Abandons last after id := by
    intro cause missing
    rw [missing] at checked
    exact ⟨_, called.trans (concludes.finish_of_missing checked), concludes.abandons⟩
  refine ⟨?_, fun state first ↦ ?_, ?_⟩
  · rw [← Machine.missing?_eq_none_iff]
    cases missing : Machine.missing? initial mentions declarations with
    | none =>
      rw [missing] at checked
      rw [called]
      exact iff_of_true (concludes.finish_of_complete checked) rfl
    | some cause =>
      obtain ⟨after, ran, -⟩ := refused cause missing
      rw [ran]
      simp
  · obtain ⟨after, ran, abandons⟩ := refused _ (Machine.missing?_of_mention first initial)
    exact ⟨_, after, ran, rfl, rfl, abandons⟩
  · rintro state rfl declared absent
    obtain ⟨after, ran, abandons⟩ := refused _ (Machine.missing?_of_initial declared absent)
    exact ⟨_, after, ran, rfl, rfl, abandons⟩

end Close

/-- A machine that is opened in an empty module gets the first key. -/
theorem vacant_accepts {name domain initial : Option String} {key : String} {body : List Step} {loc : Location}
    {opening : Run Ending} {ending : Ending} {opened : Session}
    (opens : (Call.machine name domain initial key body).opening loc = some opening)
    (accepted : opening.returned? vacant.start = some (ending, opened)) :
    opening vacant.start = .ok (.machine ⟨0, 0⟩) opened := by
  have ran := Run.returned_of_returned? accepted
  obtain ⟨sound, placed⟩ := (Reached.start vacant).sound
  have known := Ends.of_ok ran (Call.opening_ends opens sound placed)
  obtain ⟨id, -, -, -, rfl, -⟩ := Ends.of_ok ran (opening_machine_ends opens sound placed)
  obtain rfl : id = ⟨0, 0⟩ := known.builder.machine_eq.1
  exact ran

/-! ## A state that only a refused body mentions -/

/-- The inside of a machine with one state, in which a refused body sends the machine to another state. -/
def onlyMentioned : List Step := [
  ⟨.state "A" [
    ⟨.ifThen (.literal (.const (.ofShape 1 (.unsigned 1)))) [
      ⟨.goto "B", "next", ⟨"design", 4, 1⟩, false⟩,
      ⟨.raise "stop", "fail", ⟨"design", 5, 1⟩, false⟩], "if", ⟨"design", 3, 1⟩, true⟩],
    "state", ⟨"design", 2, 1⟩, false⟩]

theorem onlyMentioned_returns : ∃ opening opened last,
    (Call.machine none none (some "A") "m" onlyMentioned).opening ⟨"design", 1, 1⟩ = some opening ∧
    opening vacant.start = .ok (.machine ⟨0, 0⟩) opened ∧
    runBody onlyMentioned opened.insideMachine = .ok () last ∧
    Event.mentions ⟨0, 0⟩ (bodyEvents onlyMentioned opened.insideMachine) = ["A", "B"] ∧
    Event.declarations ⟨0, 0⟩ (bodyEvents onlyMentioned opened.insideMachine) = ["A"] := by
  have computed : ((Call.machine none none (some "A") "m" onlyMentioned).opening ⟨"design", 1, 1⟩).any (fun opening ↦
      (opening.returned? vacant.start).any fun entered ↦
        (Run.returned? (runBody onlyMentioned) entered.2.insideMachine).any fun _ ↦ decide (
          Event.mentions ⟨0, 0⟩ (bodyEvents onlyMentioned entered.2.insideMachine) = ["A", "B"] ∧
          Event.declarations ⟨0, 0⟩ (bodyEvents onlyMentioned entered.2.insideMachine) = ["A"])) = true := by
    decide +kernel
  obtain ⟨opening, opens, computed⟩ := (Option.any_eq_true _ _).1 computed
  obtain ⟨⟨ending, opened⟩, accepted, computed⟩ := (Option.any_eq_true _ _).1 computed
  obtain ⟨⟨_, last⟩, returned, events⟩ := (Option.any_eq_true _ _).1 computed
  exact ⟨opening, opened, last, opens, vacant_accepts opens accepted, Run.returned_of_returned? returned,
    of_decide_eq_true events⟩

theorem onlyMentioned_refused : ∃ last error after,
    runCall ⟨"design", 1, 1⟩ (.machine none none (some "A") "m" onlyMentioned) vacant.start =
      .error (.refused error) after ∧
    error = ⟨.stateUndefined "B", ⟨"design", 1, 1⟩⟩ ∧ vacant.start.Abandons last after ⟨0, 0⟩ := by
  obtain ⟨opening, opened, last, opens, accepted, returned, mentions, declarations⟩ := onlyMentioned_returns
  obtain ⟨-, blamed, -⟩ := (Reached.start vacant).machine_closes opens accepted returned
  obtain ⟨error, after, ran, -, same, abandons⟩ := blamed "B" (by rw [mentions, declarations]; decide)
  exact ⟨last, error, after, ran, same, abandons⟩

end RegisterTransfer
