import RegisterTransfer.Proofs.Meaning
import RegisterTransfer.Proofs.Positions

/-!
# Which cases a switch keeps

The body of a switch makes a sequence of case and default calls, some of which may be refused and caught. Those that
return are registered in their order: a case with the patterns that can match, unless there are none, and a default case
without patterns. Of several with the same patterns the first one is kept, with its body and its location, and dropping
the others changes nothing about the body that runs.
-/

namespace RegisterTransfer

/-! ## First entries -/

section Firsts

variable {κ α : Type} [DecidableEq κ]

/-- Of several entries with one key, the first. -/
def firsts : List (κ × α) → List (κ × α)
  | [] => []
  | entry :: rest => entry :: (firsts rest).filter fun other ↦ other.1 ≠ entry.1

theorem entries_foldl_insertIfAbsent (entries : List (κ × α)) (table : Table κ α) :
    (entries.foldl (fun table entry ↦ table.insertIfAbsent entry.1 entry.2) table).entries =
      table.entries ++ (firsts entries).filter fun entry ↦ entry.1 ∉ table.keys := by
  induction entries generalizing table with
  | nil => simp [firsts]
  | cons entry rest ih =>
    rw [List.foldl_cons, ih, firsts]
    by_cases present : entry.1 ∈ table.keys
    · have later : ∀ other : κ × α, other.1 ∉ table.keys → other.1 ≠ entry.1 := by
        rintro other absent same
        exact absent (same ▸ present)
      rw [Table.insertIfAbsent_of_mem _ _ _ present, List.filter_cons_of_neg (by simpa using present),
        List.filter_filter]
      congr 1
      apply List.filter_congr
      intro other _
      rw [← Bool.decide_and, decide_eq_decide]
      exact (and_iff_left_of_imp (later other)).symm
    · have keys : (table.insertIfAbsent entry.1 entry.2).keys = table.keys ++ [entry.1] := by
        rw [Table.keys, Table.entries_insertIfAbsent_of_notMem _ _ _ present, List.map_append]
        rfl
      rw [Table.entries_insertIfAbsent_of_notMem _ _ _ present, List.append_assoc,
        List.filter_cons_of_pos (by simpa using present), List.filter_filter, keys, List.singleton_append]
      congr 2
      apply List.filter_congr
      intro other _
      simp

end Firsts

theorem Block.entries_firstCases (entries : List (List Pattern × SwitchCase)) :
    (Block.firstCases entries).entries = firsts entries := by
  rw [Block.firstCases, entries_foldl_insertIfAbsent]
  simp

/-! ## Registrations -/

/-- A case or a default case whose body has been recorded. -/
structure Registration where
  /-- The patterns of a case as they are written; a default case has none. -/
  written : Option (List (WrittenPattern Value))
  recorded : SwitchCase

namespace Registration

/-- The patterns that can match. -/
def patterns (width : Nat) (call : Registration) : List Pattern :=
  match call.written with
  | none => []
  | some written => WrittenPattern.live width call.recorded.loc written

/-- A case of which no pattern can match is left out. -/
def isDropped (width : Nat) (call : Registration) : Bool := call.written.isSome && (call.patterns width).isEmpty

/-- Whether the body of a call runs for a word, if no earlier one does. -/
def runsOn (width word : Nat) (call : Registration) : Bool :=
  match call.written with
  | none => true
  | some written => written.any (WrittenPattern.matchesWord width word)

/-- The entries that calls make, before those with the same patterns are dropped. -/
def entries (width : Nat) (calls : List Registration) : List (List Pattern × SwitchCase) :=
  (calls.filter fun call ↦ !call.isDropped width).map fun call ↦ (call.patterns width, call.recorded)

/-- A registration is left out for its patterns only if it can match no word. -/
theorem runsOn_eq {width word : Nat} (small : word < wordCount width) (call : Registration) :
    call.runsOn width word = (!call.isDropped width &&
      ((call.patterns width).isEmpty || (call.patterns width).any (Pattern.matchesWord width word))) := by
  obtain ⟨written, recorded⟩ := call
  cases written with
  | none => rfl
  | some written =>
    simp only [runsOn, isDropped, patterns, Option.isSome_some, Bool.true_and,
      ← WrittenPattern.any_live small recorded.loc written]
    cases WrittenPattern.live width recorded.loc written with
    | nil => rfl
    | cons pattern rest => rfl

end Registration

/-- The cases that a switch keeps of the calls in its body. -/
structure Registers (width : Nat) (calls : List Registration) (kept : List (List Pattern × SwitchCase)) : Prop where
  listed : kept = firsts (Registration.entries width calls)
  distinct : (kept.map Prod.fst).Nodup
  default : (kept.map Prod.fst).count [] ≤ 1
  runs : ∀ word, word < wordCount width → (calls.find? (Registration.runsOn width word)).map Registration.recorded =
    (kept.find? fun entry ↦ entry.1.isEmpty || entry.1.any (Pattern.matchesWord width word)).map Prod.snd

theorem registers_firstCases (width : Nat) (calls : List Registration) :
    Registers width calls (Block.firstCases (Registration.entries width calls)).entries where
  listed := Block.entries_firstCases _
  distinct := Table.distinct _
  default := List.nodup_iff_count.1 (Table.distinct _) []
  runs word small := by
    rw [Block.find?_firstCases fun patterns ↦ patterns.isEmpty || patterns.any (Pattern.matchesWord width word),
      Registration.entries, List.find?_map, List.find?_filter, Option.map_map]
    refine congrArg (fun taken ↦ (calls.find? taken).map Registration.recorded) ?_
    funext call
    rw [Registration.runsOn_eq small, Bool.decide_and, Bool.decide_eq_true, Bool.decide_eq_true]
    rfl

/-! ## Registering calls -/

/-- What a case or a default case does up to its registration. -/
def Call.registering (loc : Location) : Call (List Step) → Option (Run Registration)
  | .case patterns body => some do
    let written ← Run.sound (WrittenPattern.evalAll (← get).environment patterns)
    let _ ← Run.build (Build.startCase written loc)
    return ⟨some written, ← Run.capture 0 (runBody body), loc⟩
  | .default body => some do
    Run.build (Build.startDefault loc)
    return ⟨none, ← Run.capture 0 (runBody body), loc⟩
  | _ => none

/-- The registration of a call that returns, for a case or a default case. -/
def Call.registration? (loc : Location) (call : Call (List Step)) (session : Session) : Option Registration :=
  (call.registering loc).bind fun register ↦ (register.returned? session).map Prod.fst

/-- The registrations of the steps that return, up to a refused one that is not caught. -/
def registrations : List Step → Session → List Registration
  | [], _ => []
  | step :: rest, session =>
    match step.run session with
    | .ok _ later => (step.call.registration? step.loc session).toList ++ registrations rest later
    | .error (.refused _) later => if step.caught then registrations rest later else []
    | .error (.broken _) _ => []

/-- A switch with a registration more, unless the call is left out. -/
def OpenSwitch.register (switch : OpenSwitch) (call : Registration) : OpenSwitch :=
  if call.isDropped switch.test.width then switch else switch.record (call.patterns switch.test.width) call.recorded

theorem OpenSwitch.foldl_register (switch : OpenSwitch) (calls : List Registration) :
    calls.foldl register switch = { switch with
      cases := (Registration.entries switch.test.width calls).foldl
        (fun table entry ↦ table.insertIfAbsent entry.1 entry.2) switch.cases } := by
  induction calls generalizing switch with
  | nil => rfl
  | cons call rest ih =>
    rw [List.foldl_cons, ih, register, Registration.entries, Registration.entries]
    cases dropped : call.isDropped switch.test.width with
    | true => simp [dropped]
    | false => simp [dropped, record]

namespace Call

variable {loc : Location} {session last : Session} {opened : Builder} {steps : List Step} {recorded : Body}

theorem registration?_case {written : List (WrittenPattern Term)} {values : List (WrittenPattern Value)}
    {live : List Pattern} (evaluated : WrittenPattern.evalAll session.environment written = .ok values)
    (started : Build.startCase values loc session.builder = .ok live opened)
    (captured : Run.capture 0 (runBody steps) (session.withBuilder opened) = .ok recorded last) :
    (Call.case written steps).registration? loc session = some ⟨some values, recorded, loc⟩ := by
  change Run.capture 0 (runBody steps) { session with builder := opened } = _ at captured
  simp only [registration?, registering, Option.bind_some, Run.returned?, bind, EStateM.bind, get_apply, evaluated,
    Run.sound, Run.build, started, captured, pure, EStateM.pure, Option.map_some]

theorem registration?_default (started : Build.startDefault loc session.builder = .ok () opened)
    (captured : Run.capture 0 (runBody steps) (session.withBuilder opened) = .ok recorded last) :
    (Call.default steps).registration? loc session = some ⟨none, recorded, loc⟩ := by
  change Run.capture 0 (runBody steps) { session with builder := opened } = _ at captured
  simp only [registration?, registering, Option.bind_some, Run.returned?, bind, EStateM.bind, Run.build, started,
    captured, pure, EStateM.pure, Option.map_some]

end Call

/-! ## Steps of a switch -/

section Steps

variable {session : Session} (sound : session.builder.Sound) {switch : OpenSwitch} {base : List Frame}
  (place : session.builder.control.AtConstruct (.switch switch) base)

include sound place

/-- Directly inside of a switch, a call that is not a construct leaves the switch as it is. -/
theorem simple_registers (loc : Location) {call : Call (List Step)} (simple : call.isConstruct = false) :
    Ends (runCall loc call) session
      (.always fun later ↦ later.builder.control.AtConstruct (.switch switch) base) := by
  have outside : session.builder.control.context ≠ none := by simp [place.context]
  have placed : session.builder.control.Placed := .inr ⟨_, _, place⟩
  cases call with
  | add domain statements =>
    simp only [runCall, Run.addStatements, ends_bind, ends_get, Run.ends_sound, Run.ends_build, ends_pure]
    intro values _
    exact Build.add_ends sound.stacked placed domain values loc (fun _ context _ _ ↦ absurd context outside)
      (fun _ ↦ place) fun _ _ context _ ↦ absurd context outside
  | goto target =>
    simp only [runCall, ends_bind, Run.ends_build, ends_pure]
    refine Build.goto_ends sound.stacked placed target loc (fun id machine _ _ _ ↦ ?_) fun _ _ ↦ place
    have still : (session.builder.withMachine id (machine.mention id target)).flushed =
        session.builder.withMachine id (machine.mention id target) :=
      Builder.flushed_of_atConstruct sound.stacked place
    rw [Builder.recorded, still]
    exact place
  | ifThen | elseIf | otherwise | switch | case | default | machine | state => simp [Call.isConstruct] at simple
  | _ =>
    refine (runCall_rests loc rfl (fun body _ ↦ proceed body) sound).mono_always ?_
    rintro later ⟨-, control, -⟩
    rwa [control]

/-- A body is recorded for the switch, or dropped if it is refused. -/
theorem capture_registers (steps : List Step) : Ends (Run.capture 0 (runBody steps)) session
    (.always fun later ↦ later.builder.control.AtConstruct (.switch switch) base) := by
  have kept : ∀ {later : Builder}, session.builder.Restores later →
      later.control.AtConstruct (.switch switch) base := by
    intro later restores
    rwa [restores.control]
  exact Run.capture_ends (proceed steps).1 sound place.height_eq (fun _ _ restores _ ↦ kept restores)
    fun _ _ restores ↦ kept restores

/-- A case that returns is registered, and one that is refused leaves the switch as it is. -/
theorem case_registers (loc : Location) (written : List (WrittenPattern Term)) (steps : List Step) :
    Ends (runCall loc (.case written steps)) session
      ⟨fun _ later ↦ ∃ call, (Call.case written steps).registration? loc session = some call ∧
          later.builder.control.AtConstruct (.switch (switch.register call)) base,
        fun _ later ↦ later.builder.control.AtConstruct (.switch switch) base⟩ := by
  have start : ∀ values, Ends (Build.startCase values loc) session.builder ⟨fun live opened ↦
      live = WrittenPattern.live switch.test.width loc values ∧ ∃ advice, opened = session.builder.noted advice,
      fun _ after ↦ ∃ advice, after = session.builder.noted advice⟩ := fun values ↦
    Build.startCase_ends (fun _ ↦ place.frames) values loc (fun advice _ ↦ ⟨rfl, advice, rfl⟩)
      fun _ advice ↦ ⟨advice, rfl⟩
  simp only [runCall, Run.case, ends_bind, ends_get, Run.ends_sound, Run.ends_build, ends_pure]
  intro values evaluated
  refine (start values).known.mono ?_ ?_
  · rintro live opened ⟨started, rfl, advice, rfl⟩
    have noted : (session.withBuilder (session.builder.noted advice)).builder.Sound := sound.leads_noted advice |>.sound
    refine (capture_registers noted place steps).known.mono ?_ fun _ _ dropped ↦ dropped.2
    rintro recorded later ⟨captured, here⟩
    have registered := Call.registration?_case evaluated started captured
    have dropped : Registration.isDropped switch.test.width ⟨some values, recorded, loc⟩ =
        (WrittenPattern.live switch.test.width loc values).isEmpty := rfl
    simp only [ends_ite, ends_pure, Run.ends_build]
    split
    · rename_i dead
      refine ⟨_, registered, ?_⟩
      rwa [OpenSwitch.register, dropped, if_pos dead]
    · rename_i matched
      refine Build.addCase_ends here.frames _ _ _ ⟨_, registered, ?_⟩
      rw [OpenSwitch.register, dropped, if_neg matched]
      exact ⟨rfl, here.depth, here.context⟩
  · rintro error _ ⟨-, advice, rfl⟩
    exact place

theorem default_registers (loc : Location) (steps : List Step) : Ends (runCall loc (.default steps)) session
    ⟨fun _ later ↦ ∃ call, (Call.default steps).registration? loc session = some call ∧
        later.builder.control.AtConstruct (.switch (switch.register call)) base,
      fun _ later ↦ later.builder.control.AtConstruct (.switch switch) base⟩ := by
  have start : Ends (Build.startDefault loc) session.builder ⟨fun _ opened ↦
      ∃ advice, opened = session.builder.noted advice, fun _ after ↦ after = session.builder⟩ :=
    Build.startDefault_ends (fun _ ↦ place.frames) loc (fun advice _ ↦ ⟨advice, rfl⟩) fun _ ↦ rfl
  simp only [runCall, Run.default, ends_bind, Run.ends_build, ends_pure]
  refine start.known.mono ?_ ?_
  · rintro _ opened ⟨started, advice, rfl⟩
    have noted : (session.withBuilder (session.builder.noted advice)).builder.Sound := sound.leads_noted advice |>.sound
    refine (capture_registers noted place steps).known.mono ?_ fun _ _ dropped ↦ dropped.2
    rintro recorded later ⟨captured, here⟩
    have registered := Call.registration?_default started captured
    exact Build.addCase_ends here.frames _ _ _ ⟨_, registered, rfl, here.depth, here.context⟩
  · rintro error _ ⟨-, rfl⟩
    exact place

/-- No other construct may stand directly inside of a switch. -/
theorem other_refused (loc : Location) {call : Call (List Step)} (construct : call.isConstruct = true)
    (other : call.keyword? ≠ some .case) (named : call.keyword? ≠ some .default) : Ends (runCall loc call) session
      ⟨fun _ _ ↦ False, fun _ later ↦ later.builder.control.AtConstruct (.switch switch) base⟩ := by
  obtain ⟨opening, body, opens, inner⟩ := call.exists_opening construct loc
  refine construct_ends opens inner sound (.inr ⟨_, _, place⟩) ?_ fun ending opened ran opened_ ↦ ?_
  · rintro error advice _ rfl -
    exact place
  · have keyword := Ends.of_ok ran (Call.opening_keyword opens session)
    have within := place.context.symm.trans opened_.builder.place
    rw [keyword, ne_eq, Option.some.injEq] at other named
    cases ending with
    | case patterns => exact absurd rfl other
    | default => exact absurd rfl named
    | _ => simp [Ending.keyword, Keyword.place, Frame.construct] at within

/-- A call directly inside of a switch registers at most one case. -/
theorem call_registers (loc : Location) (call : Call (List Step)) : Ends (runCall loc call) session
    ⟨fun _ later ↦ later.builder.control.AtConstruct
        (.switch ((call.registration? loc session).toList.foldl OpenSwitch.register switch)) base,
      fun _ later ↦ later.builder.control.AtConstruct (.switch switch) base⟩ := by
  have registered : ∀ {later : Session}, (∃ entry, call.registration? loc session = some entry ∧
      later.builder.control.AtConstruct (.switch (switch.register entry)) base) →
        later.builder.control.AtConstruct
          (.switch ((call.registration? loc session).toList.foldl OpenSwitch.register switch)) base := by
    rintro later ⟨entry, same, here⟩
    rw [same]
    exact here
  cases call with
  | case written steps =>
    exact (case_registers sound place loc written steps).mono (fun _ _ ↦ registered) fun _ _ here ↦ here
  | default steps =>
    exact (default_registers sound place loc steps).mono (fun _ _ ↦ registered) fun _ _ here ↦ here
  | ifThen | elseIf | otherwise | switch | machine | state =>
    refine (other_refused sound place loc rfl ?_ ?_).mono (fun _ _ ↦ False.elim) fun _ _ here ↦ here
    all_goals simp [Call.keyword?]
  | _ => exact (simple_registers sound place loc rfl).mono (fun _ _ here ↦ here) fun _ _ here ↦ here

/-- A step directly inside of a switch registers at most one case, and none if it is refused. -/
theorem step_registers (step : Step) : Ends step.run session
    ⟨fun _ later ↦ later.builder.Sound ∧ later.builder.control.AtConstruct
        (.switch ((step.call.registration? step.loc session).toList.foldl OpenSwitch.register switch)) base,
      fun _ later ↦ later.builder.Sound ∧ later.builder.control.AtConstruct (.switch switch) base⟩ := by
  obtain ⟨call, label, loc, caught⟩ := step
  have stays := runCall_proceeds loc call (fun body _ ↦ proceed body) session sound (.inr ⟨_, _, place⟩)
  refine (Run.ends_traced ..).2 ((stays.and (call_registers sound place loc call)).mono ?_ ?_)
  · exact fun _ _ both ↦ ⟨both.1.sound, both.2⟩
  · exact fun _ _ both ↦ ⟨both.1.sound, both.2⟩

end Steps

/-- The body of a switch registers what its calls do. -/
theorem runBody_registers (steps : List Step) {session : Session} (sound : session.builder.Sound) {switch : OpenSwitch}
    {base : List Frame} (place : session.builder.control.AtConstruct (.switch switch) base) :
    Ends (runBody steps) session ⟨fun _ later ↦ later.builder.Sound ∧ later.builder.control.AtConstruct
      (.switch ((registrations steps session).foldl OpenSwitch.register switch)) base, fun _ _ ↦ True⟩ := by
  induction steps generalizing session switch with
  | nil => exact ⟨sound, place⟩
  | cons step rest ih =>
    have ran := (step_registers sound place step).known
    simp only [runBody, registrations]
    cases caught : step.caught with
    | true =>
      refine (ends_bind ..).2 ((Run.ends_caught ..).2 (ran.mono ?_ ?_))
      · rintro _ later ⟨returned, kept, here⟩
        simpa only [returned, List.foldl_append] using ih kept here
      · rintro error later ⟨refused, kept, here⟩
        simpa only [refused, ↓reduceIte] using ih kept here
    | false =>
      refine (ends_bind ..).2 (ran.mono ?_ fun _ _ _ ↦ trivial)
      rintro _ later ⟨returned, kept, here⟩
      simpa only [returned, List.foldl_append] using ih kept here

/-! ## Whole switches -/

/-- A switch is opened on the value of its test, without cases. -/
theorem opening_switch_ends {loc : Location} {test : Term} {steps : List Step} {opening : Run Ending}
    (opens : (Call.switch test steps).opening loc = some opening) {session : Session} (sound : session.builder.Sound)
    (placed : session.builder.control.Placed) : Ends opening session ⟨fun ending opened ↦ ending = .switch ∧
      ∃ value base, test.eval session.environment = .ok value ∧
        opened.builder.control = ⟨.switch ⟨value, loc, ∅⟩ :: base, base.length, none⟩, fun _ _ ↦ True⟩ := by
  rw [Call.opening, Option.some.injEq] at opens
  subst opens
  simp only [ends_bind, Run.ends_evaluate, Run.ends_build, ends_pure]
  intro value evaluated
  refine Build.openSwitch_ends sound.stacked placed value loc (fun context ↦ ?_) fun _ ↦ trivial
  obtain ⟨behind, base, place⟩ := placed.atBody context
  exact ⟨trivial, value, base, evaluated, Builder.control_opening sound.stacked place _⟩

/-- A switch that returns closes over what its body has registered. -/
theorem switch_closes (loc : Location) (test : Term) (steps : List Step) {session : Session}
    (sound : session.builder.Sound) (placed : session.builder.control.Placed) :
    Ends (runCall loc (.switch test steps)) session ⟨fun _ later ↦ ∃ value enter entered last,
      test.eval session.environment = .ok value ∧ (Call.switch test steps).enter loc = some enter ∧
      enter session = .ok () entered ∧ runBody steps entered = .ok () last ∧
      later.builder.statements = last.builder.statements.appendAll
        (OpenSwitch.lower ((registrations steps entered).foldl OpenSwitch.register ⟨value, loc, ∅⟩)), fun _ _ ↦ True⟩ := by
  obtain ⟨opening, opens⟩ : ∃ opening, (Call.switch test steps).opening loc = some opening := ⟨_, rfl⟩
  refine construct_ends opens rfl sound placed (fun _ _ _ _ _ ↦ trivial) fun ending opened ran opened_ ↦ ?_
  obtain ⟨rfl, value, base, evaluated, top⟩ := Ends.of_ok ran (opening_switch_ends opens sound placed)
  obtain ⟨start, place⟩ := opened_.leads.sound.enterConstruct top
  have known : (opened.withBuilder (opened.builder.enterConstruct .switch)).builder.Sound := start.sound
  refine (runBody_registers steps known place).known.mono ?_ fun _ _ _ _ ↦ trivial
  rintro _ last ⟨body, -, here⟩ leaves
  refine ⟨fun after concludes ↦ ?_, fun _ ↦ trivial⟩
  obtain ⟨enter, enters, entered⟩ := Call.enter_of_opening opens ran
  refine ⟨value, enter, _, last, evaluated, enters, entered, body, ?_⟩
  cases concludes with
  | @switch closed below same =>
    have frames : last.builder.control.frames = .switch closed :: below := congrArg Control.frames same
    rw [here.frames, List.cons.injEq, Frame.switch.injEq] at frames
    obtain ⟨rfl, -⟩ := frames
    rfl

/-- A switch that returns emits the cases that its body has registered, in every domain that one of them touches. -/
theorem Reached.switch_registers {session later : Session} (reached : Reached session) {loc : Location} {test : Term}
    {steps : List Step} {answer : Answer} (returned : runCall loc (.switch test steps) session = .ok answer later) :
    ∃ value enter entered last kept emitted, test.eval session.environment = .ok value ∧
      (Call.switch test steps).enter loc = some enter ∧ enter session = .ok () entered ∧
      runBody steps entered = .ok () last ∧
      later.builder.statements = last.builder.statements.appendAll emitted ∧
      emitted.map Prod.fst = (kept.flatMap fun entry ↦ entry.2.body.keys).eraseDups ∧
      (∀ domain statement, (domain, statement) ∈ emitted → statement = .switch value
        (kept.map fun entry ↦ ⟨entry.1, entry.2.body.statementsOf domain, some entry.2.loc⟩) loc) ∧
      Registers value.width (registrations steps entered) kept := by
  obtain ⟨sound, placed⟩ := reached.sound
  obtain ⟨value, enter, entered, last, evaluated, enters, ran, body, closed⟩ :=
    Ends.of_ok returned (switch_closes loc test steps sound placed)
  have registered := OpenSwitch.foldl_register ⟨value, loc, ∅⟩ (registrations steps entered)
  rw [registered] at closed
  refine ⟨value, enter, entered, last, _, _, evaluated, enters, ran, body, closed, ?_, ?_,
    registers_firstCases value.width (registrations steps entered)⟩
  · rw [OpenSwitch.lower, Lowering.split, List.map_map, OpenSwitch.caseList, Lowering.domains, List.flatMap_map]
    exact List.map_id _
  · intro domain statement mem
    obtain ⟨other, -, same⟩ := List.mem_map.1 mem
    obtain ⟨rfl, rfl⟩ := Prod.mk.inj same
    rw [Lowering.branchIn, OpenSwitch.caseList, List.map_map]
    rfl

/-! ## A selection -/

/-- A switch on two bits whose calls are, in this order: kept, refused for the digits, left out, refused in the body,
kept, dropped behind the first one, and default. -/
def selection : List Step := [
  ⟨.case [.bits "1-"] [⟨.add combinational [.assign lamp lamp], "add", ⟨"design", 3, 1⟩, false⟩], "case",
    ⟨"design", 2, 1⟩, false⟩,
  ⟨.case [.bits "111"] [], "case", ⟨"design", 4, 1⟩, true⟩,
  ⟨.case [.value (.literal (.const (.cast 9)))] [], "case", ⟨"design", 5, 1⟩, false⟩,
  ⟨.case [.bits "00"] [⟨.goto "A", "goto", ⟨"design", 7, 1⟩, false⟩], "case", ⟨"design", 6, 1⟩, true⟩,
  ⟨.case [.value (.literal (.const (.cast 1)))] [⟨.switch select [], "switch", ⟨"design", 9, 1⟩, false⟩], "case",
    ⟨"design", 8, 1⟩, false⟩,
  ⟨.case [.bits "1 -"] [], "case", ⟨"design", 10, 1⟩, false⟩,
  ⟨.default [], "default", ⟨"design", 11, 1⟩, false⟩]
where
  select : Term := .literal (.signal ⟨.declared "select", "select", .unsigned 2, 0, none⟩)
  lamp : Term := .literal (.signal ⟨.declared "lamp", "lamp", .unsigned 1, 1, none⟩)

theorem selection_registers : ∃ session later answer, Reached session ∧
    runCall default (.switch selection.select selection) session = .ok answer later ∧
    ∃ entered kept, Registers 2 (registrations selection entered) kept ∧
      kept.map Prod.fst = [[.bits "1-"], [.int 1], []] := by
  have runs : ((runCall default (.switch selection.select selection)).returned? vacant.start).isSome = true := by
    decide +kernel
  have keeps : ((Call.enter default (.switch selection.select selection)).bind fun enter ↦
      (enter.returned? vacant.start).map fun ended ↦
        (firsts (Registration.entries 2 (registrations selection ended.2))).map Prod.fst) =
          some [[.bits "1-"], [.int 1], []] := by decide +kernel
  obtain ⟨⟨answer, later⟩, returned⟩ := Option.isSome_iff_exists.1 runs
  have returned := Run.returned_of_returned? returned
  have reached := Reached.start vacant
  obtain ⟨value, enter, entered, last, kept, emitted, evaluated, enters, ran, -, -, -, -, registers⟩ :=
    reached.switch_registers returned
  obtain rfl := Except.ok.inj evaluated
  refine ⟨vacant.start, later, answer, reached, returned, entered, kept, registers, ?_⟩
  rw [enters, Option.bind_some, Run.returned?, ran, Option.map_some, Option.some.injEq] at keeps
  rw [registers.listed]
  exact keeps

end RegisterTransfer
