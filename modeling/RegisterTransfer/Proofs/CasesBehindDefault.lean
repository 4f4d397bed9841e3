import RegisterTransfer.Proofs.AdviceKept
import RegisterTransfer.Proofs.CaughtFailures
import RegisterTransfer.Proofs.PatternChecks
import RegisterTransfer.Proofs.Registrations

/-!
# Cases behind the default case

A case or a default case is advised against if the default case of its switch has been registered when the call starts,
which is so exactly if an earlier default call of the same body has returned. The cases that the switch keeps therefore
fall in two: those in front of the default case, against which nothing is said, and those behind it, each of which has
been advised against by the very call that registered it.
-/

namespace RegisterTransfer

/-! ## First entries of joined lists -/

section Firsts

variable {κ α β : Type} [DecidableEq κ]

theorem mem_of_mem_firsts {entry : κ × α} {entries : List (κ × α)} (mem : entry ∈ firsts entries) :
    entry ∈ entries := by
  induction entries with
  | nil => exact mem
  | cons first rest ih =>
    rcases List.mem_cons.1 mem with rfl | mem
    · exact List.mem_cons_self ..
    · exact List.mem_cons_of_mem _ (ih (List.mem_filter.1 mem).1)

/-- Behind other entries, only those with new keys are first. -/
theorem firsts_append (front back : List (κ × α)) :
    firsts (front ++ back) = firsts front ++ (firsts back).filter fun entry ↦ entry.1 ∉ front.map Prod.fst := by
  induction front with
  | nil => simp [firsts]
  | cons entry rest ih =>
    rw [List.cons_append, firsts, ih, firsts, List.filter_append, List.filter_filter, List.cons_append]
    congr 2
    apply List.filter_congr
    intro other _
    rw [← Bool.decide_and, decide_eq_decide, List.map_cons, List.mem_cons, not_or]

theorem firsts_map (f : α → β) (entries : List (κ × α)) :
    firsts (entries.map fun entry ↦ (entry.1, f entry.2)) = (firsts entries).map fun entry ↦ (entry.1, f entry.2) := by
  induction entries with
  | nil => rfl
  | cons entry rest ih =>
    rw [List.map_cons, firsts, ih, firsts, List.map_cons, List.filter_map]
    rfl

end Firsts

/-! ## What a call inside of a switch advises -/

/-- Whether a call is a case or a default case. -/
def Call.isCase {body : Type} : Call body → Bool
  | .case _ _ | .default _ => true
  | _ => false

/-- Whether a call advises against its place behind the default case. -/
def Call.warns (loc : Location) (call : Call (List Step)) (session : Session) : Bool :=
  decide (.caseAfterDefault loc ∈ call.advice loc session)

theorem WrittenPattern.kind_of_dead {width : Nat} {loc : Location} {written : WrittenPattern Value}
    {advice : Diagnostic} (read : written.read width loc = .ok (.dead advice)) : advice.kind = .deadCase := by
  cases written with
  | bits digits =>
    simp only [WrittenPattern.read, readBits] at read
    split at read
    · split at read <;> simp at read
    · simp at read
  | value source =>
    simp only [WrittenPattern.read, readValue] at read
    split at read
    · simp at read
    · split at read
      · rw [Except.ok.injEq, Reading.dead.injEq] at read
        rw [← read]
        rfl
      · simp at read

namespace Build

/-- Reading patterns advises on dead ones only. -/
theorem readPatterns_advice (width : Nat) (loc : Location) (patterns : List (WrittenPattern Value))
    (builder : Builder) : Ends (readPatterns width loc patterns) builder (.always fun after ↦
      ∃ advice, after = builder.noted advice ∧ .caseAfterDefault loc ∉ advice) := by
  induction patterns generalizing builder with
  | nil => exact ⟨[], by simp, by simp⟩
  | cons written rest ih =>
    simp only [readPatterns, ends_bind, ends_accepted]
    cases read : written.read width loc with
    | error error => exact ⟨[], by simp, by simp⟩
    | ok reading =>
      cases reading with
      | pattern pattern =>
        simp only [ends_bind, ends_pure]
        exact (ih builder).mono (fun _ _ given ↦ given) fun _ _ given ↦ given
      | dead advice =>
        have other : .caseAfterDefault loc ≠ advice := by
          rintro rfl
          have kind := WrittenPattern.kind_of_dead read
          simp [Diagnostic.caseAfterDefault] at kind
        simp only [ends_bind, report, ends_modify]
        refine (ih (builder.noted [advice])).mono_always ?_
        rintro _ ⟨others, rfl, none⟩
        refine ⟨advice :: others, by simp, ?_⟩
        rw [List.mem_cons, not_or]
        exact ⟨other, none⟩

end Build

/-- Reading patterns returns or is refused, with advice on dead ones only. -/
theorem Build.readPatterns_ended (width : Nat) (loc : Location) (patterns : List (WrittenPattern Value))
    (builder : Builder) : ∃ advice, .caseAfterDefault loc ∉ advice ∧
      ((∃ live, readPatterns width loc patterns builder = .ok live (builder.noted advice)) ∨
        ∃ error, readPatterns width loc patterns builder = .error (.refused error) (builder.noted advice)) := by
  have advised := readPatterns_advice width loc patterns builder
  by_cases taken : ∀ written ∈ patterns, written.Taken width
  · have read := readPatterns_of_taken taken loc builder
    obtain ⟨advice, same, none⟩ := advised.of_ok read
    rw [same] at read
    exact ⟨advice, none, .inl ⟨_, read⟩⟩
  · simp only [not_forall] at taken
    obtain ⟨written, mem, refused⟩ := taken
    obtain ⟨error, others, -, -, read⟩ := readPatterns_of_not_taken ⟨written, mem, refused⟩ loc builder
    obtain ⟨advice, same, none⟩ := advised.of_refused read
    rw [same] at read
    exact ⟨advice, none, .inr ⟨error, read⟩⟩

section Inside

variable {session : Session} {switch : OpenSwitch} {base : List Frame}

/-- A call that is opened, or refused, with the advice on the default case and other advice warns exactly if the switch
has its default case. -/
theorem Call.warns_eq {loc : Location} {call : Call (List Step)} {opening : Run Ending} {advice : List Diagnostic}
    (opens : call.opening loc = some opening) (none : .caseAfterDefault loc ∉ advice)
    (ended : EndsIn opening session
      (session.withBuilder (session.builder.noted (Build.defaultAdvice switch loc ++ advice)))) :
    call.warns loc session = switch.cases.contains [] := by
  have advised : call.advice loc session = Build.defaultAdvice switch loc ++ advice := by
    rcases ended with ⟨ending, ran⟩ | ⟨error, ran⟩
    · rw [Call.advice_of_ok opens ran]
      exact List.drop_left
    · rw [Call.advice_of_error opens ran]
      exact List.drop_left
  rw [Bool.eq_iff_iff, Call.warns, decide_eq_true_iff, advised, List.mem_append, or_iff_left none,
    Build.defaultAdvice]
  cases switch.cases.contains [] <;> simp

variable (place : session.builder.control.AtConstruct (.switch switch) base) (loc : Location)

include place

/-- Directly inside of a switch, a case warns exactly if the switch has its default case. -/
theorem warns_case {written : List (WrittenPattern Term)} {values : List (WrittenPattern Value)}
    (evaluated : WrittenPattern.evalAll session.environment written = .ok values) (steps : List Step) :
    (Call.case written steps).warns loc session = switch.cases.contains [] := by
  obtain ⟨advice, none, read⟩ := Build.readPatterns_ended switch.test.width loc values
    (session.builder.noted (Build.defaultAdvice switch loc))
  rw [Builder.noted_noted, ← Build.startCase_eq place] at read
  refine Call.warns_eq rfl none ?_
  rcases read with ⟨live, ran⟩ | ⟨error, ran⟩
  · refine .inl ⟨.case live, ?_⟩
    simp only [bind, EStateM.bind, get_apply, Run.sound, evaluated, Run.build, ran, pure, EStateM.pure]
    rfl
  · refine .inr ⟨error, ?_⟩
    simp only [bind, EStateM.bind, get_apply, Run.sound, evaluated, Run.build, ran, pure, EStateM.pure]
    rfl

theorem warns_default (steps : List Step) :
    (Call.default steps).warns loc session = switch.cases.contains [] := by
  have started := Build.startDefault_eq place loc
  refine Call.warns_eq rfl List.not_mem_nil (.inl ⟨.default, ?_⟩)
  simp only [bind, EStateM.bind, Run.build, started, pure, EStateM.pure, List.append_nil]
  rfl

/-- Directly inside of a switch, a step that is a case or a default case, and that no fault stops, warns exactly if the
switch has its default case. -/
theorem warns_step {step : Step} (case : step.call.isCase = true) {after : Session}
    (ended : EndsIn step.run session after) : step.call.warns step.loc session = switch.cases.contains [] := by
  obtain ⟨call, label, loc, caught⟩ := step
  cases call with
  | default steps => exact warns_default place loc steps
  | case written steps =>
    have evaluates : Ends (Step.run ⟨.case written steps, label, loc, caught⟩) session
        (.always fun _ ↦ ∃ values, WrittenPattern.evalAll session.environment written = .ok values) := by
      refine (Run.ends_traced ..).2 ?_
      simp only [runCall, Run.case, ends_bind, ends_get, Run.ends_sound]
      exact fun values evaluated ↦ .of_forall (fun _ _ ↦ .of_forall (fun _ _ ↦ .of_forall (fun _ _ ↦ ⟨_, evaluated⟩)
        fun _ _ ↦ ⟨_, evaluated⟩) fun _ _ ↦ ⟨_, evaluated⟩) fun _ _ ↦ ⟨_, evaluated⟩
    obtain ⟨values, evaluated⟩ := ended.holds evaluates
    exact warns_case place loc evaluated steps
  | _ => simp [Call.isCase] at case

end Inside

/-! ## When the default case is registered -/

/-- A switch gets its default case with the first default call that is registered. -/
theorem OpenSwitch.contains_register (switch : OpenSwitch) (call : Registration) :
    (switch.register call).cases.contains [] = (switch.cases.contains [] || call.written.isNone) := by
  obtain ⟨written, recorded⟩ := call
  cases written with
  | none =>
    change (switch.cases.insertIfAbsent [] recorded).contains [] = _
    rw [Table.contains, Table.get?_insertIfAbsent, if_pos rfl]
    simp
  | some written =>
    rw [register, Registration.isDropped, Option.isSome_some, Bool.true_and]
    cases live : Registration.patterns switch.test.width ⟨some written, recorded⟩ with
    | nil => simp
    | cons pattern rest =>
      change (switch.cases.insertIfAbsent (pattern :: rest) recorded).contains [] = _
      rw [Table.contains, Table.get?_insertIfAbsent, if_neg (List.cons_ne_nil pattern rest).symm]
      simp [Table.contains]

theorem OpenSwitch.contains_foldl_register (switch : OpenSwitch) (calls : List Registration) :
    (calls.foldl register switch).cases.contains [] =
      (switch.cases.contains [] || calls.any fun call ↦ call.written.isNone) := by
  induction calls generalizing switch with
  | nil => simp
  | cons call rest ih => rw [List.foldl_cons, ih, contains_register, List.any_cons, Bool.or_assoc]

/-- A registration without patterns is that of a default call. -/
theorem Call.registration?_cases {loc : Location} {call : Call (List Step)} {session : Session}
    {entry : Registration} (registered : call.registration? loc session = some entry) :
    (∃ written steps values, call = .case written steps ∧
      WrittenPattern.evalAll session.environment written = .ok values ∧ entry.written = some values) ∨
    ∃ steps, call = .default steps ∧ entry.written = none := by
  rw [registration?] at registered
  obtain ⟨register, registering, registered⟩ := Option.bind_eq_some_iff.1 registered
  obtain ⟨⟨found, later⟩, returned, rfl⟩ := Option.map_eq_some_iff.1 registered
  have ran := Run.returned_of_returned? returned
  cases call with
  | case written steps =>
    have ends : Ends register session ⟨fun call _ ↦ ∃ values,
        WrittenPattern.evalAll session.environment written = .ok values ∧ call.written = some values,
        fun _ _ ↦ True⟩ := by
      obtain rfl := Option.some.inj registering
      simp only [ends_bind, ends_get, Run.ends_sound, ends_pure]
      exact fun values evaluated ↦ .of_forall (fun _ _ ↦ .of_forall (fun _ _ ↦ ⟨values, evaluated, rfl⟩)
        fun _ _ ↦ trivial) fun _ _ ↦ trivial
    obtain ⟨values, evaluated, same⟩ := ends.of_ok ran
    exact .inl ⟨written, steps, values, rfl, evaluated, same⟩
  | default steps =>
    have ends : Ends register session ⟨fun call _ ↦ call.written = none, fun _ _ ↦ True⟩ := by
      obtain rfl := Option.some.inj registering
      simp only [ends_bind, ends_pure]
      exact .of_forall (fun _ _ ↦ .of_forall (fun _ _ ↦ trivial) fun _ _ ↦ trivial) fun _ _ ↦ trivial
    exact .inr ⟨steps, rfl, ends.of_ok ran⟩
  | _ => simp [Call.registering] at registering

theorem runBody_cons {step : Step} {session later : Session} (ended : EndsIn step.run session later)
    (goes : step.caught = true ∨ step.run session = .ok () later) (rest : List Step) :
    runBody (step :: rest) session = runBody rest later :=
  (runSteps_cons ended (.inr goes) : runSteps false (step :: rest) session = runSteps false rest later)

/-- A body that returns has gone on behind its first step. -/
theorem exists_runBody_of_cons {step : Step} {session last : Session} {rest : List Step}
    (ran : runBody (step :: rest) session = .ok () last) : ∃ later, EndsIn step.run session later ∧
      (step.caught = true ∨ step.run session = .ok () later) ∧ runBody rest later = .ok () last := by
  cases first : step.run session with
  | ok _ later =>
    rw [runBody_cons (.inl ⟨(), first⟩) (.inr first)] at ran
    exact ⟨later, .inl ⟨(), first⟩, .inr rfl, ran⟩
  | error failure later =>
    cases caught : step.caught with
    | false => simp [runBody, caught, bind, EStateM.bind, first] at ran
    | true =>
      cases failure with
      | broken fault => simp [runBody, caught, Run.caught, Run.settle, bind, EStateM.bind, first] at ran
      | refused error =>
        rw [runBody_cons (.inr ⟨error, first⟩) (.inl caught)] at ran
        exact ⟨later, .inr ⟨error, first⟩, .inl rfl, ran⟩

/-- The registrations of a body are those of the steps that return when everything in front of them has run. -/
theorem mem_registrations_iff (steps : List Step) (session : Session) (entry : Registration) :
    entry ∈ registrations steps session ↔ ∃ before step behind mid later, steps = before ++ step :: behind ∧
      runBody before session = .ok () mid ∧ step.run mid = .ok () later ∧
        step.call.registration? step.loc mid = some entry := by
  induction steps generalizing session with
  | nil => simp [registrations]
  | cons step rest ih =>
    constructor
    · intro mem
      rw [registrations] at mem
      split at mem
      · rename_i later ran
        rcases List.mem_append.1 mem with mem | mem
        · exact ⟨[], step, rest, session, later, rfl, rfl, ran, Option.mem_toList.1 mem⟩
        · obtain ⟨before, other, behind, mid, last, rfl, earlier, returned, registered⟩ := (ih later).1 mem
          refine ⟨step :: before, other, behind, mid, last, rfl, ?_, returned, registered⟩
          rw [runBody_cons (.inl ⟨(), ran⟩) (.inr ran), earlier]
      · rename_i error later ran
        split at mem
        · rename_i caught
          obtain ⟨before, other, behind, mid, last, rfl, earlier, returned, registered⟩ := (ih later).1 mem
          refine ⟨step :: before, other, behind, mid, last, rfl, ?_, returned, registered⟩
          rw [runBody_cons (.inr ⟨error, ran⟩) (.inl caught), earlier]
        · contradiction
      · contradiction
    · rintro ⟨before, other, behind, mid, last, split, earlier, returned, registered⟩
      cases before with
      | nil =>
        obtain ⟨rfl, rfl⟩ := List.cons.inj split
        obtain rfl : session = mid := by
          simpa [runBody, pure, EStateM.pure] using earlier
        simp only [registrations, returned, registered]
        exact List.mem_append_left _ (List.mem_singleton_self entry)
      | cons first before =>
        obtain ⟨rfl, rfl⟩ := List.cons.inj split
        obtain ⟨later, ended, goes, ran⟩ := exists_runBody_of_cons earlier
        have inner := (ih later).2 ⟨before, other, behind, mid, last, rfl, ran, returned, registered⟩
        rw [registrations]
        rcases ended with ⟨_, done⟩ | ⟨error, refused⟩
        · simp only [done]
          exact List.mem_append_right _ inner
        · have caught := goes.resolve_right fun done ↦ by simp [refused] at done
          simpa only [refused, caught, ↓reduceIte] using inner

/-! ## Registrations with the warnings of their calls -/

/-- The registrations of a body, each with whether its call has warned. -/
def warnings : List Step → Session → List (Bool × Registration)
  | [], _ => []
  | step :: rest, session =>
    match step.run session with
    | .ok _ later =>
      ((step.call.registration? step.loc session).map (step.call.warns step.loc session, ·)).toList ++
        warnings rest later
    | .error (.refused _) later => if step.caught then warnings rest later else []
    | .error (.broken _) _ => []

theorem map_snd_warnings (steps : List Step) (session : Session) :
    (warnings steps session).map Prod.snd = registrations steps session := by
  induction steps generalizing session with
  | nil => rfl
  | cons step rest ih =>
    rcases ran : step.run session with ⟨_, later⟩ | ⟨error | fault, later⟩
    · simp only [warnings, registrations, ran, List.map_append, ih]
      cases step.call.registration? step.loc session <;> rfl
    · simp only [warnings, registrations, ran]
      split
      · exact ih later
      · rfl
    · simp only [warnings, registrations, ran, List.map_nil]

namespace Registration

/-- Calls, each with whether a default case has been registered in front of it; `seen` tells whether one is there from the
start. -/
def marked : Bool → List Registration → List (Bool × Registration)
  | _, [] => []
  | seen, call :: rest => (seen, call) :: marked (seen || call.written.isNone) rest

/-- The entries that calls make, with their marks, before those with the same patterns are dropped. -/
def markedEntries (width : Nat) (calls : List (Bool × Registration)) : List (List Pattern × Bool × SwitchCase) :=
  (calls.filter fun call ↦ !call.2.isDropped width).map fun call ↦ (call.2.patterns width, call.1, call.2.recorded)

theorem map_markedEntries (width : Nat) (calls : List (Bool × Registration)) :
    (markedEntries width calls).map (fun entry ↦ (entry.1, entry.2.2)) = entries width (calls.map Prod.snd) := by
  rw [markedEntries, entries, List.map_map, List.filter_map, List.map_map]
  rfl

/-- The cases of a switch fall in those in front of its default case, which are not marked, and those behind it, which
all are; without a default case, none is. -/
def Parted (kept : List (List Pattern × Bool × SwitchCase)) : Prop :=
  (∀ entry ∈ kept, entry.1 ≠ [] ∧ entry.2.1 = false) ∨
    ∃ front body back, kept = front ++ ([], false, body) :: back ∧
      (∀ entry ∈ front, entry.1 ≠ [] ∧ entry.2.1 = false) ∧ ∀ entry ∈ back, entry.1 ≠ [] ∧ entry.2.1 = true

theorem marked_true (width : Nat) (calls : List Registration) :
    ∀ entry ∈ markedEntries width (marked true calls), entry.2.1 = true := by
  have all : ∀ call ∈ marked true calls, call.1 = true := by
    induction calls with
    | nil => simp [marked]
    | cons call rest ih =>
      rw [marked, Bool.true_or, List.forall_mem_cons]
      exact ⟨rfl, ih⟩
  intro entry mem
  obtain ⟨call, listed, rfl⟩ := List.mem_map.1 mem
  exact all call (List.mem_filter.1 listed).1

/-- Up to the first default call no entry is marked, and every one behind it is. -/
theorem marked_false (width : Nat) (calls : List Registration) :
    (∀ entry ∈ markedEntries width (marked false calls), entry.1 ≠ [] ∧ entry.2.1 = false) ∨
      ∃ front body back, markedEntries width (marked false calls) = front ++ ([], false, body) :: back ∧
        (∀ entry ∈ front, entry.1 ≠ [] ∧ entry.2.1 = false) ∧ ∀ entry ∈ back, entry.2.1 = true := by
  induction calls with
  | nil => exact .inl (by simp [marked, markedEntries])
  | cons call rest ih =>
    obtain ⟨written, recorded⟩ := call
    cases written with
    | none =>
      refine .inr ⟨[], recorded, markedEntries width (marked true rest), ?_, by simp, marked_true width rest⟩
      simp [marked, markedEntries, isDropped, patterns]
    | some written =>
      have onward : marked false (⟨some written, recorded⟩ :: rest) =
          (false, ⟨some written, recorded⟩) :: marked false rest := rfl
      cases dropped : isDropped width ⟨some written, recorded⟩ with
      | true =>
        have same : markedEntries width (marked false (⟨some written, recorded⟩ :: rest)) =
            markedEntries width (marked false rest) := by
          simp [onward, markedEntries, dropped]
        rw [same]
        exact ih
      | false =>
        have first : markedEntries width (marked false (⟨some written, recorded⟩ :: rest)) =
            (patterns width ⟨some written, recorded⟩, false, recorded) ::
              markedEntries width (marked false rest) := by
          simp [onward, markedEntries, dropped]
        have live : patterns width ⟨some written, recorded⟩ ≠ [] := by
          simpa [isDropped] using dropped
        rw [first]
        rcases ih with none | ⟨front, body, back, split, unmarked, marked⟩
        · exact .inl (List.forall_mem_cons.2 ⟨⟨live, rfl⟩, none⟩)
        · refine .inr ⟨_ :: front, body, back, by rw [split, List.cons_append], ?_, marked⟩
          exact List.forall_mem_cons.2 ⟨⟨live, rfl⟩, unmarked⟩

/-- Dropping what was registered before leaves the parts where they are. -/
theorem parted_firsts (width : Nat) (calls : List Registration) :
    Parted (firsts (markedEntries width (marked false calls))) := by
  rcases marked_false width calls with none | ⟨front, body, back, split, unmarked, marked⟩
  · exact .inl fun entry mem ↦ none entry (mem_of_mem_firsts mem)
  · have absent : [] ∉ front.map Prod.fst := by
      intro mem
      obtain ⟨entry, listed, same⟩ := List.mem_map.1 mem
      exact (unmarked entry listed).1 same
    rw [split, firsts_append, firsts, List.filter_cons_of_pos (by simpa using absent)]
    refine .inr ⟨_, body, _, rfl, fun entry mem ↦ unmarked entry (mem_of_mem_firsts mem), fun entry mem ↦ ?_⟩
    obtain ⟨mem, other⟩ := List.mem_filter.1 (List.mem_filter.1 mem).1
    exact ⟨by simpa using other, marked entry (mem_of_mem_firsts mem)⟩

end Registration

/-- Directly inside of a switch, the calls that have warned are those behind a default call that was registered. -/
theorem warnings_eq_marked (steps : List Step) {session : Session} (sound : session.builder.Sound)
    {switch : OpenSwitch} {base : List Frame} (place : session.builder.control.AtConstruct (.switch switch) base) :
    warnings steps session = Registration.marked (switch.cases.contains []) (registrations steps session) := by
  induction steps generalizing session switch with
  | nil => rfl
  | cons step rest ih =>
    have ends := step_registers sound place step
    rcases ran : step.run session with ⟨_, later⟩ | ⟨error | fault, later⟩
    · obtain ⟨kept, here⟩ := ends.of_ok ran
      simp only [warnings, registrations, ran]
      rw [ih kept here]
      cases registered : step.call.registration? step.loc session with
      | none => rfl
      | some entry =>
        have case : step.call.isCase = true := by
          rcases Call.registration?_cases registered with ⟨_, _, _, same, -⟩ | ⟨_, same, -⟩
          · rw [same]
            rfl
          · rw [same]
            rfl
        rw [Option.toList_some, List.foldl_cons, List.foldl_nil, OpenSwitch.contains_register, Option.map_some,
          warns_step place case (.inl ⟨(), ran⟩)]
        rfl
    · obtain ⟨kept, here⟩ := ends.of_refused ran
      simp only [warnings, registrations, ran]
      split
      · exact ih kept here
      · rfl
    · simp only [warnings, registrations, ran]
      rfl

/-! ## Whole switches -/

/-- The inside of a switch starts without cases. -/
theorem switch_entered {session entered : Session} {loc : Location} {test : Term} {steps : List Step} {enter : Run Unit}
    (sound : session.builder.Sound) (placed : session.builder.control.Placed)
    (enters : (Call.switch test steps).enter loc = some enter) (started : enter session = .ok () entered) :
    entered.builder.Sound ∧ ∃ value base, test.eval session.environment = .ok value ∧
      entered.builder.control.AtConstruct (.switch ⟨value, loc, ∅⟩) base := by
  obtain ⟨opening, opens⟩ : ∃ opening, (Call.switch test steps).opening loc = some opening := ⟨_, rfl⟩
  have ends : Ends enter session ⟨fun _ entered ↦ entered.builder.Sound ∧ ∃ value base,
      test.eval session.environment = .ok value ∧
        entered.builder.control.AtConstruct (.switch ⟨value, loc, ∅⟩) base, fun _ _ ↦ True⟩ := by
    rw [Call.enter_eq_opening opens, Option.some.injEq] at enters
    rw [← enters]
    simp only [ends_bind, Run.ends_build, ends_modify]
    refine ((opening_switch_ends opens sound placed).and (Call.opening_ends opens sound placed)).mono ?_
      fun _ _ _ ↦ trivial
    rintro ending opened ⟨⟨rfl, value, base, evaluated, top⟩, opened_⟩
    obtain ⟨start, place⟩ := opened_.leads.sound.enterConstruct top
    exact ⟨start.sound, value, base, evaluated, place⟩
  exact ends.of_ok started

/-- The cases of a switch are those registered first under their patterns. -/
theorem caseList_warnings (value : Value) (loc : Location) (steps : List Step) (session : Session) :
    OpenSwitch.caseList ((registrations steps session).foldl OpenSwitch.register ⟨value, loc, ∅⟩) =
      (firsts (Registration.markedEntries value.width (warnings steps session))).map
        fun entry ↦ ⟨entry.1, entry.2.2.body, some entry.2.2.loc⟩ := by
  have kept : (firsts (Registration.markedEntries value.width (warnings steps session))).map
      (fun entry ↦ (entry.1, entry.2.2)) = firsts (Registration.entries value.width (registrations steps session)) := by
    rw [← firsts_map, Registration.map_markedEntries, map_snd_warnings]
  have listed := entries_foldl_insertIfAbsent (Registration.entries value.width (registrations steps session)) ∅
  rw [← kept, Table.entries_empty, Table.keys_empty, List.nil_append,
    List.filter_eq_self.2 fun entry _ ↦ by simp] at listed
  rw [OpenSwitch.foldl_register, OpenSwitch.caseList]
  dsimp only
  rw [listed, List.map_map]
  rfl

section Whole

variable {session : Session} (sound : session.builder.Sound) {switch : OpenSwitch} {base : List Frame}
  (place : session.builder.control.AtConstruct (.switch switch) base)

include sound place

/-- A default call that returns is registered. -/
theorem default_registration {step : Step} {body : List Step} (default : step.call = .default body) {later : Session}
    (returned : step.run session = .ok () later) : ∃ entry, step.call.registration? step.loc session = some entry ∧
      entry.written = none := by
  obtain ⟨call, label, loc, caught⟩ := step
  obtain rfl : call = .default body := default
  have ends : Ends (Step.run ⟨.default body, label, loc, caught⟩) session
      ⟨fun _ _ ↦ ∃ entry, (Call.default body).registration? loc session = some entry, fun _ _ ↦ True⟩ :=
    (Run.ends_traced ..).2 ((default_registers sound place loc body).mono
      (fun _ _ registered ↦ registered.imp fun _ both ↦ both.1) fun _ _ _ ↦ trivial)
  obtain ⟨entry, registered⟩ := ends.of_ok returned
  refine ⟨entry, registered, ?_⟩
  rcases Call.registration?_cases registered with ⟨_, _, _, other, -⟩ | ⟨_, -, bare⟩
  · simp at other
  · exact bare

/-- Among the registrations of a body there is one without patterns exactly if a default call of the body returns. -/
theorem any_registrations_iff (steps : List Step) :
    ((registrations steps session).any fun call ↦ call.written.isNone) = true ↔
      ∃ before default behind body mid later, steps = before ++ default :: behind ∧ default.call = .default body ∧
        runBody before session = .ok () mid ∧ default.run mid = .ok () later := by
  rw [List.any_eq_true]
  constructor
  · rintro ⟨entry, mem, bare⟩
    obtain ⟨before, default, behind, mid, later, split, earlier, returned, registered⟩ :=
      (mem_registrations_iff ..).1 mem
    rcases Call.registration?_cases registered with ⟨_, _, _, -, -, written⟩ | ⟨body, same, -⟩
    · simp [written] at bare
    · exact ⟨before, default, behind, body, mid, later, split, same, earlier, returned⟩
  · rintro ⟨before, default, behind, body, mid, later, split, same, earlier, returned⟩
    obtain ⟨kept, here⟩ := (runBody_registers before sound place).of_ok earlier
    obtain ⟨entry, registered, bare⟩ := default_registration kept here same returned
    refine ⟨entry, ?_, by rw [bare]; rfl⟩
    exact (mem_registrations_iff ..).2 ⟨before, default, behind, mid, later, split, earlier, returned, registered⟩

/-- What a step directly inside of a switch advises is still there when it ends. -/
theorem step_advice_prefix {step : Step} (case : step.call.isCase = true) {after : Session}
    (ended : EndsIn step.run session after) :
    session.builder.diagnostics ++ step.call.advice step.loc session <+: after.builder.diagnostics := by
  obtain ⟨call, label, loc, caught⟩ := step
  have construct : call.isConstruct = true := by
    cases call with
    | case | default => rfl
    | _ => simp [Call.isCase] at case
  have advised : Ends (runCall loc call) session (.always fun later ↦
      session.builder.diagnostics ++ call.advice loc session <+: later.builder.diagnostics) :=
    runCall_advice_prefix construct sound (.inr ⟨_, _, place⟩)
  have traced : Ends (Step.run ⟨call, label, loc, caught⟩) session (.always fun later ↦
      session.builder.diagnostics ++ call.advice loc session <+: later.builder.diagnostics) :=
    (Run.ends_traced ..).2 advised
  exact ended.holds traced

end Whole

/-- In the body of a switch, a case or a default case warns exactly if a default call in front of it has returned,
which neither its own body nor a refusal takes back. If the switch returns, the cases of every branch statement that it
emits are those registered first under their patterns: none of those in front of the default case comes from a call that
has warned, and each of those behind it does. -/
theorem Reached.cases_behind_default {session entered : Session} (reached : Reached session) {loc : Location}
    {test : Term} {steps : List Step} {enter : Run Unit} (enters : (Call.switch test steps).enter loc = some enter)
    (started : enter session = .ok () entered) :
    (∀ earlier step rest here after, steps = earlier ++ step :: rest → runBody earlier entered = .ok () here →
      step.call.isCase = true → EndsIn step.run here after →
        here.builder.control.context = some .switch ∧
        (.caseAfterDefault step.loc ∈ step.call.advice step.loc here ↔
          ∃ before default behind body mid later, earlier = before ++ default :: behind ∧
            default.call = .default body ∧ runBody before entered = .ok () mid ∧ default.run mid = .ok () later) ∧
        here.builder.diagnostics ++ step.call.advice step.loc here <+: after.builder.diagnostics) ∧
    ∀ answer later, runCall loc (.switch test steps) session = .ok answer later →
      ∃ value last kept emitted, test.eval session.environment = .ok value ∧ runBody steps entered = .ok () last ∧
        later.builder.statements = last.builder.statements.appendAll emitted ∧
        kept = firsts (Registration.markedEntries value.width (warnings steps entered)) ∧
        (∀ domain statement, (domain, statement) ∈ emitted → statement = .switch value
          (kept.map fun entry ↦ ⟨entry.1, entry.2.2.body.statementsOf domain, some entry.2.2.loc⟩) loc) ∧
        Registration.Parted kept := by
  obtain ⟨sound, placed⟩ := reached.sound
  obtain ⟨known, value, base, evaluated, place⟩ := switch_entered sound placed enters started
  refine ⟨fun earlier step rest here after split ran case ended ↦ ?_, fun answer later returned ↦ ?_⟩
  · obtain ⟨kept, inside⟩ := (runBody_registers earlier known place).of_ok ran
    refine ⟨inside.context, ?_, step_advice_prefix kept inside case ended⟩
    have warns := warns_step inside case ended
    rw [OpenSwitch.contains_foldl_register] at warns
    have warned : .caseAfterDefault step.loc ∈ step.call.advice step.loc here ↔
        step.call.warns step.loc here = true := decide_eq_true_iff.symm
    rw [warned, warns, ← any_registrations_iff known place earlier]
    rfl
  · have returns := (switch_closes loc test steps sound placed).of_ok returned
    obtain ⟨other, again, first, last, same, enters', started', ran, closed⟩ := returns
    obtain rfl := Except.ok.inj (evaluated.symm.trans same)
    obtain rfl := Option.some.inj (enters.symm.trans enters')
    obtain rfl : entered = first := by simpa using started.symm.trans started'
    refine ⟨value, last, _, _, evaluated, ran, closed, rfl, fun domain statement mem ↦ ?_, ?_⟩
    · obtain ⟨_, -, made⟩ := List.mem_map.1 mem
      obtain ⟨rfl, rfl⟩ := Prod.mk.inj made
      rw [Lowering.branchIn, caseList_warnings, List.map_map, OpenSwitch.foldl_register]
      rfl
    · rw [warnings_eq_marked steps known place]
      exact Registration.parted_firsts ..

/-! ## Two default calls -/

/-- A switch on two bits whose calls are, in this order: a case with a switch of its own that has a default case, a
default case whose body is refused, a case, a default case, and two cases behind it, of which the first one is dropped
for its patterns. -/
def lateCases : List Step := front ++ [last]
where
  select : Term := .literal (.signal ⟨.declared "select", "select", .unsigned 2, 0, none⟩)
  lamp : Term := .literal (.signal ⟨.declared "lamp", "lamp", .unsigned 1, 1, none⟩)
  front : List Step := [
    ⟨.case [.bits "0-"] [⟨.switch select [⟨.default [], "default", ⟨"design", 4, 1⟩, false⟩], "switch",
      ⟨"design", 3, 1⟩, false⟩], "case", ⟨"design", 2, 1⟩, false⟩,
    ⟨.default [⟨.goto "A", "next", ⟨"design", 6, 1⟩, false⟩], "default", ⟨"design", 5, 1⟩, true⟩,
    ⟨.case [.bits "11"] [], "case", ⟨"design", 7, 1⟩, false⟩,
    ⟨.default [], "default", ⟨"design", 8, 1⟩, false⟩,
    ⟨.case [.bits "11"] [], "case", ⟨"design", 9, 1⟩, false⟩]
  last : Step := ⟨.case [.bits "10"] [⟨.add combinational [.assign lamp lamp], "add", ⟨"design", 11, 1⟩, false⟩], "case",
    ⟨"design", 10, 1⟩, false⟩

theorem lateCases_warned : ∃ entered here later answer, Reached vacant.start ∧
    runBody lateCases.front entered = .ok () here ∧
    (∃ before default behind body mid after, lateCases.front = before ++ default :: behind ∧
      default.call = .default body ∧ runBody before entered = .ok () mid ∧ default.run mid = .ok () after) ∧
    runCall default (.switch lateCases.select lateCases) vacant.start = .ok answer later ∧
    ∃ kept, Registration.Parted kept ∧ kept.map (fun entry ↦ (entry.1, entry.2.1)) =
      [([.bits "0-"], false), ([.bits "11"], false), ([], false), ([.bits "10"], true)] := by
  obtain ⟨enter, enters⟩ : ∃ enter, (Call.switch lateCases.select lateCases).enter default = some enter := ⟨_, rfl⟩
  have runs : ((runCall default (.switch lateCases.select lateCases)).returned? vacant.start).isSome = true := by
    decide +kernel
  have computed : (((Call.switch lateCases.select lateCases).enter default).bind fun enter ↦
      (enter.returned? vacant.start).bind fun started ↦ ((runBody lateCases.front).returned? started.2).bind fun ran ↦
        (lateCases.last.run.returned? ran.2).map fun _ ↦ (lateCases.last.call.warns lateCases.last.loc ran.2,
          (firsts (Registration.markedEntries 2 (warnings lateCases started.2))).map
            fun entry ↦ (entry.1, entry.2.1))) =
      some (true, [([.bits "0-"], false), ([.bits "11"], false), ([], false), ([.bits "10"], true)]) := by
    decide +kernel
  rw [enters, Option.bind_some] at computed
  obtain ⟨⟨_, entered⟩, started, computed⟩ := Option.bind_eq_some_iff.1 computed
  obtain ⟨⟨_, here⟩, ran, computed⟩ := Option.bind_eq_some_iff.1 computed
  obtain ⟨⟨_, after⟩, ended, computed⟩ := Option.map_eq_some_iff.1 computed
  obtain ⟨warns, marks⟩ := Prod.mk.inj computed
  obtain ⟨⟨answer, later⟩, returned⟩ := Option.isSome_iff_exists.1 runs
  have returned := Run.returned_of_returned? returned
  have ran := Run.returned_of_returned? ran
  have behind := (Reached.start vacant).cases_behind_default enters (Run.returned_of_returned? started)
  obtain ⟨-, reported, -⟩ := behind.1 lateCases.front lateCases.last [] here after rfl ran rfl
    (.inl ⟨(), Run.returned_of_returned? ended⟩)
  obtain ⟨value, last, kept, emitted, evaluated, -, -, listed, -, parted⟩ := behind.2 answer later returned
  obtain rfl := Except.ok.inj evaluated
  refine ⟨entered, here, later, answer, .start vacant, ran, reported.1 (of_decide_eq_true warns), returned, kept, parted, ?_⟩
  rw [listed]
  exact marks

end RegisterTransfer
