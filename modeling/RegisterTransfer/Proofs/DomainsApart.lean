import RegisterTransfer.Proofs.ParallelRuns

/-!
# Domains do not interfere

If every call of a program returns, steps that add statements to other domains may be left out anywhere: every call
still returns, and the fragment holds the same statements in the domain that is looked at, so that the same signals are
driven from there. The same goes for the parts of the module.
-/

namespace RegisterTransfer

/-- Two runs with machines of the same numbers of which only one domain is observed, while the first one is accepted. -/
def Likeness.observing (domain : String) : Likeness where
  ids := id
  injective := Function.injective_id
  hidden _ := False
  unknown _ := False
  extra _ _ := False
  shows _ := 1
  steady _ _ := rfl
  observed other := other = domain
  same _ _ := ⟨rfl, fun _ _ ↦ not_false⟩
  lost _ := False
  taken _ := False
  strict _ := False
  lenient := True
  ordinary _ _ strict := strict
  traces first second :=
    (∀ entry ∈ first, ∃ answer, entry.result = .ok answer) → ∀ entry ∈ second, ∃ answer, entry.result = .ok answer
  start := 0
  reached _ := Nat.zero_le _
  entered {first second entry other} traces same accepted := by
    rw [List.forall_mem_append] at accepted ⊢
    exact ⟨traces accepted.1, fun last mem ↦ List.mem_singleton.1 mem ▸
      same.result.1 (accepted.2 entry (List.mem_singleton_self _))⟩
  skipped _ _ _ entry traces accepted := traces fun other mem ↦ accepted other (List.mem_append_left _ mem)

theorem Mention.fits_observing (domain : String) (mention : Mention) : mention.Fits (.observing domain) := by
  cases mention with
  | literal value => exact Likeness.value_eq ⟨rfl, fun _ ↦ rfl⟩ value
  | stored name => exact not_false
  | key name => exact not_false
  | part name => exact not_false

theorem Step.every_fits_observing (domain : String) (steps : List Step) :
    Step.Every (Call.Fits (.observing domain)) steps :=
  Step.every_of (fun _ mention _ ↦ mention.fits_observing domain) steps

/-- The program with other steps. -/
def Program.withSteps (program : Program) (steps : List Step) : Program := { program with steps := steps }

theorem Program.start_alike (domain : String) (program : Program) :
    (Likeness.observing domain).Sessions program.start program.start := by
  have module : program.start = Session.inModule { program.start with started := 0 } program.settings program.loc := rfl
  rw [module]
  exact Likeness.sessions_inModule ⟨fun _ _ ↦ rfl, fun _ _ ↦ rfl⟩ (fun _ _ ↦ rfl)
    (fun _ _ ↦ ⟨not_false, fun _ ↦ not_false⟩) (fun accepted ↦ accepted) program.settings program.loc

theorem Program.start_stands (program : Program) : program.start.Stands :=
  ⟨Builder.sound_start .., Builder.placed_start ..⟩

/-- If every call of a program returns, steps that add to other domains than a given one may be left out at any depth:
every call still returns, and the fragments agree in that domain. -/
theorem Program.domains_apart {program : Program} {domain : String} {steps : List Step} {session : Session}
    {fragment : Fragment} (omits : Step.Omits (· ≠ domain) program.steps steps)
    (outcome : program.outcome? = some (session, fragment)) (accepted : session.Accepted) :
    ∃ later other, (program.withSteps steps).outcome? = some (later, other) ∧ later.Accepted ∧
      Fragment.Agrees domain fragment other := by
  obtain ⟨ran, elaborated⟩ := Program.outcome?_eq_some outcome
  have stands := program.start_stands
  have follow := (omits.follow (fun _ other ↦ ⟨trivial, other⟩) (Step.every_fits_observing domain steps)).2
  have mirrors := follow program.start program.start stands stands (program.start_alike domain)
  rw [Likeness.Mirrors, Likeness.Meets, ran] at mirrors
  have counts : (Likeness.observing domain).Counts session.trace := by
    intro entry mem error refused
    obtain ⟨answer, returned⟩ := accepted entry mem
    cases refused.symm.trans returned
  obtain ⟨_, later, again, alike⟩ := mirrors counts
  have placed : ∀ {these : List Step} {last : Session}, runAll these program.start = .ok () last →
      last.builder.Sound ∧ ∃ behind, last.builder.control.AtBody behind [] := by
    intro these last ended
    have stays := Ends.of_ok ended ((proceed these).2 _ stands.sound stands.placed)
    exact ⟨stays.sound, stays.level.body _ _ (Control.atBody_nil [])⟩
  obtain ⟨sound, behind, place⟩ := placed ran
  obtain ⟨also, grown, there⟩ := placed again
  obtain ⟨other, made, agrees⟩ := alike.builder.components sound also place there rfl program.platform fragment elaborated
  exact ⟨later, other, Program.outcome?_of_elaborate again made, alike.trace accepted, agrees⟩

/-- Two chains that write a register, with combinational assignments in the first one and between them. -/
def interleaved : Program where
  settings := {}
  loc := ⟨"design", 0, 1⟩
  steps := [
    ⟨.ifThen test [
      ⟨.add combinational [.assign output test], "comb", ⟨"design", 2, 1⟩, false⟩,
      ⟨.add synchronous [.assign count test], "sync", ⟨"design", 3, 1⟩, false⟩], "if", ⟨"design", 1, 1⟩, false⟩,
    ⟨.add combinational [.assign output test], "comb", ⟨"design", 4, 1⟩, false⟩,
    ⟨.ifThen test [⟨.add synchronous [.assign count output], "sync", ⟨"design", 6, 1⟩, false⟩], "if",
      ⟨"design", 5, 1⟩, false⟩]
  platform := none
where
  test : Term := .literal (.signal ⟨.declared "test", "test", .unsigned 1, 0, none⟩)
  output : Term := .literal (.signal ⟨.declared "output", "output", .unsigned 1, 0, none⟩)
  count : Term := .literal (.signal ⟨.declared "count", "count", .unsigned 1, 0, none⟩)

theorem interleaved_apart : ∃ session fragment, interleaved.outcome? = some (session, fragment) ∧ session.Accepted ∧
    ∃ later other, (interleaved.withSteps [
      ⟨.ifThen interleaved.test [⟨.add synchronous [.assign interleaved.count interleaved.test], "sync",
        ⟨"design", 3, 1⟩, false⟩], "if", ⟨"design", 1, 1⟩, false⟩,
      ⟨.ifThen interleaved.test [⟨.add synchronous [.assign interleaved.count interleaved.output], "sync",
        ⟨"design", 6, 1⟩, false⟩], "if", ⟨"design", 5, 1⟩, false⟩]).outcome? = some (later, other) ∧
      later.Accepted ∧ Fragment.Agrees synchronous fragment other := by
  have computed : interleaved.outcome?.any (fun outcome ↦ outcome.1.trace.all fun entry ↦
      entry.result.toOption.isSome) = true := by decide +kernel
  obtain ⟨⟨session, fragment⟩, outcome, returned⟩ := (Option.any_eq_true _ _).1 computed
  have accepted : session.Accepted := by
    intro entry mem
    have here := List.all_eq_true.1 returned entry mem
    cases result : entry.result with
    | ok answer => exact ⟨answer, rfl⟩
    | error error =>
      rw [result] at here
      exact absurd here Bool.false_ne_true
  have apart : ¬combinational = synchronous := by decide
  refine ⟨session, fragment, outcome, accepted, Program.domains_apart ?_ outcome accepted⟩
  refine .within _ rfl (.omitted apart _ _ _ _ (.kept _ rfl .nil)) (.omitted apart _ _ _ _ (.within _ rfl ?_ .nil))
  exact .refl _ _

end RegisterTransfer
