import RegisterTransfer.Proofs.Reading

/-!
# Lowering by structure

The stack and the levels of the builder only find out what belongs together. The fragment of an accepted program is
the one that its description comes to, domain by domain and statement by statement, with all places.
-/

namespace RegisterTransfer

/-! ## Accepted programs -/

/-- The session in which all steps of a program have run, if every one of them was accepted. -/
def Program.accepted? (program : Program) : Option Session :=
  match runAll program.steps program.start with
  | .ok () session => if session.trace.all fun entry ↦ entry.result.isOk then some session else none
  | .error _ _ => none

theorem Program.accepted?_eq_some {program : Program} {session : Session}
    (accepted : program.accepted? = some session) :
    runAll program.steps program.start = .ok () session ∧ session.Accepted := by
  unfold accepted? at accepted
  split at accepted
  · rename_i ran
    split at accepted
    · rename_i returned
      rw [Option.some.injEq] at accepted
      subst accepted
      refine ⟨ran, fun entry mem ↦ ?_⟩
      have kind := List.all_eq_true.1 returned entry mem
      cases result : entry.result with
      | ok answer => exact ⟨answer, rfl⟩
      | error error => simp [result, Except.isOk, Except.toBool] at kind
    · simp at accepted
  · simp at accepted

/-! ## Descriptions of accepted programs -/

/-- Every transition of a description comes to an assignment, and its indicators are assignments. -/
structure Description.Settled (description : Description) : Prop where
  transitions : (Block.lowerAll description.blocks ∅).Holds fun _ leaf ↦ leaf.Settles description.machines
  indicators : description.indicators.all Statement.isPlain = true

/-- An accepted program has a description, and its builder holds what that comes to. -/
theorem Program.described {program : Program} {session : Session} (accepted : program.accepted? = some session)
    (tidy : tidyAll program.steps = true) : session.builder.Sound ∧
      (∃ behind, session.builder.control.AtBody behind []) ∧ ∃ description, program.description? = some description ∧
        description.Settled ∧ session.builder.flushed.settledStatements = description.statements := by
  obtain ⟨ran, returned⟩ := Program.accepted?_eq_some accepted
  have sound := Builder.sound_start program.settings 0 program.loc
  have here : (Passage.body .empty).At none [] ∅ program.start.builder := ⟨Control.atBody_nil [], rfl, rfl⟩
  have stays := Ends.of_ok ran ((proceed program.steps).2 program.start sound here.placed)
  have follows := Ends.of_ok ran ((reads_of_tidy _ tidy program.start _ none [] ∅ sound here (by simp)).2)
  obtain ⟨after, read, grows, there⟩ := follows returned
  cases grows with
  | body _ draft =>
    have known : Ledger.of program.start = .start program.settings .empty 0 := rfl
    rw [known] at read
    obtain ⟨-, lowered⟩ := there.flushed stays.sound.stacked
    obtain ⟨-, machines, indicators⟩ := session.builder.alike_flushed
    have settles := stays.sound.settles_flushed there.1
    rw [machines, lowered] at settles
    refine ⟨stays.sound, ⟨_, there.1⟩, ⟨draft.blocks, session.builder.machines, session.builder.indicators⟩, ?_,
      ⟨settles, stays.sound.isPlain_indicators⟩, ?_⟩
    · simp only [description?, Option.bind_eq_bind]
      exact (congrArg (Option.bind · _) read).trans rfl
    · rw [Builder.settledStatements, Description.statements, machines, indicators, lowered]
      rfl

namespace Builder

/-- Elaboration is refused only if a part is, and makes a fragment that has a property otherwise. -/
def Elaborates (builder : Builder) (platform : Option Platform) (holds : Fragment → Prop) : Prop :=
  match elaborateParts platform builder.parts (.empty builder.loc) with
  | .error failure => builder.elaborate platform = .error failure
  | .ok _ => ∃ fragment, builder.elaborate platform = .ok fragment ∧ holds fragment

theorem Elaborates.mono {builder : Builder} {platform : Option Platform} {holds wanted : Fragment → Prop}
    (elaborates : builder.Elaborates platform holds) (implies : ∀ fragment, holds fragment → wanted fragment) :
    builder.Elaborates platform wanted := by
  unfold Elaborates at elaborates ⊢
  split at elaborates
  · exact elaborates
  · exact elaborates.imp fun fragment made ↦ ⟨made.1, implies fragment made.2⟩

theorem Elaborates.of_eq_ok {builder : Builder} {platform : Option Platform} {holds : Fragment → Prop}
    (elaborates : builder.Elaborates platform holds) {fragment : Fragment}
    (elaborated : builder.elaborate platform = .ok fragment) : holds fragment := by
  unfold Elaborates at elaborates
  split at elaborates
  · rw [elaborated] at elaborates
    contradiction
  · obtain ⟨made, same, holds⟩ := elaborates
    rw [elaborated, Except.ok.injEq] at same
    exact same ▸ holds

/-- Between the steps of a module, its fragment holds what has been recorded once all constructs are closed. -/
theorem Sound.elaborates {builder : Builder} {behind : Option IfChain} (sound : builder.Sound)
    (place : builder.control.AtBody behind []) (platform : Option Platform) :
    builder.Elaborates platform fun fragment ↦ fragment.statements = builder.flushed.settledStatements := by
  have elaborates : builder.Elaborates platform fun fragment ↦
      fragment.statements = builder.flushed.settledStatements ∧ fragment.Driven := elaborate_eq sound place platform
  exact elaborates.mono fun _ made ↦ made.1

end Builder

/-- The fragment of an accepted program holds the statements of its description, unless one of its parts has none. -/
theorem Program.elaborates_description {program : Program} {session : Session}
    (accepted : program.accepted? = some session) (tidy : tidyAll program.steps = true) :
    ∃ description, program.description? = some description ∧
      session.builder.Elaborates program.platform fun fragment ↦ fragment.statements = description.statements := by
  obtain ⟨sound, ⟨behind, place⟩, description, read, -, settled⟩ := Program.described accepted tidy
  have elaborates := sound.elaborates place program.platform
  refine ⟨description, read, elaborates.mono fun fragment made ↦ ?_⟩
  calc fragment.statements
      = session.builder.flushed.settledStatements := made
    _ = description.statements := settled

/-! ## A crossing -/

/-- A light with two states, and a chain that goes on behind a query. -/
def crossing : Program where
  settings := {}
  loc := ⟨"design", 0, 1⟩
  steps := [
    ⟨.machine (some "light") none none "light" [
      ⟨.state "red" [
        ⟨.ifThen (.literal timer) [⟨.goto "green", "next", ⟨"design", 4, 1⟩, false⟩], "if", ⟨"design", 3, 1⟩, false⟩],
        "state", ⟨"design", 2, 1⟩, false⟩,
      ⟨.state "green" [
        ⟨.switch (.literal mode) [
          ⟨.case [.bits "0-"] [⟨.add synchronous [count], "sync", ⟨"design", 8, 1⟩, false⟩], "case",
            ⟨"design", 7, 1⟩, false⟩,
          ⟨.default [⟨.goto "red", "next", ⟨"design", 10, 1⟩, false⟩], "default", ⟨"design", 9, 1⟩, false⟩],
          "switch", ⟨"design", 6, 1⟩, false⟩],
        "state", ⟨"design", 5, 1⟩, false⟩],
      "fsm", ⟨"design", 1, 1⟩, false⟩,
    ⟨.ifThen (.literal timer) [⟨.add synchronous [count], "sync", ⟨"design", 12, 1⟩, false⟩], "if",
      ⟨"design", 11, 1⟩, false⟩,
    ⟨.ongoing "light" "red" (some "stop"), "ongoing", ⟨"design", 13, 1⟩, false⟩,
    ⟨.elseIf (.stored "stop") [⟨.add combinational [lamp], "comb", ⟨"design", 15, 1⟩, false⟩], "elif",
      ⟨"design", 14, 1⟩, false⟩]
  platform := none
where
  timer : Value := .signal ⟨.declared "timer", "timer", .unsigned 1, 0, none⟩
  mode : Value := .signal ⟨.declared "mode", "mode", .unsigned 2, 0, none⟩
  count : StatementTerm :=
    .assign (.literal (.signal ⟨.declared "count", "count", .unsigned 4, 0, none⟩)) (.literal mode)
  lamp : StatementTerm :=
    .assign (.literal (.signal ⟨.declared "lamp", "lamp", .unsigned 1, 0, none⟩)) (.literal timer)

theorem crossing_elaborates : ∃ session fragment, crossing.accepted? = some session ∧
    session.builder.elaborate none = .ok fragment ∧ fragment.statements.keys = [synchronous, combinational] := by
  have computed : crossing.accepted?.any (fun session ↦ (session.builder.fragment? none).any fun fragment ↦
      decide (fragment.statements.keys = [synchronous, combinational])) = true := by decide +kernel
  obtain ⟨session, accepted, made⟩ := (Option.any_eq_true _ _).1 computed
  obtain ⟨fragment, made, keys⟩ := (Option.any_eq_true _ _).1 made
  exact ⟨session, fragment, accepted, Builder.elaborate_of_fragment? made, of_decide_eq_true keys⟩

theorem crossing_description : ∃ session description fragment, crossing.accepted? = some session ∧
    crossing.description? = some description ∧ session.builder.elaborate none = .ok fragment ∧
      fragment.statements = description.statements ∧ fragment.statements.keys = [synchronous, combinational] := by
  obtain ⟨session, fragment, accepted, elaborated, keys⟩ := crossing_elaborates
  obtain ⟨description, read, elaborates⟩ := Program.elaborates_description accepted (by decide +kernel)
  exact ⟨session, description, fragment, accepted, read, elaborated, elaborates.of_eq_ok elaborated, keys⟩

end RegisterTransfer
