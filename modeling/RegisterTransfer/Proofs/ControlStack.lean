import RegisterTransfer.Proofs.FailedConstruct

/-!
# The control stack between calls

Between any two calls the stack of open constructs is as high as the level of the body that is recorded, or one frame
higher where a chain may still go on. A call comes back to the level and the place it was made at, however it ends and
whatever its body does. Where it is refused, the frames are those from before: all of them for a call that goes on with
an open construct, and all but a chain that had ended for a call that opens one.
-/

namespace RegisterTransfer

namespace Control

theorem Stacked.depth_eq {frames : List Frame} (stacked : Stacked frames) {index : Nat} {chain : IfChain}
    (found : frames.reverse[index]? = some (.chain chain)) : chain.depth = index := by
  induction frames with
  | nil => simp at found
  | cons frame rest ih =>
    rw [List.reverse_cons, List.getElem?_append] at found
    split at found
    · exact ih stacked.2 found
    · rename_i above
      rw [List.getElem?_singleton] at found
      split at found
      · rename_i top
        rw [Option.some.injEq] at found
        rw [stacked.1 chain found]
        rw [List.length_reverse] at above top
        omega
      · contradiction

/-- How the frames, the level and the place fit together. -/
structure Fits (control : Control) : Prop where
  low : control.depth ≤ control.height
  high : control.height ≤ control.depth + 1
  /-- A chain records its own position in the stack, counted from the outermost frame. -/
  levels : ∀ (index : Nat) (chain : IfChain), control.frames.reverse[index]? = some (.chain chain) → chain.depth = index
  /-- A frame above the level is a chain with a branch and without a last one. -/
  above : control.height = control.depth + 1 → control.context = none ∧
    ∃ chain, control.top? = some (.chain chain) ∧ chain.branches ≠ [] ∧
      ∀ branch ∈ chain.branches, branch.test.isSome = true
  /-- Directly inside of a construct, its frame is on top and at the level. -/
  inside : ∀ construct, control.context = some construct → control.height = control.depth ∧ 1 ≤ control.depth ∧
    ∃ frame, control.top? = some frame ∧ frame.construct = construct

theorem AtBody.fits {control : Control} {behind : Option IfChain} {base : List Frame}
    (stacked : Stacked control.frames) (place : control.AtBody behind base) : control.Fits where
  low := by simp [height, place.frames, place.depth]
  high := by
    cases behind with
    | none => simp [height, place.frames, place.depth]
    | some chain => simp [height, place.frames, place.depth]
  levels _ _ found := stacked.depth_eq found
  above higher := by
    cases behind with
    | none => simp [height, place.frames, place.depth] at higher
    | some chain =>
      obtain ⟨-, branches, conditions⟩ := place.growing chain rfl
      exact ⟨place.context, chain, by simp [top?, place.frames], branches, conditions⟩
  inside construct within := by
    rw [place.context] at within
    contradiction

theorem AtConstruct.fits {control : Control} {frame : Frame} {base : List Frame}
    (stacked : Stacked control.frames) (place : control.AtConstruct frame base) : control.Fits where
  low := by simp [height, place.frames, place.depth]
  high := by simp [height, place.frames, place.depth]
  levels _ _ found := stacked.depth_eq found
  above higher := by simp [height, place.frames, place.depth] at higher
  inside construct within := by
    rw [place.context, Option.some.injEq] at within
    exact ⟨by simp [height, place.frames, place.depth], by simp [place.depth], frame, by simp [top?, place.frames],
      within⟩

theorem Placed.fits {control : Control} (placed : control.Placed) (stacked : Stacked control.frames) :
    control.Fits := by
  rcases placed with ⟨behind, base, place⟩ | ⟨frame, base, place⟩
  · exact place.fits stacked
  · exact place.fits stacked

/-- All the frames of before, or all but a chain above the level. -/
def Cleared (before after : Control) : Prop :=
  after.frames = before.frames ∨ before.height = before.depth + 1 ∧ after.frames = before.frames.tail

end Control

namespace Builder

theorem cleared_flushed {builder : Builder} (stacked : Control.Stacked builder.control.frames)
    (placed : builder.control.Placed) : builder.control.Cleared builder.flushed.control := by
  rcases placed with ⟨behind, base, place⟩ | ⟨frame, base, place⟩
  · rw [control_flushed stacked place]
    cases behind with
    | none => exact .inl (by simp [place.frames])
    | some chain => exact .inr (by simp [Control.height, place.frames, place.depth])
  · rw [flushed_of_atConstruct stacked place]
    exact .inl rfl

end Builder

/-! ## Refused calls -/

theorem refused_opening_ends {session : Session} (sound : session.builder.Sound)
    (placed : session.builder.control.Placed) (loc : Location) {call : Call (List Step)} (opens : call.opens = true) :
    Ends (runCall loc call) session
      ⟨fun _ _ ↦ True, fun _ later ↦ session.builder.control.Cleared later.builder.control⟩ := by
  refine (refused_construct_ends sound placed loc (call.isConstruct_of_opens opens)).mono (fun _ _ _ ↦ trivial) ?_
  rintro _ later ⟨-, ran, -, ⟨control, -, -⟩ | ⟨control, -⟩⟩
  · exact .inl (congrArg Control.frames control)
  · have cleared := Builder.cleared_flushed sound.stacked placed
    rwa [← control] at cleared

/-- In every reached session the control stack fits the level and the place. Every call comes back to them, and a
refused one to the frames. -/
theorem Reached.control_restored {session : Session} (reached : Reached session) (loc : Location)
    (call : Call (List Step)) : session.builder.control.Fits ∧
      (∀ answer later, runCall loc call session = .ok answer later →
        later.builder.control.depth = session.builder.control.depth ∧
        later.builder.control.context = session.builder.control.context) ∧
      ∀ error later, runCall loc call session = .error (.refused error) later →
        later.builder.control.depth = session.builder.control.depth ∧
        later.builder.control.context = session.builder.control.context ∧
        (call.continues = true → later.builder.control.frames = session.builder.control.frames) ∧
        (call.opens = true → session.builder.control.Cleared later.builder.control) := by
  obtain ⟨sound, placed⟩ := reached.sound
  have proceeds := runCall_proceeds loc call (fun body _ ↦ proceed body) session sound placed
  refine ⟨placed.fits sound.stacked, fun answer later ran ↦ ?_, fun error later ran ↦ ?_⟩
  · have stays := Ends.of_ok ran proceeds
    exact ⟨stays.level.depth, stays.level.context⟩
  · have stays := Ends.of_refused ran proceeds
    refine ⟨stays.level.depth, stays.level.context, fun continues ↦ ?_, fun opens ↦ ?_⟩
    · have rests := Ends.of_refused ran (refused_continuing_ends sound placed loc continues)
      rw [rests.2.1]
    · exact Ends.of_refused ran (refused_opening_ends sound placed loc opens)

/-! ## A chain that survives a refused branch -/

/-- A module with an open chain. -/
def openedChain : Program where
  settings := {}
  loc := ⟨"design", 0, 1⟩
  steps := [⟨.ifThen (.literal (.const (.ofShape 1 (.unsigned 1)))) [], "if", ⟨"design", 1, 1⟩, false⟩]
  platform := none

/-- A further branch of the chain, which opens another chain before it is refused. -/
def refusedBranch : Call (List Step) :=
  .elseIf (.literal (.const (.ofShape 1 (.unsigned 1)))) [
    ⟨.ifThen (.literal (.const (.ofShape 1 (.unsigned 1)))) [], "if", ⟨"design", 3, 1⟩, false⟩,
    ⟨.raise "stop", "fail", ⟨"design", 4, 1⟩, false⟩]

theorem refusedBranch_restored : ∃ session error later, Reached session ∧
    runCall ⟨"design", 2, 1⟩ refusedBranch session = .error (.refused error) later ∧
      session.builder.control.height = 1 ∧ session.builder.control.Fits ∧
        later.builder.control.depth = 0 ∧ later.builder.control.context = none ∧
          later.builder.control.frames = session.builder.control.frames := by
  have computed : openedChain.outcome?.any (fun outcome ↦
      ((runCall ⟨"design", 2, 1⟩ refusedBranch).refused? outcome.1).any fun _ ↦
        decide (outcome.1.builder.control.height = 1 ∧ outcome.1.builder.control.depth = 0 ∧
          outcome.1.builder.control.context = none)) = true := by
    decide +kernel
  obtain ⟨⟨session, fragment⟩, outcome, refused⟩ := (Option.any_eq_true _ _).1 computed
  obtain ⟨⟨error, later⟩, refused, place⟩ := (Option.any_eq_true _ _).1 refused
  obtain ⟨height, depth, context⟩ := of_decide_eq_true place
  have reached := Reached.of_outcome? outcome
  have ran := Run.refused_of_refused? refused
  obtain ⟨fits, -, restored⟩ := reached.control_restored ⟨"design", 2, 1⟩ refusedBranch
  obtain ⟨depth', context', frames, -⟩ := restored error later ran
  exact ⟨session, error, later, reached, ran, height, fits, depth'.trans depth, context'.trans context, frames rfl⟩

end RegisterTransfer
