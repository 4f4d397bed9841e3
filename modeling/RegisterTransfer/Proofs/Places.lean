import RegisterTransfer.Proofs.Leaves
import RegisterTransfer.Proofs.Outcome

/-!
# Places in a description

Between two calls the builder is in one of two kinds of places. In a body, the frames are those of the
constructs around it, with at most one chain on top that has ended or may still go on. Directly inside of a
switch or of a machine, the frame of that construct is on top. Closing what has ended does nothing in the second
place and turns the chain into branch statements in the first.
-/

namespace RegisterTransfer

/-! ## Closing a chain -/

/-- The digits that ask for condition `index` out of `count`, highest condition first. -/
def priorityDigits (index count : Nat) : String :=
  String.ofList ((List.range count).reverse.map fun bit ↦ if bit = index then '1' else '-')

theorem priorityPattern_of_lt {index count : Nat} (h : index < count) :
    priorityPattern index count = .ok (priorityDigits index count) := if_pos h

namespace IfChain

/-- Every branch has a condition, save the last one perhaps. -/
def Ordered (branches : List Branch) : Prop := ∀ branch ∈ branches.dropLast, branch.test.isSome = true

theorem Ordered.tail {first : Branch} {rest : List Branch} (ordered : Ordered (first :: rest)) : Ordered rest := by
  intro branch mem
  apply ordered branch
  cases rest with
  | nil => simp at mem
  | cons next rest => exact List.mem_cons_of_mem _ mem

/-- Nothing follows a branch without a condition. -/
theorem Ordered.eq_nil {first : Branch} {rest : List Branch} (ordered : Ordered (first :: rest))
    (last : first.test = none) : rest = [] := by
  cases rest with
  | nil => rfl
  | cons next rest =>
    have some := ordered first (by simp)
    simp [last] at some

/-- There is a branch, and every branch has a condition, so that another one may follow. -/
def Growing (chain : IfChain) : Prop :=
  chain.branches ≠ [] ∧ ∀ branch ∈ chain.branches, branch.test.isSome = true

/-- The cases of branches that start at a position. -/
def caseListFrom (count : Nat) : Nat → List Branch → List (Case Body)
  | _, [] => []
  | index, branch :: rest =>
    ⟨if branch.test.isSome then [.bits (priorityDigits index count)] else [], branch.body, some branch.loc⟩ ::
      caseListFrom count (index + 1) rest

def caseList (chain : IfChain) : List (Case Body) := caseListFrom chain.tests.length 0 chain.branches

theorem map_body_caseListFrom (count index : Nat) (branches : List Branch) :
    (caseListFrom count index branches).map Case.body = branches.map Branch.body := by
  induction branches generalizing index with
  | nil => rfl
  | cons branch rest ih => simp [caseListFrom, ih]

theorem cases_eq_caseListFrom {branches : List Branch} (ordered : Ordered branches) (count index : Nat)
    (fits : index + (branches.filterMap Branch.test).length ≤ count) :
    cases count index branches = .ok (caseListFrom count index branches) := by
  induction branches generalizing index with
  | nil => rfl
  | cons branch rest ih =>
    obtain ⟨test, body, loc⟩ := branch
    cases test with
    | some condition =>
      have h : index + ((rest.filterMap Branch.test).length + 1) ≤ count := by simpa using fits
      have here : index < count := by omega
      have next := ih ordered.tail (index + 1) (by omega)
      simp only [cases, caseListFrom, priorityPattern_of_lt here, next]
      rfl
    | none =>
      rw [ordered.eq_nil rfl]
      rfl

/-- A chain whose conditions come first closes into one branch statement for every touched domain. -/
theorem lower_eq_split {chain : IfChain} (ordered : Ordered chain.branches) :
    chain.lower = .ok (Lowering.split chain.test chain.caseList chain.loc) := by
  have listed : cases chain.tests.length 0 chain.branches = .ok chain.caseList :=
    cases_eq_caseListFrom ordered _ _ (by simp [tests])
  unfold lower
  split
  · rename_i untouched
    have none : Lowering.domains chain.caseList = [] := by
      rw [List.eq_nil_iff_forall_not_mem]
      intro domain mem
      obtain ⟨branch, found, key⟩ := (Lowering.mem_domains_iff _ domain).1 mem
      have body : branch.body ∈ chain.branches.map Branch.body := by
        rw [← map_body_caseListFrom chain.tests.length 0]
        exact List.mem_map_of_mem found
      obtain ⟨source, listed, eq⟩ := List.mem_map.1 body
      have empty := List.all_eq_true.1 untouched source listed
      rw [eq, ← Table.keys_eq_nil_iff] at empty
      rw [empty] at key
      simp at key
    rw [Lowering.split, none]
    rfl
  · rw [listed]
    rfl

theorem Growing.ordered {chain : IfChain} (growing : chain.Growing) : Ordered chain.branches :=
  fun branch mem ↦ growing.2 branch (List.dropLast_subset _ mem)

def extend (chain : IfChain) (branch : Branch) : IfChain := { chain with branches := chain.branches ++ [branch] }

theorem growing_extend {chain : IfChain} (conditions : ∀ branch ∈ chain.branches, branch.test.isSome = true)
    (condition : Value) (body : Body) (loc : Location) : (chain.extend ⟨some condition, body, loc⟩).Growing := by
  refine ⟨by simp [extend], fun branch mem ↦ ?_⟩
  rcases List.mem_append.1 mem with mem | mem
  · exact conditions branch mem
  · rw [List.mem_singleton.1 mem]
    rfl

/-- The last branch needs no condition. -/
theorem ordered_extend {chain : IfChain} (conditions : ∀ branch ∈ chain.branches, branch.test.isSome = true)
    (last : Branch) : Ordered (chain.extend last).branches := by
  intro branch mem
  rw [extend, List.dropLast_concat] at mem
  exact conditions branch mem

/-- The body that holds what a chain comes to, behind what was there. -/
def close (chain : IfChain) (body : Body) : Body :=
  body.appendAll (Lowering.split chain.test chain.caseList chain.loc)

end IfChain

/-! ## Frames and places -/

namespace Control

/-- The machines that are open, the innermost first. -/
def machines (frames : List Frame) : List MachineId := frames.filterMap machineOf?

/-- Every chain lies at the height of the stack that it was opened at. -/
def Stacked : List Frame → Prop
  | [] => True
  | frame :: rest => (∀ chain, frame = .chain chain → chain.depth = rest.length) ∧ Stacked rest

/-- In a body over the frames `base`, perhaps behind a chain. -/
structure AtBody (behind : Option IfChain) (base : List Frame) (control : Control) : Prop where
  frames : control.frames = (behind.map Frame.chain).toList ++ base
  depth : control.depth = base.length
  context : control.context = none
  growing : ∀ chain, behind = some chain → chain.depth = base.length ∧ chain.Growing

/-- Directly inside of the construct that `frame` belongs to. -/
structure AtConstruct (frame : Frame) (base : List Frame) (control : Control) : Prop where
  frames : control.frames = frame :: base
  depth : control.depth = base.length + 1
  context : control.context = some frame.construct

def Placed (control : Control) : Prop :=
  (∃ behind base, control.AtBody behind base) ∨ ∃ frame base, control.AtConstruct frame base

theorem Placed.atBody {control : Control} (placed : control.Placed) (outside : control.context = none) :
    ∃ behind base, control.AtBody behind base := by
  rcases placed with body | ⟨frame, base, inside⟩
  · exact body
  · rw [inside.context] at outside
    contradiction

theorem Placed.atConstruct {control : Control} (placed : control.Placed) {construct : Construct}
    (within : control.context = some construct) :
    ∃ frame base, control.AtConstruct frame base ∧ frame.construct = construct := by
  rcases placed with ⟨behind, base, body⟩ | ⟨frame, base, inside⟩
  · rw [body.context] at within
    contradiction
  · rw [inside.context, Option.some.injEq] at within
    exact ⟨frame, base, inside, within⟩

/-- Directly inside of a switch, its frame is on top. -/
theorem Placed.topSwitch {control : Control} (placed : control.Placed) :
    ∃ switch base, control.context = some .switch → control.AtConstruct (.switch switch) base := by
  by_cases within : control.context = some .switch
  · obtain ⟨frame, base, place, construct⟩ := placed.atConstruct within
    cases frame with
    | switch switch => exact ⟨switch, base, fun _ ↦ place⟩
    | chain chain => simp [Frame.construct] at construct
    | machine id loc => simp [Frame.construct] at construct
  · exact ⟨⟨.cat [], default, ∅⟩, [], fun within' ↦ absurd within' within⟩

/-- Directly inside of a machine, its frame is on top. -/
theorem Placed.topMachine {control : Control} (placed : control.Placed) :
    ∃ id loc base, control.context = some .machine → control.AtConstruct (.machine id loc) base := by
  by_cases within : control.context = some .machine
  · obtain ⟨frame, base, place, construct⟩ := placed.atConstruct within
    cases frame with
    | machine id loc => exact ⟨id, loc, base, fun _ ↦ place⟩
    | chain chain => simp [Frame.construct] at construct
    | switch switch => simp [Frame.construct] at construct
  · exact ⟨default, default, [], fun within' ↦ absurd within' within⟩

theorem atBody_nil (base : List Frame) : AtBody none base ⟨base, base.length, none⟩ := ⟨rfl, rfl, rfl, by simp⟩

/-- Where a construct is left, its frame is gone from the stack. -/
theorem atBody_left {control : Control} {frame : Frame} {base : List Frame}
    (opened : control = ⟨frame :: base, base.length, none⟩) :
    AtBody none base ⟨base, control.depth, control.context⟩ := by
  rw [opened]
  exact atBody_nil base

/-- Where the inside of a construct is left, its frame is gone from the stack, and the level is one less than inside. -/
theorem AtConstruct.left {outer control : Control} {frame top : Frame} {base : List Frame}
    (place : control.AtConstruct top base) (opened : outer = ⟨frame :: base, base.length, none⟩) :
    AtBody none base ⟨base, control.depth - 1, outer.context⟩ := by
  rw [place.depth, opened, Nat.add_sub_cancel]
  exact atBody_nil base

theorem atBody_chain {chain : IfChain} {base : List Frame} (growing : chain.Growing)
    (height : chain.depth = base.length) : AtBody (some chain) base ⟨.chain chain :: base, base.length, none⟩ := by
  refine ⟨rfl, rfl, rfl, ?_⟩
  rintro _ ⟨rfl⟩
  exact ⟨height, growing⟩

theorem AtBody.eq {control : Control} {behind : Option IfChain} {base : List Frame}
    (place : control.AtBody behind base) :
    control = ⟨(behind.map Frame.chain).toList ++ base, base.length, none⟩ := by
  rw [← place.frames, ← place.depth, ← place.context]

theorem AtConstruct.height_eq {control : Control} {frame : Frame} {base : List Frame}
    (place : control.AtConstruct frame base) : control.depth + 0 = control.frames.length := by
  simp [place.frames, place.depth]

theorem AtConstruct.eq {control : Control} {frame : Frame} {base : List Frame}
    (place : control.AtConstruct frame base) :
    control = ⟨frame :: base, base.length + 1, some frame.construct⟩ := by
  rw [← place.frames, ← place.depth, ← place.context]

theorem AtBody.openChain? {control : Control} {behind : Option IfChain} {base : List Frame}
    (stacked : Stacked control.frames) (place : control.AtBody behind base) : control.openChain? = behind := by
  obtain ⟨frames, depth, context, growing⟩ := place
  cases behind with
  | some chain => simp [Control.openChain?, top?, frames, depth, (growing chain rfl).1]
  | none =>
    rw [Option.map_none, Option.toList_none, List.nil_append] at frames
    cases base with
    | nil => simp [Control.openChain?, top?, frames]
    | cons frame rest =>
      cases frame with
      | switch switch => simp [Control.openChain?, top?, frames]
      | machine id loc => simp [Control.openChain?, top?, frames]
      | chain chain =>
        rw [frames] at stacked
        have lies := stacked.1 chain rfl
        have above : ¬chain.depth = control.depth := by
          rw [depth, lies, List.length_cons]
          omega
        simp [Control.openChain?, top?, frames, above]

/-- Directly inside of a construct no chain can go on. -/
theorem AtConstruct.openChain? {control : Control} {frame : Frame} {base : List Frame}
    (stacked : Stacked control.frames) (place : control.AtConstruct frame base) : control.openChain? = none := by
  cases frame with
  | switch switch => simp [Control.openChain?, top?, place.frames]
  | machine id loc => simp [Control.openChain?, top?, place.frames]
  | chain chain =>
    rw [place.frames] at stacked
    have lies := stacked.1 chain rfl
    have above : ¬chain.depth = control.depth := by
      rw [place.depth, lies]
      omega
    simp [Control.openChain?, top?, place.frames, above]

end Control

/-! ## Closing what has ended -/

namespace Builder

/-- The builder once the chain that may still grow is closed, if there is one. -/
def flushed (builder : Builder) : Builder :=
  match builder.control.openChain? with
  | none => builder
  | some chain =>
    { builder with
      control := { builder.control with frames := builder.control.frames.tail }
      statements := chain.close builder.statements }

theorem flushed_of_atConstruct {builder : Builder} {frame : Frame} {base : List Frame}
    (stacked : Control.Stacked builder.control.frames) (place : builder.control.AtConstruct frame base) :
    builder.flushed = builder := by
  rw [flushed, place.openChain? stacked]

section AtBody

variable {builder : Builder} {behind : Option IfChain} {base : List Frame}
  (stacked : Control.Stacked builder.control.frames) (place : builder.control.AtBody behind base)

include stacked place

theorem control_flushed : builder.flushed.control = ⟨base, base.length, none⟩ := by
  rw [← place.depth, ← place.context, flushed, place.openChain? stacked]
  cases behind with
  | none =>
    have same : base = builder.control.frames := by simpa using place.frames.symm
    rw [same]
  | some chain =>
    have rest : builder.control.frames.tail = base := by simp [place.frames]
    rw [rest]

theorem statements_flushed : builder.flushed.statements =
    (behind.map fun chain ↦ chain.close builder.statements).getD builder.statements := by
  rw [flushed, place.openChain? stacked]
  cases behind <;> rfl

theorem atBody_flushed : builder.flushed.control.AtBody none base := by
  rw [control_flushed stacked place]
  exact Control.atBody_nil base

end AtBody

/-- What has been closed cannot go on. -/
theorem openChain?_flushed {builder : Builder} (stacked : Control.Stacked builder.control.frames)
    (placed : builder.control.Placed) : builder.flushed.control.openChain? = none := by
  rcases placed with ⟨behind, base, place⟩ | ⟨frame, base, place⟩
  · have left : Control.Stacked builder.flushed.control.frames := by
      rw [control_flushed stacked place]
      rw [place.frames] at stacked
      cases behind with
      | none => exact stacked
      | some chain => exact stacked.2
    exact (atBody_flushed stacked place).openChain? left
  · rw [flushed_of_atConstruct stacked place, place.openChain? stacked]

/-- A chain that is closed leaves the innermost machine as it is. -/
theorem innermostMachine?_flushed (builder : Builder) :
    builder.flushed.control.innermostMachine? = builder.control.innermostMachine? := by
  unfold flushed
  split
  · rfl
  · rename_i chain behind
    unfold Control.openChain? Control.top? at behind
    rw [Control.innermostMachine?, Control.innermostMachine?]
    cases frames : builder.control.frames with
    | nil => rfl
    | cons frame rest =>
      rw [frames] at behind
      cases frame with
      | chain other => rfl
      | switch switch => simp at behind
      | machine id loc => simp at behind

theorem control_flushed_congr {builder other : Builder} (same : other.control = builder.control) :
    other.flushed.control = builder.flushed.control := by
  rw [flushed, flushed, same]
  split
  · exact same
  · rfl

theorem statements_flushed_congr {builder other : Builder} (control : other.control = builder.control)
    (statements : other.statements = builder.statements) : other.flushed.statements = builder.flushed.statements := by
  rw [flushed, flushed, control, statements]
  split
  · exact statements
  · rfl

/-- Closing a chain reads and changes nothing but the frames and the statements. -/
theorem flushed_eq (builder : Builder) : builder.flushed =
    { builder with control := builder.flushed.control, statements := builder.flushed.statements } := by
  unfold flushed
  split <;> rfl

theorem depth_flushed (builder : Builder) : builder.flushed.control.depth = builder.control.depth := by
  unfold flushed
  split <;> rfl

theorem context_flushed (builder : Builder) : builder.flushed.control.context = builder.control.context := by
  unfold flushed
  split <;> rfl

theorem machines_flushed_eq (builder : Builder) : builder.flushed.machines = builder.machines := by rw [flushed_eq]

theorem indicators_flushed (builder : Builder) : builder.flushed.indicators = builder.indicators := by rw [flushed_eq]

theorem drivers_flushed (builder : Builder) : builder.flushed.drivers = builder.drivers := by rw [flushed_eq]

end Builder

namespace Build

theorem closeTop_chain {builder : Builder} {chain : IfChain} {base : List Frame}
    (top : builder.control.frames = .chain chain :: base) (ordered : IfChain.Ordered chain.branches) :
    closeTop builder = .ok () { builder with
      control := { builder.control with frames := base }
      statements := chain.close builder.statements } := by
  simp only [closeTop, Control.pop?, bind, EStateM.bind, get_apply, top, modify_apply, lowerFrame,
    IfChain.lower_eq_split ordered, sound, pure, EStateM.pure, appendBranches_eq]
  rfl

theorem closeTop_switch {builder : Builder} {switch : OpenSwitch} {base : List Frame}
    (top : builder.control.frames = .switch switch :: base) :
    closeTop builder = .ok () { builder with
      control := { builder.control with frames := base }
      statements := builder.statements.appendAll switch.lower } := by
  simp only [closeTop, Control.pop?, bind, EStateM.bind, get_apply, top, modify_apply, lowerFrame, pure, EStateM.pure,
    appendBranches_eq]

theorem flush_of_stale {builder after : Builder} {count : Nat} (stale : builder.control.staleCount = count)
    (close : closeFrames count builder = .ok () after) : flush builder = .ok () after := by
  have run : flush builder = closeFrames builder.control.staleCount builder := rfl
  rw [run, stale, close]

/-- Between two calls, nothing is left to close but one chain. -/
theorem flush_of_placed {builder : Builder} (stacked : Control.Stacked builder.control.frames)
    (placed : builder.control.Placed) : flush builder = .ok () builder.flushed := by
  rcases placed with ⟨behind, base, place⟩ | ⟨frame, base, place⟩
  · cases behind with
    | none =>
      have stale : builder.control.staleCount = 0 := by
        simp [Control.staleCount, Control.height, place.frames, place.depth]
      have same : builder.flushed = builder := by rw [Builder.flushed, place.openChain? stacked]
      rw [same]
      exact flush_of_stale stale rfl
    | some chain =>
      have stale : builder.control.staleCount = 1 := by
        simp [Control.staleCount, Control.height, place.frames, place.depth]
      have top := closeTop_chain place.frames (place.growing chain rfl).2.ordered
      apply flush_of_stale stale
      have rest : builder.control.frames.tail = base := by simp [place.frames]
      simp only [closeFrames, bind, EStateM.bind, top, Builder.flushed, place.openChain? stacked, rest]
      rfl
  · have stale : builder.control.staleCount = 0 := by
      simp [Control.staleCount, Control.height, place.frames, place.depth]
    rw [Builder.flushed_of_atConstruct stacked place]
    exact flush_of_stale stale rfl

end Build

end RegisterTransfer
