import RegisterTransfer.Proofs.Likeness
import Mathlib.Data.List.Forall2

/-!
# Builders that are alike

Two builders are alike if their frames are, if their bodies hold the same statements in the observed domains, and if
what they have collected elsewhere decides every call in the same way: what is claimed, which states each machine has,
and which names are taken. One of them may still have a chain to close that the other one has closed already.
-/

namespace RegisterTransfer

/-- Lists whose members are alike give the same where each pair of members does. -/
theorem map_eq_map_of_forall₂ {α β γ : Type} {R : α → β → Prop} {f : α → γ} {g : β → γ} {first : List α}
    {second : List β} (alike : List.Forall₂ R first second) (same : ∀ a b, R a b → f a = g b) :
    first.map f = second.map g := by
  induction alike with
  | nil => rfl
  | cons head _ ih => rw [List.map_cons, List.map_cons, same _ _ head, ih]

/-- A new value may be stored before or after all values are changed. -/
theorem Table.map_insert {κ α β : Type} [DecidableEq κ] (table : Table κ α) (f : κ → α → β) (key : κ) (value : α) :
    (table.insert key value).map f = (table.map f).insert key (f key value) := by
  refine Table.ext_entries ?_
  change (Table.upsertEntries key (fun _ ↦ value) table.entries).map _ =
    Table.upsertEntries key (fun _ ↦ f key value) (table.entries.map _)
  induction table.entries with
  | nil => rfl
  | cons entry rest ih =>
    by_cases here : entry.1 = key
    · simp [Table.upsertEntries, here]
    · simp [Table.upsertEntries, here, ih]

/-- What a body lists under a domain once branch statements are filed. -/
theorem Body.get?_appendAll (body : Body) (branches : List (String × Statement)) (domain : String) :
    (body.appendAll branches).get? domain =
      if (branches.filter fun branch ↦ branch.1 = domain).map Prod.snd = [] then body.get? domain
      else some (body.statementsOf domain ++ (branches.filter fun branch ↦ branch.1 = domain).map Prod.snd) := by
  induction branches generalizing body with
  | nil => simp
  | cons branch rest ih =>
    have step : body.appendAll (branch :: rest) = (body.append branch.1 [branch.2]).appendAll rest := rfl
    have here : (body.append branch.1 [branch.2]).get? domain =
        if domain = branch.1 then some (body.statementsOf domain ++ [branch.2]) else body.get? domain := by
      simp only [Body.append, List.isEmpty_cons, Bool.false_eq_true, ↓reduceIte, Table.get?_upsert]
      split
      · rename_i same
        rw [same, Body.statementsOf]
      · rfl
    rw [step, ih, here, Body.statementsOf_append]
    by_cases same : domain = branch.1
    · subst same
      simp
    · have apart : ¬branch.1 = domain := fun eq ↦ same eq.symm
      rw [List.filter_cons_of_neg (by simpa using apart)]
      simp [same]

/-- The control stack of a builder between two calls. -/
structure Control.Stands (control : Control) : Prop where
  stacked : Stacked control.frames
  placed : control.Placed

theorem Control.Stands.of_sound {builder : Builder} (sound : builder.Sound) (placed : builder.control.Placed) :
    builder.control.Stands := ⟨sound.stacked, placed⟩

/-! ## Fragments -/

/-- Two fragments hold the same statements in a domain, which drives the same signals, and so do their parts. -/
inductive Fragment.Agrees (domain : String) : Fragment → Fragment → Prop
  | intro {first second : Fragment}
    (statements : first.statements.statementsOf domain = second.statements.statementsOf domain)
    (drivers : ∀ signal, signal ∈ (first.drivers.get? domain).getD [] ↔ signal ∈ (second.drivers.get? domain).getD [])
    (names : first.parts.map (fun part ↦ (part.name, part.loc)) = second.parts.map fun part ↦ (part.name, part.loc))
    (contents : List.Forall₂ (Agrees domain) (first.parts.map Part.content) (second.parts.map Part.content)) :
    Agrees domain first second

mutual

theorem Fragment.Agrees.refl (domain : String) : ∀ fragment : Fragment, Fragment.Agrees domain fragment fragment
  | ⟨_, parts, _, _, _, _, _⟩ => .intro rfl (fun _ ↦ Iff.rfl) rfl (Fragment.Agrees.refl_contents domain parts)

theorem Fragment.Agrees.refl_contents (domain : String) : ∀ parts : List (Part Fragment),
    List.Forall₂ (Fragment.Agrees domain) (parts.map Part.content) (parts.map Part.content)
  | [] => .nil
  | ⟨content, _, _⟩ :: rest => .cons (Fragment.Agrees.refl domain content) (Fragment.Agrees.refl_contents domain rest)

end

/-- What the register of a machine is going to show for its numbers. -/
def Machine.shown (machine : Machine) : Option (List String) :=
  machine.initialState?.map fun state ↦
    (numbered (machine.finalOrder state)).entries.map fun entry ↦ s!"{entry.fst}/{entry.snd}"

namespace Likeness

variable (likeness : Likeness)

/-! ## Bodies -/

/-- The same statements in all observed domains. -/
def Bodies (first second : Body) : Prop :=
  ∀ domain, likeness.observed domain → first.get? domain = second.get? domain

structure Cases (first second : Case Body) : Prop where
  patterns : first.patterns = second.patterns
  loc : first.loc = second.loc
  body : likeness.Bodies first.body second.body

/-- What is tested has the same width, and is the same if any domain is observed. -/
structure Tests (first second : Value) : Prop where
  width : first.width = second.width
  same : ∀ domain, likeness.observed domain → first = second

variable {likeness}

theorem Tests.refl (test : Value) : likeness.Tests test test := ⟨rfl, fun _ _ ↦ rfl⟩

theorem tests_value (test : Value) : likeness.Tests (likeness.value test) test :=
  ⟨likeness.width_value test, fun _ seen ↦ likeness.value_eq (likeness.plain_of_observed seen) test⟩

namespace Bodies

variable {first second : Body}

theorem statementsOf (alike : likeness.Bodies first second) {domain : String} (seen : likeness.observed domain) :
    first.statementsOf domain = second.statementsOf domain := by
  rw [Body.statementsOf, Body.statementsOf, alike domain seen]

theorem keys (alike : likeness.Bodies first second) {domain : String} (seen : likeness.observed domain) :
    domain ∈ first.keys ↔ domain ∈ second.keys := by
  rw [← not_iff_not, ← Table.get?_eq_none_iff, ← Table.get?_eq_none_iff, alike domain seen]

/-- Statements that are the same, up to the renaming, may be filed in both bodies. -/
theorem append (alike : likeness.Bodies first second) (domain : String) (statements : List Statement) :
    likeness.Bodies (first.append domain (likeness.statements statements)) (second.append domain statements) := by
  intro other seen
  rw [likeness.statements_eq (likeness.plain_of_observed seen), Body.append, Body.append]
  split
  · exact alike other seen
  · rw [Table.get?_upsert, Table.get?_upsert]
    split
    · rename_i same
      rw [← same, alike other seen]
    · exact alike other seen

/-- What is filed in a domain that is not observed makes no difference. -/
theorem append_left (alike : likeness.Bodies first second) {domain : String} (unseen : ¬likeness.observed domain)
    (statements : List Statement) : likeness.Bodies (first.append domain statements) second := by
  intro other seen
  have apart : ¬other = domain := fun same ↦ unseen (same ▸ seen)
  rw [Body.append]
  split
  · exact alike other seen
  · rw [Table.get?_upsert, if_neg apart, alike other seen]

/-- A construct whose bodies are alike closes into the same branch statements. -/
theorem appendAll_split (alike : likeness.Bodies first second) {cases others : List (Case Body)}
    (bodies : List.Forall₂ likeness.Cases cases others) {test other : Value}
    (tests : ∀ domain, likeness.observed domain → test = other) (loc : Location) :
    likeness.Bodies (first.appendAll (Lowering.split test cases loc))
      (second.appendAll (Lowering.split other others loc)) := by
  intro domain seen
  have touched : domain ∈ Lowering.domains cases ↔ domain ∈ Lowering.domains others := by
    rw [Lowering.mem_domains_iff, Lowering.mem_domains_iff]
    clear alike
    induction bodies with
    | nil => simp
    | cons head _ ih => simp only [List.mem_cons, exists_eq_or_imp, head.body.keys seen, ih]
  have branch : Lowering.branchIn test cases loc domain = Lowering.branchIn other others loc domain := by
    rw [Lowering.branchIn, Lowering.branchIn, tests domain seen]
    congr 1
    refine map_eq_map_of_forall₂ bodies fun case other same ↦ ?_
    rw [Case.map, Case.map, same.patterns, same.loc, same.body.statementsOf seen]
  simp only [Body.get?_appendAll, Lowering.filter_split, touched, branch, alike domain seen, alike.statementsOf seen]

end Bodies

/-! ## Open constructs -/

variable (likeness)

structure Branches (first second : Branch) : Prop where
  test : Option.Rel likeness.Tests first.test second.test
  loc : first.loc = second.loc
  body : likeness.Bodies first.body second.body

theorem Branches.isSome_test {likeness : Likeness} {first second : Branch} (alike : likeness.Branches first second) :
    first.test.isSome = second.test.isSome := by
  have pair := alike.test
  generalize first.test = test at pair ⊢
  generalize second.test = other at pair ⊢
  cases pair <;> rfl

structure Chains (first second : IfChain) : Prop where
  depth : first.depth = second.depth
  loc : first.loc = second.loc
  branches : List.Forall₂ likeness.Branches first.branches second.branches

structure RecordedCases (first second : List Pattern × SwitchCase) : Prop where
  patterns : first.1 = second.1
  loc : first.2.loc = second.2.loc
  body : likeness.Bodies first.2.body second.2.body

structure Switches (first second : OpenSwitch) : Prop where
  test : likeness.Tests first.test second.test
  loc : first.loc = second.loc
  cases : List.Forall₂ likeness.RecordedCases first.cases.entries second.cases.entries

inductive Frames : Frame → Frame → Prop
  | chain {first second : IfChain} (alike : likeness.Chains first second) : Frames (.chain first) (.chain second)
  | switch {first second : OpenSwitch} (alike : likeness.Switches first second) :
    Frames (.switch first) (.switch second)
  | machine (id : MachineId) (loc : Location) (kept : ¬likeness.lost id) :
    Frames (.machine (likeness.ids id) loc) (.machine id loc)

theorem Frames.loc_eq {likeness : Likeness} {id other : MachineId} {loc place : Location}
    (frames : likeness.Frames (.machine id loc) (.machine other place)) : loc = place := by
  cases frames
  rfl

structure Controls (first second : Control) : Prop where
  frames : List.Forall₂ likeness.Frames first.frames second.frames
  depth : first.depth = second.depth
  context : first.context = second.context

/-- The same is open, and what is being recorded is alike. -/
structure Recording (first second : Builder) : Prop where
  control : likeness.Controls first.control second.control
  statements : likeness.Bodies first.statements second.statements

variable {likeness}

theorem Chains.extend {first second : IfChain} (alike : likeness.Chains first second) {branch other : Branch}
    (same : likeness.Branches branch other) : likeness.Chains (first.extend branch) (second.extend other) where
  depth := alike.depth
  loc := alike.loc
  branches := List.rel_append alike.branches (.cons same .nil)

/-- Chains that are alike close into the same branch statements. -/
theorem Chains.close {first second : IfChain} (alike : likeness.Chains first second) {body other : Body}
    (bodies : likeness.Bodies body other) : likeness.Bodies (first.close body) (second.close other) := by
  have tests : List.Forall₂ likeness.Tests first.tests second.tests := by
    have pairs := alike.branches
    rw [IfChain.tests, IfChain.tests]
    generalize first.branches = branches at pairs ⊢
    generalize second.branches = others at pairs ⊢
    induction pairs with
    | nil => exact .nil
    | @cons branch other _ _ head _ ih =>
      have here := head.test
      rw [List.filterMap_cons, List.filterMap_cons]
      generalize branch.test = test at here ⊢
      generalize other.test = same at here ⊢
      cases here with
      | none => exact ih
      | some tests => exact .cons tests ih
  have test : ∀ domain, likeness.observed domain → first.test = second.test := fun domain seen ↦ by
    rw [IfChain.test, IfChain.test, map_eq_map_of_forall₂ tests fun _ _ same ↦ by rw [same.same domain seen]]
  have cases : List.Forall₂ likeness.Cases first.caseList second.caseList := by
    have pairs := alike.branches
    rw [IfChain.caseList, IfChain.caseList, tests.length_eq]
    generalize first.branches = branches at pairs ⊢
    generalize second.branches = others at pairs ⊢
    generalize (0 : Nat) = index
    induction pairs generalizing index with
    | nil => exact .nil
    | @cons branch other _ _ head _ ih =>
      refine .cons ⟨?_, ?_, head.body⟩ (ih (index + 1))
      · simp only [head.isSome_test]
      · rw [head.loc]
  rw [IfChain.close, IfChain.close, alike.loc]
  exact bodies.appendAll_split cases test second.loc

theorem Switches.lower {first second : OpenSwitch} (alike : likeness.Switches first second) {body other : Body}
    (bodies : likeness.Bodies body other) :
    likeness.Bodies (body.appendAll first.lower) (other.appendAll second.lower) := by
  rw [OpenSwitch.lower, OpenSwitch.lower, alike.loc]
  refine bodies.appendAll_split ?_ alike.test.same second.loc
  refine List.forall₂_map_left_iff.2 (List.forall₂_map_right_iff.2 (alike.cases.imp fun case other same ↦ ?_))
  exact ⟨same.patterns, congrArg some same.loc, same.body⟩

theorem Switches.width {first second : OpenSwitch} (alike : likeness.Switches first second) :
    first.test.width = second.test.width := alike.test.width

/-- The same patterns have been recorded. -/
theorem Switches.keys {first second : OpenSwitch} (alike : likeness.Switches first second) :
    first.cases.keys = second.cases.keys := map_eq_map_of_forall₂ alike.cases fun _ _ same ↦ same.patterns

theorem Switches.record {first second : OpenSwitch} (alike : likeness.Switches first second) (patterns : List Pattern)
    {body other : Body} (bodies : likeness.Bodies body other) (loc : Location) :
    likeness.Switches (first.record patterns ⟨body, loc⟩) (second.record patterns ⟨other, loc⟩) where
  test := alike.test
  loc := alike.loc
  cases := by
    rw [OpenSwitch.record, OpenSwitch.record]
    by_cases known : patterns ∈ second.cases.keys
    · rw [Table.insertIfAbsent_of_mem _ _ _ known, Table.insertIfAbsent_of_mem _ _ _ (alike.keys ▸ known)]
      exact alike.cases
    · rw [Table.entries_insertIfAbsent_of_notMem _ _ _ known,
        Table.entries_insertIfAbsent_of_notMem _ _ _ (alike.keys ▸ known)]
      exact List.rel_append alike.cases (.cons ⟨rfl, rfl, bodies⟩ .nil)

namespace Controls

variable {first second : Control}

/-- A chain may go on in both or in neither. -/
theorem openChain? (alike : likeness.Controls first second) :
    Option.Rel likeness.Chains first.openChain? second.openChain? := by
  have pairs := alike.frames
  rw [Control.openChain?, Control.openChain?, Control.top?, Control.top?, alike.depth]
  generalize first.frames = frames at pairs ⊢
  generalize second.frames = others at pairs ⊢
  cases pairs with
  | nil => exact .none
  | cons head _ =>
    cases head with
    | chain alike =>
      simp only [List.head?_cons, alike.depth]
      split
      · exact .some alike
      · exact .none
    | switch alike => exact .none
    | machine id loc kept => exact .none

theorem height (alike : likeness.Controls first second) : first.height = second.height :=
  alike.frames.length_eq

/-- What is on top of the second stack is on top of the first one. -/
theorem top (alike : likeness.Controls first second) {frame : Frame} {base : List Frame}
    (top : second.frames = frame :: base) :
    ∃ other rest, first.frames = other :: rest ∧ likeness.Frames other frame ∧
      List.Forall₂ likeness.Frames rest base := by
  have pairs := alike.frames
  rw [top] at pairs
  obtain ⟨other, rest, head, below, same⟩ := List.forall₂_cons_right_iff.1 pairs
  exact ⟨other, rest, same, head, below⟩

/-- The innermost machine of both is the same one. -/
theorem innermostMachine? (alike : likeness.Controls first second) :
    Option.Rel (fun id other ↦ id = likeness.ids other ∧ ¬likeness.lost other) first.innermostMachine?
      second.innermostMachine? := by
  have pairs := alike.frames
  rw [Control.innermostMachine?, Control.innermostMachine?]
  generalize first.frames = frames at pairs ⊢
  generalize second.frames = others at pairs ⊢
  induction pairs with
  | nil => exact .none
  | cons head _ ih =>
    cases head with
    | chain alike => exact ih
    | switch alike => exact ih
    | machine id loc kept => exact .some ⟨rfl, kept⟩

end Controls

/-! ## Machines -/

/-- The same names are used in both tables, save for some that only the first one has. -/
structure Names {α β : Type} (extra : String → Prop) (first : Table String α) (second : Table String β) : Prop where
  known : ∀ name ∈ second.keys, name ∈ first.keys
  missing : ∀ name ∈ first.keys, name ∈ second.keys ∨ extra name

namespace Names

variable {α β : Type} {extra : String → Prop} {first : Table String α} {second : Table String β}

theorem insert (alike : Names extra first second) (name : String) (value : α) (other : β) :
    Names extra (first.insert name value) (second.insert name other) where
  known asked mem := by
    rw [Table.mem_keys_insert] at mem ⊢
    exact mem.imp_left (alike.known asked)
  missing asked mem := by
    rw [Table.mem_keys_insert] at mem ⊢
    rcases mem with mem | same
    · exact (alike.missing asked mem).imp_left .inl
    · exact .inl (.inr same)

theorem contains_second (alike : Names extra first second) {name : String} (absent : ¬first.contains name = true) :
    ¬second.contains name = true := by
  rw [Table.contains_iff_mem_keys] at absent ⊢
  exact fun mem ↦ absent (alike.known name mem)

theorem contains_first (alike : Names extra first second) {name : String} (present : first.contains name = true)
    (ordinary : ¬extra name) : second.contains name = true := by
  rw [Table.contains_iff_mem_keys] at present ⊢
  exact (alike.missing name present).resolve_right ordinary

end Names

variable (likeness)

structure States (first second : String × MachineState) : Prop where
  name : first.1 = second.1
  loc : first.2.loc = second.2.loc
  body : likeness.Bodies first.2.body second.2.body

/-- A machine that may still be completed, or is complete, in both runs. -/
structure Kept (id : MachineId) (first second : Machine) : Prop where
  domain : first.domain = second.domain
  initial : first.initial = second.initial
  mentioned : Names (fun state ↦ second.register = none ∧ likeness.extra id state) first.encoding second.encoding
  encoding : likeness.Steady id → first.encoding = second.encoding
  indicators : likeness.Steady id → first.indicators = second.indicators.map fun _ ↦ likeness.signal
  states : List.Forall₂ likeness.States first.states.entries second.states.entries

/-- Of a machine that is lost only the name still counts. -/
structure Machines (id : MachineId) (first second : Machine) : Prop where
  name : first.name = second.name
  register : first.register = second.register.map likeness.signal
  incomplete : likeness.lost id → second.register = none
  kept : ¬likeness.lost id → likeness.Kept id first second

variable {likeness}

theorem signal_indicator (id : MachineId) (name state : String) :
    likeness.signal (Machine.indicator id name state) = Machine.indicator (likeness.ids id) name state := rfl

/-- Registers that show what corresponds correspond, if they show names for as many numbers. -/
theorem signal_stateRegister {id : MachineId} {name : String} {encoding other : Table String Nat}
    (size : encoding.size = other.size)
    (shown : likeness.shows id (Machine.stateRegister id name other).decoder =
      (Machine.stateRegister (likeness.ids id) name encoding).decoder) :
    likeness.signal (Machine.stateRegister id name other) = Machine.stateRegister (likeness.ids id) name encoding := by
  change Signal.mk _ _ _ _ (likeness.shows id (Machine.stateRegister id name other).decoder) = _
  rw [shown, Machine.stateRegister, Machine.stateRegister, size]
  rfl

theorem signal_emptyRegister {id : MachineId} (shown : likeness.shows id none = none) (name : String) :
    likeness.signal (Machine.emptyRegister id name) = Machine.emptyRegister (likeness.ids id) name := by
  change Signal.mk _ _ _ _ (likeness.shows id none) = _
  rw [shown]
  rfl

namespace Kept

variable {id : MachineId} {first second : Machine}

theorem keys_states (alike : likeness.Kept id first second) : first.states.keys = second.states.keys :=
  map_eq_map_of_forall₂ alike.states fun _ _ same ↦ same.name

theorem contains_states (alike : likeness.Kept id first second) (state : String) :
    first.states.contains state = second.states.contains state := by
  rw [Bool.eq_iff_iff, Table.contains_iff_mem_keys, Table.contains_iff_mem_keys, alike.keys_states]

/-- Machines that are complete have indicators for the same states. -/
theorem contains_indicators (alike : likeness.Kept id first second) (proper : first.Proper (likeness.ids id))
    (other : second.Proper id) (complete : second.register ≠ none) (state : String) :
    first.indicators.contains state = second.indicators.contains state := by
  rw [Bool.eq_iff_iff, Table.contains_iff_mem_keys, Table.contains_iff_mem_keys, proper.listed, other.listed]
  exact ⟨fun mem ↦ (alike.mentioned.missing state mem).resolve_right fun extra ↦ complete extra.1,
    alike.mentioned.known state⟩

theorem declare (alike : likeness.Kept id first second) {state : String} (absent : state ∉ second.states.keys)
    {body other : Body} (bodies : likeness.Bodies body other) (loc : Location) :
    likeness.Kept id { first with states := first.states.insert state ⟨body, loc⟩ }
      { second with states := second.states.insert state ⟨other, loc⟩ } where
  domain := alike.domain
  initial := alike.initial
  mentioned := alike.mentioned
  encoding := alike.encoding
  indicators := alike.indicators
  states := by
    rw [Table.entries_insert_of_notMem _ _ _ absent,
      Table.entries_insert_of_notMem _ _ _ (alike.keys_states ▸ absent)]
    exact List.rel_append alike.states (.cons ⟨rfl, rfl, bodies⟩ .nil)

/-- What is complete in the first run is so in the second one. -/
theorem complete_second (alike : likeness.Kept id first second) {loc : Location}
    (complete : first.checkComplete loc = .ok ()) : second.checkComplete loc = .ok () := by
  obtain ⟨declared, chosen⟩ := Machine.checkComplete_eq_ok complete
  refine Machine.checkComplete_of_declared (fun state mem ↦ ?_) (fun state asked ↦ ?_) loc
  · rw [← alike.keys_states]
    exact declared state (alike.mentioned.known state mem)
  · rw [← alike.keys_states]
    exact chosen state (alike.initial.trans asked)

/-- What is complete in the second run is so in the first one, unless an extra state is missing there. -/
theorem complete_first (alike : likeness.Kept id first second) {loc : Location}
    (complete : second.checkComplete loc = .ok ()) : first.checkComplete loc = .ok () ∨
      ∃ state, likeness.extra id state ∧ first.checkComplete loc = .error ⟨.stateUndefined state, loc⟩ := by
  obtain ⟨declared, chosen⟩ := Machine.checkComplete_eq_ok complete
  cases missing : first.undefined? with
  | some state =>
    refine .inr ⟨state, ?_, by rw [Machine.checkComplete, missing]⟩
    have mentioned := List.mem_of_find?_eq_some missing
    have absent := List.find?_some missing
    rw [alike.contains_states, Bool.not_eq_true', ← Bool.not_eq_true, Table.contains_iff_mem_keys] at absent
    exact ((alike.mentioned.missing state mentioned).resolve_left fun mem ↦ absent (declared state mem)).2
  | none =>
    rw [Machine.undefined?, List.find?_eq_none] at missing
    refine .inl (Machine.checkComplete_of_declared (fun state mem ↦ ?_) (fun state asked ↦ ?_) loc)
    · simpa [Table.contains_iff_mem_keys] using missing state mem
    · rw [alike.keys_states]
      exact chosen state (alike.initial.symm.trans asked)

/-- Machines that are complete have the same states. -/
theorem mem_encoding_iff (alike : likeness.Kept id first second) (other : second.Proper id) {loc : Location}
    (complete : first.checkComplete loc = .ok ()) (state : String) :
    state ∈ first.encoding.keys ↔ state ∈ second.encoding.keys := by
  refine ⟨fun mem ↦ ?_, alike.mentioned.known state⟩
  have declared := (Machine.checkComplete_eq_ok complete).1 state mem
  exact other.declared state (alike.keys_states ▸ declared)

/-- Machines that start in the same state put the same states in order. -/
theorem length_finalOrder (same : ∀ state, state ∈ first.encoding.keys ↔ state ∈ second.encoding.keys)
    (state : String) : (first.finalOrder state).length = (second.finalOrder state).length := by
  refine List.Perm.length_eq ((List.perm_ext_iff_of_nodup (first.nodup_finalOrder state)
    (second.nodup_finalOrder state)).2 fun other ↦ ?_)
  rw [Machine.mem_finalOrder, Machine.mem_finalOrder, same]

end Kept

namespace Machines

variable {id : MachineId} {first second : Machine}

theorem opened (id : MachineId) (name domain : String) (initial : Option String) :
    likeness.Machines id (.opened name domain initial) (.opened name domain initial) where
  name := rfl
  register := rfl
  incomplete _ := rfl
  kept _ := ⟨rfl, rfl, ⟨fun _ mem ↦ mem, fun _ ↦ .inl⟩, fun _ ↦ rfl, fun _ ↦ rfl, .nil⟩

theorem mention (alike : likeness.Machines id first second) (state : String) :
    likeness.Machines id (first.mention (likeness.ids id) state) (second.mention id state) where
  name := by rw [Machine.name_mention, Machine.name_mention, alike.name]
  register := by rw [Machine.register_mention, Machine.register_mention, alike.register]
  incomplete lost := by rw [Machine.register_mention, alike.incomplete lost]
  kept kept := by
    have same := alike.kept kept
    refine ⟨?_, ?_, ⟨fun other mem ↦ ?_, fun other mem ↦ ?_⟩, fun steady ↦ ?_, fun steady ↦ ?_, ?_⟩
    · rw [Machine.domain_mention, Machine.domain_mention, same.domain]
    · rw [Machine.initial_mention, Machine.initial_mention, same.initial]
    · rw [Machine.mem_keys_mention] at mem ⊢
      exact mem.imp_left (same.mentioned.known other)
    · rw [Machine.mem_keys_mention] at mem ⊢
      rw [Machine.register_mention]
      rcases mem with mem | rfl
      · exact (same.mentioned.missing other mem).imp_left .inl
      · exact .inl (.inr rfl)
    · rw [Machine.mention, Machine.mention, same.encoding steady]
      split
      · exact same.encoding steady
      · rfl
    · rw [Machine.mention, Machine.mention, same.encoding steady]
      split
      · exact same.indicators steady
      · change first.indicators.insert state _ = (second.indicators.insert state _).map _
        rw [Table.map_insert, same.indicators steady, alike.name, signal_indicator]
    · rw [Machine.states_mention, Machine.states_mention]
      exact same.states

/-- Both machines complete, or neither does. -/
theorem isSome_register (alike : likeness.Machines id first second) :
    first.register.isSome = second.register.isSome := by rw [alike.register, Option.isSome_map]

end Machines

/-- Two machines that close leave alike machines, and the same branch statements. -/
structure Closings (id : MachineId) (first second : Machine.Closing) : Prop where
  name : first.machine.name = second.machine.name
  register : first.machine.register = second.machine.register.map likeness.signal
  kept : likeness.Kept id first.machine second.machine
  indicators : ∀ domain, likeness.observed domain → first.indicators = second.indicators
  branches : ∀ {body other : Body}, likeness.Bodies body other →
    likeness.Bodies (body.appendAll first.branches) (other.appendAll second.branches)

/-- What is known about two machines whose frames are on top: no extra state is missing where it counts, and what their
registers show corresponds. -/
structure Ready (id : MachineId) (first second : Machine) (loc : Location) : Prop where
  excused : ∀ state, likeness.extra id state → ¬likeness.strict ⟨.stateUndefined state, loc⟩
  shown : likeness.shows id second.shown = first.shown

/-- Machines without extra states are ready to be closed. -/
theorem Kept.ready {id : MachineId} {first second : Machine} (alike : likeness.Kept id first second)
    (steady : likeness.Steady id) (loc : Location) : likeness.Ready id first second loc where
  excused state extra := absurd extra (steady state)
  shown := by
    rw [likeness.steady id steady, Equiv.Perm.one_apply, Machine.shown, Machine.shown, Machine.initialState?,
      Machine.initialState?, alike.initial, alike.keys_states]
    simp only [Machine.finalOrder, alike.encoding steady]

/-- Machines that are alike are refused together, or they close alike. -/
theorem Machines.close {id : MachineId} {first second : Machine} (alike : likeness.Machines id first second)
    (kept : ¬likeness.lost id) (proper : first.Proper (likeness.ids id)) (other : second.Proper id) {loc : Location}
    (ready : likeness.Ready id first second loc) :
    (∃ error, first.close (likeness.ids id) loc = .error (.refused error) ∧
        (likeness.strict error → ∃ again, second.close id loc = .error (.refused again))) ∨
      ∃ closing closed, first.close (likeness.ids id) loc = .ok closing ∧ second.close id loc = .ok closed ∧
        likeness.Closings id closing closed := by
  have same := alike.kept kept
  cases checked : first.checkComplete loc with
  | error error =>
    refine .inl ⟨error, by rw [Machine.close, checked], fun sure ↦ ?_⟩
    cases complete : second.checkComplete loc with
    | error again => exact ⟨again, by rw [Machine.close, complete]⟩
    | ok =>
      rcases same.complete_first complete with fine | ⟨state, extra, missing⟩
      · rw [checked] at fine
        contradiction
      · rw [checked, Except.error.injEq] at missing
        exact absurd (missing ▸ sure) (ready.excused state extra)
  | ok =>
    have complete := same.complete_second checked
    right
    have initial : first.initialState? = second.initialState? := by
      rw [Machine.initialState?, Machine.initialState?, same.initial, same.keys_states]
    have shown := ready.shown
    rw [Machine.shown, Machine.shown, initial] at shown
    cases starts : second.initialState? with
    | none =>
      rw [starts] at initial shown
      refine ⟨_, _, by rw [Machine.close, checked, initial], by rw [Machine.close, complete, starts], ?_⟩
      refine ⟨alike.name, ?_, ?_, fun _ _ ↦ rfl, fun bodies ↦ bodies⟩
      · rw [Option.map_some, signal_emptyRegister shown, alike.name]
      · refine ⟨same.domain, same.initial, ⟨same.mentioned.known, fun state mem ↦ .inl ?_⟩, same.encoding,
          same.indicators, same.states⟩
        exact (same.mem_encoding_iff other checked state).1 mem
    | some state =>
      rw [starts] at initial shown
      have states := same.mem_encoding_iff other checked
      obtain ⟨numbered, closing⟩ := proper.close_numbered checked initial
      obtain ⟨renumbered, closed⟩ := other.close_numbered complete starts
      have size : (Machine.numbered (first.finalOrder state)).size =
          (Machine.numbered (second.finalOrder state)).size := by
        rw [Machine.size_numbered (first.nodup_finalOrder state), Machine.size_numbered (second.nodup_finalOrder state),
          Kept.length_finalOrder states]
      have register : Machine.stateRegister (likeness.ids id) first.name (Machine.numbered (first.finalOrder state)) =
          likeness.signal (Machine.stateRegister id second.name (Machine.numbered (second.finalOrder state))) := by
        rw [alike.name, signal_stateRegister size shown]
      rw [register] at closing
      have order : ∀ {domain : String}, likeness.observed domain →
          first.finalOrder state = second.finalOrder state := by
        intro domain seen
        rw [Machine.finalOrder, Machine.finalOrder, same.encoding ((likeness.same domain seen).2 id)]
      refine ⟨_, _, closing, closed, alike.name, rfl, ?_, fun domain seen ↦ ?_, fun bodies domain seen ↦ ?_⟩
      · refine ⟨same.domain, same.initial, ⟨fun asked mem ↦ ?_, fun asked mem ↦ .inl ?_⟩, fun steady ↦ ?_,
          same.indicators, same.states⟩
        · exact (numbered asked).2 ((states asked).2 ((renumbered asked).1 mem))
        · exact (renumbered asked).2 ((states asked).1 ((numbered asked).1 mem))
        · simp only [Machine.finalOrder, same.encoding steady]
      · have plain := likeness.plain_of_observed seen
        have indicators : first.indicators.entries = second.indicators.entries := by
          rw [same.indicators ((likeness.same domain seen).2 id)]
          change second.indicators.entries.map (fun entry ↦ (entry.1, likeness.signal entry.2)) = _
          simp only [likeness.signal_eq plain, List.map_id']
        rw [likeness.signal_eq plain, indicators, order seen]
      · refine bodies.appendAll_split ?_
          (fun _ seen ↦ likeness.value_eq (likeness.plain_of_observed seen) (.signal _)) loc domain seen
        refine List.forall₂_map_left_iff.2 (List.forall₂_map_right_iff.2 (same.states.imp fun entry other same ↦ ?_))
        exact ⟨by rw [same.name, order seen], congrArg some same.loc, same.body⟩

/-! ## Builders -/

/-- A part that elaborates in the first run does so in the second one, to a fragment that agrees with it. -/
def Components (domain : String) (first second : Component) : Prop :=
  ∀ platform fragment, first.elaborate platform = .ok fragment →
    ∃ other, second.elaborate platform = .ok other ∧ Fragment.Agrees domain fragment other

theorem Components.refl (domain : String) (component : Component) : Components domain component component :=
  fun _ fragment elaborated ↦ ⟨fragment, elaborated, .refl domain fragment⟩

/-- Parts at the same place that elaborate alike. -/
structure Parts (domain : String) (first second : Component × Location) : Prop where
  loc : first.2 = second.2
  components : Components domain first.1 second.1

variable (likeness)

/-- What decides later calls besides the place and the body, and what is seen of it from an observed domain. -/
structure Rest (first second : Builder) : Prop where
  settings : first.settings = second.settings
  claimed : ∀ signal domain, second.drivers.get? signal = some domain →
    first.drivers.get? (likeness.signal signal) = some domain
  free : ∀ signal domain, first.drivers.get? (likeness.signal signal) = some domain →
    second.drivers.get? signal = some domain ∨
      ∀ other loc, ¬likeness.strict ⟨.driverConflict (likeness.signal signal) other domain, loc⟩
  machines : ∀ id, Option.Rel (likeness.Machines id) (first.machines.get? (likeness.ids id)) (second.machines.get? id)
  fresh : ∀ count, likeness.ids ⟨second.machines.tag, second.machines.size + count⟩ =
    ⟨first.machines.tag, first.machines.size + count⟩
  found : ∀ count, likeness.Untouched ⟨second.machines.tag, second.machines.size + count⟩
  named : Names (fun name ↦ likeness.taken name ∧ ∀ loc, ¬likeness.strict ⟨.submoduleExists name, loc⟩) first.namedParts
    second.namedParts
  domains : Names (fun name ↦ ∀ loc, ¬likeness.strict ⟨.domainExists name, loc⟩) first.domains second.domains
  indicators : ∀ domain, likeness.observed domain → first.indicators = second.indicators
  partsByName : ∀ domain, likeness.observed domain → List.Forall₂ (fun part other ↦ part.1 = other.1 ∧
    Parts domain part.2 other.2) first.namedParts.entries second.namedParts.entries
  otherParts : ∀ domain, likeness.observed domain →
    List.Forall₂ (Parts domain) first.anonymousParts second.anonymousParts

/-- Both builders are at the same point. -/
structure Tracks (first second : Builder) : Prop where
  rest : likeness.Rest first second
  recording : likeness.Recording first second

/-- Both builders are at the same point, but the second one may have a chain to close that the first one has closed. -/
structure Lags (first second : Builder) : Prop where
  rest : likeness.Rest first second
  recording : likeness.Recording first second ∨ likeness.lenient ∧ likeness.Recording first second.flushed

variable {likeness} {first second : Builder}

theorem Recording.context (alike : likeness.Recording first second) : first.control.context = second.control.context :=
  alike.control.context

/-- Closing a chain that may go on keeps bodies alike. -/
theorem Recording.flushed (alike : likeness.Recording first second) :
    likeness.Recording first.flushed second.flushed := by
  have open_ := alike.control.openChain?
  rw [Builder.flushed, Builder.flushed]
  generalize first.control.openChain? = chain at open_ ⊢
  generalize second.control.openChain? = other at open_ ⊢
  cases open_ with
  | none => exact alike
  | some chains =>
    refine ⟨⟨?_, alike.control.depth, alike.control.context⟩, chains.close alike.statements⟩
    have frames := alike.control.frames
    generalize first.control.frames = these at frames ⊢
    generalize second.control.frames = those at frames ⊢
    cases frames with
    | nil => exact .nil
    | cons _ below => exact below

namespace Rest

/-- The place and the body make no difference to what is aside of them. -/
theorem recording (rest : likeness.Rest first second) (control other : Control) (statements filed : Body) :
    likeness.Rest { first with control := control, statements := statements }
      { second with control := other, statements := filed } :=
  ⟨rest.settings, rest.claimed, rest.free, rest.machines, rest.fresh, rest.found, rest.named, rest.domains,
    rest.indicators, rest.partsByName, rest.otherParts⟩

theorem noted (rest : likeness.Rest first second) (advice others : List Diagnostic) :
    likeness.Rest (first.noted advice) (second.noted others) :=
  ⟨rest.settings, rest.claimed, rest.free, rest.machines, rest.fresh, rest.found, rest.named, rest.domains,
    rest.indicators, rest.partsByName, rest.otherParts⟩

theorem withFrames (rest : likeness.Rest first second) (frames others : List Frame) :
    likeness.Rest (first.withFrames frames) (second.withFrames others) := rest.recording _ _ _ _

theorem flushed (rest : likeness.Rest first second) : likeness.Rest first.flushed second.flushed := by
  rw [Builder.flushed_eq first, Builder.flushed_eq second]
  exact rest.recording _ _ _ _

/-- Machines that are alike may take the place of those that were there. -/
theorem withMachine (rest : likeness.Rest first second) {id : MachineId} {machine other : Machine}
    (alike : likeness.Machines id machine other) :
    likeness.Rest (first.withMachine (likeness.ids id) machine) (second.withMachine id other) where
  settings := rest.settings
  claimed := rest.claimed
  free := rest.free
  machines asked := by
    have here := rest.machines asked
    rw [Builder.withMachine, Builder.withMachine, Arena.get?_modify, Arena.get?_modify]
    simp only [likeness.injective.eq_iff]
    split
    · rename_i same
      subst same
      generalize first.machines.get? (likeness.ids asked) = found at here ⊢
      generalize second.machines.get? asked = known at here ⊢
      cases here with
      | none => exact .none
      | some _ => exact .some alike
    · exact here
  fresh := by simpa [Builder.withMachine] using rest.fresh
  found := by simpa [Builder.withMachine] using rest.found
  named := rest.named
  domains := rest.domains
  indicators := rest.indicators
  partsByName := rest.partsByName
  otherParts := rest.otherParts

/-- A new machine gets corresponding keys. -/
theorem ids_nextKey (rest : likeness.Rest first second) :
    likeness.ids second.machines.nextKey = first.machines.nextKey := rest.fresh 0

theorem untouched_nextKey (rest : likeness.Rest first second) : likeness.Untouched second.machines.nextKey :=
  rest.found 0

theorem withNewMachine (rest : likeness.Rest first second) {machine other : Machine}
    (alike : likeness.Machines second.machines.nextKey machine other) :
    likeness.Rest (first.withNewMachine machine) (second.withNewMachine other) where
  settings := rest.settings
  claimed := rest.claimed
  free := rest.free
  machines asked := by
    have here := rest.machines asked
    rw [Builder.withNewMachine, Builder.withNewMachine, Arena.get?_push, Arena.get?_push, ← rest.ids_nextKey]
    simp only [likeness.injective.eq_iff]
    split
    · rename_i same
      exact .some (same ▸ alike)
    · exact here
  fresh count := by
    have later := rest.fresh (count + 1)
    simp only [Builder.withNewMachine, Arena.tag_push, Arena.size_push]
    rw [Nat.add_right_comm, Nat.add_right_comm first.machines.size]
    exact later
  found count := by
    have later := rest.found (count + 1)
    simp only [Builder.withNewMachine, Arena.tag_push, Arena.size_push]
    rw [Nat.add_right_comm]
    exact later
  named := rest.named
  domains := rest.domains
  indicators := rest.indicators
  partsByName := rest.partsByName
  otherParts := rest.otherParts

end Rest

theorem Tracks.noted (tracks : likeness.Tracks first second) (advice others : List Diagnostic) :
    likeness.Tracks (first.noted advice) (second.noted others) :=
  ⟨tracks.rest.noted _ _, tracks.recording.control, tracks.recording.statements⟩

/-- The machine on top of both stacks has been closed. -/
theorem Tracks.finishing (tracks : likeness.Tracks first second) {closing closed : Machine.Closing} {id : MachineId}
    (closings : likeness.Closings id closing closed) (kept : ¬likeness.lost id) (name other : String) :
    likeness.Tracks (first.finishing (likeness.ids id) name closing) (second.finishing id other closed) := by
  have alike : likeness.Machines id closing.machine closed.machine :=
    ⟨closings.name, closings.register, fun lost ↦ absurd lost kept, fun _ ↦ closings.kept⟩
  have rest := tracks.rest.withMachine alike
  refine ⟨⟨rest.settings, rest.claimed, rest.free, rest.machines, rest.fresh, rest.found, rest.named, rest.domains,
    fun domain seen ↦ ?_, rest.partsByName, rest.otherParts⟩, tracks.recording.control,
    closings.branches tracks.recording.statements⟩
  rw [Builder.finishing, Builder.finishing, tracks.rest.indicators domain seen, closings.indicators domain seen]

namespace Lags

theorem of_tracks (tracks : likeness.Tracks first second) : likeness.Lags first second :=
  ⟨tracks.rest, .inl tracks.recording⟩

/-- Builders that differ aside of the place and the body may lag in the same way. -/
theorem congr {builder other : Builder} (lags : likeness.Lags first second) (rest : likeness.Rest builder other)
    (control : builder.control = first.control) (statements : builder.statements = first.statements)
    (place : other.control = second.control) (filed : other.statements = second.statements) :
    likeness.Lags builder other := by
  refine ⟨rest, lags.recording.imp (fun same ↦ ?_) fun ⟨lenient, behind⟩ ↦ ⟨lenient, ?_⟩⟩
  · exact ⟨by rw [control, place]; exact same.control, by rw [statements, filed]; exact same.statements⟩
  · refine ⟨?_, ?_⟩
    · rw [control, Builder.control_flushed_congr place]
      exact behind.control
    · rw [statements, Builder.statements_flushed_congr place filed]
      exact behind.statements

theorem noted (lags : likeness.Lags first second) (advice others : List Diagnostic) :
    likeness.Lags (first.noted advice) (second.noted others) := lags.congr (lags.rest.noted _ _) rfl rfl rfl rfl

theorem withNewMachine (lags : likeness.Lags first second) {machine other : Machine}
    (alike : likeness.Machines second.machines.nextKey machine other) :
    likeness.Lags (first.withNewMachine machine) (second.withNewMachine other) :=
  lags.congr (lags.rest.withNewMachine alike) rfl rfl rfl rfl

theorem withMachine (lags : likeness.Lags first second) {id : MachineId} {machine other : Machine}
    (alike : likeness.Machines id machine other) :
    likeness.Lags (first.withMachine (likeness.ids id) machine) (second.withMachine id other) :=
  lags.congr (lags.rest.withMachine alike) rfl rfl rfl rfl

theorem context (lags : likeness.Lags first second) : first.control.context = second.control.context := by
  rcases lags.recording with same | ⟨-, behind⟩
  · exact same.context
  · rw [behind.context, Builder.context_flushed]

theorem depth (lags : likeness.Lags first second) : first.control.depth = second.control.depth := by
  rcases lags.recording with same | ⟨-, behind⟩
  · exact same.control.depth
  · rw [behind.control.depth, Builder.depth_flushed]

/-- Without a chain to close, the second builder does not lag. -/
theorem tracks_of_flushed (lags : likeness.Lags first second) (closed : second.flushed = second) :
    likeness.Tracks first second := by
  refine ⟨lags.rest, ?_⟩
  rcases lags.recording with same | ⟨-, behind⟩
  · exact same
  · rwa [closed] at behind

section Stands

variable (lags : likeness.Lags first second) (stands : second.control.Stands)

include lags stands

/-- Once both have closed what has ended, the second builder has caught up. -/
theorem flushed : likeness.Tracks first.flushed second.flushed := by
  refine ⟨lags.rest.flushed, ?_⟩
  rcases lags.recording with same | ⟨-, behind⟩
  · exact same.flushed
  · have open_ := behind.control.openChain?
    rw [Builder.openChain?_flushed stands.stacked stands.placed] at open_
    have closed : first.control.openChain? = none := by
      generalize first.control.openChain? = chain at open_ ⊢
      cases open_
      rfl
    rwa [Builder.flushed, closed]

/-- Where the first builder has a chain that may go on, the second one does not lag. -/
theorem tracks_of_openChain {chain : IfChain} (open_ : first.control.openChain? = some chain) :
    likeness.Tracks first second := by
  refine ⟨lags.rest, lags.recording.resolve_right ?_⟩
  rintro ⟨-, behind⟩
  have ended := behind.control.openChain?
  rw [Builder.openChain?_flushed stands.stacked stands.placed, open_] at ended
  cases ended

/-- A frame is opened on both. -/
theorem opening {frame other : Frame} (frames : likeness.Frames frame other) :
    likeness.Tracks (first.opening frame) (second.opening other) := by
  have same := lags.flushed stands
  exact ⟨same.rest.withFrames _ _, ⟨.cons frames same.recording.control.frames, same.recording.control.depth,
    same.recording.control.context⟩, same.recording.statements⟩

end Stands

theorem tracks_of_strict (lags : likeness.Lags first second) {error : BuildError} (strict : likeness.strict error) :
    likeness.Tracks first second :=
  ⟨lags.rest, lags.recording.resolve_right fun behind ↦ likeness.ordinary behind.1 error strict⟩

end Lags

end Likeness

end RegisterTransfer
