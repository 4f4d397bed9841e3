import RegisterTransfer.Proofs.Machines
import RegisterTransfer.Proofs.Places
import Mathlib.Data.List.Perm.Basic
import Mathlib.Data.Multiset.Bind

/-!
# Nothing is lost, doubled or moved

A closed construct becomes one switch for every domain that its bodies touch. Every switch has all the cases of the
construct, in the order of their recording, and each case holds what its body has recorded for the domain. Taken
together the switches hold every recorded statement once: in its own domain, in its own case and at its own position.
The same switches come about where the statements of one domain after the other are taken out of the bodies, and then
nothing is left in them.
-/

open scoped List

namespace RegisterTransfer

/-! ## Taking a domain out -/

namespace Table

variable {κ α : Type} [DecidableEq κ]

/-- The table without a key; the other entries stay in their order. -/
def erase (table : Table κ α) (key : κ) : Table κ α where
  entries := table.entries.filter fun entry ↦ entry.1 ≠ key
  distinct := table.distinct.sublist (List.filter_sublist.map Prod.fst)

theorem get?_erase_of_ne (table : Table κ α) {key other : κ} (apart : other ≠ key) :
    (table.erase key).get? other = table.get? other := by
  apply Option.ext
  intro value
  rw [get?_eq_some_iff, get?_eq_some_iff]
  simp [erase, apart]

theorem mem_keys_erase (table : Table κ α) (key other : κ) :
    other ∈ (table.erase key).keys ↔ other ∈ table.keys ∧ other ≠ key := by
  simp [keys, erase]

end Table

theorem Body.statementsOf_erase_of_ne (body : Body) {domain other : String} (apart : other ≠ domain) :
    statementsOf (body.erase domain) other = body.statementsOf other := by
  rw [statementsOf, statementsOf, Table.get?_erase_of_ne body apart]

namespace Lowering

/-- Take what the bodies hold for one domain after the other out of them: the switches, and what is left. -/
def drain (test : Value) (loc : Location) :
    List String → List (Case Body) → List (String × Statement) × List (Case Body)
  | [], cases => ([], cases)
  | domain :: rest, cases =>
    let others := drain test loc rest (cases.map fun branch ↦ branch.map fun body ↦ body.erase domain)
    ((domain, branchIn test cases loc domain) :: others.1, others.2)

theorem branchIn_erase_of_ne (test : Value) (cases : List (Case Body)) (loc : Location) {domain other : String}
    (apart : other ≠ domain) :
    branchIn test (cases.map fun branch ↦ branch.map fun body ↦ body.erase domain) loc other =
      branchIn test cases loc other := by
  rw [branchIn, branchIn, List.map_map]
  congr 1
  apply List.map_congr_left
  intro branch _
  simp only [Function.comp_apply, Case.map, Body.statementsOf_erase_of_ne _ apart]

/-- What is taken out for one domain leaves what is filed for the others. -/
theorem drain_fst (test : Value) (loc : Location) {touched : List String} (distinct : touched.Nodup)
    (cases : List (Case Body)) : (drain test loc touched cases).1 =
      touched.map fun domain ↦ (domain, branchIn test cases loc domain) := by
  induction touched generalizing cases with
  | nil => rfl
  | cons domain rest ih =>
    rw [List.nodup_cons] at distinct
    simp only [drain, ih distinct.2, List.map_cons, List.cons.injEq, true_and]
    apply List.map_congr_left
    intro other mem
    have apart : other ≠ domain := fun same ↦ distinct.1 (same ▸ mem)
    rw [branchIn_erase_of_ne test cases loc apart]

/-- Once every key has been taken out, nothing is left. -/
theorem drain_snd (test : Value) (loc : Location) {touched : List String} {cases : List (Case Body)}
    (all : ∀ branch ∈ cases, ∀ domain ∈ branch.body.keys, domain ∈ touched) :
    (drain test loc touched cases).2 = cases.map fun branch ↦ branch.map fun _ ↦ ∅ := by
  induction touched generalizing cases with
  | nil =>
    have empty : ∀ branch ∈ cases, branch.body = ∅ := by
      intro branch mem
      apply Table.ext_entries
      apply List.map_eq_nil_iff.1
      exact List.eq_nil_iff_forall_not_mem.2 fun domain key ↦ absurd (all branch mem domain key) List.not_mem_nil
    calc cases = cases.map id := (List.map_id cases).symm
      _ = cases.map fun branch ↦ branch.map fun _ ↦ ∅ := by
        apply List.map_congr_left
        intro branch mem
        rw [Case.map, ← empty branch mem, id]
  | cons domain rest ih =>
    rw [drain, ih, List.map_map]
    · rfl
    · intro branch mem other key
      obtain ⟨source, listed, rfl⟩ := List.mem_map.1 mem
      obtain ⟨key, apart⟩ := (Table.mem_keys_erase _ _ _).1 key
      exact (List.mem_cons.1 (all source listed other key)).resolve_left apart

/-! ## The order of first touch -/

/-- Each domain at every place where a body touches it. -/
def touches (cases : List (Case Body)) : List String := cases.flatMap fun branch ↦ branch.body.keys

/-- Without repetitions the elements of a list stand in the order of their first occurrences. -/
theorem pairwise_idxOf_eraseDups (items : List String) :
    items.eraseDups.Pairwise fun earlier later ↦ items.idxOf earlier < items.idxOf later := by
  induction items using List.reverseRecOn with
  | nil => simp
  | append_singleton items last ih =>
    have earlier : items.eraseDups.Pairwise fun first second ↦
        (items ++ [last]).idxOf first < (items ++ [last]).idxOf second := by
      apply ih.imp_of_mem
      intro first second mem mem' before
      rw [List.mem_eraseDups] at mem mem'
      rwa [List.idxOf_append_of_mem mem, List.idxOf_append_of_mem mem']
    rw [List.eraseDups_append]
    by_cases known : last ∈ items
    · have none : [last].removeAll items = [] := by simp [List.removeAll, known]
      rwa [none, List.eraseDups_nil, List.append_nil]
    · have one : [last].removeAll items = [last] := by simp [List.removeAll, known]
      rw [one, List.pairwise_append]
      refine ⟨earlier, by simp [List.eraseDups_cons], fun first mem second same ↦ ?_⟩
      have same : second = last := by simpa [List.eraseDups_cons] using same
      rw [List.mem_eraseDups] at mem
      rw [same, List.idxOf_append_of_mem mem, List.idxOf_append_of_notMem known]
      have inside := List.idxOf_lt_length_of_mem mem
      omega

/-! ## Where statements occur -/

/-- A statement with its domain, the number of its case, and its position there. -/
structure Occurrence where
  domain : String
  case : Nat
  position : Nat
  statement : Statement

/-- The statements that one case holds for one domain. -/
def occurrences (domain : String) (case : Nat) (statements : List Statement) : List Occurrence :=
  statements.zipIdx.map fun entry ↦ ⟨domain, case, entry.2, entry.1⟩

/-- The statements that the bodies have recorded. -/
def recorded (cases : List (Case Body)) : List Occurrence :=
  cases.zipIdx.flatMap fun branch ↦ branch.1.body.entries.flatMap fun entry ↦
    occurrences entry.1 branch.2 entry.2

/-- The statements in the cases of a switch of a domain. -/
def placed : String × Statement → List Occurrence
  | (domain, .switch _ cases _) => cases.zipIdx.flatMap fun branch ↦ occurrences domain branch.2 branch.1.body
  | _ => []

theorem placed_branchIn (test : Value) (cases : List (Case Body)) (loc : Location) (domain : String) :
    placed (domain, branchIn test cases loc domain) =
      cases.zipIdx.flatMap fun branch ↦ occurrences domain branch.2 (branch.1.body.statementsOf domain) := by
  rw [branchIn, placed, List.zipIdx_map, List.flatMap_map]
  rfl

/-- A body gives its statements once, if the domains are those it touches and others perhaps. -/
theorem perm_occurrences (body : Body) (case : Nat) {touched : List String} (distinct : touched.Nodup)
    (all : ∀ domain ∈ body.keys, domain ∈ touched) :
    (touched.flatMap fun domain ↦ occurrences domain case (body.statementsOf domain)).Perm
      (body.entries.flatMap fun entry ↦ occurrences entry.1 case entry.2) := by
  have own : body.entries.flatMap (fun entry ↦ occurrences entry.1 case entry.2) =
      body.keys.flatMap fun domain ↦ occurrences domain case (body.statementsOf domain) := by
    rw [Table.keys, List.flatMap_map]
    apply List.flatMap_congr
    intro entry mem
    rw [Body.statementsOf_of_mem mem]
  have others : (touched.filter fun domain ↦ !decide (domain ∈ body.keys)).flatMap
      (fun domain ↦ occurrences domain case (body.statementsOf domain)) = [] := by
    rw [List.flatMap_eq_nil_iff]
    intro domain mem
    have absent : domain ∉ body.keys := by simpa using (List.mem_filter.1 mem).2
    rw [Body.statementsOf_of_notMem absent]
    rfl
  have listed : (touched.filter fun domain ↦ decide (domain ∈ body.keys)).Perm body.keys := by
    apply (List.perm_ext_iff_of_nodup (distinct.filter _) body.keys_nodup).2
    intro domain
    rw [List.mem_filter, decide_eq_true_iff]
    exact and_iff_right_of_imp (all domain)
  calc touched.flatMap (fun domain ↦ occurrences domain case (body.statementsOf domain))
    _ ~ ((touched.filter fun domain ↦ decide (domain ∈ body.keys)) ++
          touched.filter fun domain ↦ !decide (domain ∈ body.keys)).flatMap
            (fun domain ↦ occurrences domain case (body.statementsOf domain)) :=
      (List.filter_append_perm _ touched).symm.flatMap_right _
    _ = (touched.filter fun domain ↦ decide (domain ∈ body.keys)).flatMap
          (fun domain ↦ occurrences domain case (body.statementsOf domain)) := by
      rw [List.flatMap_append, others, List.append_nil]
    _ ~ body.keys.flatMap (fun domain ↦ occurrences domain case (body.statementsOf domain)) := listed.flatMap_right _
    _ = body.entries.flatMap (fun entry ↦ occurrences entry.1 case entry.2) := own.symm

/-- Two lists may be gone through in either order. -/
theorem perm_flatMap_swap {α β γ : Type} (outer : List α) (inner : List β) (f : α → β → List γ) :
    (outer.flatMap fun a ↦ inner.flatMap fun b ↦ f a b).Perm
      (inner.flatMap fun b ↦ outer.flatMap fun a ↦ f a b) := by
  apply Multiset.coe_eq_coe.1
  simp only [← Multiset.coe_bind]
  exact Multiset.bind_bind _ _

/-- The switches of a construct hold every statement that its bodies have recorded, once. -/
theorem perm_placed_split (test : Value) (cases : List (Case Body)) (loc : Location) :
    ((split test cases loc).flatMap placed).Perm (recorded cases) := by
  have within : ∀ branch ∈ cases.zipIdx, ∀ domain ∈ branch.1.body.keys, domain ∈ domains cases := by
    intro branch mem domain key
    exact (mem_domains_iff cases domain).2 ⟨branch.1, List.fst_mem_of_mem_zipIdx mem, key⟩
  calc (split test cases loc).flatMap placed
    _ = (domains cases).flatMap fun domain ↦ cases.zipIdx.flatMap fun branch ↦
          occurrences domain branch.2 (branch.1.body.statementsOf domain) := by
      simp only [split, List.flatMap_map, placed_branchIn]
    _ ~ cases.zipIdx.flatMap fun branch ↦ (domains cases).flatMap fun domain ↦
          occurrences domain branch.2 (branch.1.body.statementsOf domain) := perm_flatMap_swap _ _ _
    _ ~ recorded cases := List.Perm.flatMap_left _ fun branch mem ↦
      perm_occurrences branch.1.body branch.2 (nodup_domains cases) (within branch mem)

/-! ## Switches of a construct -/

/-- The switches that cases come to, with nothing lost, doubled or moved. -/
structure Distributes (test : Value) (cases : List (Case Body)) (loc : Location)
    (emitted : List (String × Statement)) : Prop where
  /-- There is a switch for every domain that a body touches, and for no other. -/
  touched : ∀ domain, domain ∈ emitted.map Prod.fst ↔ ∃ branch ∈ cases, domain ∈ branch.body.keys
  /-- There is one switch for a domain. -/
  once : (emitted.map Prod.fst).Nodup
  /-- The domains stand in the order of first touch. -/
  ordered : (emitted.map Prod.fst).Pairwise fun earlier later ↦
    (touches cases).idxOf earlier < (touches cases).idxOf later
  /-- Each switch has all the cases, each with what its body has recorded for the domain. -/
  switches : ∀ domain statement, (domain, statement) ∈ emitted → statement =
    .switch test (cases.map fun branch ↦ ⟨branch.patterns, branch.body.statementsOf domain, branch.loc⟩) loc
  /-- Every recorded statement occurs once, in its own domain, in its own case and at its own position. -/
  kept : (emitted.flatMap placed).Perm (recorded cases)
  /-- The same switches come about where the bodies are emptied domain by domain. -/
  drained : drain test loc (emitted.map Prod.fst) cases =
    (emitted, cases.map fun branch ↦ branch.map fun _ ↦ ∅)

theorem distributes_split (test : Value) (cases : List (Case Body)) (loc : Location) :
    Distributes test cases loc (split test cases loc) where
  touched domain := by rw [map_fst_split, mem_domains_iff]
  once := by
    rw [map_fst_split]
    exact nodup_domains cases
  ordered := by
    rw [map_fst_split]
    exact pairwise_idxOf_eraseDups (touches cases)
  switches domain statement mem := ((mem_split_iff test cases loc domain statement).1 mem).2
  kept := perm_placed_split test cases loc
  drained := by
    rw [map_fst_split]
    apply Prod.ext
    · exact drain_fst test loc (nodup_domains cases) cases
    · apply drain_snd test loc
      intro branch mem domain key
      exact (mem_domains_iff cases domain).2 ⟨branch, mem, key⟩

end Lowering

/-! ## Chains, switches and machines -/

namespace IfChain

theorem map_loc_caseListFrom (count index : Nat) (branches : List Branch) :
    (caseListFrom count index branches).map Case.loc = branches.map fun branch ↦ some branch.loc := by
  induction branches generalizing index with
  | nil => rfl
  | cons branch rest ih => rw [caseListFrom, List.map_cons, List.map_cons, ih]

end IfChain

namespace Machine

/-- Where the cases of some states are found, every state has a number. -/
theorem known_of_stateCases {encoding : Table String Nat} {states : List (String × MachineState)}
    {cases : List (Case Body)} (found : stateCases encoding states = .ok cases) :
    ∀ entry ∈ states, entry.1 ∈ encoding.keys := by
  induction states generalizing cases with
  | nil => simp
  | cons entry rest ih =>
    obtain ⟨name, state⟩ := entry
    simp only [stateCases, Table.fetch, bind, Except.bind, pure, Except.pure] at found
    cases code : encoding.get? name with
    | none => simp [code] at found
    | some number =>
      cases others : stateCases encoding rest with
      | error fault => simp [code, others] at found
      | ok listed =>
        intro entry mem
        rcases List.mem_cons.1 mem with rfl | mem
        · exact Table.mem_keys_of_mem_entries ((Table.get?_eq_some_iff ..).1 code)
        · exact ih others entry mem

/-- A machine that closes has a register and a number for every state it declares, and its switches are on the
register. -/
theorem branches_of_close_eq {machine : Machine} {id : MachineId} {loc : Location} {closing : Closing}
    (closed : machine.close id loc = .ok closing) : ∃ register, closing.machine.register = some register ∧
      (∀ name ∈ machine.states.keys, name ∈ closing.machine.encoding.keys) ∧
      closing.branches = Lowering.split (.signal register)
        (caseList closing.machine.encoding machine.states.entries) loc := by
  unfold close at closed
  split at closed
  · simp at closed
  · split at closed
    · rename_i stateless
      rw [Except.ok.injEq] at closed
      subst closed
      rw [initialState?, Option.or_eq_none_iff, List.head?_eq_none_iff] at stateless
      refine ⟨_, rfl, by simp [stateless.2], ?_⟩
      rw [Table.keys, List.map_eq_nil_iff] at stateless
      rw [stateless.2]
      rfl
    · rename_i initial starts
      dsimp only at closed
      split at closed
      · rename_i indicators listed assigned found
        rw [Except.ok.injEq] at closed
        subst closed
        have known := known_of_stateCases found
        rw [stateCases_eq known, Except.ok.injEq] at found
        refine ⟨_, rfl, fun name declared ↦ ?_, by rw [found]⟩
        obtain ⟨entry, mem, rfl⟩ := List.mem_map.1 declared
        exact known entry mem
      · simp at closed
      · simp at closed

end Machine

/-- Chains whose last branch alone may lack a condition, switches, and machines that close come to switches that lose,
double and move nothing: the cases are the branches, the recorded cases or the declared states in their order. -/
theorem constructs_distribute :
    (∀ chain : IfChain, IfChain.Ordered chain.branches → ∃ emitted, chain.lower = .ok emitted ∧
      chain.caseList.map Case.body = chain.branches.map Branch.body ∧
      chain.caseList.map Case.loc = chain.branches.map (fun branch ↦ some branch.loc) ∧
      Lowering.Distributes chain.test chain.caseList chain.loc emitted) ∧
    (∀ switch : OpenSwitch, Lowering.Distributes switch.test switch.caseList switch.loc switch.lower) ∧
    ∀ (machine : Machine) (id : MachineId) (loc : Location) (closing : Machine.Closing),
      machine.close id loc = .ok closing → ∃ register, closing.machine.register = some register ∧
        (∀ name ∈ machine.states.keys, name ∈ closing.machine.encoding.keys) ∧
        Lowering.Distributes (.signal register)
          (Machine.caseList closing.machine.encoding machine.states.entries) loc closing.branches := by
  refine ⟨fun chain ordered ↦ ?_, fun switch ↦ Lowering.distributes_split .., fun machine id loc closing closed ↦ ?_⟩
  · exact ⟨_, IfChain.lower_eq_split ordered, IfChain.map_body_caseListFrom .., IfChain.map_loc_caseListFrom ..,
      Lowering.distributes_split ..⟩
  · obtain ⟨register, complete, known, branches⟩ := Machine.branches_of_close_eq closed
    refine ⟨register, complete, known, ?_⟩
    rw [branches]
    exact Lowering.distributes_split ..

/-! ## A hoist -/

/-- A chain whose first branch touches two domains and whose second one touches none. -/
def hoist : IfChain where
  depth := 0
  loc := ⟨"design", 1, 1⟩
  branches := [
    ⟨some load, (Body.append ∅ synchronous [.assign load load]).append combinational [.assign load load],
      ⟨"design", 1, 1⟩⟩,
    ⟨some load, ∅, ⟨"design", 2, 1⟩⟩,
    ⟨none, Body.append ∅ combinational [.property .cover load none, .assign load load], ⟨"design", 3, 1⟩⟩]
where
  load : Value := .signal ⟨.declared "load", "load", .unsigned 2, 0, none⟩

/-- A machine that mentions its states in another order than it declares them. -/
def hoistDrive : Machine :=
  let mentioned := ((Machine.opened "drive" synchronous none).mention ⟨0, 0⟩ "lift").mention ⟨0, 0⟩ "rest"
  { mentioned with states := ((Table.insert ∅ "rest" ⟨Body.append ∅ combinational [.assign hoist.load hoist.load],
      ⟨"design", 5, 1⟩⟩).insert "lift" ⟨Body.append ∅ synchronous [.transition ⟨0, 0⟩ "rest" ⟨"design", 7, 1⟩],
        ⟨"design", 6, 1⟩⟩) }

theorem hoist_distributes :
    (IfChain.Ordered hoist.branches ∧ ∃ emitted, hoist.lower = .ok emitted ∧
      Lowering.Distributes hoist.test hoist.caseList hoist.loc emitted ∧
      emitted.map Prod.fst = [synchronous, combinational] ∧ (emitted.flatMap Lowering.placed).length = 4) ∧
    ∃ closing register, hoistDrive.close ⟨0, 0⟩ ⟨"design", 4, 1⟩ = .ok closing ∧
      closing.machine.register = some register ∧ closing.machine.encoding.get? "lift" = some 1 ∧
      Lowering.Distributes (.signal register)
        (Machine.caseList closing.machine.encoding hoistDrive.states.entries) ⟨"design", 4, 1⟩ closing.branches ∧
      closing.branches.map Prod.fst = [combinational, synchronous] := by
  obtain ⟨chains, -, machines⟩ := constructs_distribute
  have ordered : IfChain.Ordered hoist.branches := by simp [IfChain.Ordered, hoist]
  obtain ⟨emitted, lowered, -, -, distributes⟩ := chains hoist ordered
  have listed : hoist.lower.toOption.any (fun emitted ↦
      decide (emitted.map Prod.fst = [synchronous, combinational] ∧ (emitted.flatMap Lowering.placed).length = 4)) =
        true := by decide +kernel
  rw [lowered] at listed
  obtain ⟨domains, count⟩ := of_decide_eq_true listed
  have closes : (hoistDrive.close ⟨0, 0⟩ ⟨"design", 4, 1⟩).toOption.any (fun closing ↦
      decide (closing.machine.encoding.get? "lift" = some 1 ∧
        closing.branches.map Prod.fst = [combinational, synchronous])) = true := by decide +kernel
  cases closed : hoistDrive.close ⟨0, 0⟩ ⟨"design", 4, 1⟩ with
  | error failure => simp [closed, Except.toOption] at closes
  | ok closing =>
    rw [closed] at closes
    obtain ⟨number, branches⟩ := of_decide_eq_true closes
    obtain ⟨register, complete, -, emits⟩ := machines _ _ _ closing closed
    exact ⟨⟨ordered, emitted, lowered, distributes, domains, count⟩, closing, register, rfl, complete, number, emits,
      branches⟩

end RegisterTransfer
