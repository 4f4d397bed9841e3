import RegisterTransfer.Proofs.Resolved

/-!
# Resolving nested statements

Resolution goes through the leaves of its statements in the order in which they stand and stops at the first
transition that stands for no assignment. If there is none, every transition gives way to its assignment where it
stands, and nothing else is touched. So neither the nesting nor the cases decide whether statements resolve, but the
leaves alone.
-/

namespace RegisterTransfer

namespace Resolution

/-! ## Going on as long as nothing stops -/

variable {α : Type}

/-- A value, if there is no reason to stop. -/
def barring : Option Failure → α → Except Failure α
  | none, value => .ok value
  | some failure, _ => .error failure

theorem barring_eq_ok_iff (stop : Option Failure) (value result : α) :
    barring stop value = .ok result ↔ stop = none ∧ value = result := by
  cases stop with
  | none => simp [barring]
  | some failure => simp [barring]

/-- What is done in front stops what is done behind it. -/
theorem barring_cons (first second : Option Failure) (value : α) (rest : List α) :
    (do return (← barring first value) :: (← barring second rest)) = barring (first.or second) (value :: rest) := by
  cases first with
  | some failure => rfl
  | none =>
    cases second with
    | some failure => rfl
    | none => rfl

end Resolution

/-- A machine that cannot be sent to a state has no register yet, or no number for the state. -/
theorem Machine.assignment?_eq_none {machine : Machine} {state : String}
    (unassigned : machine.assignment? state = none) :
    machine.register = none ∨ machine.encoding.get? state = none := by
  rw [assignment?] at unassigned
  cases register : machine.register with
  | none => exact .inl rfl
  | some signal =>
    cases numbered : machine.encoding.get? state with
    | none => exact .inr rfl
    | some code => simp [register, numbered] at unassigned

namespace Statement

variable (machines : Arena Machine)

/-! ## Leaves that stop the resolution -/

/-- Why a leaf is not resolved, if it is not. -/
def obstacle? : Statement → Option Failure
  | .transition id state loc =>
    match Resolution.transition machines id state loc with
    | .ok _ => none
    | .error failure => some failure
  | _ => none

theorem obstacle?_eq_none_iff (leaf : Statement) : leaf.obstacle? machines = none ↔ leaf.Settles machines := by
  cases leaf with
  | assign target source => simp [obstacle?, Settles]
  | property kind test name => simp [obstacle?, Settles]
  | switch test cases loc => simp [obstacle?, Settles]
  | transition id state loc =>
    cases found : machines.get? id with
    | none => simp [obstacle?, Resolution.transition, Arena.fetch, Settles, found]
    | some machine =>
      cases assigned : machine.assignment? state with
      | none => simp [obstacle?, Resolution.transition, Arena.fetch, Settles, found, assigned]
      | some assignment => simp [obstacle?, Resolution.transition, Arena.fetch, Settles, found, assigned]

/-- A leaf that names a machine at hand stops the resolution only as a transition to a state that its machine cannot
be sent to. -/
theorem obstacle?_eq_some {leaf : Statement} {failure : Failure} (stops : leaf.obstacle? machines = some failure)
    (known : ∀ id state loc, leaf = .transition id state loc → machines.contains id = true) :
    ∃ id state loc machine, leaf = .transition id state loc ∧ machines.get? id = some machine ∧
      machine.assignment? state = none ∧
      failure = .refused ⟨.transitionUnresolved state machine.name, loc⟩ := by
  cases leaf with
  | assign target source => simp [obstacle?] at stops
  | property kind test name => simp [obstacle?] at stops
  | switch test cases loc => simp [obstacle?] at stops
  | transition id state loc =>
    have present := known id state loc rfl
    rw [Arena.contains_eq_isSome] at present
    obtain ⟨machine, found⟩ := Option.isSome_iff_exists.1 present
    refine ⟨id, state, loc, machine, rfl, found, ?_⟩
    cases assigned : machine.assignment? state with
    | some assignment => simp [obstacle?, Resolution.transition, Arena.fetch, found, assigned] at stops
    | none =>
      refine ⟨rfl, ?_⟩
      simpa [obstacle?, Resolution.transition, Arena.fetch, found, assigned] using stops.symm

/-- Why statements with the given leaves are not resolved: the first reason that one of them has. -/
def firstObstacle? (leaves : List Statement) : Option Failure := leaves.findSome? (obstacle? machines)

theorem firstObstacle?_append (first second : List Statement) :
    firstObstacle? machines (first ++ second) =
      (firstObstacle? machines first).or (firstObstacle? machines second) :=
  List.findSome?_append

theorem firstObstacle?_singleton (leaf : Statement) :
    firstObstacle? machines [leaf] = leaf.obstacle? machines := by
  cases stops : leaf.obstacle? machines with
  | none => simp [firstObstacle?, stops]
  | some failure => simp [firstObstacle?, stops]

theorem firstObstacle?_eq_none_iff (leaves : List Statement) :
    firstObstacle? machines leaves = none ↔ ∀ leaf ∈ leaves, leaf.Settles machines := by
  rw [firstObstacle?, List.findSome?_eq_none_iff]
  exact forall₂_congr fun leaf _ ↦ obstacle?_eq_none_iff machines leaf

/-- What stops the resolution of leaves that name machines at hand is the first transition that does not settle. -/
theorem firstObstacle?_eq_some {leaves : List Statement} {failure : Failure}
    (stops : firstObstacle? machines leaves = some failure)
    (known : ∀ id state loc, .transition id state loc ∈ leaves → machines.contains id = true) :
    ∃ earlier id state loc rest machine, leaves = earlier ++ .transition id state loc :: rest ∧
      (∀ leaf ∈ earlier, leaf.Settles machines) ∧ machines.get? id = some machine ∧
      (machine.register = none ∨ machine.encoding.get? state = none) ∧
      failure = .refused ⟨.transitionUnresolved state machine.name, loc⟩ := by
  obtain ⟨earlier, leaf, rest, rfl, stopped, free⟩ := List.findSome?_eq_some_iff.1 stops
  have here : ∀ id state loc, leaf = .transition id state loc → machines.contains id = true := by
    rintro id state loc rfl
    exact known id state loc (by simp)
  obtain ⟨id, state, loc, machine, rfl, found, unassigned, rfl⟩ := obstacle?_eq_some machines stopped here
  exact ⟨earlier, id, state, loc, rest, machine, rfl,
    fun leaf mem ↦ (obstacle?_eq_none_iff ..).1 (free leaf mem), found,
    Machine.assignment?_eq_none unassigned, rfl⟩

/-! ## Resolution by leaves -/

theorem caseList_eq_barring {cases : List (Case (List Statement))}
    (bodies : ∀ branch ∈ cases, Resolution.statements machines branch.body =
      Resolution.barring (firstObstacle? machines (leavesAll branch.body)) (settledAll machines branch.body)) :
    Resolution.caseList machines cases =
      Resolution.barring (firstObstacle? machines (leavesCases cases)) (settledCases machines cases) := by
  induction cases with
  | nil => rfl
  | cons branch rest ih =>
    obtain ⟨patterns, body, loc⟩ := branch
    have first : Resolution.singleCase machines ⟨patterns, body, loc⟩ =
        Resolution.barring (firstObstacle? machines (leavesAll body)) ⟨patterns, settledAll machines body, loc⟩ := by
      have inner := bodies _ (List.mem_cons_self ..)
      simp only at inner
      rw [Resolution.singleCase, inner]
      cases firstObstacle? machines (leavesAll body) <;> rfl
    rw [Resolution.caseList, first, ih fun branch mem ↦ bodies branch (List.mem_cons_of_mem _ mem),
      Resolution.barring_cons, leavesCases, leavesCase, firstObstacle?_append, settledCases, settledCase]

/-- A statement resolves by its leaves if its bodies do. -/
theorem statement_eq_barring {statement : Statement}
    (bodies : ∀ body ∈ statement.bodies, Resolution.statements machines body =
      Resolution.barring (firstObstacle? machines (leavesAll body)) (settledAll machines body)) :
    Resolution.statement machines statement =
      Resolution.barring (firstObstacle? machines statement.leaves) (statement.settled machines) := by
  cases statement with
  | assign target source => rfl
  | property kind test name => rfl
  | switch test cases loc =>
    rw [Resolution.statement, leaves, settled,
      caseList_eq_barring machines fun branch mem ↦ bodies branch.body (List.mem_map_of_mem mem)]
    cases firstObstacle? machines (leavesCases cases) <;> rfl
  | transition id state loc =>
    rw [leaves, firstObstacle?_singleton, Resolution.statement]
    cases found : machines.get? id with
    | none => simp [obstacle?, Resolution.transition, Arena.fetch, Resolution.barring, found]
    | some machine =>
      cases assigned : machine.assignment? state with
      | none => simp [obstacle?, Resolution.transition, Arena.fetch, Resolution.barring, found, assigned]
      | some assignment =>
        simp [obstacle?, Resolution.transition, Arena.fetch, Resolution.barring, settled, found, assigned]

/-- Nested to whatever depth, statements resolve up to the first leaf that has no assignment. -/
theorem statements_eq_barring (statements : List Statement) :
    Resolution.statements machines statements =
      Resolution.barring (firstObstacle? machines (leavesAll statements)) (settledAll machines statements) := by
  induction statements using list_induction with
  | nil => rfl
  | cons statement rest bodies ih =>
    rw [Resolution.statements, statement_eq_barring machines bodies, ih, Resolution.barring_cons, leavesAll,
      firstObstacle?_append, settledAll]

/-! ## What is left -/

/-- An arena without machines settles nothing. -/
theorem settledAll_empty (tag : Nat) (statements : List Statement) :
    settledAll (.empty tag) statements = statements := by
  induction statements using list_induction with
  | nil => rfl
  | cons statement rest bodies ih =>
    have first : statement.settled (.empty tag) = statement := by
      cases statement with
      | switch test cases loc =>
        rw [settled, settledCases_eq_map, switch.injEq]
        refine ⟨rfl, ?_, rfl⟩
        calc cases.map (fun branch ↦ branch.map (settledAll (.empty tag)))
            = cases.map id := List.map_congr_left fun branch mem ↦ by
              rw [Case.map, bodies branch.body (List.mem_map_of_mem mem)]
              rfl
          _ = cases := List.map_id cases
      | transition id state loc => simp [settled, Arena.get?, Arena.empty]
      | assign target source => rfl
      | property kind test name => rfl
    rw [settledAll, first, ih]

variable {machines}

/-- Where no transition is left, any machines resolve to the same statements. -/
theorem statements_of_isPlain {statements : List Statement}
    (plain : ∀ leaf ∈ leavesAll statements, leaf.isPlain = true) :
    Resolution.statements machines statements = .ok statements := by
  have settles : ∀ leaf ∈ leavesAll statements, leaf.Settles machines := by
    intro leaf mem
    have known := plain leaf mem
    cases leaf with
    | transition id state loc => simp [isPlain] at known
    | assign target source => trivial
    | property kind test name => trivial
    | switch test cases loc => trivial
  have same : settledAll machines statements = settledAll (.empty 0) statements := by
    refine settledAll_congr fun id state loc mem ↦ ?_
    have known := plain _ mem
    simp [isPlain] at known
  rw [resolve_eq_settledAll settles, same, settledAll_empty]

/-- A transition that settles becomes the assignment of the number of its target. -/
theorem Settles.settled_eq {id : MachineId} {state : String} {loc : Location}
    (settles : (Statement.transition id state loc).Settles machines) :
    ∃ machine register code, machines.get? id = some machine ∧ machine.register = some register ∧
      machine.encoding.get? state = some code ∧
      (Statement.transition id state loc).settled machines =
        .assign (.signal register) (.const (.ofShape code register.shape)) := by
  obtain ⟨machine, found, assigned⟩ := settles
  cases register : machine.register with
  | none => simp [Machine.assignment?, register] at assigned
  | some signal =>
    cases numbered : machine.encoding.get? state with
    | none => simp [Machine.assignment?, register, numbered] at assigned
    | some code =>
      exact ⟨machine, signal, code, found, register, numbered, by
        simp [settled, found, Machine.assignment?, register, numbered]⟩

end Statement

open Statement in
/-- Statements that name machines at hand resolve exactly if every transition, at any depth, is one to a state with a
number, of a machine with a register. The result is the same statements, each transition replaced by the assignment of
that number to that register; no transition is left in it, and resolving it again changes nothing, whatever the
machines. Otherwise the first transition that has no assignment is refused at its place. -/
theorem Resolution.settles_nested_transitions (machines : Arena Machine) (statements : List Statement)
    (known : ∀ id state loc, .transition id state loc ∈ leavesAll statements → machines.contains id = true) :
    ((∃ resolved, Resolution.statements machines statements = .ok resolved) ↔
      ∀ id state loc, .transition id state loc ∈ leavesAll statements → ∃ machine register code,
        machines.get? id = some machine ∧ machine.register = some register ∧
          machine.encoding.get? state = some code) ∧
    (∀ resolved, Resolution.statements machines statements = .ok resolved →
      resolved = settledAll machines statements ∧
      (∀ id state loc, .transition id state loc ∈ leavesAll statements → ∃ machine register code,
        machines.get? id = some machine ∧ machine.register = some register ∧
          machine.encoding.get? state = some code ∧
          (Statement.transition id state loc).settled machines =
            .assign (.signal register) (.const (.ofShape code register.shape))) ∧
      (∀ id state loc, .transition id state loc ∉ leavesAll resolved) ∧
      ∀ others, Resolution.statements others resolved = .ok resolved) ∧
    ((¬∃ resolved, Resolution.statements machines statements = .ok resolved) →
      ∃ earlier id state loc rest machine error,
        leavesAll statements = earlier ++ .transition id state loc :: rest ∧
        (∀ leaf ∈ earlier, leaf.Settles machines) ∧
        machines.get? id = some machine ∧ (machine.register = none ∨ machine.encoding.get? state = none) ∧
        Resolution.statements machines statements = .error (.refused error) ∧
        error.kind = .naming ∧ error.loc = loc ∧ error.cause = .transitionUnresolved state machine.name) := by
  refine ⟨⟨?_, fun reach ↦ ?_⟩, ?_, fun refused ↦ ?_⟩
  · rintro ⟨resolved, returned⟩ id state loc mem
    rw [statements_eq_barring, barring_eq_ok_iff, firstObstacle?_eq_none_iff] at returned
    obtain ⟨machine, register, code, found, assigned, numbered, -⟩ := Settles.settled_eq (returned.1 _ mem)
    exact ⟨machine, register, code, found, assigned, numbered⟩
  · refine ⟨_, resolve_eq_settledAll fun leaf mem ↦ ?_⟩
    cases leaf with
    | assign target source => trivial
    | property kind test name => trivial
    | switch test cases loc => trivial
    | transition id state loc =>
      obtain ⟨machine, register, code, found, assigned, numbered⟩ := reach id state loc mem
      exact ⟨machine, found, by simp [Machine.assignment?, assigned, numbered]⟩
  · intro resolved returned
    rw [statements_eq_barring, barring_eq_ok_iff, firstObstacle?_eq_none_iff] at returned
    obtain ⟨settles, rfl⟩ := returned
    have plain := isPlain_of_settledAll settles
    refine ⟨rfl, fun id state loc mem ↦ Settles.settled_eq (settles _ mem), fun id state loc mem ↦ ?_, fun others ↦
      statements_of_isPlain plain⟩
    have assigns := plain _ mem
    simp [isPlain] at assigns
  · cases stops : firstObstacle? machines (leavesAll statements) with
    | none =>
      rw [statements_eq_barring, stops] at refused
      exact absurd ⟨_, rfl⟩ refused
    | some failure =>
      obtain ⟨earlier, id, state, loc, rest, machine, split, settles, found, unassigned, rfl⟩ :=
        firstObstacle?_eq_some machines stops known
      refine ⟨earlier, id, state, loc, rest, machine, ⟨.transitionUnresolved state machine.name, loc⟩, split, settles,
        found, unassigned, ?_, rfl, rfl, rfl⟩
      rw [statements_eq_barring, stops, barring]

/-! ## Two transitions at different depths -/

/-- A complete machine with the given states. -/
def lamp (states : List String) : Arena Machine :=
  Arena.push (.empty 0) {
    Machine.opened "lamp" "sync" none with
    encoding := Machine.numbered states
    register := some (Machine.stateRegister ⟨0, 0⟩ "lamp" (Machine.numbered states)) }

/-- A transition to `A` inside a branch, and one to `B` inside a branch of that branch. -/
def nestedTransitions : List Statement :=
  [.switch (.const (.ofBool true)) [⟨[.bits "1"], [
      .transition ⟨0, 0⟩ "A" ⟨"design", 2, 1⟩,
      .switch (.const (.ofBool true)) [⟨[], [.transition ⟨0, 0⟩ "B" ⟨"design", 4, 1⟩], none⟩] ⟨"design", 3, 1⟩],
    none⟩] ⟨"design", 1, 1⟩]

theorem leavesAll_nestedTransitions : Statement.leavesAll nestedTransitions =
    [.transition ⟨0, 0⟩ "A" ⟨"design", 2, 1⟩, .transition ⟨0, 0⟩ "B" ⟨"design", 4, 1⟩] := rfl

theorem nestedTransitions_resolution :
    (∃ resolved, Resolution.statements (lamp ["A", "B"]) nestedTransitions = .ok resolved ∧
      ∀ others, Resolution.statements others resolved = .ok resolved) ∧
    ∃ earlier rest error, Statement.leavesAll nestedTransitions =
        earlier ++ .transition ⟨0, 0⟩ "B" ⟨"design", 4, 1⟩ :: rest ∧
      Resolution.statements (lamp ["A"]) nestedTransitions = .error (.refused error) ∧
      error.kind = .naming ∧ error.loc = ⟨"design", 4, 1⟩ := by
  have names : ∀ states id state loc, .transition id state loc ∈ Statement.leavesAll nestedTransitions →
      (lamp states).contains id = true := by
    intro states id state loc mem
    rw [leavesAll_nestedTransitions] at mem
    simp only [List.mem_cons, Statement.transition.injEq, List.not_mem_nil, or_false] at mem
    rcases mem with ⟨rfl, -, -⟩ | ⟨rfl, -, -⟩ <;> rfl
  have complete := Resolution.settles_nested_transitions (lamp ["A", "B"]) nestedTransitions (names _)
  have partly := Resolution.settles_nested_transitions (lamp ["A"]) nestedTransitions (names _)
  constructor
  · have returned : ∃ resolved, Resolution.statements (lamp ["A", "B"]) nestedTransitions = .ok resolved := ⟨_, rfl⟩
    obtain ⟨resolved, same⟩ := returned
    exact ⟨resolved, same, (complete.2.1 resolved same).2.2.2⟩
  · have computed : Resolution.statements (lamp ["A"]) nestedTransitions =
        .error (.refused ⟨.transitionUnresolved "B" "lamp", ⟨"design", 4, 1⟩⟩) := rfl
    have refused : ¬∃ resolved, Resolution.statements (lamp ["A"]) nestedTransitions = .ok resolved := by
      rintro ⟨resolved, returned⟩
      rw [computed] at returned
      contradiction
    obtain ⟨earlier, id, state, loc, rest, machine, error, split, -, -, -, ended, naming, place, -⟩ :=
      partly.2.2 refused
    rw [computed, Except.error.injEq, Failure.refused.injEq] at ended
    subst ended
    subst place
    have mem : .transition id state ⟨"design", 4, 1⟩ ∈ Statement.leavesAll nestedTransitions := by
      rw [split]
      simp
    rw [leavesAll_nestedTransitions] at mem
    obtain ⟨rfl, rfl⟩ : id = ⟨0, 0⟩ ∧ state = "B" := by simpa using mem
    exact ⟨earlier, rest, _, split, computed, naming, rfl⟩

end RegisterTransfer
