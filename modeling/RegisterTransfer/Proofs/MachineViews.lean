import RegisterTransfer.Proofs.Later
import RegisterTransfer.Proofs.Resolved
import Mathlib.Data.List.Forall2

/-!
# One number for every state

The number of a state occurs in many places: in the table of the machine, in the constants that transitions assign and
indicators compare with, in the pattern of its case, and among the names that are shown for the register. Once the
machine is complete they all agree, and nothing that a program does afterwards changes any of them.
-/

namespace RegisterTransfer

namespace Machine

theorem Coded.ofShape_eq {machine : Machine} {register : Signal} (coded : machine.Coded register) {state : String}
    {code : Nat} (numbered : machine.encoding.get? state = some code) :
    Constant.ofShape code register.shape = ⟨code, register.shape⟩ :=
  congrArg (Constant.mk · register.shape) (coded.value_eq numbered)

/-- Wherever a builder and the register of a complete machine have a number for a state, it is `code`. -/
structure Agrees (machine : Machine) (id : MachineId) (register : Signal) (builder : Builder) (state : String)
    (code : Nat) : Prop where
  shown : (register.decoder.getD [])[code]? = some s!"{state}/{code}"
  resolved : ∀ place, Resolution.transition builder.machines id state place =
    .ok (.assign (.signal register) (.const ⟨code, register.shape⟩))
  /-- The indicator of the state is assigned once, among all the indicators of the module. -/
  indicated : ∃ signal, machine.indicators.get? state = some signal ∧
    builder.indicators.filter (fun statement ↦ decide (signal ∈ statement.targets)) =
      [.assign (.signal signal) ((Value.signal register).equals (.const ⟨code, register.shape⟩))]

end Machine

namespace Builder

/-- Among the indicators of a module, those that write the indicator of a state are those of its machine and state. -/
theorem Sound.filter_targets {builder : Builder} (sound : builder.Sound) {id : MachineId} {machine : Machine}
    (found : builder.machines.get? id = some machine) {register : Signal} (complete : machine.register = some register)
    {state : String} {code : Nat} (numbered : machine.encoding.get? state = some code) :
    builder.indicators.filter (fun statement ↦
        decide (Machine.indicator id machine.name state ∈ statement.targets)) =
      [Machine.indication register machine.encoding (state, Machine.indicator id machine.name state)] := by
  set signal := Machine.indicator id machine.name state with signal_def
  have assigned : builder.indicators.filter (Machine.indicates id state) =
      [Machine.indication register machine.encoding (state, signal)] := by
    rw [sound.assigned, found, Option.map_some, Option.getD_some, Machine.indications, complete, numbered]
  have narrower : builder.indicators.filter (fun statement ↦ decide (signal ∈ statement.targets)) =
      (builder.indicators.filter (Machine.indicates id state)).filter
        fun statement ↦ decide (signal ∈ statement.targets) := by
    rw [List.filter_filter]
    refine List.filter_congr fun statement mem ↦ ?_
    obtain ⟨other, name, written, source, rfl, -⟩ := sound.indicators statement mem
    by_cases same : signal = written
    · subst same
      simp [Statement.targets, Value.targets, Machine.indicates, signal_def, Machine.indicator]
    · simp [Statement.targets, Value.targets, same]
  rw [narrower, assigned]
  simp [Machine.indication, Statement.targets, Value.targets]

theorem Sound.agrees {builder : Builder} (sound : builder.Sound) {id : MachineId} {machine : Machine}
    (found : builder.machines.get? id = some machine) {register : Signal} (complete : machine.register = some register)
    {state : String} {code : Nat} (numbered : machine.encoding.get? state = some code) :
    machine.Agrees id register builder state code := by
  have proper := sound.proper id machine found
  have coded := proper.coded register complete
  have exact_ := coded.ofShape_eq numbered
  refine ⟨coded.shown state code numbered, fun place ↦ ?_, Machine.indicator id machine.name state, ?_, ?_⟩
  · rw [Resolution.transition, (Arena.fetch_eq_ok_iff ..).2 found]
    simp only [Machine.assignment?, complete, numbered, exact_]
  · have mem : state ∈ machine.encoding.keys := by
      rw [← Table.contains_iff_mem_keys, Table.contains, numbered]
      rfl
    obtain ⟨signal, listed⟩ := Table.exists_get?_of_mem_keys ((proper.listed state).2 mem)
    rw [listed, proper.indicators state signal ((Table.get?_eq_some_iff ..).1 listed)]
  · rw [sound.filter_targets found complete numbered, Machine.indication, Machine.codeIn, numbered, Option.getD_some,
      exact_]

/-- A domain of a fragment holds what was recorded for it, its transitions resolved, and the indicators in the end. -/
theorem statementsOf_elaborate {builder : Builder} {behind : Option IfChain} (sound : builder.Sound)
    (place : builder.control.AtBody behind []) {platform : Option Platform} {fragment : Fragment}
    (elaborated : builder.elaborate platform = .ok fragment) (domain : String) :
    ∃ resolved, Resolution.statements builder.machines (builder.flushed.statements.statementsOf domain) =
        .ok resolved ∧
      fragment.statements.statementsOf domain =
        resolved ++ if domain = combinational then builder.indicators else [] := by
  have settles := sound.settles_flushed place domain
  have machines : builder.flushed.machines = builder.machines := by rw [flushed_eq]
  have indicators : builder.flushed.indicators = builder.indicators := by rw [flushed_eq]
  rw [machines] at settles
  refine ⟨_, Statement.resolve_eq_settledAll settles, ?_⟩
  rw [statements_of_elaborate sound place elaborated, statementsOf_settledStatements, machines, indicators]

end Builder

/-! ## Machines that have been recorded -/

/-- A machine whose states are renumbered when it is complete. -/
def startsInB : Step :=
  ⟨.machine none none (some "B") "m" [
    ⟨.state "A" [⟨.goto "B", "next", ⟨"design", 3, 1⟩, false⟩], "state", ⟨"design", 2, 1⟩, false⟩,
    ⟨.state "B" [⟨.goto "A", "next", ⟨"design", 5, 1⟩, false⟩], "state", ⟨"design", 4, 1⟩, false⟩],
    "fsm", ⟨"design", 1, 1⟩, false⟩

/-- A module with the machine and nothing else. -/
def renumbered : Program where
  settings := {}
  loc := ⟨"design", 0, 1⟩
  steps := [startsInB]
  platform := none

end RegisterTransfer
