import RegisterTransfer.Builder.Statements

/-!
# State machines in a description

A machine is opened with a name, a clocked domain and perhaps an initial state. Its states are mentioned before
their bodies are recorded, transitions are filed under the domain of the machine, and a query hands out the
indicator of a state.
-/

namespace RegisterTransfer.Build

/-- Change a machine that has to be one of this builder. -/
def changeMachine (id : MachineId) (f : Machine → Machine) : Build Unit := do
  let machine ← sound ((← get).machines.fetch id)
  modify fun builder ↦ { builder with machines := builder.machines.modify id fun _ ↦ f machine }

/-- Open a machine; what is not chosen comes from the settings. -/
def openMachine (name domain initial : Option String) (loc : Location) : Build MachineId := do
  checkPlace .machine loc
  let settings := (← get).settings
  let name := name.getD settings.fsmDefaultName
  let domain := domain.getD settings.fsmDefaultDomain
  if domain = combinational then refuse (.machineInDomain domain) loc
  let id := (← get).machines.nextKey
  modify fun builder ↦ { builder with machines := builder.machines.push (.opened name domain initial) }
  openFrame (.machine id loc)
  return id

/-- Close the machine on top and enter it among the complete ones. -/
def finishMachine (id : MachineId) : Build Unit := do
  let machine ← sound ((← get).machines.fetch id)
  closeTop
  modify fun builder ↦ { builder with complete := builder.complete.insert machine.name id }

/-- The machine on top of the stack. -/
def topMachine : Build MachineId := do
  match (← get).control.top? with
  | some (.machine id _) => return id
  | _ => throw (.broken .unexpectedFrame)

/-- Mention a state that is declared here, and tell to which machine it belongs. -/
def startState (state : String) (loc : Location) : Build MachineId := do
  checkPlace .state loc
  let id ← topMachine
  let machine ← sound ((← get).machines.fetch id)
  if machine.states.contains state then refuse (.stateExists state) loc
  changeMachine id fun machine ↦ machine.mention id state
  return id

/-- Declare a state with its recorded body. -/
def addState (id : MachineId) (state : String) (body : Body) (loc : Location) : Build Unit := do
  let machine ← sound ((← get).machines.fetch id)
  let states ← sound (machine.states.insertFirst state ⟨body, loc⟩)
  changeMachine id fun machine ↦ { machine with states := states }

/-- The machine whose state is being recorded, perhaps inside of other constructs. -/
def currentMachine (loc : Location) : Build MachineId := do
  let control := (← get).control
  if control.context = some .machine then refuse .transitionOutsideState loc
  match control.innermostMachine? with
  | some id => return id
  | none => refuse .transitionOutsideState loc

/-- Send the innermost machine to a state at the next clock edge. -/
def goto (state : String) (loc : Location) : Build Unit := do
  let id ← currentMachine loc
  let machine ← sound ((← get).machines.fetch id)
  changeMachine id fun machine ↦ machine.mention id state
  record machine.domain [.transition id state loc] loc

/-- The bit that is set while a machine is in a state; a machine that is not complete learns of the state. -/
def ongoing (id : MachineId) (state : String) (loc : Location) : Build Value := do
  match (← get).machines.get? id with
  | none => refuse (.machineForeign id.index) loc
  | some machine =>
    if !machine.indicators.contains state && machine.register.isSome then
      refuse (.stateUnknown machine.name state) loc
    let mentioned := if machine.indicators.contains state then machine else machine.mention id state
    modify fun builder ↦ { builder with machines := builder.machines.modify id fun _ ↦ mentioned }
    return .signal (← sound (mentioned.indicators.fetch state))

end RegisterTransfer.Build
