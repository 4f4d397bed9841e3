import RegisterTransfer.Component
import RegisterTransfer.Diagnostic.Text
import RegisterTransfer.Drivers
import RegisterTransfer.Lowering
import RegisterTransfer.Settings

/-!
# The builder

The builder of one module keeps the statements of the body being recorded, the open constructs, the driven
signals and the state machines. A call reads and changes this state, and a refused call keeps the state it has
reached, so that the description can go on after it.
-/

namespace RegisterTransfer

structure Builder where
  settings : Settings
  diagnostics : List Diagnostic
  /-- The statements of the body that is being recorded. -/
  statements : Body
  control : Control
  /-- The assignments of the indicators of complete machines, all of them combinational. -/
  indicators : List Statement
  drivers : Drivers
  namedParts : Table String (Component × Location)
  anonymousParts : List (Component × Location)
  domains : Table String ClockDomain
  machines : Arena Machine
  /-- The complete machines by name; of several machines of one name the last one counts. -/
  complete : Table String MachineId
  loc : Location

namespace Builder

/-- A builder that has recorded nothing; `tag` tells its machines from those of other builders. -/
def start (settings : Settings) (tag : Nat) (loc : Location) : Builder where
  settings := settings
  diagnostics := []
  statements := ∅
  control := .empty
  indicators := []
  drivers := .empty
  namedParts := ∅
  anonymousParts := []
  domains := ∅
  machines := .empty tag
  complete := ∅
  loc := loc

/-- The advice given so far, with an empty line between diagnostics. -/
def diagnosticsText (builder : Builder) : String :=
  Diagnostic.textAll builder.diagnostics builder.settings.diagnosticFooterLocation

/-- The register of a machine, once it is complete. -/
def machineRegister? (builder : Builder) (id : MachineId) : Option Signal :=
  (builder.machines.get? id).bind Machine.register

/-- The numbers of the states of a machine, final once it is complete. -/
def machineEncoding? (builder : Builder) (id : MachineId) : Option (Table String Nat) :=
  (builder.machines.get? id).map Machine.encoding

end Builder

/-- A call on a builder. -/
abbrev Build := EStateM Failure Builder

namespace Build

variable {α : Type}

def refuse (cause : BuildError.Cause) (loc : Location) : Build α := throw (.refused ⟨cause, loc⟩)

/-- Go on with a result unless it is a refusal. -/
def accepted : Except BuildError α → Build α
  | .ok value => pure value
  | .error error => throw (.refused error)

/-- Go on with a result unless it is a fault. -/
def sound : Except Fault α → Build α
  | .ok value => pure value
  | .error fault => throw (.broken fault)

def settled : Except Failure α → Build α
  | .ok value => pure value
  | .error failure => throw failure

/-! ## Closing constructs -/

/-- File branch statements at the end of the body that is being recorded. -/
def appendBranches : List (String × Statement) → Build Unit
  | [] => pure ()
  | (domain, statement) :: rest => do
    modify fun builder ↦ { builder with statements := builder.statements.append domain [statement] }
    appendBranches rest

/-- Turn a frame that has left the stack into branch statements. -/
def lowerFrame : Frame → Build (List (String × Statement))
  | .chain chain => sound chain.lower
  | .switch switch => pure switch.lower
  | .machine id loc => do
    let machine ← sound ((← get).machines.fetch id)
    let closing ← settled (machine.close id loc)
    modify fun builder ↦ { builder with
      machines := builder.machines.modify id fun _ ↦ closing.machine
      indicators := builder.indicators ++ closing.indicators }
    return closing.branches

/-- Close the innermost construct, if there is one. -/
def closeTop : Build Unit := do
  match (← get).control.pop? with
  | none => pure ()
  | some (frame, control) =>
    modify fun builder ↦ { builder with control := control }
    appendBranches (← lowerFrame frame)

def closeFrames : Nat → Build Unit
  | 0 => pure ()
  | count + 1 => do
    closeTop
    closeFrames count

/-- Close the constructs of the current body that have ended. -/
def flush : Build Unit := do closeFrames (← get).control.staleCount

/-- Close everything, once the description is complete. -/
def flushAll : Build Unit := do closeFrames (← get).control.height

/-- Open a construct after the ended ones are closed. -/
def openFrame (frame : Frame) : Build Unit := do
  flush
  modify fun builder ↦ { builder with control := builder.control.push frame }

/-! ## Checks and advice -/

/-- Refuse a keyword in any place but its own. -/
def checkPlace (keyword : Keyword) (loc : Location) : Build Unit := do
  let context := (← get).control.context
  if context = keyword.place then pure ()
  else match context, keyword.place with
    | none, some place => refuse (.keywordOutside keyword place) loc
    | some construct, _ => refuse (.keywordInside keyword construct) loc
    | none, none => throw (.broken .unexpectedPlace)

def report (diagnostic : Diagnostic) : Build Unit :=
  modify fun builder ↦ { builder with diagnostics := builder.diagnostics ++ [diagnostic] }

/-- Advise against a signed condition, if the settings ask for it. -/
def adviseSigned (condition : Value) (loc : Location) : Build Unit := do
  if (← get).settings.warnSignedCondition && condition.shape.signed then
    report (.signedCondition loc)

end Build

end RegisterTransfer
