import RegisterTransfer.Builder.Conditional
import RegisterTransfer.Builder.Machine
import RegisterTransfer.Program

/-!
# Sessions

A running program works on the builder of the current module and on what the steps so far have stored and
answered. The body of a construct is recorded apart from the statements around it: whether it returns or is
refused, the surrounding body, level and place are restored, and a refused body takes the frames it has opened
with it.
-/

namespace RegisterTransfer

/-- What an accepted call hands back. -/
inductive Answer
  | nothing
  | machine (id : MachineId) (encoding : Option (Table String Nat)) (register : Option Signal)
  | value (value : Value)
  /-- A query about a machine whose key was never stored. -/
  | unknownMachine
  | machineInfo (encoding : Option (Table String Nat)) (register : Option Signal)
  | settings (settings : Settings)

/-- What became of a step, with the number of diagnostics of its module after it. -/
structure Entry where
  label : String
  loc : Location
  diagnostics : Nat
  result : Except BuildError Answer

structure Session where
  builder : Builder
  environment : Environment
  /-- How many builders the program has started. -/
  started : Nat
  /-- The steps that have returned, in the order of their return. -/
  trace : List Entry

/-- A part of a running program. -/
abbrev Run := EStateM Failure Session

namespace Run

variable {α : Type}

/-- A call on the builder of the current module. -/
def build (call : Build α) : Run α := fun session ↦
  match call session.builder with
  | .ok value builder => .ok value { session with builder := builder }
  | .error failure builder => .error failure { session with builder := builder }

/-- Hand on a result unless it is a fault. -/
def sound : Except Fault α → Run α
  | .ok value => pure value
  | .error fault => throw (.broken fault)

/-- Make a refusal a result. -/
def settle (action : Run α) : Run (Except BuildError α) := fun session ↦
  match action session with
  | .ok value session => .ok (.ok value) session
  | .error (.refused error) session => .ok (.error error) session
  | .error (.broken fault) session => .error (.broken fault) session

/-- Change the builder if an action is refused. -/
def onRefusal (action : Run α) (cleanup : Builder → Builder) : Run α := fun session ↦
  match action session with
  | .error (.refused error) session =>
    .error (.refused error) { session with builder := cleanup session.builder }
  | result => result

end Run

/-! ## Bodies -/

namespace Builder

/-- Drop the frames above a height. -/
def truncate (builder : Builder) (height : Nat) : Builder :=
  { builder with control := builder.control.truncate height }

/-- Start a body of its own, `levels` deeper than the one around it. -/
def enterBody (levels : Nat) (builder : Builder) : Builder :=
  { builder with
    statements := ∅
    control := { builder.control with context := none, depth := builder.control.depth + levels } }

/-- Start the inside of a switch or of a machine, where only its cases or states may stand. -/
def enterConstruct (construct : Construct) (builder : Builder) : Builder :=
  { builder with
    control := { builder.control with context := some construct, depth := builder.control.depth + 1 } }

/-- Go back to the place of `outer`, one level up. -/
def leaveConstruct (outer builder : Builder) : Builder :=
  { builder with
    control := { builder.control with context := outer.control.context, depth := builder.control.depth - 1 } }

/-- Go back to the body around, whose statements, level and place are those of `outer`. -/
def leaveBody (outer builder : Builder) : Builder :=
  { builder with
    control := { builder.control with context := outer.control.context, depth := outer.control.depth }
    statements := outer.statements }

end Builder

namespace Run

/-- Record a body apart, and hand back its statements. Branches of a chain are one level deeper than the chain;
cases and states are at the level of their construct's inside. -/
def capture (levels : Nat) (body : Run Unit) : Run Body := do
  let outer := (← get).builder
  build (modify (Builder.enterBody levels))
  let result ← settle (do body; build Build.flush)
  let recorded := (← get).builder.statements
  match result with
  | .ok () =>
    build (modify outer.leaveBody)
    return recorded
  | .error error =>
    build (modify fun builder ↦ outer.leaveBody (builder.truncate outer.control.height))
    throw (.refused error)

/-- Run the inside of the construct on top of the stack, whose frame is dropped if the inside is refused. -/
def inside (construct : Construct) (body : Run Unit) : Run Unit := do
  let outer := (← get).builder
  build (modify (Builder.enterConstruct construct))
  match ← settle body with
  | .ok () => build (modify outer.leaveConstruct)
  | .error error =>
    build (modify fun builder ↦ outer.leaveConstruct (builder.truncate (outer.control.height - 1)))
    throw (.refused error)

/-! ## Constructs with bodies -/

/-- Start a chain with its first branch. A chain whose first branch is refused is dropped. -/
def ifThen (condition : Value) (loc : Location) (body : Run Unit) : Run Unit := do
  let height ← build (Build.openChain condition loc)
  onRefusal (do build (Build.addBranch (some condition) (← capture 1 body) loc))
    fun builder ↦ builder.truncate height

/-- Go on with the chain at this level. -/
def elseIf (condition : Value) (loc : Location) (body : Run Unit) : Run Unit := do
  build (Build.resumeChain condition loc)
  build (Build.addBranch (some condition) (← capture 1 body) loc)

/-- End the chain at this level with the branch that is taken when no other is. -/
def otherwise (loc : Location) (body : Run Unit) : Run Unit := do
  build (Build.finishChain loc)
  build (Build.addBranch none (← capture 1 body) loc)
  build Build.closeTop

def switch (test : Value) (loc : Location) (body : Run Unit) : Run Unit := do
  build (Build.openSwitch test loc)
  inside .switch body
  build Build.closeTop

/-- Record a case; a case of which no pattern is left is dropped after its body has run. -/
def case (patterns : List (WrittenPattern Value)) (loc : Location) (body : Run Unit) : Run Unit := do
  let patterns ← build (Build.startCase patterns loc)
  let recorded ← capture 0 body
  unless patterns.isEmpty do
    build (Build.addCase patterns recorded loc)

def default (loc : Location) (body : Run Unit) : Run Unit := do
  build (Build.startDefault loc)
  build (Build.addCase [] (← capture 0 body) loc)

/-- Run a machine, whose key is known to its body. -/
def machine (name domain initial : Option String) (loc : Location) (body : MachineId → Run Unit) :
    Run MachineId := do
  let id ← build (Build.openMachine name domain initial loc)
  inside .machine (body id)
  build (Build.finishMachine id)
  return id

def state (name : String) (loc : Location) (body : Run Unit) : Run Unit := do
  let id ← build (Build.startState name loc)
  build (Build.addState id name (← capture 0 body) loc)

end Run

end RegisterTransfer
