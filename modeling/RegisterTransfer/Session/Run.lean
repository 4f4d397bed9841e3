import RegisterTransfer.Builder.Elaborate
import RegisterTransfer.Builder.Parts
import RegisterTransfer.Session

/-!
# Running programs

Every step is traced when it returns, after the steps of its body. The first refused step of a body ends that
body, unless the step is caught; the steps of a module all run. A fault ends the whole program.
-/

namespace RegisterTransfer

namespace Run

variable {α : Type}

/-- The value a term stands for here. -/
def evaluate (term : Term) : Run Value := do sound (term.eval (← get).environment)

/-- Append what became of a step to the trace, and hand it on. -/
def traced (label : String) (loc : Location) (action : Run Answer) : Run Unit := do
  let result ← settle action
  modify fun session ↦
    { session with trace := session.trace ++ [⟨label, loc, session.builder.diagnostics.length, result⟩] }
  match result with
  | .ok _ => pure ()
  | .error error => throw (.refused error)

/-- Go on whether or not an action is refused. -/
def caught (action : Run Unit) : Run Unit := do
  let _ ← settle action

def storeMachine (key : String) (id : MachineId) : Run Unit :=
  modify fun session ↦ { session with environment := session.environment.storeMachine key id }

/-- Store a value if a name for it is given. -/
def storeValue (name : Option String) (value : Value) : Run Unit :=
  match name with
  | none => pure ()
  | some name =>
    modify fun session ↦ { session with environment := session.environment.storeValue name value }

def addStatements (domain : String) (statements : List StatementTerm) (loc : Location) : Run Unit := do
  let statements ← sound (StatementTerm.evalAll (← get).environment statements)
  build (Build.add domain statements loc)

def ongoing (key state : String) (storeAs : Option String) (loc : Location) : Run Answer := do
  match (← get).environment.machines.get? key with
  | none => return .unknownMachine
  | some id =>
    let value ← build (Build.ongoing id state loc)
    storeValue storeAs value
    return .value value

def machineInfo (key : String) (storeAs : Option String) : Run Answer := do
  match (← get).environment.machines.get? key with
  | none => return .unknownMachine
  | some id =>
    let builder := (← get).builder
    let register := builder.machineRegister? id
    if let some register := register then storeValue storeAs (.signal register)
    return .machineInfo (builder.machineEncoding? id) register

/-- Run the body of a module on a builder of its own and add the module as a part of the current one. -/
def module (name : Option String) (settings : Settings) (loc : Location) (body : Run Unit) : Run Unit := do
  let outer := (← get).builder
  modify fun session ↦ { session with
    builder := .start settings session.started loc
    started := session.started + 1 }
  body
  let finished := (← get).builder
  modify fun session ↦ { session with builder := outer }
  build (Build.addPart name finished.toComponent loc)

def addDomain (domain : ClockDomain) (loc : Location) : Run Unit :=
  build do
    Build.accepted (domain.check loc)
    Build.addDomain domain loc

end Run

mutual

def Step.run : Step → Run Unit
  | ⟨call, label, loc, _⟩ => Run.traced label loc (runCall loc call)

def runCall (loc : Location) : Call (List Step) → Run Answer
  | .add domain statements => do
    Run.addStatements domain statements loc
    return .nothing
  | .ifThen condition body => do
    Run.ifThen (← Run.evaluate condition) loc (runBody body)
    return .nothing
  | .elseIf condition body => do
    Run.elseIf (← Run.evaluate condition) loc (runBody body)
    return .nothing
  | .otherwise body => do
    Run.otherwise loc (runBody body)
    return .nothing
  | .switch test body => do
    Run.switch (← Run.evaluate test) loc (runBody body)
    return .nothing
  | .case patterns body => do
    Run.case (← Run.sound (WrittenPattern.evalAll (← get).environment patterns)) loc (runBody body)
    return .nothing
  | .default body => do
    Run.default loc (runBody body)
    return .nothing
  | .machine name domain initial key body => do
    let id ← Run.machine name domain initial loc fun id ↦ do
      Run.storeMachine key id
      runBody body
    let builder := (← get).builder
    return .machine id (builder.machineEncoding? id) (builder.machineRegister? id)
  | .state name body => do
    Run.state name loc (runBody body)
    return .nothing
  | .goto state => do
    Run.build (Build.goto state loc)
    return .nothing
  | .ongoing key state storeAs => Run.ongoing key state storeAs loc
  | .machineInfo key storeAs => Run.machineInfo key storeAs
  | .module name settings body => do
    Run.module name settings loc (runAll body)
    return .nothing
  | .component name component => do
    Run.build (Build.addPart name component loc)
    return .nothing
  | .part name => do
    let _ ← Run.build (Build.part name loc)
    return .nothing
  | .domain domain => do
    Run.addDomain domain loc
    return .nothing
  | .raise message => throw (.refused (.raise .naming message loc))
  | .settings => do return .settings (← get).builder.settings

/-- Run steps until one is refused that is not caught. -/
def runBody : List Step → Run Unit
  | [] => pure ()
  | step :: rest => do
    if step.caught then Run.caught step.run else step.run
    runBody rest

/-- Run steps, refused or not. -/
def runAll : List Step → Run Unit
  | [] => pure ()
  | step :: rest => do
    Run.caught step.run
    runAll rest

end

/-- What a program comes to: the trace of its steps, the advice it was given, and its fragment. -/
structure Report where
  trace : List Entry
  diagnostics : String
  fragment : Except BuildError Fragment

namespace Program

/-- The session in which no step has run. -/
def start (program : Program) : Session where
  builder := .start program.settings 0 program.loc
  environment := .empty
  started := 1
  trace := []

/-- Run all the steps of a program and elaborate its module. -/
def run (program : Program) : Except Fault Report :=
  match runAll program.steps program.start with
  | .error (.broken fault) _ => .error fault
  | .error (.refused error) session =>
    .ok ⟨session.trace, session.builder.diagnosticsText, .error error⟩
  | .ok () session =>
    match session.builder.elaborate program.platform with
    | .ok fragment => .ok ⟨session.trace, session.builder.diagnosticsText, .ok fragment⟩
    | .error (.refused error) => .ok ⟨session.trace, session.builder.diagnosticsText, .error error⟩
    | .error (.broken fault) => .error fault

end Program

end RegisterTransfer
