import RegisterTransfer.Builder.Switch

/-!
# Programs

A program is a description written down as a tree of steps: every step is one call, and a construct carries the
steps of its body. Values are written as terms, which may mention results stored by earlier steps, since the
indicator of a state is handed out only while the program runs.
-/

namespace RegisterTransfer

/-! ## Terms -/

/-- What earlier steps have stored by name. -/
structure Environment where
  values : Table String Value
  machines : Table String MachineId

namespace Environment

def empty : Environment := ⟨∅, ∅⟩

def storeValue (environment : Environment) (name : String) (value : Value) : Environment :=
  { environment with values := environment.values.insert name value }

def storeMachine (environment : Environment) (name : String) (id : MachineId) : Environment :=
  { environment with machines := environment.machines.insert name id }

def value (environment : Environment) (name : String) : Except Fault Value :=
  match environment.values.get? name with
  | some value => .ok value
  | none => .error (.unboundName name)

def machine (environment : Environment) (name : String) : Except Fault MachineId :=
  match environment.machines.get? name with
  | some id => .ok id
  | none => .error (.unboundName name)

end Environment

/-- A value as it is written in a program. -/
inductive Term
  | literal (value : Value)
  /-- The value stored under a name. -/
  | stored (name : String)
  | operator (op : Operator) (operands : List Term)
  | asBool (operand : Term)
  | cat (parts : List Term)
  | slice (operand : Term) (start stop : Nat)

namespace Term

mutual

def eval (environment : Environment) : Term → Except Fault Value
  | .literal value => .ok value
  | .stored name => environment.value name
  | .operator op operands => do return .operator op (← evalAll environment operands)
  | .asBool operand => do return (← operand.eval environment).asBool
  | .cat parts => do return .cat (← evalAll environment parts)
  | .slice operand start stop => do (← operand.eval environment).checkedSlice start stop

def evalAll (environment : Environment) : List Term → Except Fault (List Value)
  | [] => .ok []
  | term :: rest => do return (← term.eval environment) :: (← evalAll environment rest)

end

end Term

/-- A statement as it is written in a program. -/
inductive StatementTerm
  | assign (target source : Term)
  | property (kind : PropertyKind) (test : Term) (name : Option String)
  | switch (test : Term) (cases : List (Case (List StatementTerm))) (loc : Location)
  | transition (machine state : String) (loc : Location)

namespace StatementTerm

mutual

def eval (environment : Environment) : StatementTerm → Except Fault Statement
  | .assign target source => do return .assign (← target.eval environment) (← source.eval environment)
  | .property kind test name => do return .property kind (← test.eval environment) name
  | .switch test cases loc => do
    return .switch (← test.eval environment) (← evalCases environment cases) loc
  | .transition machine state loc => do return .transition (← environment.machine machine) state loc

def evalCases (environment : Environment) :
    List (Case (List StatementTerm)) → Except Fault (List (Case (List Statement)))
  | [] => .ok []
  | branch :: rest => do return (← evalCase environment branch) :: (← evalCases environment rest)

def evalCase (environment : Environment) :
    Case (List StatementTerm) → Except Fault (Case (List Statement))
  | ⟨patterns, body, loc⟩ => do return ⟨patterns, ← evalAll environment body, loc⟩

def evalAll (environment : Environment) : List StatementTerm → Except Fault (List Statement)
  | [] => .ok []
  | statement :: rest => do return (← statement.eval environment) :: (← evalAll environment rest)

end

end StatementTerm

namespace WrittenPattern

def eval (environment : Environment) : WrittenPattern Term → Except Fault (WrittenPattern Value)
  | .bits digits => .ok (.bits digits)
  | .value source => do return .value (← source.eval environment)

def evalAll (environment : Environment) :
    List (WrittenPattern Term) → Except Fault (List (WrittenPattern Value))
  | [] => .ok []
  | pattern :: rest => do return (← pattern.eval environment) :: (← evalAll environment rest)

end WrittenPattern

/-! ## Steps -/

/-- A call, over the form in which its body is given. -/
inductive Call (body : Type)
  | add (domain : String) (statements : List StatementTerm)
  | ifThen (condition : Term) (body : body)
  | elseIf (condition : Term) (body : body)
  | otherwise (body : body)
  | switch (test : Term) (body : body)
  | case (patterns : List (WrittenPattern Term)) (body : body)
  | default (body : body)
  /-- A state machine, whose key is stored under `key` for its body and what follows. -/
  | machine (name domain initial : Option String) (key : String) (body : body)
  | state (name : String) (body : body)
  | goto (state : String)
  | ongoing (key state : String) (storeAs : Option String)
  | machineInfo (key : String) (storeAs : Option String)
  /-- A module of its own, which becomes a part of this one. -/
  | module (name : Option String) (settings : Settings) (body : body)
  | component (name : Option String) (component : Component)
  | part (name : String)
  | domain (domain : ClockDomain)
  /-- A refusal on the program's own account. -/
  | raise (message : String)
  | settings

/-- A call at a place. The refusal of a caught step does not end the body around it. -/
structure Step where
  call : Call (List Step)
  label : String
  loc : Location
  caught : Bool

/-- The description of one module and the platform it is elaborated for. -/
structure Program where
  settings : Settings
  loc : Location
  steps : List Step
  platform : Option Platform

end RegisterTransfer
