import RegisterTransfer.Machine

/-!
# Resolving transitions

Once every machine is complete, a transition becomes the assignment of the number of its target to the state
register. Nothing else changes, and the first transition whose machine has no register, or no number for its
target, is refused at its place.
-/

namespace RegisterTransfer

/-- The assignment that sends a machine to a state. -/
def Machine.assignment? (machine : Machine) (state : String) : Option Statement :=
  match machine.register, machine.encoding.get? state with
  | some register, some code => some (.assign (.signal register) (.const (.ofShape code register.shape)))
  | _, _ => none

namespace Resolution

/-- The assignment a transition stands for. -/
def transition (machines : Arena Machine) (id : MachineId) (state : String) (loc : Location) :
    Except Failure Statement :=
  match machines.fetch id with
  | .error fault => .error (.broken fault)
  | .ok machine =>
    match machine.assignment? state with
    | some assignment => .ok assignment
    | none => .error (.refused ⟨.transitionUnresolved state machine.name, loc⟩)

mutual

def statement (machines : Arena Machine) : Statement → Except Failure Statement
  | .assign target source => .ok (.assign target source)
  | .property kind test name => .ok (.property kind test name)
  | .switch test cases loc => do return .switch test (← caseList machines cases) loc
  | .transition id state loc => transition machines id state loc

def caseList (machines : Arena Machine) :
    List (Case (List Statement)) → Except Failure (List (Case (List Statement)))
  | [] => .ok []
  | branch :: rest => do return (← singleCase machines branch) :: (← caseList machines rest)

def singleCase (machines : Arena Machine) : Case (List Statement) → Except Failure (Case (List Statement))
  | ⟨patterns, body, loc⟩ => do return ⟨patterns, ← statements machines body, loc⟩

def statements (machines : Arena Machine) : List Statement → Except Failure (List Statement)
  | [] => .ok []
  | first :: rest => do return (← statement machines first) :: (← statements machines rest)

end

end Resolution

end RegisterTransfer
