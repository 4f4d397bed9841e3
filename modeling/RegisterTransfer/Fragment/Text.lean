import RegisterTransfer.Fragment
import RegisterTransfer.Statement.Text

/-!
# The text of fragments

The statements of every domain come first, then the driven signals, the clock domains and the state machines,
each in the order of the fragment, and last the parts, one level deeper.
-/

namespace RegisterTransfer

/-- The states of a machine with their codes. -/
def EncodedMachine.encodingText (machine : EncodedMachine) : String :=
  " ".intercalate (machine.encoding.entries.map fun entry ↦ s!"{entry.fst}={entry.snd}")

namespace Fragment

def statementsText (depth : Nat) (statements : Body) : String :=
  String.join (statements.entries.map fun entry ↦
    Layout.line depth s!"domain {entry.fst}" ++ Statement.textAll (depth + 1) entry.2)

def driversText (depth : Nat) (drivers : Table String (List Signal)) : String :=
  String.join (drivers.entries.map fun entry ↦
    Layout.line depth (s!"drivers {entry.fst}: " ++ " ".intercalate (entry.2.map Signal.name)))

def domainsText (depth : Nat) (domains : Table String ClockDomain) : String :=
  String.join (domains.values.map fun domain ↦
    Layout.line depth s!"clock domain {domain.name} {domain.edge.text}")

def machinesText (depth : Nat) (machines : Table String EncodedMachine) : String :=
  String.join (machines.entries.map fun entry ↦
    Layout.line depth s!"generated fsm {entry.fst}: {entry.snd.encodingText}")

mutual

def textAt (depth : Nat) : Fragment → String
  | ⟨_, parts, statements, drivers, domains, machines, _⟩ =>
    statementsText depth statements ++ driversText depth drivers ++ domainsText depth domains ++
      machinesText depth machines ++ partsText depth parts

def partsText (depth : Nat) : List (Part Fragment) → String
  | [] => ""
  | part :: rest => partText depth part ++ partsText depth rest

def partText (depth : Nat) : Part Fragment → String
  | ⟨content, name, _⟩ =>
    Layout.line depth ("submodule " ++ name.getD "<anonymous>") ++ content.textAt (depth + 1)

end

def text (fragment : Fragment) : String := fragment.textAt 0

end Fragment

end RegisterTransfer
