import RegisterTransfer.BuildError
import RegisterTransfer.Statement

/-!
# State machines

The states of a machine get running numbers in the order in which they are first mentioned, as a state, as the
target of a transition or in a query, and each gets an indicator, one bit that is set while the machine is in
that state. When a machine is complete, the initial state moves to the front and the others follow in the order
of their mention; only then does the state register exist.
-/

namespace RegisterTransfer

/-- A declared state with its statements. -/
structure MachineState where
  body : Body
  loc : Location

structure Machine where
  name : String
  domain : String
  /-- The initial state, if one was asked for. -/
  initial : Option String
  /-- The numbers of the states, final once the machine is complete. -/
  encoding : Table String Nat
  indicators : Table String Signal
  states : Table String MachineState
  /-- The state register of a complete machine. -/
  register : Option Signal

namespace Machine

def opened (name domain : String) (initial : Option String) : Machine :=
  ⟨name, domain, initial, ∅, ∅, ∅, none⟩

/-- The bit that tells whether a machine is in a state. -/
def indicator (id : MachineId) (name state : String) : Signal :=
  ⟨.indicator id state, s!"{name}_ongoing_{state}", Shape.unsigned 1, 0, none⟩

/-- Mention a state: a new one gets the next number and an indicator. -/
def mention (machine : Machine) (id : MachineId) (state : String) : Machine :=
  if machine.encoding.contains state then machine
  else
    { machine with
      encoding := machine.encoding.insert state machine.encoding.size
      indicators := machine.indicators.insert state (indicator id machine.name state) }

/-- The states in the order of their final numbers. -/
def finalOrder (machine : Machine) (initial : String) : List String :=
  initial :: machine.encoding.keys.filter fun state ↦ state != initial

/-- Number states from zero up. -/
def numbered (states : List String) : Table String Nat :=
  Table.ofList states.zipIdx

/-- The register of a machine whose states have been numbered, with a name to show for every number. -/
def stateRegister (id : MachineId) (name : String) (encoding : Table String Nat) : Signal where
  origin := .register id
  name := s!"{name}_state"
  shape := Shape.forRange encoding.size
  init := 0
  decoder := some (encoding.entries.map fun entry ↦ s!"{entry.fst}/{entry.snd}")

/-- The register of a machine without states. -/
def emptyRegister (id : MachineId) (name : String) : Signal :=
  ⟨.register id, s!"{name}_state", Shape.unsigned 0, 0, none⟩

/-- The first state in the order of mention that was never declared. -/
def undefined? (machine : Machine) : Option String :=
  machine.encoding.keys.find? fun state ↦ !machine.states.contains state

/-- The initial state: the one asked for, or the first declared one. -/
def initialState? (machine : Machine) : Option String :=
  machine.initial.or machine.states.keys.head?

/-- Refuse a machine that mentions an undeclared state or asks to start in one. -/
def checkComplete (machine : Machine) (loc : Location) : Except BuildError Unit :=
  match machine.undefined? with
  | some state => .error ⟨.stateUndefined state, loc⟩
  | none =>
    match machine.initial with
    | some state => if machine.states.contains state then .ok () else .error ⟨.initialUndefined state, loc⟩
    | none => .ok ()

end Machine

end RegisterTransfer
