import RegisterTransfer.Construct
import RegisterTransfer.Fault
import RegisterTransfer.Location
import RegisterTransfer.Value

/-!
# Build errors

A call that cannot be accepted is refused with a cause and the place it was made at. The refused construct is
dropped; what was complete before stays, and the description may go on. Each cause belongs to one of four
kinds, and its wording is fixed here and nowhere else.
-/

namespace RegisterTransfer

inductive BuildError.Kind
  /-- A construct outside of the construct that has to enclose it. -/
  | scoping
  /-- A name that is taken, or one that stands for nothing. -/
  | naming
  /-- A case pattern that does not fit its switch. -/
  | pattern
  /-- A signal driven from two domains. -/
  | driverConflict
  deriving DecidableEq

def BuildError.Kind.text : BuildError.Kind → String
  | .scoping => "scoping"
  | .naming => "naming"
  | .pattern => "pattern"
  | .driverConflict => "driver conflict"

inductive BuildError.Cause
  | statementsInside (construct : Construct)
  | keywordInside (keyword : Keyword) (construct : Construct)
  | keywordOutside (keyword : Keyword) (construct : Construct)
  | statementKind (domain : String)
  | elseIfWithoutIf
  | otherwiseWithoutIf
  | transitionOutsideState
  | machineInDomain (domain : String)
  | submoduleExists (name : String)
  | submoduleUnknown (name : String)
  | domainExists (name : String)
  | domainNotClocked (name : String)
  | stateExists (state : String)
  | stateUndefined (state : String)
  | initialUndefined (state : String)
  | machineForeign (index : Nat)
  | stateUnknown (machine state : String)
  | transitionUnresolved (state machine : String)
  | patternDigits (digits : String)
  | patternWidth (digits : String) (width : Nat)
  | patternValue (value : Value)
  | driverConflict (signal : Signal) (domain earlier : String)
  /-- A refusal that a description raises on its own account. -/
  | raised (kind : BuildError.Kind) (message : String)
  deriving DecidableEq

namespace BuildError.Cause

def kind : Cause → Kind
  | statementsInside _ | keywordInside _ _ | keywordOutside _ _ | statementKind _ | elseIfWithoutIf
  | otherwiseWithoutIf | transitionOutsideState | machineInDomain _ => .scoping
  | submoduleExists _ | submoduleUnknown _ | domainExists _ | domainNotClocked _ | stateExists _
  | stateUndefined _ | initialUndefined _ | machineForeign _ | stateUnknown _ _
  | transitionUnresolved _ _ => .naming
  | patternDigits _ | patternWidth _ _ | patternValue _ => .pattern
  | driverConflict _ _ _ => .driverConflict
  | raised kind _ => kind

def message : Cause → String
  | statementsInside construct =>
    s!"Statements are not permitted directly inside of {construct.text}; " ++
      s!"they are permitted inside of {construct.text} {construct.part}"
  | keywordInside keyword construct =>
    s!"{keyword.text} is not permitted directly inside of {construct.text}; " ++
      s!"it is permitted inside of {construct.text} {construct.part}"
  | keywordOutside keyword construct => s!"{keyword.text} is not permitted outside of {construct.text}"
  | statementKind domain => s!"Only assignments and property checks may be appended to d.{domain}"
  | elseIfWithoutIf => "Elif without preceding If"
  | otherwiseWithoutIf => "Else without preceding If/Elif"
  | transitionOutsideState => "`next` is only permitted inside an FSM state"
  | machineInDomain domain => s!"FSM may not be driven by the '{domain}' domain"
  | submoduleExists name => s!"Submodule named '{name}' already exists"
  | submoduleUnknown name => s!"No submodule named '{name}' exists"
  | domainExists name => s!"Clock domain named '{name}' already exists"
  | domainNotClocked name => s!"Domain '{name}' may not be clocked"
  | stateExists state => s!"FSM state '{state}' is already defined"
  | stateUndefined state => s!"FSM state '{state}' is referenced but not defined"
  | initialUndefined state => s!"FSM initial state '{state}' is not defined"
  | machineForeign index => s!"FsmId({index}) does not belong to this module"
  | stateUnknown machine state => s!"FSM '{machine}' has no state '{state}'"
  | transitionUnresolved state machine =>
    s!"Transition to state '{state}' of FSM '{machine}' cannot be resolved"
  | patternDigits digits =>
    s!"Case pattern '{digits}' must consist of 0, 1, and - (don't care) bits, and may include whitespace"
  | patternWidth digits width =>
    s!"Case pattern '{digits}' must have the same width as switch value (which is {width})"
  | patternValue value =>
    s!"Case pattern must be a string or a constant-castable expression, not {value.text}"
  | driverConflict signal domain earlier =>
    s!"Driver-driver conflict: trying to drive {signal.text} from d.{domain}, " ++
      s!"but it is already driven from d.{earlier}"
  | raised _ message => message

end BuildError.Cause

structure BuildError where
  cause : BuildError.Cause
  loc : Location
  deriving DecidableEq

namespace BuildError

def kind (error : BuildError) : Kind := error.cause.kind

def message (error : BuildError) : String := error.cause.message

/-- A refusal of a given kind in the description's own words. -/
def raise (kind : Kind) (message : String) (loc : Location) : BuildError := ⟨.raised kind message, loc⟩

/-- The kind, the place and the message on one line. -/
def text (error : BuildError) : String :=
  s!"{error.kind.text} error at {error.loc.text}: {error.message}"

end BuildError

/-- How a call ends that does not return: refused, which can be caught, or stopped by a fault. -/
inductive Failure
  | refused (error : BuildError)
  | broken (fault : Fault)

end RegisterTransfer
