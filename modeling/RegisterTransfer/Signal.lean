import RegisterTransfer.Arena
import RegisterTransfer.Shape

/-!
# Signals

A signal is a named store of bits. Names need not differ; what tells two signals apart is their origin:
a signal is declared by the design, or it belongs to a state machine, as its state register or as the
indicator of one of its states.
-/

namespace RegisterTransfer

/-- Names a state machine of one builder. -/
abbrev MachineId := Arena.Key

/-- Where a signal comes from; no two signals of a design share an origin. -/
inductive Signal.Origin
  | declared (key : String)
  | register (machine : MachineId)
  | indicator (machine : MachineId) (state : String)
  deriving DecidableEq

structure Signal where
  origin : Signal.Origin
  name : String
  shape : Shape
  init : Int
  /-- Names to show for the values of the signal, from zero up. -/
  decoder : Option (List String)
  deriving DecidableEq

namespace Signal

def text (signal : Signal) : String := s!"(sig {signal.name})"

end Signal

end RegisterTransfer
