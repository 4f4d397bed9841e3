import RegisterTransfer.BuildError

/-!
# Clock domains

Every domain but the combinational one has a clock. A clock domain names the clock edge it listens to and
how it is reset.
-/

namespace RegisterTransfer

/-- The name of the combinational domain, which has no clock. -/
def combinational : String := "comb"

/-- The domain of statements that name no clock of their own. -/
def synchronous : String := "sync"

inductive ClockEdge
  | rising
  | falling
  deriving DecidableEq

def ClockEdge.text : ClockEdge → String
  | .rising => "pos"
  | .falling => "neg"

structure ClockDomain where
  name : String
  edge : ClockEdge
  isLocal : Bool
  asyncReset : Bool
  resetLess : Bool
  deriving DecidableEq

namespace ClockDomain

/-- A domain with a rising clock edge and a synchronous reset. -/
def plain (name : String) : ClockDomain := ⟨name, .rising, false, false, false⟩

/-- The combinational domain may not be given a clock. -/
def check (domain : ClockDomain) (loc : Location) : Except BuildError Unit :=
  if domain.name = combinational then .error ⟨.domainNotClocked domain.name, loc⟩ else .ok ()

end ClockDomain

end RegisterTransfer
