/-!
# Settings

What a design may choose about its descriptions: which advice is given, what state machines are called and
clocked by if they do not say, and whether written diagnostics show their place.
-/

namespace RegisterTransfer

structure Settings where
  /-- Advise against signed values as conditions. -/
  warnSignedCondition : Bool := true
  /-- The name of state machines that choose none. -/
  fsmDefaultName : String := "fsm"
  /-- The domain of state machines that choose none. -/
  fsmDefaultDomain : String := "sync"
  /-- Show the place of a diagnostic among its footers. -/
  diagnosticFooterLocation : Bool := true
  deriving DecidableEq, Inhabited

end RegisterTransfer
