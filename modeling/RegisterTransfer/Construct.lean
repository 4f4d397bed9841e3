/-!
# Constructs

Conditional chains, switches and state machines nest, and each is built up by keywords of its own. A switch
holds cases only and a state machine states only, so every keyword has one place where it may stand: directly
inside of a construct, or outside of both switches and state machines.
-/

namespace RegisterTransfer

inductive Construct
  | conditional
  | switch
  | machine
  deriving DecidableEq

namespace Construct

def text : Construct → String
  | conditional => "If"
  | switch => "Switch"
  | machine => "FSM"

/-- The name of what stands directly inside of the construct. -/
def part : Construct → String
  | conditional => "Elif/Else"
  | switch => "Case"
  | machine => "State"

end Construct

inductive Keyword
  | ifThen
  | elseIf
  | otherwise
  | switch
  | case
  | default
  | machine
  | state
  deriving DecidableEq

namespace Keyword

def text : Keyword → String
  | ifThen => "If"
  | elseIf => "Elif"
  | otherwise => "Else"
  | switch => "Switch"
  | case => "Case"
  | default => "Default"
  | machine => "FSM"
  | state => "FSM State"

/-- The construct a keyword has to stand directly inside of. -/
def place : Keyword → Option Construct
  | case | default => some .switch
  | state => some .machine
  | ifThen | elseIf | otherwise | switch | machine => none

end Keyword

end RegisterTransfer
