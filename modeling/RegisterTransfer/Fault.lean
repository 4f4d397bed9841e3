/-!
# Faults

A fault is a broken assumption: an argument outside the domain of an operation, or a state that no
sequence of calls is supposed to reach. Unlike a refusal it cannot be caught, and it ends the whole run.
-/

namespace RegisterTransfer

inductive Fault
  /-- A slice whose ends do not lie in order inside of the value. -/
  | sliceRange (start stop width : Nat)
  /-- A branch position that is not below the number of conditions. -/
  | branchIndex (index count : Nat)
  /-- A first insertion under a key that is already there. -/
  | entryExists
  /-- A look-up of an entry that should be there. -/
  | missingEntry (key : String)
  /-- A key used with an arena that did not hand it out. -/
  | foreignKey (index : Nat)
  /-- A frame of another kind on top of the control stack than the construct that runs. -/
  | unexpectedFrame
  /-- A keyword that stands in its place and is refused all the same. -/
  | unexpectedPlace
  /-- A term that mentions a name nothing was stored under. -/
  | unboundName (name : String)
  deriving DecidableEq

namespace Fault

def message : Fault → String
  | sliceRange start stop width => s!"invalid slice {start}..{stop} of value with width {width}"
  | branchIndex _ _ => "assertion failed: index < count"
  | entryExists => "entry already exists"
  | missingEntry key => s!"no entry for key {key}"
  | foreignKey index => s!"key {index} used with an arena that did not create it"
  | unexpectedFrame => "another frame than expected is on top of the stack"
  | unexpectedPlace => "internal error: entered unreachable code"
  | unboundName name => s!"nothing is stored under the name {name}"

end Fault

end RegisterTransfer
