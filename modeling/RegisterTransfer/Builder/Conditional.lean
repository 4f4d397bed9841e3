import RegisterTransfer.Builder

/-!
# Conditional chains

A chain grows by one branch for every recorded body, as long as it is on top of the stack at the level where it
was opened.
-/

namespace RegisterTransfer.Build

/-- Open a chain without branches, and tell at which height of the stack its frame lies. -/
def openChain (condition : Value) (loc : Location) : Build Nat := do
  checkPlace .ifThen loc
  adviseSigned condition loc
  openFrame (.chain ⟨(← get).control.depth, loc, []⟩)
  return (← get).control.height - 1

/-- Refuse to go on with a chain where none is open. -/
def requireChain (cause : BuildError.Cause) (loc : Location) : Build Unit := do
  if (← get).control.openChain?.isNone then refuse cause loc

/-- Whether a further condition may follow here. -/
def resumeChain (condition : Value) (loc : Location) : Build Unit := do
  checkPlace .elseIf loc
  adviseSigned condition loc
  requireChain .elseIfWithoutIf loc

/-- Whether the branch for all other cases may follow here. -/
def finishChain (loc : Location) : Build Unit := do
  checkPlace .otherwise loc
  requireChain .otherwiseWithoutIf loc

/-- Put a recorded body at the end of the open chain. -/
def addBranch (test : Option Value) (body : Body) (loc : Location) : Build Unit := do
  match (← get).control.openChain? with
  | none => throw (.broken .unexpectedFrame)
  | some chain =>
    let grown := { chain with branches := chain.branches ++ [⟨test, body, loc⟩] }
    modify fun builder ↦ { builder with control := builder.control.replaceTop (.chain grown) }

end RegisterTransfer.Build
