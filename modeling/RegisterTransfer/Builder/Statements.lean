import RegisterTransfer.Builder

/-!
# Adding statements

Assignments and property checks are filed under a domain. All signals that the statements write are checked
before any of them is claimed, so statements that are refused leave nothing behind.
-/

namespace RegisterTransfer

/-- Whether a statement may be added as it is; branches and transitions have calls of their own. -/
def Statement.isPlain : Statement → Bool
  | .assign _ _ => true
  | .property _ _ _ => true
  | .switch _ _ _ => false
  | .transition _ _ _ => false

namespace Build

/-- File statements under a domain, after the constructs that have ended are closed and every written signal
is claimed. -/
def record (domain : String) (statements : List Statement) (loc : Location) : Build Unit := do
  flush
  let signals := Statement.writtenAll statements
  accepted ((← get).drivers.checkAll domain loc signals)
  let drivers ← accepted (Drivers.driveAll domain loc (← get).drivers signals)
  modify fun builder ↦ { builder with
    drivers := drivers
    statements := builder.statements.append domain statements }

/-- Add assignments and property checks to a domain. -/
def add (domain : String) (statements : List Statement) (loc : Location) : Build Unit := do
  if let some construct := (← get).control.context then
    refuse (.statementsInside construct) loc
  unless statements.all Statement.isPlain do
    refuse (.statementKind domain) loc
  if domain = "submodules" then
    report (.submodulesDomain loc)
  record domain statements loc

end Build

end RegisterTransfer
