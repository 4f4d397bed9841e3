import RegisterTransfer.Builder

/-!
# Parts and clock domains

A module may hold other components as parts, by name or without one, and clock domains by name. Names are
given once.
-/

namespace RegisterTransfer.Build

/-- Hold a component as a part; a name must be new among the named parts. -/
def addPart (name : Option String) (component : Component) (loc : Location) : Build Unit := do
  match name with
  | none =>
    modify fun builder ↦ { builder with anonymousParts := builder.anonymousParts ++ [(component, loc)] }
  | some name =>
    if (← get).namedParts.contains name then refuse (.submoduleExists name) loc
    modify fun builder ↦ { builder with namedParts := builder.namedParts.insert name (component, loc) }

/-- The part of a given name. -/
def part (name : String) (loc : Location) : Build Component := do
  match (← get).namedParts.get? name with
  | some (component, _) => return component
  | none => refuse (.submoduleUnknown name) loc

def addDomain (domain : ClockDomain) (loc : Location) : Build Unit := do
  if (← get).domains.contains domain.name then refuse (.domainExists domain.name) loc
  modify fun builder ↦ { builder with domains := builder.domains.insert domain.name domain }

end RegisterTransfer.Build
