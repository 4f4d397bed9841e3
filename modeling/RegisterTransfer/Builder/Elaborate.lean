import RegisterTransfer.Builder
import RegisterTransfer.Resolution

/-!
# Elaboration

A complete description becomes a fragment. The parts are elaborated first, the named ones before the others;
then the transitions of every domain are resolved, and every domain drives the signals that its statements
write. The indicators of the state machines join the combinational domain.
-/

namespace RegisterTransfer.Builder

/-- Add the fragments of some parts in their order. -/
def elaborateParts (platform : Option Platform) :
    List (Option String × Component × Location) → Fragment → Except Failure Fragment
  | [], fragment => .ok fragment
  | (name, component, loc) :: rest, fragment => do
    let content ← component.elaborate platform
    elaborateParts platform rest (fragment.addPart content name loc)

/-- The parts in the order of their elaboration. -/
def parts (builder : Builder) : List (Option String × Component × Location) :=
  (builder.namedParts.entries.map fun entry ↦ (some entry.1, entry.2)) ++
    builder.anonymousParts.map fun part ↦ (none, part)

/-- Add the resolved statements of every domain. -/
def resolveDomains (machines : Arena Machine) :
    List (String × List Statement) → Fragment → Except Failure Fragment
  | [], fragment => .ok fragment
  | (domain, statements) :: rest, fragment => do
    let resolved ← Resolution.statements machines statements
    resolveDomains machines rest (fragment.addDriving domain resolved)

/-- Add the complete machines by name. -/
def enterMachines (machines : Arena Machine) :
    List (String × MachineId) → Fragment → Except Failure Fragment
  | [], fragment => .ok fragment
  | (name, id) :: rest, fragment =>
    match machines.fetch id with
    | .error fault => .error (.broken fault)
    | .ok machine =>
      match machine.register with
      | none => enterMachines machines rest fragment
      | some register => enterMachines machines rest (fragment.addMachine name ⟨name, register, machine.encoding⟩)

/-- The fragment of a builder whose constructs are all closed. -/
def assemble (builder : Builder) (platform : Option Platform) : Except Failure Fragment := do
  let fragment ← elaborateParts platform builder.parts (.empty builder.loc)
  let fragment ← resolveDomains builder.machines builder.statements.entries fragment
  let fragment :=
    if builder.indicators.isEmpty then fragment else fragment.addDriving combinational builder.indicators
  let fragment := builder.domains.values.foldl Fragment.addDomain fragment
  let fragment ← enterMachines builder.machines builder.complete.entries fragment
  return { fragment with diagnostics := builder.diagnostics }

/-- Close everything that is still open and make the fragment of the module. -/
def elaborate (builder : Builder) (platform : Option Platform) : Except Failure Fragment :=
  match Build.flushAll builder with
  | .ok _ closed => closed.assemble platform
  | .error failure _ => .error failure

/-- A finished description as a part of another one. -/
def toComponent (builder : Builder) : Component := ⟨builder.elaborate⟩

end RegisterTransfer.Builder
