import RegisterTransfer.BuildError
import RegisterTransfer.Table

/-!
# Drivers

A signal is driven from one domain only. The table of drivers remembers for every signal the domain that
claimed it first, and refuses every claim from another domain.
-/

namespace RegisterTransfer

/-- The driving domain of every claimed signal, in the order of the claims. -/
abbrev Drivers := Table Signal String

namespace Drivers

/-- Whether a domain may drive a signal; nothing is claimed. -/
def check (drivers : Drivers) (signal : Signal) (domain : String) (loc : Location) :
    Except BuildError Unit :=
  match drivers.get? signal with
  | none => .ok ()
  | some earlier =>
    if earlier = domain then .ok () else .error ⟨.driverConflict signal domain earlier, loc⟩

/-- Claim a signal for a domain. -/
def drive (drivers : Drivers) (signal : Signal) (domain : String) (loc : Location) :
    Except BuildError Drivers := do
  drivers.check signal domain loc
  return drivers.insertIfAbsent signal domain

def checkAll (drivers : Drivers) (domain : String) (loc : Location) : List Signal → Except BuildError Unit
  | [] => .ok ()
  | signal :: rest => do
    drivers.check signal domain loc
    drivers.checkAll domain loc rest

def driveAll (domain : String) (loc : Location) : Drivers → List Signal → Except BuildError Drivers
  | drivers, [] => .ok drivers
  | drivers, signal :: rest => do driveAll domain loc (← drivers.drive signal domain loc) rest

end Drivers

end RegisterTransfer
