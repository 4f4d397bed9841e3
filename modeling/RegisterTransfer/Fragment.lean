import RegisterTransfer.ClockDomain
import RegisterTransfer.Diagnostic
import RegisterTransfer.Statement

/-!
# Fragments

A fragment is what a finished description stands for: the statements of every domain, the signals each domain
drives, the clock domains, the state machines as they were encoded, the fragments of its parts, and the
diagnostics that came up.
-/

namespace RegisterTransfer

/-- A state machine as it was encoded in the end. -/
structure EncodedMachine where
  name : String
  register : Signal
  encoding : Table String Nat

/-- A part of a fragment, with or without a name. -/
structure Part (content : Type) where
  content : content
  name : Option String
  loc : Location

structure Fragment where
  loc : Location
  parts : List (Part Fragment)
  statements : Body
  drivers : Table String (List Signal)
  domains : Table String ClockDomain
  machines : Table String EncodedMachine
  diagnostics : List Diagnostic

namespace Fragment

def empty (loc : Location) : Fragment := ⟨loc, [], ∅, ∅, ∅, ∅, []⟩

def addPart (fragment : Fragment) (part : Fragment) (name : Option String) (loc : Location) : Fragment :=
  { fragment with parts := fragment.parts ++ [⟨part, name, loc⟩] }

/-- Put statements at the end of a domain, which is listed from now on even if there are none. -/
def addStatements (fragment : Fragment) (domain : String) (statements : List Statement) : Fragment :=
  { fragment with
    statements := fragment.statements.upsert domain fun earlier ↦ earlier.getD [] ++ statements }

/-- Record that a domain drives a signal, once. -/
def addDriver (fragment : Fragment) (signal : Signal) (domain : String) : Fragment :=
  { fragment with
    drivers := fragment.drivers.upsert domain fun earlier ↦
      let signals := earlier.getD []
      if signal ∈ signals then signals else signals ++ [signal] }

/-- Record statements together with the signals they write. -/
def addDriving (fragment : Fragment) (domain : String) (statements : List Statement) : Fragment :=
  (Statement.writtenAll statements).foldl (fun result signal ↦ result.addDriver signal domain)
    (fragment.addStatements domain statements)

def addDomain (fragment : Fragment) (domain : ClockDomain) : Fragment :=
  { fragment with domains := fragment.domains.insert domain.name domain }

def addMachine (fragment : Fragment) (key : String) (machine : EncodedMachine) : Fragment :=
  { fragment with machines := fragment.machines.insert key machine }

/-- The domain that drives a signal here, without a look into the parts. -/
def drivingDomain? (fragment : Fragment) (signal : Signal) : Option String :=
  (fragment.drivers.entries.find? fun entry ↦ decide (signal ∈ entry.2)).map Prod.fst

/-- The first part of a given name. -/
def part? (fragment : Fragment) (name : String) : Option Fragment :=
  (fragment.parts.find? fun part ↦ part.name == some name).map Part.content

def machine? (fragment : Fragment) (key : String) : Option EncodedMachine :=
  fragment.machines.get? key

end Fragment

end RegisterTransfer
