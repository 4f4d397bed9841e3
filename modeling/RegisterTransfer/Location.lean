/-!
# Locations

Every call of a description carries the place in the design where it was made. Errors, diagnostics,
branches and fragments keep that place, so that a report can point back at it.
-/

namespace RegisterTransfer

/-- A place in the text of a design. -/
structure Location where
  file : String
  line : Nat
  column : Nat
  deriving DecidableEq, Inhabited

namespace Location

/-- File, line and column, separated by colons. -/
def text (loc : Location) : String :=
  s!"{loc.file}:{loc.line}:{loc.column}"

/-- The written form that names the type as well, for use inside other descriptions. -/
def description (loc : Location) : String :=
  s!"SrcLoc({loc.text})"

end Location

end RegisterTransfer
