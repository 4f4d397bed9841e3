import RegisterTransfer.Location

/-!
# Diagnostics

A diagnostic is advice about a description. It never stops the description, and it keeps the place of the
call that caused it and any number of footers.
-/

namespace RegisterTransfer

inductive Diagnostic.Kind
  /-- A case pattern wider than the value it is compared with. -/
  | deadCase
  /-- A case behind the default case of its switch. -/
  | caseAfterDefault
  /-- A signed value used as a condition. -/
  | signedCondition
  /-- A domain name that is likely a mistake. -/
  | suspiciousDomainName
  deriving DecidableEq

def Diagnostic.Kind.text : Diagnostic.Kind → String
  | .deadCase => "dead case"
  | .caseAfterDefault => "case after default"
  | .signedCondition => "signed condition"
  | .suspiciousDomainName => "suspicious domain name"

inductive Diagnostic.Level
  | error
  | warning
  | info
  | note
  | help
  deriving DecidableEq

def Diagnostic.Level.text : Diagnostic.Level → String
  | .error => "error"
  | .warning => "warning"
  | .info => "info"
  | .note => "note"
  | .help => "help"

structure Diagnostic where
  kind : Diagnostic.Kind
  title : String
  loc : Location
  footers : List (Diagnostic.Level × String)
  deriving DecidableEq

namespace Diagnostic

def signedCondition (loc : Location) : Diagnostic where
  kind := .signedCondition
  title := "Signed values in If/Elif conditions usually result from inverting booleans with `not`, " ++
    "which leads to unexpected results"
  loc := loc
  footers := [(.help, "if this is intentional, reduce the condition explicitly with `as_bool()`")]

def caseAfterDefault (loc : Location) : Diagnostic where
  kind := .caseAfterDefault
  title := "A case defined after the default case will never be active"
  loc := loc
  footers := []

/-- The advice for a pattern given by its text, its length and its binary digits. -/
def deadCase (pattern : String) (length : Nat) (digits : String) (width : Nat) (loc : Location) :
    Diagnostic where
  kind := .deadCase
  title := s!"Case pattern '{pattern}' ({length}'{digits}) is wider than switch value " ++
    s!"(which has width {width}); comparison will never be true"
  loc := loc
  footers := []

def submodulesDomain (loc : Location) : Diagnostic where
  kind := .suspiciousDomainName
  title := "Adding statements to domain 'submodules', did you mean to add a submodule instead?"
  loc := loc
  footers := []

end Diagnostic

end RegisterTransfer
