import RegisterTransfer.Location
import RegisterTransfer.Table
import RegisterTransfer.Value

/-!
# Statements

A statement assigns a value, checks a property, branches on a value, or sends a state machine to a state
whose code is not known yet. Of the cases of a branch the first one with a matching pattern is taken, and a
case without patterns always matches.
-/

namespace RegisterTransfer

/-- What a case is compared with: bits from most to least significant, where every digit but `0` and `1`
leaves the bit open, or an integer. -/
inductive Pattern
  | bits (digits : String)
  | int (value : Int)
  deriving DecidableEq

/-- A case of a branch over some kind of body. -/
structure Case (body : Type) where
  patterns : List Pattern
  body : body
  loc : Option Location

namespace Case

variable {body result : Type}

def map (f : body → result) (branch : Case body) : Case result :=
  { branch with body := f branch.body }

end Case

inductive PropertyKind
  | assert
  | assume
  | cover
  deriving DecidableEq

def PropertyKind.text : PropertyKind → String
  | .assert => "assert"
  | .assume => "assume"
  | .cover => "cover"

inductive Statement
  | assign (target source : Value)
  | property (kind : PropertyKind) (test : Value) (name : Option String)
  | switch (test : Value) (cases : List (Case (List Statement))) (loc : Location)
  /-- A transition to a state whose code is settled only when the machine is complete. -/
  | transition (machine : MachineId) (state : String) (loc : Location)

/-- The statements of one body, filed under their domains in the order of first use. -/
abbrev Body := Table String (List Statement)

namespace Body

/-- Put statements at the end of a domain; no statements leave the body as it is. -/
def append (body : Body) (domain : String) (statements : List Statement) : Body :=
  if statements.isEmpty then body else body.upsert domain fun earlier ↦ earlier.getD [] ++ statements

/-- What a body holds for a domain. -/
def statementsOf (body : Body) (domain : String) : List Statement := (body.get? domain).getD []

end Body

namespace Statement

/-! ## Written signals -/

mutual

/-- The signals a statement writes, one for every mention. A transition writes nothing yet, for its
register does not exist. -/
def targets : Statement → List Signal
  | .assign target _ => target.targets
  | .property _ _ _ => []
  | .switch _ cases _ => targetsCases cases
  | .transition _ _ _ => []

def targetsCases : List (Case (List Statement)) → List Signal
  | [] => []
  | branch :: rest => targetsCase branch ++ targetsCases rest

def targetsCase : Case (List Statement) → List Signal
  | ⟨_, body, _⟩ => targetsAll body

def targetsAll : List Statement → List Signal
  | [] => []
  | statement :: rest => statement.targets ++ targetsAll rest

end

/-- The signals a statement writes, in the order of first mention. -/
def written (statement : Statement) : List Signal := statement.targets.eraseDups

/-- The signals a list of statements writes, in the order of first mention. -/
def writtenAll (statements : List Statement) : List Signal := (targetsAll statements).eraseDups

/-! ## Parts of a branch -/

/-- The body of the first case that always matches, for a statement that branches. -/
def defaultBody? : Statement → Option (List Statement)
  | .switch _ cases _ => (cases.find? fun branch ↦ branch.patterns.isEmpty).map Case.body
  | _ => none

end Statement

end RegisterTransfer
