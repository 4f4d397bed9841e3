import RegisterTransfer.Layout
import RegisterTransfer.Statement

/-!
# The text of statements

One line for every statement and for the head of every case, the statements of a case two levels below
their branch. The cases of a branch show their patterns side by side, or the word `default`.
-/

namespace RegisterTransfer

def Pattern.text : Pattern → String
  | .bits digits => digits
  | .int value => toString value

/-- The head of a case. -/
def Case.headText {body : Type} (branch : Case body) : String :=
  if branch.patterns.isEmpty then "default"
  else "case " ++ " ".intercalate (branch.patterns.map Pattern.text)

namespace Statement

mutual

def text (depth : Nat) : Statement → String
  | .assign target source => Layout.line depth s!"(eq {target.text} {source.text})"
  | .property kind test none => Layout.line depth s!"({kind.text} {test.text})"
  | .property kind test (some name) => Layout.line depth s!"({kind.text} {name} {test.text})"
  | .switch test cases _ => Layout.line depth s!"switch {test.text}" ++ casesText (depth + 1) cases
  | .transition _ state _ => Layout.line depth s!"(next {state})"

def casesText (depth : Nat) : List (Case (List Statement)) → String
  | [] => ""
  | branch :: rest => caseText depth branch ++ casesText depth rest

def caseText (depth : Nat) : Case (List Statement) → String
  | ⟨patterns, body, loc⟩ =>
    Layout.line depth (Case.headText ⟨patterns, body, loc⟩) ++ textAll (depth + 1) body

def textAll (depth : Nat) : List Statement → String
  | [] => ""
  | statement :: rest => statement.text depth ++ textAll depth rest

end

end Statement

end RegisterTransfer
