import RegisterTransfer.Builder

/-!
# Switches

The cases of a switch are compared with its value in the order of their recording. A pattern is written as bits
of the width of the value, with blanks where they help reading, or as a value that folds to a constant. A
constant for which more bits are counted than the value has can never match: it is left out with advice, and a
case without any other pattern is left out as a whole. Of several cases with the same patterns the first one counts.
-/

namespace RegisterTransfer

/-- A pattern as it is written in a description, before it is compared with the switch. -/
inductive WrittenPattern (value : Type)
  /-- Bits from most to least significant, with `-` for an open bit and blanks anywhere. -/
  | bits (digits : String)
  | value (value : value)

namespace WrittenPattern

def isBlank (c : Char) : Bool := c == ' ' || c == '\t'

/-- Whether a character may occur in bits. -/
def isDigit (c : Char) : Bool := c == '0' || c == '1' || c == '-' || isBlank c

/-- An integer in binary digits, with a sign if it is negative. -/
def binaryText (value : Int) : String :=
  let sign := if value < 0 then "-" else ""
  sign ++ String.ofList (Nat.toDigits 2 value.natAbs)

/-- The bits that are counted for a constant in a pattern; zero needs none. -/
def constantLength (value : Int) : Nat := if value = 0 then 0 else bitsFor value

/-- What a written pattern comes to: one to compare with, or none and advice. -/
inductive Reading
  | pattern (pattern : Pattern)
  | dead (advice : Diagnostic)

/-- Read bits for a switch of a given width. -/
def readBits (digits : String) (width : Nat) (loc : Location) : Except BuildError Reading :=
  if digits.toList.all isDigit then
    let kept := digits.toList.filter fun c ↦ !isBlank c
    if kept.length = width then .ok (.pattern (.bits (String.ofList kept)))
    else .error ⟨.patternWidth digits width, loc⟩
  else .error ⟨.patternDigits digits, loc⟩

/-- Read a value for a switch of a given width. -/
def readValue (value : Value) (width : Nat) (loc : Location) : Except BuildError Reading :=
  match value.asConst with
  | none => .error ⟨.patternValue value, loc⟩
  | some constant =>
    let length := constantLength constant.value
    if width < length then
      .ok (.dead (.deadCase value.text length (binaryText constant.value) width loc))
    else .ok (.pattern (.int constant.value))

def read (width : Nat) (loc : Location) : WrittenPattern Value → Except BuildError Reading
  | .bits digits => readBits digits width loc
  | .value source => readValue source width loc

end WrittenPattern

namespace Build

/-- Open a switch without cases. -/
def openSwitch (test : Value) (loc : Location) : Build Unit := do
  checkPlace .switch loc
  openFrame (.switch ⟨test, loc, ∅⟩)

/-- The switch on top of the stack. -/
def topSwitch : Build OpenSwitch := do
  match (← get).control.top? with
  | some (.switch switch) => return switch
  | _ => throw (.broken .unexpectedFrame)

/-- Advise against a case behind the default case. -/
def adviseAfterDefault (loc : Location) : Build Unit := do
  if (← topSwitch).cases.contains [] then report (.caseAfterDefault loc)

/-- Read patterns from left to right, and keep those that can match. -/
def readPatterns (width : Nat) (loc : Location) : List (WrittenPattern Value) → Build (List Pattern)
  | [] => return []
  | written :: rest => do
    match ← accepted (written.read width loc) with
    | .pattern pattern => return pattern :: (← readPatterns width loc rest)
    | .dead advice =>
      report advice
      readPatterns width loc rest

/-- Whether a case may stand here, and the patterns it can match. -/
def startCase (patterns : List (WrittenPattern Value)) (loc : Location) : Build (List Pattern) := do
  checkPlace .case loc
  let width := (← topSwitch).test.width
  adviseAfterDefault loc
  readPatterns width loc patterns

/-- Whether a default case may stand here. -/
def startDefault (loc : Location) : Build Unit := do
  checkPlace .default loc
  adviseAfterDefault loc

/-- Add a recorded case to the switch on top, unless one with the same patterns came first. -/
def addCase (patterns : List Pattern) (body : Body) (loc : Location) : Build Unit := do
  let switch ← topSwitch
  let grown := { switch with cases := switch.cases.insertIfAbsent patterns ⟨body, loc⟩ }
  modify fun builder ↦ { builder with control := builder.control.replaceTop (.switch grown) }

end Build

end RegisterTransfer
