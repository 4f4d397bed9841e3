import RegisterTransfer.Machine

/-!
# Open constructs

The constructs that are open while a description is read form a stack. Every nested body is one level deeper
than the body around it, and the construct opened at a level has its frame at that height of the stack. Frames
above the current level belong to constructs that have ended without saying so; they are closed before
anything else happens at that level.
-/

namespace RegisterTransfer

/-- One branch of a conditional chain; the branch without a test is taken when no other is. -/
structure Branch where
  test : Option Value
  body : Body
  loc : Location

/-- A conditional chain with the branches recorded so far. -/
structure IfChain where
  depth : Nat
  loc : Location
  branches : List Branch

structure SwitchCase where
  body : Body
  loc : Location

/-- A switch with the cases recorded so far, found by their patterns; no patterns stand for the default. -/
structure OpenSwitch where
  test : Value
  loc : Location
  cases : Table (List Pattern) SwitchCase

inductive Frame
  | chain (chain : IfChain)
  | switch (switch : OpenSwitch)
  /-- The machine itself is kept elsewhere, for it outlives its frame. -/
  | machine (id : MachineId) (loc : Location)

def Frame.construct : Frame → Construct
  | .chain _ => .conditional
  | .switch _ => .switch
  | .machine _ _ => .machine

structure Control where
  /-- The open frames, the innermost first. -/
  frames : List Frame
  /-- The level of the body that is being recorded. -/
  depth : Nat
  /-- The construct whose cases or states are due, if no body is being recorded. -/
  context : Option Construct

namespace Control

def empty : Control := ⟨[], 0, none⟩

def height (control : Control) : Nat := control.frames.length

/-- How many frames belong to constructs that have ended. -/
def staleCount (control : Control) : Nat := control.height - control.depth

def push (control : Control) (frame : Frame) : Control :=
  { control with frames := frame :: control.frames }

def top? (control : Control) : Option Frame := control.frames.head?

/-- Take the innermost frame off the stack. -/
def pop? (control : Control) : Option (Frame × Control) :=
  match control.frames with
  | [] => none
  | frame :: rest => some (frame, { control with frames := rest })

/-- Drop every frame above a height. -/
def truncate (control : Control) (height : Nat) : Control :=
  { control with frames := control.frames.drop (control.height - height) }

/-- The chain on top of the stack, if it was opened at the current level and can still grow. -/
def openChain? (control : Control) : Option IfChain :=
  match control.top? with
  | some (.chain chain) => if chain.depth = control.depth then some chain else none
  | _ => none

/-- The machine of a frame, for frames that have one. -/
def machineOf? : Frame → Option MachineId
  | .machine id _ => some id
  | _ => none

/-- The innermost machine that is still open. -/
def innermostMachine? (control : Control) : Option MachineId :=
  control.frames.findSome? machineOf?

/-- Put another frame in the place of the innermost one. -/
def replaceTop (control : Control) (frame : Frame) : Control :=
  { control with frames := frame :: control.frames.tail }

end Control

end RegisterTransfer
