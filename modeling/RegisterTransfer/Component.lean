import RegisterTransfer.Fragment

/-!
# Components

A component is anything that can be turned into a fragment for a platform, or for none: a finished
description, or a part written by hand.
-/

namespace RegisterTransfer

/-- A target of elaboration; descriptions pass it on and do not look into it. -/
structure Platform where
  name : String
  deriving DecidableEq

structure Component where
  elaborate : Option Platform → Except Failure Fragment

namespace Component

/-- A component that is always refused. -/
def refusing (error : BuildError) : Component := ⟨fun _ ↦ .error (.refused error)⟩

/-- A component that holds nothing but a clock domain of the platform's name, if there is a platform. -/
def clockOfPlatform (loc : Location) : Component where
  elaborate
    | none => .ok (.empty loc)
    | some platform =>
      let domain := ClockDomain.plain platform.name
      match domain.check loc with
      | .ok () => .ok ((Fragment.empty loc).addDomain domain)
      | .error error => .error (.refused error)

end Component

end RegisterTransfer
