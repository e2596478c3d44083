/-!
# Faults

Failures that are planned for calls to come, to see what is made of them.
-/

namespace Rolebook

/-- A planned failure. -/
structure Fault (Failure : Type) where
  /-- The label of the calls that it strikes, all calls if there is none. -/
  target : Option String
  failure : Failure
  /-- How many such calls it lets pass. -/
  skip : Nat
  /-- How many calls it strikes after them. -/
  times : Nat

namespace Fault

variable {Failure : Type}

/-- Whether a fault is not used up and strikes calls with this label. -/
def concerns (fault : Fault Failure) (label : String) : Bool :=
  fault.times != 0 && (fault.target.isNone || fault.target == some label)

/-- The failure of a call with this label, if one is planned, and the plan for the calls after it.
The first fault that concerns the call and lets no more calls pass strikes; those before it let one
call less pass. -/
def strike (label : String) : List (Fault Failure) → Option Failure × List (Fault Failure)
  | [] => (none, [])
  | fault :: faults =>
    if fault.concerns label && fault.skip == 0 then
      (some fault.failure, { fault with times := fault.times - 1 } :: faults)
    else
      let (failure?, faults) := strike label faults
      let fault := if fault.concerns label then { fault with skip := fault.skip - 1 } else fault
      (failure?, fault :: faults)

end Fault

end Rolebook
