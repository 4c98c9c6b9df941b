import Mathlib.Algebra.Ring.Int.Defs
import Mathlib.Algebra.Ring.Nat

set_option autoImplicit false

namespace OpenServo.Motion

inductive DecayMode where
  | fast
  | slow
deriving DecidableEq

inductive MotorCmd where
  | disabled
  | coast
  | brake
  | drive (duty : Int) (decay : DecayMode)
deriving DecidableEq

structure SensorFrame where
  pos : UInt16
  current : UInt16
  currentTrough : UInt16
  vmotorA : UInt16
  vmotorATrough : UInt16
  vmotorB : UInt16
  vmotorBTrough : UInt16
  vcal : UInt16

structure WindowSel where
  iValid : Bool
  vValid : Bool
  useTrough : Bool

namespace Window

def select (decay : DecayMode) (driveTicks : Nat) (iFloor vFloor : UInt16) : WindowSel where
  iValid := driveTicks ≠ 0 && iFloor.toNat ≤ driveTicks
  vValid := driveTicks ≠ 0 && vFloor.toNat ≤ driveTicks
  useTrough := decay = .fast

def iFromFrame (frame : SensorFrame) (sel : WindowSel) (dutySignPositive : Bool) (bias : UInt16) : Option Int :=
  if !sel.iValid then none
  else
    let sample := if sel.useTrough then frame.currentTrough else frame.current
    let mag : Int := sample.toNat - bias.toNat
    some (if dutySignPositive then mag else -mag)

def vdriveFromFrame (frame : SensorFrame) (sel : WindowSel) (forward : Bool) : Option (UInt16 × Int) :=
  if !sel.vValid then none
  else
    let (va, vb) :=
      if sel.useTrough then (frame.vmotorATrough, frame.vmotorBTrough) else (frame.vmotorA, frame.vmotorB)
    some (if forward then va else vb, va.toNat - vb.toNat)

def driveTicks (duty : Int) (pwmArr : UInt16) : Nat :=
  let mag := min duty.natAbs 32767
  (mag * pwmArr.toNat + 2 ^ 14) / 2 ^ 15

end Window

end OpenServo.Motion
