import Mathlib.Algebra.Ring.Int.Defs
import Mathlib.Algebra.Ring.Nat

set_option autoImplicit false

namespace OpenServo.Motion

inductive Fault where
  | overCurrent
  | overTemp
  | stall
  | positionError
  | sensor
  | underVolt
deriving DecidableEq

namespace Fault

def bit : Fault → UInt8
  | overCurrent => 1
  | overTemp => 2
  | stall => 4
  | positionError => 8
  | sensor => 16
  | underVolt => 32

/-- The bit index and one; 0 is no fault since the last ack. -/
def code : Fault → UInt8
  | overCurrent => 1
  | overTemp => 2
  | stall => 3
  | positionError => 4
  | sensor => 5
  | underVolt => 6

end Fault

structure FaultLatch where
  mask : UInt8 := 0
  lastCode : UInt8 := 0

namespace FaultLatch

def raise (latch : FaultLatch) (fault : Fault) : FaultLatch :=
  if latch.mask &&& fault.bit = 0 then ⟨latch.mask ||| fault.bit, fault.code⟩ else latch

def raiseIf (latch : FaultLatch) (fault : Fault) (tripped : Bool) : FaultLatch :=
  if tripped then latch.raise fault else latch

def Latched (latch : FaultLatch) (fault : Fault) : Prop :=
  latch.mask &&& fault.bit ≠ 0

instance (latch : FaultLatch) (fault : Fault) : Decidable (latch.Latched fault) :=
  inferInstanceAs (Decidable (_ ≠ _))

end FaultLatch

structure Detectors where
  ocTicks : Nat := 0
  posErrTicks : Nat := 0
  sensorBad : Nat := 0
  sensorLastPos : UInt16 := 0
  sensorSeen : Bool := false

namespace Detectors

/-- The sensor screen primes itself off the next sample. -/
def reset (d : Detectors) : Detectors where
  sensorLastPos := d.sensorLastPos

/-- An invalid sample holds the count. -/
def ocSample (d : Detectors) (exceeded : Option Bool) (tripTicks : UInt8) : Bool × Detectors :=
  match exceeded with
  | some true =>
    let ticks := min (d.ocTicks + 1) 255
    (tripTicks.toNat ≤ ticks, { d with ocTicks := ticks })
  | some false => (false, { d with ocTicks := 0 })
  | none => (false, d)

def sensorSample (d : Detectors) (pos deltaMax : UInt16) (badCount : UInt8) : Bool × Detectors :=
  let delta := ((pos.toNat : Int) - d.sensorLastPos.toNat).natAbs
  let jump := d.sensorSeen && deltaMax.toNat < delta
  let bad := if jump then min (d.sensorBad + 1) 255 else 0
  (jump && badCount.toNat ≤ bad, { d with sensorLastPos := pos, sensorSeen := true, sensorBad := bad })

def posErrSample (d : Detectors) (exceeded : Bool) (tripTicks : Nat) : Bool × Detectors :=
  let ticks := if exceeded then min (d.posErrTicks + 1) (2 ^ 32 - 1) else 0
  (exceeded && tripTicks ≤ ticks, { d with posErrTicks := ticks })

end Detectors

end OpenServo.Motion
