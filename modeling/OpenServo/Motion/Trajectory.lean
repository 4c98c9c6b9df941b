import OpenServo.Motion.Loops

set_option autoImplicit false

namespace OpenServo.Motion

open OpenServo.Shared

structure TrajCfg where
  velLimitCps : UInt16
  accelLimitQ88 : UInt16
  posMinSoftCounts : Int32
  posMaxSoftCounts : Int32
  dtMedQ32 : Int

structure TrajGen where
  thetaRef : Int := 0
  omegaRef : Int := 0
  alphaLast : Int := 0

namespace TrajGen

def goalLim : Int := thetaLim >>> (16 : Nat)

def snapD : Nat := 2 ^ 16

def wallRampShift : Nat := 4

def reseed (thetaHat : Int) : TrajGen where
  thetaRef := clamp thetaHat (-thetaLim) thetaLim

def accel (cfg : TrajCfg) : Int :=
  cfg.accelLimitQ88.toNat * 2 ^ 8

/-- The soft limits in order, also for a corrupt image. -/
def softLimits (cfg : TrajCfg) : Int × Int :=
  let first := cfg.posMinSoftCounts.toInt
  let second := cfg.posMaxSoftCounts.toInt
  (min first second, max second first)

/-- The speed along the goal direction after this tick: away from the goal it slews through zero, toward it the test
is whether a cruise of one more tick could still stop in time. -/
def speed (v dAbs : Int) (cfg : TrajCfg) : Int :=
  let a := accel cfg
  let vLim : Int := min cfg.velLimitCps.toNat velCapCps * 2 ^ 16
  if v < 0 then min (wrap32 (v + a)) vLim
  else
    let vUp := wrap32 (v + clamp (wrap32 (vLim - v)) (-a) a)
    let vt := qMul vUp cfg.dtMedQ32 32
    if wideGe ((vUp + a) % 2 ^ 32).toNat (vt % 2 ^ 32).toNat (2 * a).toNat dAbs.toNat then max (wrap32 (v - a)) 0
    else vUp

def stepPosition (t : TrajGen) (goalCounts : Int32) (cfg : TrajCfg) : TrajGen :=
  let a := accel cfg
  let (lo, hi) := softLimits cfg
  let goal := wrap32 (clamp (clamp goalCounts.toInt lo hi) (-goalLim) goalLim * 2 ^ 16)
  let d := wrap32 (goal - t.thetaRef)
  let prev := t.omegaRef
  let vNext := speed (if 0 ≤ d then prev else wrap32 (-prev)) d.natAbs cfg
  let omega := if 0 ≤ d then vNext else wrap32 (-vNext)
  let stepMag := qMul (if omega < 0 then wrap32 (-omega) else omega) cfg.dtMedQ32 32
  let toward : Bool := if 0 < omega then 0 ≤ d else if omega < 0 then d ≤ 0 else true
  let land : Bool :=
    toward && d.natAbs ≤ (stepMag % 2 ^ 32).toNat || omega.natAbs ≤ a.toNat && d.natAbs < snapD
  if land then ⟨goal, 0, sat32 (-prev)⟩
  else
    let travel := if 0 ≤ omega then stepMag else wrap32 (-stepMag)
    ⟨clamp (wrap32 (t.thetaRef + travel)) (-thetaLim) thetaLim, omega, sat32 (omega - prev)⟩

def stepVelocity (t : TrajGen) (goalVelocityCps : Int32) (thetaHat : Int) (cfg : TrajCfg) : TrajGen :=
  let a := accel cfg
  let vCap : Int := min cfg.velLimitCps.toNat velCapCps
  let th := thetaHat >>> (16 : Nat)
  let (lo, hi) := softLimits cfg
  -- The ramp toward a wall; retreat is not capped.
  let cap : Int := velCapCps >>> wallRampShift
  let allowUp := clamp (sat32 (hi - th)) 0 cap * 2 ^ wallRampShift
  let allowDn := clamp (sat32 (th - lo)) 0 cap * 2 ^ wallRampShift
  let goal := clamp (clamp goalVelocityCps.toInt (-vCap) vCap) (-allowDn) allowUp * 2 ^ 16
  let prev := t.omegaRef
  let omega := wrap32 (prev + clamp (sat32 (goal - prev)) (-a) a)
  let stepMag := qMul (if omega < 0 then wrap32 (-omega) else omega) cfg.dtMedQ32 32
  let travel := if 0 ≤ omega then stepMag else wrap32 (-stepMag)
  ⟨clamp (wrap32 (t.thetaRef + travel)) (-thetaLim) thetaLim, omega, wrap32 (omega - prev)⟩

end TrajGen

end OpenServo.Motion
