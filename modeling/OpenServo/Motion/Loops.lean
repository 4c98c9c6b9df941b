import OpenServo.Motion.Estimators
import OpenServo.Motion.Limits

set_option autoImplicit false

namespace OpenServo.Motion

open OpenServo.Shared

structure CurrentGains where
  kpQ88 : UInt16
  kiQ412 : UInt16
  kawQ412 : UInt16
  keQ412 : UInt16
  dutyMaxQ15 : UInt16

structure CurrentLoop where
  integ : Int := 0
  lastDuty : Int := 0

namespace CurrentLoop

def eLim : Int := 8192

def awLim : Int := 8192

def vMax (vbusCounts : Nat) (gains : CurrentGains) : Int :=
  qMul gains.dutyMaxQ15.toNat vbusCounts 15

def demand (loop : CurrentLoop) (e omegaHat : Int) (gains : CurrentGains) : Int :=
  let uPi := sat32 (qMul gains.kpQ88.toNat e 8 + loop.integ >>> (16 : Nat))
  let uFf := qMul omegaHat gains.keQ412.toNat 28
  sat32 (uPi + uFf)

/-- A missing sample freezes the integrator. -/
def step (loop : CurrentLoop) (iRef : Int) (iMeas : Option Int) (omegaHat : Int) (vbusCounts recipVbusQ15 : Nat)
    (gains : CurrentGains) : Int × CurrentLoop :=
  let e := match iMeas with
    | some i => clamp (sat32 (iRef - i)) (-eLim) eLim
    | none => 0
  let u := loop.demand e omegaHat gains
  let vMax := vMax vbusCounts gains
  let uCl := clamp u (-vMax) vMax
  let integ :=
    if iMeas.isSome then
      let aw := clamp (sat32 (uCl - u)) (-awLim) awLim
      let kiTerm := sat32 (qMul gains.kiQ412.toNat e 0 * 2 ^ 4)
      let awTerm := sat32 (qMul gains.kawQ412.toNat aw 0 * 2 ^ 4)
      let lim := sat32 (vMax * 2 ^ 16)
      clamp (sat32 (sat32 (loop.integ + kiTerm) + awTerm)) (-lim) lim
    else loop.integ
  let recip : Int := min recipVbusQ15 (2 ^ 31 - 1)
  let duty := clamp (qMul uCl recip 15) (-32767) 32767
  (duty, ⟨integ, duty⟩)

end CurrentLoop

structure VelocityGains where
  kpQ88 : UInt16
  kiQ412 : UInt16
  kawQ412 : UInt16
  jFfQ88 : UInt16
  fricFcCounts : UInt16
  fricFvQ016 : UInt16

structure VelocityLoop where
  integ : Int := 0

namespace VelocityLoop

def eLim : Int := 16384 * 2 ^ 16

def awLim : Int := 8192

def fricFf (omega : Int) (gains : VelocityGains) : Int :=
  sat32 (fricC omega gains.fricFcCounts + qMul gains.fricFvQ016.toNat omega 32)

def step (loop : VelocityLoop) (omegaRef omegaHat alphaStar omegaStar : Int) (band : IBand)
    (gains : VelocityGains) : Int × VelocityLoop :=
  let e := clamp (sat32 (omegaRef - omegaHat)) (-eLim) eLim
  let iP := qMul gains.kpQ88.toNat e 24
  let iFf := sat32 (qMul gains.jFfQ88.toNat alphaStar 24 + fricFf omegaStar gains)
  let iRaw := sat32 (sat32 (iP + loop.integ >>> (16 : Nat)) + iFf)
  let iRef := band.clamp iRaw
  let aw := clamp (sat32 (iRef - iRaw)) (-awLim) awLim
  let kiTerm := sat32 (qMul gains.kiQ412.toNat e 16 * 2 ^ 4)
  let awTerm := sat32 (qMul gains.kawQ412.toNat aw 0 * 2 ^ 4)
  let lim := sat32 (max band.hi.natAbs band.lo.natAbs * 2 ^ 16)
  (iRef, ⟨clamp (sat32 (sat32 (loop.integ + kiTerm) + awTerm)) (-lim) lim⟩)

end VelocityLoop

def velCapCps : Nat := 32767

structure PositionCfg where
  kpQ88 : UInt16
  posDeadbandCounts : UInt16
  velLimitCps : UInt16

structure PosOut where
  omegaRef : Int
  hold : Bool

namespace Position

def eLim : Int := 2 ^ 23

def step (thetaStar omegaStar thetaHat : Int) (cfg : PositionCfg) : PosOut :=
  let eRaw := sat32 (thetaStar - thetaHat)
  let e := clamp eRaw (-eLim) eLim
  let vLim : Int := min cfg.velLimitCps.toNat velCapCps * 2 ^ 16
  ⟨clamp (sat32 (qMul cfg.kpQ88.toNat e 8 + omegaStar)) (-vLim) vLim,
    cfg.posDeadbandCounts ≠ 0 && eRaw.natAbs ≤ cfg.posDeadbandCounts.toNat * 2 ^ 16 && omegaStar = 0⟩

end Position

end OpenServo.Motion
