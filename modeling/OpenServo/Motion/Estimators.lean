import OpenServo.Motion.Math

set_option autoImplicit false

namespace OpenServo.Motion

open OpenServo.Shared

structure VcalLpf where
  stateQ6 : Int := 0
  initialized : Bool := false

def VcalLpf.update (f : VcalLpf) (raw : UInt16) : VcalLpf × Nat :=
  let x : Int := raw.toNat * 2 ^ 6
  let state := if f.initialized then wrap32 (f.stateQ6 + wrap32 (x - f.stateQ6) >>> (7 : Nat)) else x
  (⟨state, true⟩, ((state >>> (6 : Nat)) % 2 ^ 16).toNat)

def fricOmegaEps : Int := 2 ^ 16

def thetaLim : Int := 2 ^ 29

def omegaLim : Int := 32767 * 2 ^ 16

structure FusionGains where
  bIQ313 : UInt16
  l1Q016 : UInt16
  l2Q88 : UInt16
  l3Q88 : UInt16
  lBemfQ016 : UInt16
  fricFcCounts : UInt16

def fricC (omega : Int) (fricFcCounts : UInt16) : Int :=
  if fricOmegaEps < omega then fricFcCounts.toNat
  else if omega < -fricOmegaEps then -fricFcCounts.toNat
  else 0

structure FusionObs where
  theta : Int := 0
  omega : Int := 0
  tauD : Int := 0

namespace FusionObs

def tauDLim : Int := 4095 * 2 ^ 16

def eLim : Int := 2 ^ 23

def accelLim : Int := 8192

def seed (posMeas : UInt16) : FusionObs where
  theta := wrap32 (posMeas.toNat * 2 ^ 16)

def step (f : FusionObs) (iCounts : Int) (posMeas : UInt16) (omegaBemf : Int) (dtMedQ32 : Int)
    (gains : FusionGains) : FusionObs :=
  -- Predict.
  let fric := fricC f.omega gains.fricFcCounts
  let accel := clamp (sat32 (sat32 (iCounts - fric) - f.tauD >>> (16 : Nat))) (-accelLim) accelLim
  let omega := clamp (sat32 (f.omega + sat32 (qMul gains.bIQ313.toNat accel 0 * 2 ^ 3))) (-omegaLim) omegaLim
  let theta := clamp (sat32 (f.theta + qMul omega dtMedQ32 32)) (-thetaLim) thetaLim
  -- Correct.
  let e := clamp (wrap32 (wrap32 (posMeas.toNat * 2 ^ 16) - theta)) (-eLim) eLim
  let theta := clamp (sat32 (theta + qMul gains.l1Q016.toNat e 16)) (-thetaLim) thetaLim
  let omega := clamp (sat32 (omega + qMul gains.l2Q88.toNat e 8)) (-omegaLim) omegaLim
  let tauD := clamp (sat32 (f.tauD - qMul gains.l3Q88.toNat e 8)) (-tauDLim) tauDLim
  let omega :=
    if 0 < gains.lBemfQ016.toNat then
      clamp (sat32 (omega + qMul gains.lBemfQ016.toNat (sat32 (omegaBemf - omega)) 16)) (-omegaLim) omegaLim
    else omega
  ⟨theta, omega, tauD⟩

def tauDCounts (f : FusionObs) : Int :=
  clamp (f.tauD >>> (16 : Nat)) (-2 ^ 15) (2 ^ 15 - 1)

end FusionObs

structure VbusEst where
  stateQg : Int := 0
  initialized : Bool := false
  recipQ15 : Nat := 0
  fresh : Bool := false

namespace VbusEst

def vbusCounts (v : VbusEst) : Nat :=
  ((v.stateQg >>> (3 : Nat)) % 2 ^ 16).toNat

def updateRecip (v : VbusEst) (floor : UInt16) : VbusEst :=
  { v with recipQ15 := recipDiv (32767 * 2 ^ 15) (max v.vbusCounts (max floor.toNat 1)) }

/-- A valid sample of the driven terminal; without one the estimate holds. -/
def sample (v : VbusEst) (vdrive : Option UInt16) : VbusEst :=
  match vdrive with
  | none => v
  | some s =>
    let x : Int := s.toNat * 2 ^ 3
    { v with
      stateQg := if v.initialized then wrap32 (v.stateQg + wrap32 (x - v.stateQg) >>> (3 : Nat)) else x
      initialized := true
      fresh := true }

def step (v : VbusEst) (vdrive : Option UInt16) (undervoltFloorCounts : UInt16) : VbusEst :=
  (v.sample vdrive).updateRecip undervoltFloorCounts

def takeFresh (v : VbusEst) : Bool × VbusEst :=
  (v.fresh, { v with fresh := false })

end VbusEst

def recipArrShift : Nat := 24

def recipKeShift : Nat := 10

structure BemfObs where
  stateQg : Int := 0
  initialized : Bool := false

namespace BemfObs

def omegaCps (b : BemfObs) : Int :=
  b.stateQg >>> (2 : Nat)

def step (b : BemfObs) (vMean iMeas : Option Int) (rQ12 recipKeQ : UInt16) : BemfObs :=
  match vMean, iMeas with
  | some v, some i =>
    let rDrop := qMul rQ12.toNat i 12
    let omega := qMul (wrap32 (v - rDrop)) recipKeQ.toNat recipKeShift
    let x := wrap32 (omega * 2 ^ 2)
    ⟨if b.initialized then wrap32 (b.stateQg + wrap32 (x - b.stateQg) >>> (2 : Nat)) else x, true⟩
  | _, _ => b

end BemfObs

structure ThermGates where
  iMinCounts : UInt16
  omegaMaxCps : UInt16

structure ThermAnchor where
  r0Q12 : UInt16
  t0Cc : Int16
  kR2tQ88 : UInt16
  muQ016 : UInt16

structure WindingTherm where
  rQg : Int := 0
  tCc : Int := 0
  seeded : Bool := false

namespace WindingTherm

def rMaxQg : Int := 16 * 2 ^ 20

def eMax : Int := 2 ^ 20

def seed (w : WindingTherm) (r0Q12 : UInt16) : WindingTherm :=
  { w with rQg := r0Q12.toNat * 2 ^ 8, seeded := true }

/-- A sample the gates refuse holds R. -/
def track (w : WindingTherm) (vMean : Int) (iMeas : Option Int) (omegaHatAbsCps : Nat) (gates : ThermGates)
    (anchor : ThermAnchor) : WindingTherm :=
  match iMeas with
  | none => w
  | some i =>
    if gates.iMinCounts.toNat < i.natAbs ∧ omegaHatAbsCps < gates.omegaMaxCps.toNat then
      let rDrop := qMul (w.rQg >>> (8 : Nat)) i 12
      let eV := clamp (sat32 (vMean - rDrop)) (-eMax) eMax
      let eSigned := if i < 0 then -eV else eV
      let step := qMul (anchor.muQ016.toNat * 2 ^ 8) eSigned 16
      { w with rQg := clamp (wrap32 (w.rQg + step)) 0 rMaxQg }
    else w

def step (w : WindingTherm) (vMean : Int) (iMeas : Option Int) (omegaHatAbsCps : Nat) (gates : ThermGates)
    (anchor : ThermAnchor) : WindingTherm :=
  if !w.seeded then { w with tCc := anchor.t0Cc.toInt }
  else
    let w := w.track vMean iMeas omegaHatAbsCps gates anchor
    let dt := qMul (wrap32 (w.rQg >>> (8 : Nat) - anchor.r0Q12.toNat)) anchor.kR2tQ88.toNat 8
    { w with tCc := clamp (wrap32 (anchor.t0Cc.toInt + dt)) (-2 ^ 15) (2 ^ 15 - 1) }

end WindingTherm

structure IdentAgg where
  ctr : Nat := 0
  iSum : Int := 0
  iMin : Int := 2 ^ 15 - 1
  iMax : Int := -2 ^ 15
  vdiffSum : Int := 0
  dutySum : Int := 0
  seq : UInt16 := 0

def IdentAgg.sample (agg : IdentAgg) (i vdiff duty : Int) : IdentAgg :=
  if agg.ctr + 1 < 16 then
    { agg with
      ctr := agg.ctr + 1
      iSum := wrap32 (agg.iSum + i)
      iMin := min agg.iMin i
      iMax := max agg.iMax i
      vdiffSum := wrap32 (agg.vdiffSum + vdiff)
      dutySum := wrap32 (agg.dutySum + duty) }
  else { seq := agg.seq + 1 }

end OpenServo.Motion
