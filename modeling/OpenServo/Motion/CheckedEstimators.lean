import OpenServo.Motion.Estimators
import OpenServo.Shared.Checked

set_option autoImplicit false

namespace OpenServo.Motion

open OpenServo.Shared OpenServo.Shared.Checked

/-- What the source writes as saturating or wrapping cannot fail, nor can a shift by a constant. -/
def checkedMul (a b : Int) (k : Nat) : Checked Int :=
  i32 ((a * b) >>> k)

@[simp] theorem checkedMul_val (a b : Int) (k : Nat) : (checkedMul a b k).val = qMul a b k := rfl

def checkedFilter (initialized : Bool) (state x : Int) (shift : Nat) : Checked Int :=
  if initialized then ewma state x shift else pure x

@[simp] theorem checkedFilter_val (initialized : Bool) (state x : Int) (shift : Nat) :
    (checkedFilter initialized state x shift).val =
      if initialized then wrap32 (state + wrap32 (x - state) >>> shift) else x := by
  simp only [checkedFilter, val_ite, ewma_val, val_pure]

def checkedMulU (a b k : Nat) : Checked Nat :=
  ⟨qMulU a b k, decide ((a * b) >>> k < 2 ^ 32)⟩

@[simp] theorem checkedMulU_val (a b k : Nat) : (checkedMulU a b k).val = qMulU a b k := rfl

def checkedSubU (a b : Nat) : Checked Nat :=
  ⟨subU a b, decide (b ≤ a)⟩

@[simp] theorem checkedSubU_val (a b : Nat) : (checkedSubU a b).val = subU a b := rfl

def checkedShift (n : Nat) : Checked Nat :=
  ⟨n, decide (n < 32)⟩

@[simp] theorem checkedShift_val (n : Nat) : (checkedShift n).val = n := rfl

def checkedNewton (r dn : Nat) : Checked Nat := do
  let product ← checkedMulU r dn 32
  let rest ← checkedSubU (2 ^ 31) product
  checkedMulU r rest 30

def checkedRecipDiv (num d : Nat) : Checked Nat :=
  if d ≤ 1 then pure num
  else do
    let n ← checkedShift (31 - Nat.log2 d)
    let dn ← u32 (d <<< n)
    let slope ← checkedMulU seedC2Q30 dn 32
    let seed ← checkedSubU seedC1Q30 slope
    let once ← checkedNewton seed dn
    let twice ← checkedNewton once dn
    let high ← u32 ((num * twice) >>> 32)
    let left ← minus 30 n
    let left ← checkedShift left
    pure (high >>> left)

@[simp] theorem checkedRecipDiv_val (num d : Nat) : (checkedRecipDiv num d).val = recipDiv num d := by
  simp only [checkedRecipDiv, checkedNewton, recipDiv, val_ite, val_bind, val_pure, u32_val, minus_val,
    checkedMulU_val, checkedSubU_val, checkedShift_val]

def VcalLpf.checkedUpdate (f : VcalLpf) (raw : UInt16) : Checked (VcalLpf × Nat) := do
  let x ← word (raw.toNat * 2 ^ 6)
  let state ← checkedFilter f.initialized f.stateQ6 x 7
  pure (⟨state, true⟩, ((state >>> (6 : Nat)) % 2 ^ 16).toNat)

theorem VcalLpf.checkedUpdate_val (f : VcalLpf) (raw : UInt16) : (f.checkedUpdate raw).val = f.update raw := by
  simp -implicitDefEqProofs only [checkedUpdate, update, val_bind, val_pure, word_val, checkedFilter_val]

namespace FusionObs

def checkedSeed (posMeas : UInt16) : Checked FusionObs := do
  let theta ← i32 (posMeas.toNat * 2 ^ 16)
  pure { theta }

@[simp] theorem checkedSeed_val (posMeas : UInt16) : (checkedSeed posMeas).val = seed posMeas := by
  simp -implicitDefEqProofs only [checkedSeed, seed, val_bind, val_pure, i32_val]

def checkedBlend (omega omegaBemf : Int) (lBemfQ016 : UInt16) : Checked Int :=
  if 0 < lBemfQ016.toNat then do
    let nudge ← checkedMul lBemfQ016.toNat (sat32 (omegaBemf - omega)) 16
    within (sat32 (omega + nudge)) (-omegaLim) omegaLim
  else pure omega

def checkedStep (f : FusionObs) (iCounts : Int) (posMeas : UInt16) (omegaBemf : Int) (dtMedQ32 : Int)
    (gains : FusionGains) : Checked FusionObs := do
  let fric := fricC f.omega gains.fricFcCounts
  let accel ← within (sat32 (sat32 (iCounts - fric) - f.tauD >>> (16 : Nat))) (-accelLim) accelLim
  let push ← checkedMul gains.bIQ313.toNat accel 0
  let omega ← within (sat32 (f.omega + sat32 (push * 2 ^ 3))) (-omegaLim) omegaLim
  let travel ← checkedMul omega dtMedQ32 32
  let theta ← within (sat32 (f.theta + travel)) (-thetaLim) thetaLim
  let measured ← i32 (posMeas.toNat * 2 ^ 16)
  let error ← i32 (measured - theta)
  let e ← within error (-eLim) eLim
  let first ← checkedMul gains.l1Q016.toNat e 16
  let theta ← within (sat32 (theta + first)) (-thetaLim) thetaLim
  let second ← checkedMul gains.l2Q88.toNat e 8
  let omega ← within (sat32 (omega + second)) (-omegaLim) omegaLim
  let third ← checkedMul gains.l3Q88.toNat e 8
  let tauD ← within (sat32 (f.tauD - third)) (-tauDLim) tauDLim
  let omega ← checkedBlend omega omegaBemf gains.lBemfQ016
  pure ⟨theta, omega, tauD⟩

theorem checkedStep_val (f : FusionObs) (iCounts : Int) (posMeas : UInt16) (omegaBemf dtMedQ32 : Int)
    (gains : FusionGains) :
    (f.checkedStep iCounts posMeas omegaBemf dtMedQ32 gains).val =
      f.step iCounts posMeas omegaBemf dtMedQ32 gains := by
  simp -implicitDefEqProofs only [checkedStep, checkedBlend, step, val_bind, val_ite, val_pure, within_val, i32_val,
    checkedMul_val]

end FusionObs

namespace VbusEst

def checkedSample (v : VbusEst) (vdrive : Option UInt16) : Checked VbusEst :=
  match vdrive with
  | none => pure v
  | some s => do
    let x ← word (s.toNat * 2 ^ 3)
    let stateQg ← checkedFilter v.initialized v.stateQg x 3
    pure { v with stateQg, initialized := true, fresh := true }

def checkedStep (v : VbusEst) (vdrive : Option UInt16) (undervoltFloorCounts : UInt16) : Checked VbusEst := do
  let v ← v.checkedSample vdrive
  let recipQ15 ← checkedRecipDiv (32767 * 2 ^ 15) (max v.vbusCounts (max undervoltFloorCounts.toNat 1))
  pure { v with recipQ15 }

theorem checkedSample_val (v : VbusEst) (vdrive : Option UInt16) : (v.checkedSample vdrive).val = v.sample vdrive := by
  cases vdrive with
  | none => rfl
  | some s => simp -implicitDefEqProofs only [checkedSample, sample, val_bind, val_pure, word_val, checkedFilter_val]

theorem checkedStep_val (v : VbusEst) (vdrive : Option UInt16) (floor : UInt16) :
    (v.checkedStep vdrive floor).val = v.step vdrive floor := by
  simp -implicitDefEqProofs only [checkedStep, step, updateRecip, val_bind, val_pure, checkedSample_val,
    checkedRecipDiv_val]

end VbusEst

namespace BemfObs

def checkedStep (b : BemfObs) (vMean iMeas : Option Int) (rQ12 recipKeQ : UInt16) : Checked BemfObs :=
  match vMean, iMeas with
  | some v, some i => do
    let rDrop ← checkedMul rQ12.toNat i 12
    let volts ← i32 (v - rDrop)
    let omega ← checkedMul volts recipKeQ.toNat recipKeShift
    let x ← i32 (omega * 2 ^ 2)
    let state ← checkedFilter b.initialized b.stateQg x 2
    pure ⟨state, true⟩
  | _, _ => pure b

theorem checkedStep_val (b : BemfObs) (vMean iMeas : Option Int) (rQ12 recipKeQ : UInt16) :
    (b.checkedStep vMean iMeas rQ12 recipKeQ).val = b.step vMean iMeas rQ12 recipKeQ := by
  cases vMean with
  | none => rfl
  | some v =>
    cases iMeas with
    | none => rfl
    | some i =>
      simp -implicitDefEqProofs only [checkedStep, step, val_bind, val_pure, i32_val, checkedMul_val,
        checkedFilter_val]

end BemfObs

namespace WindingTherm

def checkedTrack (w : WindingTherm) (vMean : Int) (iMeas : Option Int) (omegaHatAbsCps : Nat) (gates : ThermGates)
    (anchor : ThermAnchor) : Checked WindingTherm :=
  match iMeas with
  | none => pure w
  | some i =>
    if gates.iMinCounts.toNat < i.natAbs ∧ omegaHatAbsCps < gates.omegaMaxCps.toNat then do
      let rDrop ← checkedMul (w.rQg >>> (8 : Nat)) i 12
      let eV ← within (sat32 (vMean - rDrop)) (-eMax) eMax
      let eSigned ← word (if i < 0 then -eV else eV)
      let mu ← word (anchor.muQ016.toNat * 2 ^ 8)
      let step ← checkedMul mu eSigned 16
      let moved ← i32 (w.rQg + step)
      let rQg ← within moved 0 rMaxQg
      pure { w with rQg }
    else pure w

def checkedStep (w : WindingTherm) (vMean : Int) (iMeas : Option Int) (omegaHatAbsCps : Nat) (gates : ThermGates)
    (anchor : ThermAnchor) : Checked WindingTherm :=
  if !w.seeded then pure { w with tCc := anchor.t0Cc.toInt }
  else do
    let w ← w.checkedTrack vMean iMeas omegaHatAbsCps gates anchor
    let rise ← i32 (w.rQg >>> (8 : Nat) - anchor.r0Q12.toNat)
    let dt ← checkedMul rise anchor.kR2tQ88.toNat 8
    let t ← i32 (anchor.t0Cc.toInt + dt)
    let tCc ← within t (-2 ^ 15) (2 ^ 15 - 1)
    pure { w with tCc }

theorem checkedTrack_val (w : WindingTherm) (vMean : Int) (iMeas : Option Int) (omegaHatAbsCps : Nat)
    (gates : ThermGates) (anchor : ThermAnchor) :
    (w.checkedTrack vMean iMeas omegaHatAbsCps gates anchor).val =
      w.track vMean iMeas omegaHatAbsCps gates anchor := by
  cases iMeas with
  | none => rfl
  | some i =>
    simp -implicitDefEqProofs only [checkedTrack, track, val_bind, val_ite, val_pure, word_val, within_val, i32_val,
      checkedMul_val]

theorem checkedStep_val (w : WindingTherm) (vMean : Int) (iMeas : Option Int) (omegaHatAbsCps : Nat)
    (gates : ThermGates) (anchor : ThermAnchor) :
    (w.checkedStep vMean iMeas omegaHatAbsCps gates anchor).val =
      w.step vMean iMeas omegaHatAbsCps gates anchor := by
  simp -implicitDefEqProofs only [checkedStep, step, val_bind, val_ite, val_pure, within_val, i32_val,
    checkedMul_val, checkedTrack_val]

end WindingTherm

end OpenServo.Motion
