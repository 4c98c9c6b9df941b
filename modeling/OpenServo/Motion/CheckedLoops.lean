import OpenServo.Motion.CheckedEstimators
import OpenServo.Motion.Trajectory

set_option autoImplicit false

namespace OpenServo.Motion

open OpenServo.Shared OpenServo.Shared.Checked

/-- A sign kept or turned: only the lowest word has no negative. -/
def checkedKeep (keep : Bool) (x : Int) : Checked Int :=
  if keep then pure x else i32 (-x)

@[simp] theorem checkedKeep_val (keep : Bool) (x : Int) :
    (checkedKeep keep x).val = if keep then x else wrap32 (-x) := by
  simp only [checkedKeep, val_ite, val_pure, i32_val]

namespace CurrentLoop

def checkedError (iRef : Int) (iMeas : Option Int) : Checked Int :=
  match iMeas with
  | some i => within (sat32 (iRef - i)) (-eLim) eLim
  | none => pure 0

def checkedDemand (loop : CurrentLoop) (e omegaHat : Int) (gains : CurrentGains) : Checked Int := do
  let uP ← checkedMul gains.kpQ88.toNat e 8
  let uFf ← checkedMul omegaHat gains.keQ412.toNat 28
  pure (sat32 (sat32 (uP + loop.integ >>> (16 : Nat)) + uFf))

def checkedCharge (loop : CurrentLoop) (measured : Bool) (e u uCl vMax : Int) (gains : CurrentGains) : Checked Int :=
  if measured then do
    let aw ← within (sat32 (uCl - u)) (-awLim) awLim
    let ki ← checkedMul gains.kiQ412.toNat e 0
    let kaw ← checkedMul gains.kawQ412.toNat aw 0
    let lim := sat32 (vMax * 2 ^ 16)
    within (sat32 (sat32 (loop.integ + sat32 (ki * 2 ^ 4)) + sat32 (kaw * 2 ^ 4))) (-lim) lim
  else pure loop.integ

def checkedStep (loop : CurrentLoop) (iRef : Int) (iMeas : Option Int) (omegaHat : Int)
    (vbusCounts recipVbusQ15 : Nat) (gains : CurrentGains) : Checked (Int × CurrentLoop) := do
  let e ← checkedError iRef iMeas
  let u ← loop.checkedDemand e omegaHat gains
  let vMax ← checkedMul gains.dutyMaxQ15.toNat vbusCounts 15
  let uCl ← within u (-vMax) vMax
  let integ ← loop.checkedCharge iMeas.isSome e u uCl vMax gains
  let recip : Int := min recipVbusQ15 (2 ^ 31 - 1)
  let scaled ← checkedMul uCl recip 15
  let duty ← within scaled (-32767) 32767
  pure (duty, ⟨integ, duty⟩)

theorem checkedStep_val (loop : CurrentLoop) (iRef : Int) (iMeas : Option Int) (omegaHat : Int)
    (vbusCounts recipVbusQ15 : Nat) (gains : CurrentGains) :
    (loop.checkedStep iRef iMeas omegaHat vbusCounts recipVbusQ15 gains).val =
      loop.step iRef iMeas omegaHat vbusCounts recipVbusQ15 gains := by
  cases iMeas with
  | none =>
    simp -implicitDefEqProofs only [checkedStep, checkedError, checkedDemand, checkedCharge, step, demand, vMax,
      val_bind, val_ite, val_pure, within_val, checkedMul_val]
  | some i =>
    simp -implicitDefEqProofs only [checkedStep, checkedError, checkedDemand, checkedCharge, step, demand, vMax,
      val_bind, val_ite, val_pure, within_val, checkedMul_val]

end CurrentLoop

def IBand.checkedClamp (band : IBand) (i : Int) : Checked Int :=
  within i band.lo band.hi

@[simp] theorem IBand.checkedClamp_val (band : IBand) (i : Int) : (band.checkedClamp i).val = band.clamp i := by
  rw [checkedClamp, within_val, IBand.clamp]

namespace VelocityLoop

def checkedFricFf (omega : Int) (gains : VelocityGains) : Checked Int := do
  let viscous ← checkedMul gains.fricFvQ016.toNat omega 32
  pure (sat32 (fricC omega gains.fricFcCounts + viscous))

def checkedStep (loop : VelocityLoop) (omegaRef omegaHat alphaStar omegaStar : Int) (band : IBand)
    (gains : VelocityGains) : Checked (Int × VelocityLoop) := do
  let e ← within (sat32 (omegaRef - omegaHat)) (-eLim) eLim
  let iP ← checkedMul gains.kpQ88.toNat e 24
  let inertia ← checkedMul gains.jFfQ88.toNat alphaStar 24
  let friction ← checkedFricFf omegaStar gains
  let iRaw := sat32 (sat32 (iP + loop.integ >>> (16 : Nat)) + sat32 (inertia + friction))
  let iRef ← band.checkedClamp iRaw
  let aw ← within (sat32 (iRef - iRaw)) (-awLim) awLim
  let ki ← checkedMul gains.kiQ412.toNat e 16
  let kaw ← checkedMul gains.kawQ412.toNat aw 0
  let side ← word (max band.hi.natAbs band.lo.natAbs : Nat)
  let lim := sat32 (side * 2 ^ 16)
  let integ ← within (sat32 (sat32 (loop.integ + sat32 (ki * 2 ^ 4)) + sat32 (kaw * 2 ^ 4))) (-lim) lim
  pure (iRef, ⟨integ⟩)

theorem checkedStep_val (loop : VelocityLoop) (omegaRef omegaHat alphaStar omegaStar : Int) (band : IBand)
    (gains : VelocityGains) :
    (loop.checkedStep omegaRef omegaHat alphaStar omegaStar band gains).val =
      loop.step omegaRef omegaHat alphaStar omegaStar band gains := by
  simp -implicitDefEqProofs only [checkedStep, checkedFricFf, step, fricFf, val_bind, val_pure, within_val, word_val,
    checkedMul_val, IBand.checkedClamp_val]

end VelocityLoop

namespace Position

def checkedStep (thetaStar omegaStar thetaHat : Int) (cfg : PositionCfg) : Checked PosOut := do
  let eRaw := sat32 (thetaStar - thetaHat)
  let e ← within eRaw (-eLim) eLim
  let vLim ← word (min cfg.velLimitCps.toNat velCapCps * 2 ^ 16)
  let push ← checkedMul cfg.kpQ88.toNat e 8
  let omegaRef ← within (sat32 (push + omegaStar)) (-vLim) vLim
  let deadband ← u32 (cfg.posDeadbandCounts.toNat * 2 ^ 16)
  pure ⟨omegaRef, cfg.posDeadbandCounts ≠ 0 && eRaw.natAbs ≤ deadband && omegaStar = 0⟩

theorem checkedStep_val (thetaStar omegaStar thetaHat : Int) (cfg : PositionCfg) :
    (checkedStep thetaStar omegaStar thetaHat cfg).val = step thetaStar omegaStar thetaHat cfg := by
  simp -implicitDefEqProofs only [checkedStep, step, val_bind, val_pure, within_val, word_val, u32_val,
    checkedMul_val]

end Position

namespace TrajGen

def checkedReseed (thetaHat : Int) : Checked TrajGen := do
  let thetaRef ← within thetaHat (-thetaLim) thetaLim
  pure { thetaRef }

@[simp] theorem checkedReseed_val (thetaHat : Int) : (checkedReseed thetaHat).val = reseed thetaHat := by
  simp only [checkedReseed, reseed, val_bind, val_pure, within_val]

def checkedSpeed (v dAbs : Int) (cfg : TrajCfg) : Checked Int := do
  let a ← word (accel cfg)
  let vLim ← word (min cfg.velLimitCps.toNat velCapCps * 2 ^ 16)
  if v < 0 then do
    let slewed ← i32 (v + a)
    pure (min slewed vLim)
  else do
    let room ← i32 (vLim - v)
    let gain ← within room (-a) a
    let vUp ← i32 (v + gain)
    let vt ← checkedMul vUp cfg.dtMedQ32 32
    let _ ← asU32 vUp
    let reach ← asU32 (vUp + a)
    let travel ← asU32 vt
    let twice ← u32 (2 * a).toNat
    if wideGe reach travel twice dAbs.toNat then do
      let slower ← i32 (v - a)
      pure (max slower 0)
    else pure vUp

theorem checkedSpeed_val (v dAbs : Int) (cfg : TrajCfg) : (checkedSpeed v dAbs cfg).val = speed v dAbs cfg := by
  simp -implicitDefEqProofs only [checkedSpeed, speed, val_bind, val_ite, val_pure, within_val, word_val, u32_val,
    asU32_val, i32_val, checkedMul_val]

def checkedAdvance (t : TrajGen) (omega stepMag : Int) : Checked Int := do
  let travel ← checkedKeep (0 ≤ omega) stepMag
  let moved ← i32 (t.thetaRef + travel)
  within moved (-thetaLim) thetaLim

@[simp] theorem checkedAdvance_val (t : TrajGen) (omega stepMag : Int) :
    (t.checkedAdvance omega stepMag).val =
      clamp (wrap32 (t.thetaRef + if 0 ≤ omega then stepMag else wrap32 (-stepMag))) (-thetaLim) thetaLim := by
  simp only [checkedAdvance, val_bind, checkedKeep_val, i32_val, within_val, decide_eq_true_eq]

def checkedTravel (omega : Int) (cfg : TrajCfg) : Checked Int := do
  let size ← checkedKeep (!(omega < 0)) omega
  checkedMul size cfg.dtMedQ32 32

@[simp] theorem checkedTravel_val (omega : Int) (cfg : TrajCfg) :
    (checkedTravel omega cfg).val = qMul (if omega < 0 then wrap32 (-omega) else omega) cfg.dtMedQ32 32 := by
  simp only [checkedTravel, val_bind, checkedKeep_val, checkedMul_val, Bool.not_eq_true', decide_eq_false_iff_not,
    ite_not]

def checkedStepPosition (t : TrajGen) (goalCounts : Int32) (cfg : TrajCfg) : Checked TrajGen := do
  let a ← word (accel cfg)
  let inside ← within goalCounts.toInt (softLimits cfg).1 (softLimits cfg).2
  let near ← within inside (-goalLim) goalLim
  let goal ← i32 (near * 2 ^ 16)
  let d ← i32 (goal - t.thetaRef)
  let prev := t.omegaRef
  let v ← checkedKeep (0 ≤ d) prev
  let vNext ← checkedSpeed v d.natAbs cfg
  let omega ← checkedKeep (0 ≤ d) vNext
  let stepMag ← checkedTravel omega cfg
  let reach ← asU32 stepMag
  let toward : Bool := if 0 < omega then 0 ≤ d else if omega < 0 then d ≤ 0 else true
  let land : Bool := toward && d.natAbs ≤ reach || omega.natAbs ≤ a.toNat && d.natAbs < snapD
  if land then pure ⟨goal, 0, sat32 (-prev)⟩
  else do
    let thetaRef ← t.checkedAdvance omega stepMag
    pure ⟨thetaRef, omega, sat32 (omega - prev)⟩

theorem checkedStepPosition_val (t : TrajGen) (goalCounts : Int32) (cfg : TrajCfg) :
    (t.checkedStepPosition goalCounts cfg).val = t.stepPosition goalCounts cfg := by
  simp -implicitDefEqProofs only [checkedStepPosition, stepPosition, val_bind, val_ite, val_pure, within_val,
    word_val, asU32_val, i32_val, checkedKeep_val, checkedSpeed_val, checkedTravel_val, checkedAdvance_val,
    decide_eq_true_eq]

def checkedStepVelocity (t : TrajGen) (goalVelocityCps : Int32) (thetaHat : Int) (cfg : TrajCfg) :
    Checked TrajGen := do
  let a ← word (accel cfg)
  let vCap : Int := min cfg.velLimitCps.toNat velCapCps
  let th := thetaHat >>> (16 : Nat)
  let cap : Int := velCapCps >>> wallRampShift
  let up ← within (sat32 ((softLimits cfg).2 - th)) 0 cap
  let dn ← within (sat32 (th - (softLimits cfg).1)) 0 cap
  let allowUp ← word (up * 2 ^ wallRampShift)
  let allowDn ← word (dn * 2 ^ wallRampShift)
  let capped ← within goalVelocityCps.toInt (-vCap) vCap
  let allowed ← within capped (-allowDn) allowUp
  let goal ← word (allowed * 2 ^ 16)
  let prev := t.omegaRef
  let slew ← within (sat32 (goal - prev)) (-a) a
  let omega ← i32 (prev + slew)
  let stepMag ← checkedTravel omega cfg
  let thetaRef ← t.checkedAdvance omega stepMag
  let alphaLast ← i32 (omega - prev)
  pure ⟨thetaRef, omega, alphaLast⟩

theorem checkedStepVelocity_val (t : TrajGen) (goalVelocityCps : Int32) (thetaHat : Int) (cfg : TrajCfg) :
    (t.checkedStepVelocity goalVelocityCps thetaHat cfg).val = t.stepVelocity goalVelocityCps thetaHat cfg := by
  simp -implicitDefEqProofs only [checkedStepVelocity, stepVelocity, val_bind, val_pure, within_val, word_val,
    i32_val, checkedTravel_val, checkedAdvance_val]

end TrajGen

namespace LimitState

def checkedCeiling (tWindingCc span : Int) (cfg : LimitCfg) : Checked Nat :=
  if cfg.cutoffCc.toInt ≤ tWindingCc then pure 0
  else if tWindingCc < cfg.derateStartCc.toInt ∨ span ≤ 0 then pure cfg.currentLimitCounts.toNat
  else do
    let head ← word (cfg.cutoffCc.toInt - tWindingCc)
    let num ← u32 (cfg.currentLimitCounts.toNat * head.toNat)
    let quotient ← checkedRecipDiv num span.toNat
    pure (min quotient cfg.currentLimitCounts.toNat)

def checkedUpdateDerate (s : LimitState) (tWindingCc : Int) (cfg : LimitCfg) : Checked LimitState := do
  let span ← word (cfg.cutoffCc.toInt - cfg.derateStartCc.toInt)
  let derateCache ← checkedCeiling tWindingCc span cfg
  pure { s with derateCache }

theorem checkedUpdateDerate_val (s : LimitState) (tWindingCc : Int) (cfg : LimitCfg) :
    (s.checkedUpdateDerate tWindingCc cfg).val = s.updateDerate tWindingCc cfg := by
  simp only [checkedUpdateDerate, checkedCeiling, updateDerate, val_bind, val_ite, val_pure, word_val, u32_val,
    checkedRecipDiv_val]

def checkedFold (s : LimitState) (iRefPinned : Bool) (omegaHatAbsCps tauDAbsCounts : Nat) (thetaHatCounts : Int)
    (cfg : LimitCfg) : Checked (IBand × LimitState) := do
  let folded := s.fold iRefPinned omegaHatAbsCps tauDAbsCounts thetaHatCounts cfg
  let _ ← word (-folded.2.iLim)
  pure folded

theorem checkedFold_val (s : LimitState) (iRefPinned : Bool) (omegaHatAbsCps tauDAbsCounts : Nat)
    (thetaHatCounts : Int) (cfg : LimitCfg) :
    (s.checkedFold iRefPinned omegaHatAbsCps tauDAbsCounts thetaHatCounts cfg).val =
      s.fold iRefPinned omegaHatAbsCps tauDAbsCounts thetaHatCounts cfg := rfl

end LimitState

end OpenServo.Motion
