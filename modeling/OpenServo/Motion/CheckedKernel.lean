import OpenServo.Motion.CheckedLoops
import OpenServo.Motion.Gate

set_option autoImplicit false

namespace OpenServo.Motion

open OpenServo.Shared OpenServo.Shared.Checked

namespace Window

def checkedDriveTicks (duty : Int) (pwmArr : UInt16) : Checked Nat := do
  let rounded ← u32 (min duty.natAbs 32767 * pwmArr.toNat + 2 ^ 14)
  pure (rounded / 2 ^ 15)

@[simp] theorem checkedDriveTicks_val (duty : Int) (pwmArr : UInt16) :
    (checkedDriveTicks duty pwmArr).val = driveTicks duty pwmArr := by
  simp -implicitDefEqProofs only [checkedDriveTicks, driveTicks, val_bind, val_pure, u32_val]

def checkedIFromFrame (frame : SensorFrame) (sel : WindowSel) (dutySignPositive : Bool) (bias : UInt16) :
    Checked (Option Int) :=
  if !sel.iValid then pure none
  else do
    let sample := if sel.useTrough then frame.currentTrough else frame.current
    let mag ← word (sample.toNat - bias.toNat)
    let signed ← word (if dutySignPositive then mag else -mag)
    pure (some signed)

@[simp] theorem checkedIFromFrame_val (frame : SensorFrame) (sel : WindowSel) (dutySignPositive : Bool)
    (bias : UInt16) :
    (checkedIFromFrame frame sel dutySignPositive bias).val = iFromFrame frame sel dutySignPositive bias := by
  simp -implicitDefEqProofs only [checkedIFromFrame, iFromFrame, val_ite, val_bind, val_pure, word_val]

def checkedVdriveFromFrame (frame : SensorFrame) (sel : WindowSel) (forward : Bool) :
    Checked (Option (UInt16 × Int)) :=
  if !sel.vValid then pure none
  else do
    let pair :=
      if sel.useTrough then (frame.vmotorATrough, frame.vmotorBTrough) else (frame.vmotorA, frame.vmotorB)
    let vdiff ← word (pair.1.toNat - pair.2.toNat)
    pure (some (if forward then pair.1 else pair.2, vdiff))

@[simp] theorem checkedVdriveFromFrame_val (frame : SensorFrame) (sel : WindowSel) (forward : Bool) :
    (checkedVdriveFromFrame frame sel forward).val = vdriveFromFrame frame sel forward := by
  simp -implicitDefEqProofs only [checkedVdriveFromFrame, vdriveFromFrame, val_ite, val_bind, val_pure, word_val]

end Window

/-- The mean that a closed window publishes is asserted to be one of its samples' size. -/
def checkedMean (sum : Int) : Checked Int :=
  ⟨sum >>> (4 : Nat), decide (-2 ^ 15 ≤ sum >>> (4 : Nat) ∧ sum >>> (4 : Nat) ≤ 2 ^ 15 - 1)⟩

def IdentAgg.checkedSample (agg : IdentAgg) (i vdiff duty : Int) : Checked IdentAgg := do
  let iSum ← i32 (agg.iSum + i)
  let vdiffSum ← i32 (agg.vdiffSum + vdiff)
  let dutySum ← i32 (agg.dutySum + duty)
  let ctr ← u8 (agg.ctr + 1)
  if ctr < 16 then
    pure { agg with ctr, iSum, iMin := min agg.iMin i, iMax := max agg.iMax i, vdiffSum, dutySum }
  else do
    let _ ← checkedMean iSum
    let _ ← checkedMean vdiffSum
    let _ ← checkedMean dutySum
    pure { seq := agg.seq + 1 }

@[simp] theorem IdentAgg.checkedSample_val (agg : IdentAgg) (i vdiff duty : Int) :
    (agg.checkedSample i vdiff duty).val = agg.sample i vdiff duty := by
  simp -implicitDefEqProofs only [checkedSample, sample, val_bind, val_ite, val_pure, i32_val, u8_val]

def Detectors.checkedSensorSample (d : Detectors) (pos deltaMax : UInt16) (badCount : UInt8) :
    Checked (Bool × Detectors) := do
  let _ ← word ((pos.toNat : Int) - d.sensorLastPos.toNat)
  pure (d.sensorSample pos deltaMax badCount)

@[simp] theorem Detectors.checkedSensorSample_val (d : Detectors) (pos deltaMax : UInt16) (badCount : UInt8) :
    (d.checkedSensorSample pos deltaMax badCount).val = d.sensorSample pos deltaMax badCount := rfl

def Scan.checkedTake (t : Tick) (dutyQ15 : Int) (decay : DecayMode) (pwmArr : UInt16) : Checked Scan := do
  let ticks ← Window.checkedDriveTicks dutyQ15 pwmArr
  let fwd : Bool := 0 ≤ dutyQ15
  let sel := Window.select decay ticks t.sense.iWindowMinTicks t.sense.vWindowMinTicks
  let iMeas ← Window.checkedIFromFrame t.frame sel fwd t.bias
  let vdrive ← Window.checkedVdriveFromFrame t.frame sel fwd
  pure ⟨ticks, fwd, sel, iMeas, vdrive⟩

namespace Kernel

variable (k : Kernel) (t : Tick)

def checkedBoot : Checked Kernel := do
  let seed ← FusionObs.checkedSeed t.frame.pos
  let vcalLpf ← k.vcalLpf.checkedUpdate t.frame.vcal
  pure { k with booted := true, fusion := if k.booted then k.fusion else seed, vcalLpf := vcalLpf.1 }

@[simp] theorem checkedBoot_val : (k.checkedBoot t).val = k.boot t := by
  simp -implicitDefEqProofs only [checkedBoot, boot, val_bind, val_pure, FusionObs.checkedSeed_val,
    VcalLpf.checkedUpdate_val]

def checkedScan : Checked Scan :=
  Scan.checkedTake t k.dutyQ15 k.decay k.timing.pwmArr

@[simp] theorem checkedScan_val : (k.checkedScan t).val = k.scan t := by
  simp -implicitDefEqProofs only [checkedScan, Scan.checkedTake, scan, Scan.take, val_bind, val_pure,
    Window.checkedDriveTicks_val, Window.checkedIFromFrame_val, Window.checkedVdriveFromFrame_val]

def checkedSample (scan : Scan) : Checked Kernel := do
  let screened := k.det.ocSample (scan.iMeas.map fun i => t.limits.ocTripCounts.toNat < i.natAbs) t.limits.ocTripTicks
  let iMeasLast := (scan.iMeas.map clampI16).getD k.iMeasLast
  let vdiffLast := (scan.vdrive.map fun v => clampI16 v.2).getD k.vdiffLast
  let ident ← k.ident.checkedSample iMeasLast vdiffLast k.dutyQ15
  pure { k with
    det := screened.2
    faults := k.faults.raiseIf .overCurrent screened.1
    iMeasLast
    vdiffLast
    ident }

theorem checkedSample_val : (k.checkedSample t (k.scan t)).val = k.sample t := by
  simp -implicitDefEqProofs only [checkedSample, sample, ocOver, val_bind, val_pure, IdentAgg.checkedSample_val]

def checkedEdge (run : Bool) : Checked Kernel := do
  let seed ← FusionObs.checkedSeed t.frame.pos
  let fusion := if run then seed else k.fusion
  let traj ← TrajGen.checkedReseed fusion.theta
  pure { k with
    fusion
    traj := if run then traj else k.traj
    cur := {}
    vel := {}
    iRefCc := 0
    omegaRef := 0
    hold := false
    runPrev := run }

def checkedSwitch (run : Bool) : Checked Kernel :=
  if run && t.life.mode ≠ k.modePrev then do
    let traj ← TrajGen.checkedReseed k.fusion.theta
    pure { k with traj, hold := false }
  else pure k

def checkedGate (run : Bool) : Checked Kernel := do
  let k ← if run != k.runPrev then k.checkedEdge t run else pure k
  let k ← k.checkedSwitch t run
  pure { k with modePrev := t.life.mode }

@[simp] theorem checkedGate_val (run : Bool) : (k.checkedGate t run).val = k.gate t run := by
  by_cases turns : (run != k.runPrev) = true
  next =>
    simp -implicitDefEqProofs only [checkedGate, checkedSwitch, checkedEdge, gate, edge, if_pos turns, val_bind,
      val_ite, val_pure, FusionObs.checkedSeed_val, TrajGen.checkedReseed_val]
  next =>
    simp -implicitDefEqProofs only [checkedGate, checkedSwitch, gate, if_neg turns, val_bind, val_ite, val_pure,
      TrajGen.checkedReseed_val]

section Medium

variable (scan : Scan) (run : Bool)

def checkedEstimate : Checked Kernel := do
  let gains : FusionGains :=
    ⟨t.motorCal.bIQ313, t.fusion.l1Q016, t.fusion.l2Q88, t.fusion.l3Q88, t.fusion.lBemfQ016, t.motorCal.fricFcCounts⟩
  let bemf ← within k.bemf.omegaCps (-32767) 32767
  let omegaBemf ← word (bemf * 2 ^ 16)
  let dt ← i32 k.timing.dtMedQ32.toNat
  let fusion ← k.fusion.checkedStep (scan.iMeas.getD k.iRefCc) t.frame.pos omegaBemf dt gains
  pure { k with fusion }

@[simp] theorem checkedEstimate_val : (k.checkedEstimate t scan).val = k.estimate t scan := by
  simp -implicitDefEqProofs only [checkedEstimate, estimate, val_bind, val_pure, within_val, word_val, i32_val,
    FusionObs.checkedStep_val]

def checkedProfile : Checked Kernel :=
  if run then
    match t.life.mode with
    | .position => do
      let traj ← k.traj.checkedStepPosition t.life.goalPosition (k.trajCfg t)
      let out ← Position.checkedStep traj.thetaRef traj.omegaRef k.fusion.theta
        ⟨t.loopPosition.pKpQ88, t.loopPosition.posDeadbandCounts, t.loopPosition.velocityLimitCps⟩
      pure { k with traj, omegaRef := out.omegaRef, hold := out.hold }
    | .velocity => do
      let traj ← k.traj.checkedStepVelocity t.life.goalVelocity k.fusion.theta (k.trajCfg t)
      pure { k with traj, omegaRef := traj.omegaRef, hold := false }
    | .current | .openLoop => pure { k with hold := false }
  else pure k

@[simp] theorem checkedProfile_val : (k.checkedProfile t run).val = k.profile t run := by
  cases run with
  | false => rfl
  | true =>
    cases mode : t.life.mode <;>
      simp -implicitDefEqProofs only [checkedProfile, profile, mode, if_true, val_bind, val_pure,
        TrajGen.checkedStepPosition_val, TrajGen.checkedStepVelocity_val, Position.checkedStep_val]

def checkedFoldLimits : Checked Kernel := do
  let fold ← k.limits.checkedFold k.pinned k.omegaAbsCps k.fusion.tauDCounts.natAbs (k.fusion.theta >>> (16 : Nat))
    (k.limitCfg t)
  pure { k with iBand := fold.1, limits := fold.2, faults := k.faults.raiseIf .stall (run && fold.2.faultPending) }

@[simp] theorem checkedFoldLimits_val : (k.checkedFoldLimits t run).val = k.foldLimits t run := by
  simp -implicitDefEqProofs only [checkedFoldLimits, foldLimits, val_bind, val_pure, LimitState.checkedFold_val]

def checkedRegulated : Checked Kernel := do
  let step ← k.vel.checkedStep k.omegaRef k.fusion.omega k.traj.alphaLast k.traj.omegaRef k.iBand (velocityGains t)
  pure { k with iRefCc := step.1, vel := step.2 }

def checkedRegulate : Checked Kernel :=
  if run then
    match t.life.mode with
    | .position => if k.hold then pure { k with iRefCc := 0, vel := {} } else k.checkedRegulated t
    | .velocity => k.checkedRegulated t
    | .current => pure k
    | .openLoop => pure { k with iRefCc := 0 }
  else pure k

@[simp] theorem checkedRegulate_val : (k.checkedRegulate t run).val = k.regulate t run := by
  cases run with
  | false => rfl
  | true =>
    cases mode : t.life.mode <;>
      simp -implicitDefEqProofs only [checkedRegulate, checkedRegulated, regulate, mode, if_true, val_ite, val_bind,
        val_pure, VelocityLoop.checkedStep_val]

def checkedVMean : Checked (Option Int) :=
  match scan.vdrive with
  | none => pure none
  | some v => do
    let product ← i32 (scan.ticks * v.2)
    let recip ← i32 k.timing.recipArrQ24.toNat
    let mean ← checkedMul product recip recipArrShift
    pure (some mean)

@[simp] theorem checkedVMean_val : (k.checkedVMean scan).val = k.vMean scan := by
  unfold checkedVMean vMean
  cases scan.vdrive with
  | none => rfl
  | some v => simp -implicitDefEqProofs only [val_bind, val_pure, i32_val, checkedMul_val, Option.map_some]

def checkedSupply : Checked Kernel := do
  let vbus ← k.vbus.checkedStep (scan.vdrive.map Prod.fst) t.thermal.vUndervoltCounts
  let vMean ← k.checkedVMean scan
  let bemf ← k.bemf.checkedStep vMean scan.iMeas t.motorCal.rQ12 t.motorCal.recipKeQ
  pure { k with vbus, bemf }

@[simp] theorem checkedSupply_val : (k.checkedSupply t scan).val = k.supply t scan := by
  simp -implicitDefEqProofs only [checkedSupply, supply, val_bind, val_pure, VbusEst.checkedStep_val,
    checkedVMean_val, BemfObs.checkedStep_val]

def checkedScreen : Checked Kernel := do
  let jumped ← k.det.checkedSensorSample t.frame.pos t.faultCfg.sensorDeltaMax t.faultCfg.sensorBadCount
  let _ ← u32 (t.faultCfg.posErrorCounts.toNat * 2 ^ 16)
  let strayed := jumped.2.posErrSample (k.posErrOver t run) k.posErrorTimeTicks
  pure { k with
    det := strayed.2
    faults := (k.faults.raiseIf .sensor jumped.1).raiseIf .positionError strayed.1 }

@[simp] theorem checkedScreen_val : (k.checkedScreen t run).val = k.screen t run := rfl

def checkedThermometer : Checked WindingTherm := do
  let _ ← k.checkedVMean scan
  let r0 ← word (t.winding.r0Q12.toNat * 2 ^ 8)
  let thermal :=
    if t.winding.r0Q12 ≠ k.thermR0 then { k.thermal with rQg := r0, seeded := true } else k.thermal
  thermal.checkedStep (k.thermSample scan).1 (k.thermSample scan).2 k.omegaAbsCps
    ⟨t.thermal.rthermIMinCounts, t.thermal.rthermOmegaMaxCps⟩ t.winding

@[simp] theorem checkedThermometer_val : (k.checkedThermometer t scan).val = k.thermometer t scan := by
  simp -implicitDefEqProofs only [checkedThermometer, thermometer, WindingTherm.seed, val_bind, word_val,
    WindingTherm.checkedStep_val]

def checkedSlow : Checked Kernel := do
  let stallTimeTicks ← checkedMulU t.limits.stallTimeMs.toNat k.timing.medTicksPerMsQ16.toNat 16
  let posErrorTimeTicks ← checkedMulU t.faultCfg.posErrorTimeMs.toNat k.timing.medTicksPerMsQ16.toNat 16
  let thermal ← k.checkedThermometer t scan
  let limits ← k.limits.checkedUpdateDerate thermal.tCc (k.limitCfg t)
  let taken := k.vbus.takeFresh
  pure { k with
    stallTimeTicks
    posErrorTimeTicks
    thermal
    thermR0 := t.winding.r0Q12
    limits
    vbus := taken.2
    faults := (k.faults.raiseIf .overTemp (t.thermal.cutoffCc.toInt ≤ thermal.tCc)).raiseIf .underVolt
      (taken.1 && k.vbus.vbusCounts < t.thermal.vUndervoltCounts.toNat) }

@[simp] theorem checkedSlow_val : (k.checkedSlow t scan).val = k.slow t scan := by
  simp -implicitDefEqProofs only [checkedSlow, slow, val_bind, val_pure, checkedMulU_val, checkedThermometer_val,
    LimitState.checkedUpdateDerate_val]

def checkedSlowed : Checked Kernel := do
  let count ← u8 (k.decimSlow + 1)
  if Decim.slow ≤ count then do
    let k ← k.checkedSlow t scan
    pure { k with decimSlow := 0 }
  else pure { k with decimSlow := count }

@[simp] theorem checkedSlowed_val : (k.checkedSlowed t scan).val = k.slowed t scan := by
  simp -implicitDefEqProofs only [checkedSlowed, slowed, slowDue, val_bind, val_ite, val_pure, u8_val,
    checkedSlow_val, decide_eq_true_eq]

def checkedMedium : Checked Kernel := do
  let k ← k.checkedEstimate t scan
  let k ← k.checkedProfile t run
  let k ← k.checkedFoldLimits t run
  let k ← k.checkedRegulate t run
  let k ← k.checkedSupply t scan
  let k ← k.checkedScreen t run
  k.checkedSlowed t scan

@[simp] theorem checkedMedium_val : (k.checkedMedium t scan run).val = k.medium t scan run := by
  simp -implicitDefEqProofs only [checkedMedium, medium, steered, val_bind, checkedEstimate_val, checkedProfile_val,
    checkedFoldLimits_val, checkedRegulate_val, checkedSupply_val, checkedScreen_val, checkedSlowed_val]

def checkedDecimated : Checked Kernel := do
  let count ← u8 (k.decimMed + 1)
  if Decim.med ≤ count then do
    let k ← k.checkedMedium t scan run
    pure { k with decimMed := 0 }
  else pure { k with decimMed := count }

@[simp] theorem checkedDecimated_val : (k.checkedDecimated t scan run).val = k.decimated t scan run := by
  simp -implicitDefEqProofs only [checkedDecimated, decimated, mediumDue, val_bind, val_ite, val_pure, u8_val,
    checkedMedium_val, decide_eq_true_eq]

end Medium

section Command

variable (scan : Scan)

def checkedOpenLoopDuty : Checked Int :=
  let max : Int := min t.loopCurrent.dutyMaxQ15.toNat 32767
  within t.life.goalDuty.toInt (-max) max

def checkedClosedLoop : Checked (Kernel × Output) :=
  if k.hold then pure ({ k with dutyQ15 := 0 }, ⟨.coast, none⟩)
  else if k.stuck scan then pure ({ k with cur := {}, dutyQ15 := 0, decay := .slow }, ⟨.drive 0 .slow, none⟩)
  else do
    let step ← k.cur.checkedStep k.iRefCc (some (scan.iMeas.getD 0)) k.fusion.omega (k.vbusEff t) k.vbus.recipQ15
      (currentGains t)
    pure ({ k with cur := step.2, dutyQ15 := step.1, decay := .slow }, ⟨.drive step.1 .slow, some k.iRefCc⟩)

@[simp] theorem checkedClosedLoop_val : (k.checkedClosedLoop t scan).val = k.closedLoop t scan := by
  simp -implicitDefEqProofs only [checkedClosedLoop, closedLoop, val_ite, val_bind, val_pure,
    CurrentLoop.checkedStep_val]

def checkedCommand (run : Bool) : Checked (Kernel × Output) :=
  if run && k.faults.mask = 0 then
    match t.life.mode with
    | .openLoop => do
      let duty ← checkedOpenLoopDuty t
      let decay := t.limits.openloopDecay
      pure ({ k with dutyQ15 := duty, decay }, ⟨.drive duty decay, none⟩)
    | .current => do
      let iRefCc ← k.iBand.checkedClamp t.life.goalCurrent.toInt
      { k with iRefCc }.checkedClosedLoop t scan
    | .velocity | .position => k.checkedClosedLoop t scan
  else pure ({ k with dutyQ15 := 0 }, ⟨.disabled, none⟩)

@[simp] theorem checkedCommand_val (run : Bool) : (k.checkedCommand t scan run).val = k.command t scan run := by
  by_cases live : (run && decide (k.faults.mask = 0)) = true
  next =>
    cases mode : t.life.mode <;>
      simp -implicitDefEqProofs only [checkedCommand, command, checkedOpenLoopDuty, openLoopDuty, if_pos live, mode,
        val_bind, val_pure, within_val, IBand.checkedClamp_val, checkedClosedLoop_val]
  next => simp -implicitDefEqProofs only [checkedCommand, command, if_neg live, val_pure]

end Command

def checkedOnTick : Checked (Kernel × Output) := do
  let k ← k.checkedBoot t
  let k := k.ack t
  let scan ← k.checkedScan t
  let k ← k.checkedSample t scan
  let run := k.run t
  let k ← k.checkedGate t run
  let k ← k.checkedDecimated t scan run
  k.checkedCommand t scan run

theorem checkedOnTick_val : (k.checkedOnTick t).val = k.onTick t := by
  have sampled : (((k.boot t).ack t).checkedSample t (k.scan t)).val = k.sampled t := by
    rw [← acked_scan, checkedSample_val, Kernel.sampled]
  simp -implicitDefEqProofs only [checkedOnTick, onTick, gated, val_bind, checkedBoot_val, checkedScan_val,
    acked_scan, sampled, checkedGate_val, checkedDecimated_val, checkedCommand_val]

end Kernel

end OpenServo.Motion
