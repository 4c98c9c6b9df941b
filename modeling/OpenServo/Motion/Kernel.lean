import OpenServo.Motion.Faults
import OpenServo.Motion.Trajectory
import OpenServo.Motion.Window

set_option autoImplicit false

namespace OpenServo.Motion

open OpenServo.Shared

inductive Mode where
  | openLoop
  | current
  | velocity
  | position
deriving DecidableEq

structure ControlLifecycle where
  torqueEnable : Bool
  mode : Mode
  goalDuty : Int16
  goalPosition : Int32
  goalVelocity : Int32
  goalCurrent : Int16

structure ConfigLoopCurrent where
  iKpQ88 : UInt16
  iKiQ412 : UInt16
  iKawQ412 : UInt16
  dutyMaxQ15 : UInt16

structure ConfigLoopVelocity where
  vKpQ88 : UInt16
  vKiQ412 : UInt16
  vKawQ412 : UInt16
  jFfQ88 : UInt16

structure ConfigLoopPosition where
  pKpQ88 : UInt16
  posDeadbandCounts : UInt16
  velocityLimitCps : UInt16
  accelLimitQ88 : UInt16

structure ConfigLimits where
  currentLimitCounts : UInt16
  stallResponse : StallResponse
  drivePolarity : Bool
  stallOmegaMaxCps : UInt16
  stallTimeMs : UInt16
  stallYieldCounts : UInt16
  stallReleaseCounts : UInt16
  stallTauTripCounts : UInt16
  ocTripCounts : UInt16
  ocTripTicks : UInt8
  openloopDecay : DecayMode

structure ConfigThermal where
  derateStartCc : Int16
  cutoffCc : Int16
  vUndervoltCounts : UInt16
  rthermIMinCounts : UInt16
  rthermOmegaMaxCps : UInt16

structure ConfigFusion where
  l1Q016 : UInt16
  l2Q88 : UInt16
  l3Q88 : UInt16
  lBemfQ016 : UInt16

structure ConfigFaultCfg where
  posErrorCounts : UInt16
  posErrorTimeMs : UInt16
  sensorDeltaMax : UInt16
  sensorBadCount : UInt8

structure ConfigPosLimits where
  posMinSoftCounts : Int32
  posMaxSoftCounts : Int32

structure CalibSense where
  iWindowMinTicks : UInt16
  vWindowMinTicks : UInt16

structure CalibMotor where
  rQ12 : UInt16
  recipKeQ : UInt16
  bIQ313 : UInt16
  fricFcCounts : UInt16
  fricFvQ016 : UInt16
  keVpcQ : UInt16

structure Tick where
  frame : SensorFrame
  life : ControlLifecycle
  loopCurrent : ConfigLoopCurrent
  limits : ConfigLimits
  thermal : ConfigThermal
  sense : CalibSense
  motorCal : CalibMotor
  bias : UInt16
  loopVelocity : ConfigLoopVelocity
  loopPosition : ConfigLoopPosition
  fusion : ConfigFusion
  faultCfg : ConfigFaultCfg
  posLimits : ConfigPosLimits
  winding : ThermAnchor

def Tick.blank (torqueEnable : Bool) (mode : Mode) (pos : UInt16) : Tick where
  frame := ⟨pos, 0, 0, 0, 0, 0, 0, 0⟩
  life := ⟨torqueEnable, mode, 0, 0, 0, 0⟩
  loopCurrent := ⟨0, 0, 0, 0⟩
  limits := ⟨0, .fault, false, 0, 0, 0, 0, 0, 0, 0, .slow⟩
  thermal := ⟨0, 0, 0, 0, 0⟩
  sense := ⟨0, 0⟩
  motorCal := ⟨0, 0, 0, 0, 0, 0⟩
  bias := 0
  loopVelocity := ⟨0, 0, 0, 0⟩
  loopPosition := ⟨0, 0, 0, 0⟩
  fusion := ⟨0, 0, 0, 0⟩
  faultCfg := ⟨0, 0, 0, 0⟩
  posLimits := ⟨0, 0⟩
  winding := ⟨0, 0, 0, 0⟩

def Tick.live (mode : Mode) (goalCurrent : Int16) : Tick :=
  { Tick.blank true mode 2048 with
    life := ⟨true, mode, 0, 0, 0, goalCurrent⟩
    limits := ⟨500, .fault, true, 0, 0, 0, 0, 1000, 1000, 3, .slow⟩
    thermal := ⟨10000, 12000, 1000, 0, 0⟩
    loopCurrent := ⟨1024, 0, 0, 16384⟩
    posLimits := ⟨0, 4095⟩ }

structure KernelTiming where
  pwmArr : UInt16
  recipArrQ24 : UInt32
  dtMedQ32 : UInt32
  medTicksPerMsQ16 : UInt32

def Decim.med : Nat := 10

def Decim.slow : Nat := 32

/-- The quotients that the chip evaluates from its two frequencies. -/
def KernelTiming.derive (pwmArr tickHz : UInt16) : KernelTiming :=
  let medHz := tickHz.toNat / Decim.med
  { pwmArr
    recipArrQ24 := .ofNat (2 ^ recipArrShift / pwmArr.toNat)
    dtMedQ32 := .ofNat (2 ^ 32 / medHz)
    medTicksPerMsQ16 := .ofNat (medHz * 65536 / 1000) }

structure Kernel where
  timing : KernelTiming
  decimMed : Nat := Decim.med - 1
  decimSlow : Nat := Decim.slow - 1
  vcalLpf : VcalLpf := {}
  traj : TrajGen := {}
  fusion : FusionObs := {}
  cur : CurrentLoop := {}
  vel : VelocityLoop := {}
  limits : LimitState := {}
  iBand : IBand := .zero
  vbus : VbusEst := {}
  thermal : WindingTherm := {}
  bemf : BemfObs := {}
  faults : FaultLatch := {}
  det : Detectors := {}
  booted : Bool := false
  tePrev : Bool := false
  runPrev : Bool := false
  modePrev : Mode := .openLoop
  iRefCc : Int := 0
  omegaRef : Int := 0
  hold : Bool := false
  dutyQ15 : Int := 0
  decay : DecayMode := .slow
  iMeasLast : Int := 0
  ident : IdentAgg := {}
  vdiffLast : Int := 0
  stallTimeTicks : Nat := 2 ^ 32 - 1
  posErrorTimeTicks : Nat := 2 ^ 32 - 1
  thermR0 : UInt16 := 0

structure Scan where
  ticks : Nat
  fwd : Bool
  sel : WindowSel
  iMeas : Option Int
  vdrive : Option (UInt16 × Int)

/-- The window is the one of the previous command, so terminal and sign stay right across a change of sign. -/
def Scan.take (t : Tick) (dutyQ15 : Int) (decay : DecayMode) (pwmArr : UInt16) : Scan :=
  let ticks := Window.driveTicks dutyQ15 pwmArr
  let fwd : Bool := 0 ≤ dutyQ15
  let sel := Window.select decay ticks t.sense.iWindowMinTicks t.sense.vWindowMinTicks
  ⟨ticks, fwd, sel, Window.iFromFrame t.frame sel fwd t.bias, Window.vdriveFromFrame t.frame sel fwd⟩

structure Output where
  cmd : MotorCmd
  loopRef : Option Int := none

namespace Kernel

variable (k : Kernel) (t : Tick)

def clampI16 (x : Int) : Int :=
  clamp x (-2 ^ 15) (2 ^ 15 - 1)

def boot : Kernel :=
  { k with
    booted := true
    fusion := if k.booted then k.fusion else .seed t.frame.pos
    vcalLpf := (k.vcalLpf.update t.frame.vcal).1 }

/-- The 0 to 1 edge of torque_enable is the ack. -/
def acks : Bool :=
  t.life.torqueEnable && !k.tePrev

def ack : Kernel :=
  { k with
    faults := if k.acks t then {} else k.faults
    det := if k.acks t then k.det.reset else k.det
    limits := if k.acks t then k.limits.ack else k.limits
    tePrev := t.life.torqueEnable }

def scan : Scan :=
  .take t k.dutyQ15 k.decay k.timing.pwmArr

def ocOver : Option Bool :=
  (k.scan t).iMeas.map fun i => t.limits.ocTripCounts.toNat < i.natAbs

def sample : Kernel :=
  let scan := k.scan t
  let screened := k.det.ocSample (k.ocOver t) t.limits.ocTripTicks
  let iMeasLast := (scan.iMeas.map clampI16).getD k.iMeasLast
  let vdiffLast := (scan.vdrive.map fun v => clampI16 v.2).getD k.vdiffLast
  { k with
    det := screened.2
    faults := k.faults.raiseIf .overCurrent screened.1
    iMeasLast
    vdiffLast
    ident := k.ident.sample iMeasLast vdiffLast k.dutyQ15 }

def run : Bool :=
  t.life.torqueEnable && k.faults.mask = 0

/-- Both edges zero the loop chain; the enable edge restarts the observer and the profile at the measurement. -/
def edge (run : Bool) : Kernel :=
  let fusion := if run then .seed t.frame.pos else k.fusion
  { k with
    fusion
    traj := if run then .reseed fusion.theta else k.traj
    cur := {}
    vel := {}
    iRefCc := 0
    omegaRef := 0
    hold := false
    runPrev := run }

def gate (run : Bool) : Kernel :=
  let k := if run != k.runPrev then k.edge t run else k
  let k := if run && t.life.mode ≠ k.modePrev then { k with traj := .reseed k.fusion.theta, hold := false } else k
  { k with modePrev := t.life.mode }

section Medium

variable (scan : Scan) (run : Bool)

/-- An invalid window leaves the observer the cached command. -/
def estimate : Kernel :=
  let gains : FusionGains :=
    ⟨t.motorCal.bIQ313, t.fusion.l1Q016, t.fusion.l2Q88, t.fusion.l3Q88, t.fusion.lBemfQ016, t.motorCal.fricFcCounts⟩
  let omegaBemf := clamp k.bemf.omegaCps (-32767) 32767 * 2 ^ 16
  { k with
    fusion := k.fusion.step (scan.iMeas.getD k.iRefCc) t.frame.pos omegaBemf (wrap32 k.timing.dtMedQ32.toNat) gains }

def trajCfg : TrajCfg :=
  ⟨t.loopPosition.velocityLimitCps, t.loopPosition.accelLimitQ88, t.posLimits.posMinSoftCounts,
    t.posLimits.posMaxSoftCounts, wrap32 k.timing.dtMedQ32.toNat⟩

def profile : Kernel :=
  if run then
    match t.life.mode with
    | .position =>
      let traj := k.traj.stepPosition t.life.goalPosition (k.trajCfg t)
      let out := Position.step traj.thetaRef traj.omegaRef k.fusion.theta
        ⟨t.loopPosition.pKpQ88, t.loopPosition.posDeadbandCounts, t.loopPosition.velocityLimitCps⟩
      { k with traj, omegaRef := out.omegaRef, hold := out.hold }
    | .velocity =>
      let traj := k.traj.stepVelocity t.life.goalVelocity k.fusion.theta (k.trajCfg t)
      { k with traj, omegaRef := traj.omegaRef, hold := false }
    | .current | .openLoop => { k with hold := false }
  else k

def limitCfg : LimitCfg where
  currentLimitCounts := t.limits.currentLimitCounts
  stallResponse := t.limits.stallResponse
  drivePolarity := t.limits.drivePolarity
  stallOmegaMaxCps := t.limits.stallOmegaMaxCps
  stallTimeTicks := k.stallTimeTicks
  stallYieldCounts := t.limits.stallYieldCounts
  stallReleaseCounts := t.limits.stallReleaseCounts
  stallTauTripCounts := t.limits.stallTauTripCounts
  derateStartCc := t.thermal.derateStartCc
  cutoffCc := t.thermal.cutoffCc
  posMinSoftCounts := t.posLimits.posMinSoftCounts
  posMaxSoftCounts := t.posLimits.posMaxSoftCounts

def pinned : Bool :=
  k.limits.iLim ≠ 0 && k.limits.iLim ≤ k.iRefCc.natAbs

def omegaAbsCps : Nat :=
  k.fusion.omega.natAbs / 2 ^ 16

def foldLimits : Kernel :=
  let fold :=
    k.limits.fold k.pinned k.omegaAbsCps k.fusion.tauDCounts.natAbs (k.fusion.theta >>> (16 : Nat)) (k.limitCfg t)
  { k with iBand := fold.1, limits := fold.2, faults := k.faults.raiseIf .stall (run && fold.2.faultPending) }

def velocityGains : VelocityGains :=
  ⟨t.loopVelocity.vKpQ88, t.loopVelocity.vKiQ412, t.loopVelocity.vKawQ412, t.loopVelocity.jFfQ88,
    t.motorCal.fricFcCounts, t.motorCal.fricFvQ016⟩

def regulate : Kernel :=
  let regulated :=
    let step := k.vel.step k.omegaRef k.fusion.omega k.traj.alphaLast k.traj.omegaRef k.iBand (velocityGains t)
    { k with iRefCc := step.1, vel := step.2 }
  if run then
    match t.life.mode with
    -- Parked: the drive coasts, so the velocity loop must stop too.
    | .position => if k.hold then { k with iRefCc := 0, vel := {} } else regulated
    | .velocity => regulated
    -- Clamped fresh at the FAST rate.
    | .current => k
    | .openLoop => { k with iRefCc := 0 }
  else k

def vMean : Option Int :=
  scan.vdrive.map fun v => qMul (wrap32 (scan.ticks * v.2)) (wrap32 k.timing.recipArrQ24.toNat) recipArrShift

def supply : Kernel :=
  { k with
    vbus := k.vbus.step (scan.vdrive.map Prod.fst) t.thermal.vUndervoltCounts
    bemf := k.bemf.step (k.vMean scan) scan.iMeas t.motorCal.rQ12 t.motorCal.recipKeQ }

def posErrOver : Bool :=
  run && t.life.mode = .position &&
    t.faultCfg.posErrorCounts.toNat * 2 ^ 16 < (sat32 (k.traj.thetaRef - k.fusion.theta)).natAbs

def screen : Kernel :=
  let jumped := k.det.sensorSample t.frame.pos t.faultCfg.sensorDeltaMax t.faultCfg.sensorBadCount
  let strayed := jumped.2.posErrSample (k.posErrOver t run) k.posErrorTimeTicks
  { k with
    det := strayed.2
    faults := (k.faults.raiseIf .sensor jumped.1).raiseIf .positionError strayed.1 }

def thermSample : Int × Option Int :=
  match k.vMean scan, scan.iMeas with
  | some v, some i => (v, some i)
  | _, _ => (0, none)

def thermometer : WindingTherm :=
  let thermal := if t.winding.r0Q12 ≠ k.thermR0 then k.thermal.seed t.winding.r0Q12 else k.thermal
  thermal.step (k.thermSample scan).1 (k.thermSample scan).2 k.omegaAbsCps
    ⟨t.thermal.rthermIMinCounts, t.thermal.rthermOmegaMaxCps⟩ t.winding

def slow : Kernel :=
  let thermal := k.thermometer t scan
  -- Undervolt needs fresh evidence, not a held estimate.
  let taken := k.vbus.takeFresh
  { k with
    stallTimeTicks := qMulU t.limits.stallTimeMs.toNat k.timing.medTicksPerMsQ16.toNat 16
    posErrorTimeTicks := qMulU t.faultCfg.posErrorTimeMs.toNat k.timing.medTicksPerMsQ16.toNat 16
    thermal
    thermR0 := t.winding.r0Q12
    limits := k.limits.updateDerate thermal.tCc (k.limitCfg t)
    vbus := taken.2
    faults := (k.faults.raiseIf .overTemp (t.thermal.cutoffCc.toInt ≤ thermal.tCc)).raiseIf .underVolt
      (taken.1 && k.vbus.vbusCounts < t.thermal.vUndervoltCounts.toNat) }

def mediumDue : Bool :=
  Decim.med ≤ k.decimMed + 1

def slowDue : Bool :=
  Decim.slow ≤ k.decimSlow + 1

def slowed : Kernel :=
  if k.slowDue then { k.slow t scan with decimSlow := 0 } else { k with decimSlow := k.decimSlow + 1 }

def steered : Kernel :=
  (k.estimate t scan).profile t run

def medium : Kernel :=
  let k := (k.steered t scan run).foldLimits t run
  let k := k.regulate t run
  let k := k.supply t scan
  let k := k.screen t run
  k.slowed t scan

def decimated : Kernel :=
  if k.mediumDue then { k.medium t scan run with decimMed := 0 } else { k with decimMed := k.decimMed + 1 }

end Medium

section Command

variable (scan : Scan)

def openLoopDuty : Int :=
  let max : Int := min t.loopCurrent.dutyMaxQ15.toNat 32767
  clamp t.life.goalDuty.toInt (-max) max

def currentGains : CurrentGains :=
  ⟨t.loopCurrent.iKpQ88, t.loopCurrent.iKiQ412, t.loopCurrent.iKawQ412, t.motorCal.keVpcQ, t.loopCurrent.dutyMaxQ15⟩

/-- The supply the reciprocal was floored at, if the floor is still the same. -/
def vbusEff : Nat :=
  max k.vbus.vbusCounts t.thermal.vUndervoltCounts.toNat

/-- An endstop holds the reference at zero and there is no window: the loop would freeze on what it unwound to. -/
def stuck : Bool :=
  k.iRefCc = 0 && scan.iMeas.isNone && (k.iBand.hi = 0 || k.iBand.lo = 0)

def closedLoop : Kernel × Output :=
  if k.hold then ({ k with dutyQ15 := 0 }, ⟨.coast, none⟩)
  else if k.stuck scan then ({ k with cur := {}, dutyQ15 := 0, decay := .slow }, ⟨.drive 0 .slow, none⟩)
  else
    -- Below the sampling floor zero is the honest estimate, and lets the loop lift off.
    let (duty, cur) := k.cur.step k.iRefCc (some (scan.iMeas.getD 0)) k.fusion.omega (k.vbusEff t) k.vbus.recipQ15
      (currentGains t)
    ({ k with cur, dutyQ15 := duty, decay := .slow }, ⟨.drive duty .slow, some k.iRefCc⟩)

def command (run : Bool) : Kernel × Output :=
  -- A fault raised since the gate disables this tick's drive.
  if run && k.faults.mask = 0 then
    match t.life.mode with
    | .openLoop =>
      let duty := openLoopDuty t
      let decay := t.limits.openloopDecay
      ({ k with dutyQ15 := duty, decay }, ⟨.drive duty decay, none⟩)
    | .current => { k with iRefCc := k.iBand.clamp t.life.goalCurrent.toInt }.closedLoop t scan
    | .velocity | .position => k.closedLoop t scan
  else ({ k with dutyQ15 := 0 }, ⟨.disabled, none⟩)

end Command

def sampled : Kernel :=
  ((k.boot t).ack t).sample t

def gated : Kernel :=
  (k.sampled t).gate t ((k.sampled t).run t)

def onTick : Kernel × Output :=
  let run := (k.sampled t).run t
  ((k.gated t).decimated t (k.scan t) run).command t (k.scan t) run

end Kernel

end OpenServo.Motion
