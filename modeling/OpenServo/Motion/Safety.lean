import OpenServo.Motion.CheckedKernel
import OpenServo.Motion.ProfileRanges

set_option autoImplicit false

namespace OpenServo.Motion

open OpenServo.Shared OpenServo.Shared.Checked

structure KernelTiming.Sound (timing : KernelTiming) : Prop where
  fraction : timing.pwmArr.toNat * timing.recipArrQ24.toNat ≤ 2 ^ 24
  recip : timing.recipArrQ24.toNat ≤ 2 ^ 24
  dt : timing.dtMedQ32.toNat < 2 ^ 31

theorem KernelTiming.derive_sound (pwmArr tickHz : UInt16) (small : (derive pwmArr tickHz).dtMedQ32.toNat < 2 ^ 31) :
    (derive pwmArr tickHz).Sound := by
  have quotient : 2 ^ 24 / pwmArr.toNat ≤ 2 ^ 24 := Nat.div_le_self _ _
  have recip : (derive pwmArr tickHz).recipArrQ24.toNat = 2 ^ 24 / pwmArr.toNat := by
    exact Nat.mod_eq_of_lt (Nat.lt_of_le_of_lt quotient (by decide))
  refine ⟨?_, by omega, small⟩
  rw [recip]
  exact Nat.mul_div_le _ _

structure SensorFrame.TwelveBit (frame : SensorFrame) : Prop where
  pos : frame.pos.toNat ≤ 4095
  current : frame.current.toNat ≤ 4095
  currentTrough : frame.currentTrough.toNat ≤ 4095
  vmotorA : frame.vmotorA.toNat ≤ 4095
  vmotorATrough : frame.vmotorATrough.toNat ≤ 4095
  vmotorB : frame.vmotorB.toNat ≤ 4095
  vmotorBTrough : frame.vmotorBTrough.toNat ≤ 4095
  vcal : frame.vcal.toNat ≤ 4095

/-- Of the rules of the table, the arithmetic leans on one. -/
structure Tick.Lawful (t : Tick) : Prop where
  frame : t.frame.TwelveBit
  dutyMaxQ15 : t.loopCurrent.dutyMaxQ15.toNat ≤ 32767

theorem i16_range (x : Int) : -2 ^ 15 ≤ Kernel.clampI16 x ∧ Kernel.clampI16 x ≤ 2 ^ 15 - 1 := by
  rw [Kernel.clampI16, clamp]
  omega

def Spans (n : Nat) (sum : Int) : Prop :=
  -(n * 2 ^ 15) ≤ sum ∧ sum ≤ n * (2 ^ 15 - 1)

theorem i16_zero : (-2 ^ 15 : Int) ≤ 0 ∧ (0 : Int) ≤ 2 ^ 15 - 1 := by
  decide

structure IdentAgg.Ranged (agg : IdentAgg) : Prop where
  ctr : agg.ctr < 16
  iSum : Spans agg.ctr agg.iSum
  vdiffSum : Spans agg.ctr agg.vdiffSum
  dutySum : Spans agg.ctr agg.dutySum

theorem IdentAgg.new_ranged (seq : UInt16) : Ranged { seq } := by
  have none : Spans 0 0 := by simp [Spans]
  exact ⟨Nat.zero_lt_succ 15, none, none, none⟩

theorem spans_sat {n : Nat} {sum x : Int} (few : n < 16) (spans : Spans n sum) (low : -2 ^ 15 ≤ x)
    (high : x ≤ 2 ^ 15 - 1) : (i32 (sum + x)).Sat (Spans (n + 1)) := by
  rw [Spans] at spans
  apply (i32_sat (by omega) (by omega)).mono
  intro total same
  rw [Spans]
  omega

theorem mean_sat {sum : Int} (spans : Spans 16 sum) : (checkedMean sum).Sat (fun _ => True) := by
  rw [Spans] at spans
  refine ⟨decide_eq_true ?_, trivial⟩
  rw [Int.shiftRight_eq_div_pow]
  omega

theorem IdentAgg.checkedSample_sat {agg : IdentAgg} (ranged : agg.Ranged) {i vdiff duty : Int}
    (iLast : -2 ^ 15 ≤ i ∧ i ≤ 2 ^ 15 - 1) (vdiffLast : -2 ^ 15 ≤ vdiff ∧ vdiff ≤ 2 ^ 15 - 1)
    (driven : duty.natAbs ≤ 32767) : (agg.checkedSample i vdiff duty).Sat Ranged := by
  have few := ranged.ctr
  apply (spans_sat few ranged.iSum iLast.1 iLast.2).bind
  intro iSum first
  apply (spans_sat few ranged.vdiffSum vdiffLast.1 vdiffLast.2).bind
  intro vdiffSum second
  apply (spans_sat few ranged.dutySum (by omega) (by omega)).bind
  intro dutySum third
  apply (u8_sat (by omega)).bind
  intro ctr same
  subst same
  split
  next more => exact .pure ⟨more, first, second, third⟩
  next last =>
    have full : agg.ctr + 1 = 16 := by omega
    rw [full] at first second third
    apply (mean_sat first).bind
    intro _ _
    apply (mean_sat second).bind
    intro _ _
    apply (mean_sat third).bind
    intro _ _
    exact .pure (new_ranged _)

structure Scan.Ranged (pwmArr : UInt16) (scan : Scan) : Prop where
  ticks : scan.ticks ≤ pwmArr.toNat
  iMeas : ∀ i, scan.iMeas = some i → i.natAbs ≤ 65535
  vdrive : ∀ v, scan.vdrive = some v → v.1.toNat ≤ 4095 ∧ v.2.natAbs ≤ 4095

namespace Window

theorem checkedDriveTicks_sat {duty : Int} (pwmArr : UInt16) :
    (checkedDriveTicks duty pwmArr).Sat (· ≤ pwmArr.toNat) := by
  have word := pwmArr.toNat_lt
  have product : min duty.natAbs 32767 * pwmArr.toNat ≤ 32767 * pwmArr.toNat :=
    Nat.mul_le_mul_right _ (Nat.min_le_right _ _)
  apply (u32_sat (by omega)).bind
  intro rounded same
  exact .pure (by omega)

theorem checkedIFromFrame_sat {frame : SensorFrame} (lawful : frame.TwelveBit) (sel : WindowSel) (positive : Bool)
    (bias : UInt16) :
    (checkedIFromFrame frame sel positive bias).Sat (fun iMeas => ∀ i, iMeas = some i → i.natAbs ≤ 65535) := by
  have word := bias.toNat_lt
  have peak := lawful.current
  have trough := lawful.currentTrough
  unfold checkedIFromFrame
  split
  next => exact .pure (fun i none => (by cases none))
  next =>
    have sample : (if sel.useTrough then frame.currentTrough else frame.current).toNat ≤ 4095 := by
      split <;> assumption
    apply (word_sat (by omega) (by omega)).bind
    intro mag same
    apply (word_sat (by split <;> omega) (by split <;> omega)).bind
    intro signed turned
    apply Sat.pure
    intro i found
    cases found
    rw [turned]
    split <;> omega

theorem checkedVdriveFromFrame_sat {frame : SensorFrame} (lawful : frame.TwelveBit) (sel : WindowSel)
    (forward : Bool) :
    (checkedVdriveFromFrame frame sel forward).Sat
      (fun vdrive => ∀ v, vdrive = some v → v.1.toNat ≤ 4095 ∧ v.2.natAbs ≤ 4095) := by
  unfold checkedVdriveFromFrame
  split
  next => exact .pure (fun v none => (by cases none))
  next =>
    extract_lets pair
    have terminals : pair.1.toNat ≤ 4095 ∧ pair.2.toNat ≤ 4095 := by
      by_cases trough : sel.useTrough = true
      next =>
        simp only [pair, if_pos trough]
        exact ⟨lawful.vmotorATrough, lawful.vmotorBTrough⟩
      next =>
        simp only [pair, if_neg trough]
        exact ⟨lawful.vmotorA, lawful.vmotorB⟩
    apply (word_sat (by omega) (by omega)).bind
    intro vdiff same
    apply Sat.pure
    intro v found
    cases found
    refine ⟨?_, by simp only; omega⟩
    simp only
    split
    next => exact terminals.1
    next => exact terminals.2

end Window

theorem Scan.checkedTake_sat {t : Tick} (lawful : t.Lawful) (dutyQ15 : Int) (decay : DecayMode) (pwmArr : UInt16) :
    (checkedTake t dutyQ15 decay pwmArr).Sat (Scan.Ranged pwmArr) := by
  apply (Window.checkedDriveTicks_sat pwmArr).bind
  intro ticks width
  apply (Window.checkedIFromFrame_sat lawful.frame _ _ t.bias).bind
  intro iMeas amps
  apply (Window.checkedVdriveFromFrame_sat lawful.frame _ _).bind
  intro vdrive volts
  exact .pure ⟨width, amps, volts⟩

namespace Kernel

structure Ranged (timing : KernelTiming) (k : Kernel) : Prop where
  timing : k.timing = timing
  decimMed : k.decimMed < Decim.med
  decimSlow : k.decimSlow < Decim.slow
  vcalLpf : k.vcalLpf.Ranged
  traj : k.traj.Ranged
  fusion : k.fusion.Ranged
  cur : k.cur.Ranged
  vel : k.vel.Ranged
  limits : k.limits.Ranged
  iBand : k.iBand.Ranged
  vbus : k.vbus.Ranged
  thermal : k.thermal.Ranged
  bemf : k.bemf.Ranged
  iRefCc : k.iRefCc.natAbs ≤ 65535
  omegaRef : k.omegaRef.natAbs ≤ 32767 * 2 ^ 16
  dutyQ15 : k.dutyQ15.natAbs ≤ 32767
  iMeasLast : -2 ^ 15 ≤ k.iMeasLast ∧ k.iMeasLast ≤ 2 ^ 15 - 1
  vdiffLast : -2 ^ 15 ≤ k.vdiffLast ∧ k.vdiffLast ≤ 2 ^ 15 - 1
  ident : k.ident.Ranged

theorem start_ranged (timing : KernelTiming) : Ranged timing { timing } where
  timing := rfl
  decimMed := Nat.lt_succ_self 9
  decimSlow := Nat.lt_succ_self 31
  vcalLpf := VcalLpf.new_ranged
  traj := TrajGen.new_ranged
  fusion := FusionObs.new_ranged
  cur := CurrentLoop.new_ranged
  vel := VelocityLoop.new_ranged
  limits := LimitState.new_ranged
  iBand := IBand.zero_ranged
  vbus := VbusEst.new_ranged
  thermal := WindingTherm.new_ranged
  bemf := BemfObs.new_ranged
  iRefCc := Nat.zero_le _
  omegaRef := Nat.zero_le _
  dutyQ15 := Nat.zero_le _
  iMeasLast := i16_zero
  vdiffLast := i16_zero
  ident := IdentAgg.new_ranged 0

variable {timing : KernelTiming} {k : Kernel} {t : Tick} {scan : Scan}

theorem ack_ranged (ranged : k.Ranged timing) (t : Tick) : (k.ack t).Ranged timing := by
  have limits : (if k.acks t then k.limits.ack else k.limits).Ranged := by
    split
    next => exact ⟨ranged.limits.derateCache, ranged.limits.iLim⟩
    next => exact ranged.limits
  exact { ranged with limits }

theorem checkedBoot_sat (ranged : k.Ranged timing) (lawful : t.Lawful) : (k.checkedBoot t).Sat (Ranged timing) := by
  apply (FusionObs.checkedSeed_sat lawful.frame.pos).bind
  intro seed seeded
  apply (VcalLpf.checkedUpdate_sat ranged.vcalLpf lawful.frame.vcal).bind
  intro vcalLpf filtered
  have fusion : (if k.booted then k.fusion else seed).Ranged := by
    split
    next => exact ranged.fusion
    next => exact seeded
  exact .pure { ranged with fusion, vcalLpf := filtered }

theorem checkedScan_sat (ranged : k.Ranged timing) (lawful : t.Lawful) :
    (k.checkedScan t).Sat (Scan.Ranged timing.pwmArr) := by
  rw [← ranged.timing]
  exact Scan.checkedTake_sat lawful k.dutyQ15 k.decay k.timing.pwmArr

theorem checkedSample_sat (ranged : k.Ranged timing) (t : Tick) (scan : Scan) :
    (k.checkedSample t scan).Sat (Ranged timing) := by
  have iMeasLast : -2 ^ 15 ≤ (scan.iMeas.map clampI16).getD k.iMeasLast ∧
      (scan.iMeas.map clampI16).getD k.iMeasLast ≤ 2 ^ 15 - 1 := by
    cases scan.iMeas with
    | none => exact ranged.iMeasLast
    | some i => exact i16_range i
  have vdiffLast : -2 ^ 15 ≤ (scan.vdrive.map fun v => clampI16 v.2).getD k.vdiffLast ∧
      (scan.vdrive.map fun v => clampI16 v.2).getD k.vdiffLast ≤ 2 ^ 15 - 1 := by
    cases scan.vdrive with
    | none => exact ranged.vdiffLast
    | some v => exact i16_range v.2
  apply (IdentAgg.checkedSample_sat ranged.ident iMeasLast vdiffLast ranged.dutyQ15).bind
  intro ident summed
  exact .pure { ranged with iMeasLast, vdiffLast, ident := summed }

theorem checkedEdge_sat (ranged : k.Ranged timing) (lawful : t.Lawful) (run : Bool) :
    (k.checkedEdge t run).Sat (Ranged timing) := by
  apply (FusionObs.checkedSeed_sat lawful.frame.pos).bind
  intro seed seeded
  have fusion : (if run then seed else k.fusion).Ranged := by
    split
    next => exact seeded
    next => exact ranged.fusion
  apply (TrajGen.checkedReseed_sat _).bind
  intro traj reseeded
  have traj : (if run then traj else k.traj).Ranged := by
    split
    next => exact reseeded
    next => exact ranged.traj
  exact .pure { ranged with
    fusion
    traj
    cur := CurrentLoop.new_ranged
    vel := VelocityLoop.new_ranged
    iRefCc := Nat.zero_le _
    omegaRef := Nat.zero_le _ }

theorem checkedSwitch_sat (ranged : k.Ranged timing) (t : Tick) (run : Bool) :
    (k.checkedSwitch t run).Sat (Ranged timing) := by
  unfold checkedSwitch
  split
  next =>
    apply (TrajGen.checkedReseed_sat _).bind
    intro traj reseeded
    exact .pure { ranged with traj := reseeded }
  next => exact .pure ranged

theorem checkedGate_sat (ranged : k.Ranged timing) (lawful : t.Lawful) (run : Bool) :
    (k.checkedGate t run).Sat (Ranged timing) := by
  have edged : (if run != k.runPrev then k.checkedEdge t run else pure k).Sat (Ranged timing) := by
    split
    next => exact checkedEdge_sat ranged lawful run
    next => exact .pure ranged
  have switched (k : Kernel) (ranged : k.Ranged timing) :
      (k.checkedSwitch t run >>= fun k => pure { k with modePrev := t.life.mode }).Sat (Ranged timing) := by
    apply (checkedSwitch_sat ranged t run).bind
    intro k switched
    exact .pure { switched with }
  simp only [checkedGate]
  split
  next turns =>
    rw [if_pos turns] at edged
    exact edged.bind switched
  next same => exact switched k ranged

section Medium

theorem checkedEstimate_sat (ranged : k.Ranged timing) (sound : timing.Sound) (lawful : t.Lawful) (scan : Scan) :
    (k.checkedEstimate t scan).Sat (Ranged timing) := by
  have dt := sound.dt
  rw [← ranged.timing] at dt
  apply (within_abs 32767 rfl).bind
  intro bemf bounded
  apply (word_sat (by omega) (by omega)).bind
  intro omegaBemf _
  apply (i32_sat (by omega) (by omega)).bind
  intro step same
  apply (FusionObs.checkedStep_sat k.fusion _ lawful.frame.pos omegaBemf (by omega) (by omega) _).bind
  intro fusion stepped
  exact .pure { ranged with fusion := stepped }

theorem trajCfg_dt (ranged : k.Ranged timing) (sound : timing.Sound) (t : Tick) :
    0 ≤ (k.trajCfg t).dtMedQ32 ∧ (k.trajCfg t).dtMedQ32 < 2 ^ 31 := by
  have dt := sound.dt
  rw [← ranged.timing] at dt
  have cast : (k.trajCfg t).dtMedQ32 = wrap32 k.timing.dtMedQ32.toNat := by rw [trajCfg]
  rw [cast, wrap32_of_mem (by omega) (by omega)]
  omega

theorem checkedProfile_sat (ranged : k.Ranged timing) (sound : timing.Sound) (t : Tick) (run : Bool) :
    (k.checkedProfile t run).Sat (Ranged timing) := by
  have dt := trajCfg_dt ranged sound t
  cases run with
  | false => exact .pure ranged
  | true =>
    simp only [checkedProfile, if_true]
    cases t.life.mode with
    | position =>
      apply (TrajGen.checkedStepPosition_sat dt.1 dt.2 ranged.traj t.life.goalPosition).bind
      intro traj stepped
      apply (Position.checkedStep_sat _ _ _ _).bind
      intro out bounded
      exact .pure { ranged with traj := stepped, omegaRef := bounded }
    | velocity =>
      apply (TrajGen.checkedStepVelocity_sat dt.1 dt.2 ranged.traj t.life.goalVelocity _).bind
      intro traj stepped
      exact .pure { ranged with traj := stepped, omegaRef := stepped.omegaRef }
    | current => exact .pure { ranged with }
    | openLoop => exact .pure { ranged with }

theorem checkedFoldLimits_sat (ranged : k.Ranged timing) (t : Tick) (run : Bool) :
    (k.checkedFoldLimits t run).Sat (Ranged timing) := by
  apply (LimitState.checkedFold_sat ranged.limits _ _ _ _ _).bind
  intro fold folded
  exact .pure { ranged with iBand := folded.1, limits := folded.2 }

theorem checkedRegulated_sat (ranged : k.Ranged timing) (t : Tick) :
    (k.checkedRegulated t).Sat (Ranged timing) := by
  apply (VelocityLoop.checkedStep_sat k.vel _ _ ranged.traj.alphaLast ranged.traj.omegaRef ranged.iBand _).bind
  intro step stepped
  exact .pure { ranged with vel := stepped.1, iRefCc := stepped.2 }

theorem checkedRegulate_sat (ranged : k.Ranged timing) (t : Tick) (run : Bool) :
    (k.checkedRegulate t run).Sat (Ranged timing) := by
  cases run with
  | false => exact .pure ranged
  | true =>
    simp only [checkedRegulate, if_true]
    cases t.life.mode with
    | position =>
      dsimp only
      split
      next => exact .pure { ranged with iRefCc := Nat.zero_le _, vel := VelocityLoop.new_ranged }
      next => exact checkedRegulated_sat ranged t
    | velocity => exact checkedRegulated_sat ranged t
    | current => exact .pure ranged
    | openLoop => exact .pure { ranged with iRefCc := Nat.zero_le _ }

theorem checkedVMean_sat (ranged : k.Ranged timing) (sound : timing.Sound) (sampled : scan.Ranged timing.pwmArr) :
    (k.checkedVMean scan).Sat (fun vMean => ∀ v, vMean = some v → v.natAbs ≤ 4095) := by
  unfold checkedVMean
  cases driven : scan.vdrive with
  | none => exact .pure (fun v none => (by cases none))
  | some v =>
    have diff := (sampled.vdrive v driven).2
    have fraction := sound.fraction
    have recip := sound.recip
    rw [← ranged.timing] at fraction recip sampled
    have ticks := sampled.ticks
    have word := k.timing.pwmArr.toNat_lt
    have product : (scan.ticks * v.2 : Int).natAbs ≤ k.timing.pwmArr.toNat * 4095 := by
      rw [Int.natAbs_mul, Int.natAbs_natCast]
      exact Nat.mul_le_mul ticks diff
    have whole : k.timing.pwmArr.toNat * 4095 * k.timing.recipArrQ24.toNat ≤ 4095 * 2 ^ 24 := by
      calc k.timing.pwmArr.toNat * 4095 * k.timing.recipArrQ24.toNat
        _ = 4095 * (k.timing.pwmArr.toNat * k.timing.recipArrQ24.toNat) := by ring
        _ ≤ 4095 * 2 ^ 24 := Nat.mul_le_mul_left 4095 fraction
    apply (i32_sat (by omega) (by omega)).bind
    intro product same
    subst same
    apply (i32_sat (by omega) (by omega)).bind
    intro recip same
    apply (scaled_sat _ k.timing.recipArrQ24.toNat 4095 (by assumption) (by omega) whole (by omega)).bind
    intro mean scaled
    apply Sat.pure
    intro v found
    cases found
    exact scaled.1

theorem checkedSupply_sat (ranged : k.Ranged timing) (sound : timing.Sound) (sampled : scan.Ranged timing.pwmArr)
    (t : Tick) : (k.checkedSupply t scan).Sat (Ranged timing) := by
  have sample : ∀ s, scan.vdrive.map Prod.fst = some s → s.toNat ≤ 4095 := by
    intro s found
    obtain ⟨v, driven, rfl⟩ := Option.map_eq_some_iff.mp found
    exact (sampled.vdrive v driven).1
  apply (VbusEst.checkedStep_sat ranged.vbus sample t.thermal.vUndervoltCounts).bind
  intro vbus supplied
  apply (checkedVMean_sat ranged sound sampled).bind
  intro vMean mean
  apply (BemfObs.checkedStep_sat ranged.bemf mean sampled.iMeas _ _).bind
  intro bemf observed
  exact .pure { ranged with vbus := supplied, bemf := observed }

theorem checkedScreen_sat (ranged : k.Ranged timing) (t : Tick) (run : Bool) :
    (k.checkedScreen t run).Sat (Ranged timing) := by
  have word := t.faultCfg.posErrorCounts.toNat_lt
  have pos := t.frame.pos.toNat_lt
  have last := k.det.sensorLastPos.toNat_lt
  have jumped : (k.det.checkedSensorSample t.frame.pos t.faultCfg.sensorDeltaMax t.faultCfg.sensorBadCount).Sat
      (fun _ => True) := by
    apply (word_sat (by omega) (by omega)).bind
    intro _ _
    exact .pure trivial
  apply jumped.bind
  intro jumped _
  apply (u32_sat (by omega)).bind
  intro _ _
  exact .pure { ranged with }

theorem thermSample_amps (k : Kernel) (sampled : scan.Ranged timing.pwmArr) :
    ∀ i, (k.thermSample scan).2 = some i → i.natAbs ≤ 65535 := by
  intro i found
  unfold thermSample at found
  split at found
  next measured =>
    cases found
    exact sampled.iMeas i measured
  next => cases found

theorem checkedThermometer_sat (ranged : k.Ranged timing) (sound : timing.Sound)
    (sampled : scan.Ranged timing.pwmArr) (t : Tick) : (k.checkedThermometer t scan).Sat WindingTherm.Ranged := by
  have word := t.winding.r0Q12.toNat_lt
  apply (checkedVMean_sat ranged sound sampled).bind
  intro _ _
  apply (word_sat (by omega) (by omega)).bind
  intro r0 same
  have seeded : (if t.winding.r0Q12 ≠ k.thermR0 then { k.thermal with rQg := r0, seeded := true }
      else k.thermal).Ranged := by
    split
    next => exact ⟨by simp only; omega, ranged.thermal.tCc⟩
    next => exact ranged.thermal
  exact WindingTherm.checkedStep_sat seeded _ (thermSample_amps k sampled) _ _ _

theorem checkedSlow_sat (ranged : k.Ranged timing) (sound : timing.Sound) (sampled : scan.Ranged timing.pwmArr)
    (t : Tick) : (k.checkedSlow t scan).Sat (Ranged timing) := by
  -- A half word of milliseconds, whatever a millisecond is.
  have ticks (ms : UInt16) : (checkedMulU ms.toNat k.timing.medTicksPerMsQ16.toNat 16).Sat (fun _ => True) := by
    have product : ms.toNat * k.timing.medTicksPerMsQ16.toNat < 2 ^ 16 * 2 ^ 32 :=
      Nat.mul_lt_mul'' ms.toNat_lt k.timing.medTicksPerMsQ16.toNat_lt
    exact (mulU_sat (by omega)).mono (fun _ _ => trivial)
  apply (ticks t.limits.stallTimeMs).bind
  intro stallTimeTicks _
  apply (ticks t.faultCfg.posErrorTimeMs).bind
  intro posErrorTimeTicks _
  apply (checkedThermometer_sat ranged sound sampled t).bind
  intro thermal stepped
  apply (LimitState.checkedUpdateDerate_sat ranged.limits stepped.tCc.1 _).bind
  intro limits derated
  have vbus : k.vbus.takeFresh.2.Ranged := ⟨ranged.vbus.stateQg, ranged.vbus.recipQ15⟩
  exact .pure { ranged with thermal := stepped, limits := derated, vbus }

theorem checkedSlowed_sat (ranged : k.Ranged timing) (sound : timing.Sound) (sampled : scan.Ranged timing.pwmArr)
    (t : Tick) : (k.checkedSlowed t scan).Sat (Ranged timing) := by
  have below : k.decimSlow < 32 := ranged.decimSlow
  apply (u8_sat (by omega)).bind
  intro count same
  subst same
  split
  next =>
    apply (checkedSlow_sat ranged sound sampled t).bind
    intro k slowed
    exact .pure { slowed with decimSlow := Nat.zero_lt_succ 31 }
  next undue => exact .pure { ranged with decimSlow := Nat.lt_of_not_le undue }

theorem checkedMedium_sat (ranged : k.Ranged timing) (sound : timing.Sound) (lawful : t.Lawful)
    (sampled : scan.Ranged timing.pwmArr) (run : Bool) : (k.checkedMedium t scan run).Sat (Ranged timing) := by
  apply (checkedEstimate_sat ranged sound lawful scan).bind
  intro k estimated
  apply (checkedProfile_sat estimated sound t run).bind
  intro k profiled
  apply (checkedFoldLimits_sat profiled t run).bind
  intro k folded
  apply (checkedRegulate_sat folded t run).bind
  intro k regulated
  apply (checkedSupply_sat regulated sound sampled t).bind
  intro k supplied
  apply (checkedScreen_sat supplied t run).bind
  intro k screened
  exact checkedSlowed_sat screened sound sampled t

theorem checkedDecimated_sat (ranged : k.Ranged timing) (sound : timing.Sound) (lawful : t.Lawful)
    (sampled : scan.Ranged timing.pwmArr) (run : Bool) : (k.checkedDecimated t scan run).Sat (Ranged timing) := by
  have below : k.decimMed < 10 := ranged.decimMed
  apply (u8_sat (by omega)).bind
  intro count same
  subst same
  split
  next =>
    apply (checkedMedium_sat ranged sound lawful sampled run).bind
    intro k stepped
    exact .pure { stepped with decimMed := Nat.zero_lt_succ 9 }
  next undue => exact .pure { ranged with decimMed := Nat.lt_of_not_le undue }

end Medium

section Command

theorem checkedOpenLoopDuty_sat (t : Tick) : (checkedOpenLoopDuty t).Sat (fun duty => duty.natAbs ≤ 32767) := by
  apply (within_sat (by omega)).mono
  intro duty inside
  omega

theorem checkedClosedLoop_sat (ranged : k.Ranged timing) (lawful : t.Lawful) (scan : Scan) :
    (k.checkedClosedLoop t scan).Sat (fun out => out.1.Ranged timing) := by
  have counts := k.vbus.vbusCounts_lt
  have word := t.thermal.vUndervoltCounts.toNat_lt
  have supply : k.vbusEff t < 2 ^ 16 := by
    rw [vbusEff]
    omega
  unfold checkedClosedLoop
  split
  next => exact .pure { ranged with dutyQ15 := Nat.zero_le _ }
  next =>
    split
    next => exact .pure { ranged with cur := CurrentLoop.new_ranged, dutyQ15 := Nat.zero_le _ }
    next =>
      apply (CurrentLoop.checkedStep_sat ranged.cur _ _ ranged.fusion.omega supply ranged.vbus.recipQ15
        lawful.dutyMaxQ15).bind
      intro step stepped
      exact .pure { ranged with cur := stepped.1, dutyQ15 := stepped.2 }

theorem checkedCommand_sat (ranged : k.Ranged timing) (lawful : t.Lawful) (scan : Scan) (run : Bool) :
    (k.checkedCommand t scan run).Sat (fun out => out.1.Ranged timing) := by
  unfold checkedCommand
  split
  next =>
    cases t.life.mode with
    | openLoop =>
      apply (checkedOpenLoopDuty_sat t).bind
      intro duty bounded
      exact .pure { ranged with dutyQ15 := bounded }
    | current =>
      apply (IBand.checkedClamp_sat ranged.iBand _).bind
      intro iRefCc bounded
      have clamped : Ranged timing { k with iRefCc } := { ranged with iRefCc := bounded }
      exact checkedClosedLoop_sat clamped lawful scan
    | velocity => exact checkedClosedLoop_sat ranged lawful scan
    | position => exact checkedClosedLoop_sat ranged lawful scan
  next => exact .pure { ranged with dutyQ15 := Nat.zero_le _ }

end Command

theorem checkedOnTick_sat (ranged : k.Ranged timing) (sound : timing.Sound) (lawful : t.Lawful) :
    (k.checkedOnTick t).Sat (fun out => out.1.Ranged timing) := by
  apply (checkedBoot_sat ranged lawful).bind
  intro k booted
  have acked := ack_ranged booted t
  apply (checkedScan_sat acked lawful).bind
  intro scan sampled
  apply (checkedSample_sat acked t scan).bind
  intro k summed
  apply (checkedGate_sat summed lawful _).bind
  intro k gated
  apply (checkedDecimated_sat gated sound lawful sampled _).bind
  intro k decimated
  exact checkedCommand_sat decimated lawful scan _

theorem onTick_ranged (ranged : k.Ranged timing) (sound : timing.Sound) (lawful : t.Lawful) :
    (k.onTick t).1.Ranged timing := by
  rw [← checkedOnTick_val]
  exact (checkedOnTick_sat ranged sound lawful).2

theorem run_ranged (sound : timing.Sound) (ts : List Tick) (lawful : ∀ t ∈ ts, t.Lawful) :
    (OpenServo.Shared.run (fun k t => (k.onTick t).1) { timing } ts : Kernel).Ranged timing := by
  apply run_invariant (fun (k : Kernel) t => (k.onTick t).1) (fun _ t => t.Lawful) (Ranged timing)
  next => exact fun k t ranged lawful => onTick_ranged ranged sound lawful
  next => exact start_ranged timing
  next => exact meets_forall _ _ ts lawful

theorem onTick_safe (pwmArr tickHz : UInt16) (small : (KernelTiming.derive pwmArr tickHz).dtMedQ32.toNat < 2 ^ 31)
    (ts : List Tick) (t : Tick) (lawful : ∀ tick ∈ ts ++ [t], tick.Lawful) :
    let k := OpenServo.Shared.run (fun k t => (onTick k t).1) { timing := .derive pwmArr tickHz } ts
    let after := (k.onTick t).1
    (k.checkedOnTick t).ok = true ∧ (k.checkedOnTick t).val = k.onTick t ∧
      after.fusion.theta.natAbs ≤ 2 ^ 29 ∧ after.fusion.omega.natAbs ≤ 32767 * 2 ^ 16 ∧
      after.fusion.tauD.natAbs ≤ 4095 * 2 ^ 16 ∧ (0 ≤ after.thermal.rQg ∧ after.thermal.rQg ≤ 2 ^ 24) ∧
      after.traj.thetaRef.natAbs ≤ 2 ^ 29 ∧ after.traj.omegaRef.natAbs ≤ 32767 * 2 ^ 16 ∧
      after.traj.alphaLast.natAbs ≤ 2 ^ 31 := by
  intro k after
  have sound := KernelTiming.derive_sound pwmArr tickHz small
  have ranged := run_ranged sound ts (fun tick member => lawful tick (List.mem_append_left _ member))
  have last : t.Lawful := lawful t (List.mem_append_right _ List.mem_cons_self)
  have left : after.Ranged (.derive pwmArr tickHz) := onTick_ranged ranged sound last
  exact ⟨(checkedOnTick_sat ranged sound last).1, k.checkedOnTick_val t, left.fusion.theta, left.fusion.omega,
    left.fusion.tauD, left.thermal.rQg, left.traj.thetaRef, left.traj.omegaRef, left.traj.alphaLast⟩

theorem onTick_safe_live :
    let live := Tick.live .current 900
    let k := OpenServo.Shared.run (fun k t => (onTick k t).1) { timing := .derive 2400 20000 } [live]
    (k.checkedOnTick live).ok = true ∧ (k.onTick live).1.fusion.theta.natAbs ≤ 2 ^ 29 := by
  have lawful : ∀ tick ∈ [Tick.live .current 900] ++ [Tick.live .current 900], tick.Lawful := by
    intro tick member
    have same : tick = Tick.live .current 900 := by simpa using member
    rw [same]
    exact ⟨⟨by decide, by decide, by decide, by decide, by decide, by decide, by decide, by decide⟩, by decide⟩
  have safe := onTick_safe 2400 20000 (by decide) [.live .current 900] (.live .current 900) lawful
  exact ⟨safe.1, safe.2.2.1⟩

end Kernel

end OpenServo.Motion
