import Mathlib.Tactic.NormNum
import Mathlib.Tactic.Ring
import OpenServo.Motion.Envelope
import OpenServo.Motion.Reciprocal

set_option autoImplicit false

namespace OpenServo.Motion

open OpenServo.Shared

theorem CurrentLoop.vMax_eq {v : Nat} (small : v < 2 ^ 16) (gains : CurrentGains) :
    CurrentLoop.vMax v gains = (gains.dutyMaxQ15.toNat * v / 2 ^ 15 : Nat) := by
  have word := gains.dutyMaxQ15.toNat_lt
  have product : gains.dutyMaxQ15.toNat * v < 2 ^ 16 * 2 ^ 16 := Nat.mul_lt_mul'' word small
  rw [CurrentLoop.vMax, qMul_of_mem (by omega) (by omega)]
  norm_cast

theorem duty_of_volts {volts : Int} {cap v recip : Nat} (clamped : volts.natAbs ≤ cap * v / 2 ^ 15)
    (pair : recip * v ≤ 2 ^ 30) : (volts * recip).natAbs ≤ cap * 2 ^ 15 := by
  have scaled : (volts * recip).natAbs * 2 ^ 15 ≤ cap * 2 ^ 15 * 2 ^ 15 := by
    calc (volts * recip).natAbs * 2 ^ 15
      _ = volts.natAbs * 2 ^ 15 * recip := by
        rw [Int.natAbs_mul, Int.natAbs_natCast]
        ring
      _ ≤ cap * v * recip := Nat.mul_le_mul_right recip (by omega)
      _ = cap * (recip * v) := by ring
      _ ≤ cap * 2 ^ 30 := Nat.mul_le_mul_left cap pair
      _ = cap * 2 ^ 15 * 2 ^ 15 := by ring
  omega

theorem natAbs_clamp_self_le (x : Int) (bound : Nat) : (clamp x (-bound) bound).natAbs ≤ x.natAbs := by
  simp only [clamp]
  omega

theorem CurrentLoop.step_le (loop : CurrentLoop) (iRef : Int) (iMeas : Option Int) (omegaHat : Int) {v recip : Nat}
    (gains : CurrentGains) (small : v < 2 ^ 16) (pair : recip * v ≤ 2 ^ 30) :
    (loop.step iRef iMeas omegaHat v recip gains).1.natAbs ≤ gains.dutyMaxQ15.toNat := by
  have word := gains.dutyMaxQ15.toNat_lt
  simp only [CurrentLoop.step, vMax_eq small gains]
  generalize CurrentLoop.demand loop _ omegaHat gains = u
  generalize volts : clamp u (-(gains.dutyMaxQ15.toNat * v / 2 ^ 15 : Nat)) (gains.dutyMaxQ15.toNat * v / 2 ^ 15 : Nat)
    = uCl
  have clamped : uCl.natAbs ≤ gains.dutyMaxQ15.toNat * v / 2 ^ 15 := by
    rw [← volts]
    exact natAbs_clamp_le
  have bounded : min recip (2 ^ 31 - 1) * v ≤ 2 ^ 30 :=
    Nat.le_trans (Nat.mul_le_mul_right v (Nat.min_le_left _ _)) pair
  have product := duty_of_volts clamped bounded
  have cast : min (recip : Int) (2 ^ 31 - 1) = (min recip (2 ^ 31 - 1) : Nat) := by omega
  rw [cast]
  have duty := natAbs_clamp_self_le (qMul uCl (min recip (2 ^ 31 - 1) : Nat) 15) 32767
  rw [qMul_of_mem (by omega) (by omega)] at duty ⊢
  exact Nat.le_trans duty (by omega)

namespace VbusEst

def divisor (v : VbusEst) (floor : UInt16) : Nat :=
  max v.vbusCounts (max floor.toNat 1)

def Paired (v : VbusEst) (floor : UInt16) : Prop :=
  v.recipQ15 * v.divisor floor ≤ 2 ^ 30

theorem vbusCounts_lt (v : VbusEst) : v.vbusCounts < 2 ^ 16 := by
  rw [vbusCounts]
  omega

theorem step_paired (v : VbusEst) (vdrive : Option UInt16) (floor : UInt16) : (v.step vdrive floor).Paired floor := by
  have counts := (v.sample vdrive).vbusCounts_lt
  have word := floor.toNat_lt
  have small : (v.sample vdrive).divisor floor < 2 ^ 32 := by
    rw [divisor]
    omega
  have divided := recipDiv_mul_le (32767 * 2 ^ 15) small
  have kept : (v.step vdrive floor).divisor floor = (v.sample vdrive).divisor floor := rfl
  rw [Paired, kept]
  have recip : (v.step vdrive floor).recipQ15 = recipDiv (32767 * 2 ^ 15) ((v.sample vdrive).divisor floor) := rfl
  rw [recip]
  omega

end VbusEst

namespace Kernel

variable (k : Kernel) (t : Tick) (scan : Scan) (run : Bool)

/-- The cap holds in open loop by itself, and in closed loop as long as the supply the loop clamps for is no larger
than the one the reciprocal was made for. -/
theorem openLoopDuty_le : (openLoopDuty t).natAbs ≤ t.loopCurrent.dutyMaxQ15.toNat := by
  have cap : (clamp t.life.goalDuty.toInt (-(min t.loopCurrent.dutyMaxQ15.toNat 32767 : Nat))
      (min t.loopCurrent.dutyMaxQ15.toNat 32767 : Nat)).natAbs ≤ min t.loopCurrent.dutyMaxQ15.toNat 32767 :=
    natAbs_clamp_le
  have cast : (min t.loopCurrent.dutyMaxQ15.toNat 32767 : Int) = (min t.loopCurrent.dutyMaxQ15.toNat 32767 : Nat) := by
    omega
  simp only [openLoopDuty, cast]
  omega

theorem closedLoop_le (pair : k.vbus.recipQ15 * k.vbusEff t ≤ 2 ^ 30) :
    (k.closedLoop t scan).2.cmd.duty.natAbs ≤ t.loopCurrent.dutyMaxQ15.toNat := by
  cases hold : k.hold with
  | true => simp [closedLoop, hold, MotorCmd.duty]
  | false =>
    cases stuck : k.stuck scan with
    | true => simp [closedLoop, hold, stuck, MotorCmd.duty]
    | false =>
      have counts := k.vbus.vbusCounts_lt
      have word := t.thermal.vUndervoltCounts.toNat_lt
      have small : k.vbusEff t < 2 ^ 16 := by
        rw [vbusEff]
        omega
      simp only [closedLoop, hold, stuck, MotorCmd.duty, Bool.false_eq_true, if_false]
      exact CurrentLoop.step_le k.cur k.iRefCc _ _ (currentGains t) small pair

theorem command_le
    (pair : t.life.torqueEnable = true → t.life.mode ≠ .openLoop → k.vbus.recipQ15 * k.vbusEff t ≤ 2 ^ 30)
    (enabled : run = true → t.life.torqueEnable = true) :
    (k.command t scan run).2.cmd.duty.natAbs ≤ t.loopCurrent.dutyMaxQ15.toNat := by
  by_cases gate : run = true ∧ k.faults.mask = 0
  next =>
    have live := enabled gate.1
    simp only [command, gate, decide_true, Bool.and_self, if_true]
    cases mode : t.life.mode with
    | openLoop => exact openLoopDuty_le t
    | current => exact closedLoop_le _ t scan (pair live (by simp [mode]))
    | velocity => exact closedLoop_le _ t scan (pair live (by simp [mode]))
    | position => exact closedLoop_le _ t scan (pair live (by simp [mode]))
  next => simp [command, gate, MotorCmd.duty]

theorem supply_paired : (k.supply t scan).vbus.Paired t.thermal.vUndervoltCounts :=
  VbusEst.step_paired k.vbus _ _

theorem slowed_paired {floor : UInt16} (paired : k.vbus.Paired floor) : (k.slowed t scan).vbus.Paired floor := by
  unfold slowed
  split
  next => exact paired
  next => exact paired

theorem medium_paired : (k.medium t scan run).vbus.Paired t.thermal.vUndervoltCounts := by
  apply slowed_paired
  exact supply_paired _ t scan

theorem decimated_vbus (undue : k.mediumDue = false) : (k.decimated t scan run).vbus = k.vbus := by
  simp [decimated, undue]

theorem decimated_paired (due : k.mediumDue = true) :
    (k.decimated t scan run).vbus.Paired t.thermal.vUndervoltCounts := by
  rw [decimated, if_pos due]
  exact k.medium_paired t scan run

end Kernel

namespace Watched

def floor (w : Watched) : UInt16 :=
  (w.last.map fun m => m.tick.thermal.vUndervoltCounts).getD 0

/-- A tick of a closed loop that keeps the reciprocal reads no floor above the supply it was made for. -/
def FloorHeld (w : Watched) (t : Tick) : Prop :=
  t.life.torqueEnable = true → t.life.mode ≠ .openLoop → w.kernel.mediumDue = false →
    t.thermal.vUndervoltCounts.toNat ≤ w.kernel.vbus.divisor w.floor

instance (w : Watched) (t : Tick) : Decidable (w.FloorHeld t) :=
  inferInstanceAs (Decidable (_ → _))

def Paired (w : Watched) : Prop :=
  w.kernel.mediumDue = false → w.kernel.vbus.Paired w.floor

theorem onTick_vbus (k : Kernel) (t : Tick) :
    (k.onTick t).1.vbus = ((k.gated t).decimated t (k.scan t) ((k.sampled t).run t)).vbus := by
  rw [Kernel.onTick, Kernel.command_frame]

theorem tick_paired {w : Watched} (paired : w.Paired) (t : Tick) : (w.tick t).Paired := by
  intro _
  cases due : w.kernel.mediumDue with
  | true =>
    have floor : (w.tick t).floor = t.thermal.vUndervoltCounts := by simp [Watched.floor, tick, due]
    rw [floor, tick, onTick_vbus]
    exact Kernel.decimated_paired _ t _ _ ((w.kernel.gated_mediumDue t).trans due)
  | false =>
    have floor : (w.tick t).floor = w.floor := by simp [Watched.floor, tick, due]
    have vbus := Kernel.decimated_vbus _ t (w.kernel.scan t) ((w.kernel.sampled t).run t)
      ((w.kernel.gated_mediumDue t).trans due)
    rw [floor, tick, onTick_vbus, vbus, Kernel.gated_vbus]
    exact paired due

theorem runs_paired (timing : KernelTiming) (ts : List Tick) : (run tick (start timing) ts).Paired := by
  apply run_invariant tick (fun _ _ => True) Paired
  next => exact fun _ t paired _ => tick_paired paired t
  next => exact fun undue => by simp [start, Kernel.mediumDue, Decim.med] at undue
  next => exact meets_trivial tick _ ts

theorem Paired.pair {w : Watched} (paired : w.Paired) {t : Tick} (held : w.FloorHeld t)
    (live : t.life.torqueEnable = true) (closed : t.life.mode ≠ .openLoop) :
    let k := (w.kernel.gated t).decimated t (w.kernel.scan t) ((w.kernel.sampled t).run t)
    k.vbus.recipQ15 * k.vbusEff t ≤ 2 ^ 30 := by
  intro k
  cases due : w.kernel.mediumDue with
  | true =>
    have made : k.vbus.Paired t.thermal.vUndervoltCounts :=
      Kernel.decimated_paired _ t _ _ ((w.kernel.gated_mediumDue t).trans due)
    have supply : k.vbusEff t ≤ k.vbus.divisor t.thermal.vUndervoltCounts := by
      rw [Kernel.vbusEff, VbusEst.divisor]
      omega
    exact Nat.le_trans (Nat.mul_le_mul_left _ supply) made
  | false =>
    have vbus : k.vbus = w.kernel.vbus :=
      (Kernel.decimated_vbus _ t _ _ ((w.kernel.gated_mediumDue t).trans due)).trans (w.kernel.gated_vbus t)
    have below := held live closed due
    have supply : k.vbusEff t ≤ w.kernel.vbus.divisor w.floor := by
      rw [Kernel.vbusEff, vbus]
      rw [VbusEst.divisor] at below ⊢
      omega
    rw [vbus]
    exact Nat.le_trans (Nat.mul_le_mul_left _ supply) (paired due)

theorem duty_capped (timing : KernelTiming) (ts : List Tick) (t : Tick)
    (held : (run tick (start timing) ts).FloorHeld t) (duty : Int) (decay : DecayMode)
    (written : ((run tick (start timing) ts).kernel.onTick t).2.cmd = .drive duty decay) :
    duty.natAbs ≤ t.loopCurrent.dutyMaxQ15.toNat := by
  have paired := runs_paired timing ts
  have capped := Kernel.command_le _ t ((run tick (start timing) ts).kernel.scan t)
    (((run tick (start timing) ts).kernel.sampled t).run t) (paired.pair held)
    (fun opened => (Kernel.run_open opened).1)
  have cmd : (MotorCmd.drive duty decay).duty.natAbs ≤ t.loopCurrent.dutyMaxQ15.toNat := by
    rw [← written]
    exact capped
  exact cmd

theorem duty_capped_pull :
    ((run tick (start (.derive 2400 20000)) [Tick.live .current 900]).kernel.onTick (.live .current 900)).2.cmd =
        .drive 16383 .slow ∧
      (16383 : Int).natAbs ≤ (Tick.live .current 900).loopCurrent.dutyMaxQ15.toNat :=
  ⟨by decide +kernel, duty_capped (.derive 2400 20000) [.live .current 900] (.live .current 900) (by decide +kernel) 16383
    .slow (by decide +kernel)⟩

/-- The floor raised after the medium tick: the volts are clamped for twice the supply that they are divided by. -/
theorem duty_uncapped :
    let raised := { Tick.live .current 900 with thermal := ⟨10000, 12000, 2000, 0, 0⟩ }
    ((run tick (start (.derive 2400 20000)) [Tick.live .current 900]).kernel.onTick raised).2.cmd = .drive 32766 .slow ∧
      raised.loopCurrent.dutyMaxQ15.toNat = 16384 := by
  decide +kernel

end Watched

end OpenServo.Motion
