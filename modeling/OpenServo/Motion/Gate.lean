import OpenServo.Motion.Stages
import OpenServo.Shared.Run

set_option autoImplicit false

namespace OpenServo.Motion

open OpenServo.Shared

namespace FaultLatch

def Kept (before after : FaultLatch) : Prop :=
  before.mask &&& after.mask = before.mask

theorem kept_rfl (latch : FaultLatch) : Kept latch latch :=
  UInt8.and_self

theorem Kept.trans {first second third : FaultLatch} (kept : Kept first second) (later : Kept second third) :
    Kept first third := by
  rw [Kept] at kept later
  calc first.mask &&& third.mask
    _ = first.mask &&& second.mask &&& third.mask := by rw [kept]
    _ = first.mask := by rw [UInt8.and_assoc, later, kept]

theorem kept_raise (latch : FaultLatch) (fault : Fault) : Kept latch (latch.raise fault) := by
  unfold raise
  split
  next =>
    apply UInt8.toBitVec_inj.mp
    rw [UInt8.toBitVec_and, UInt8.toBitVec_or]
    ext i
    cases set : latch.mask.toBitVec[i] <;> simp [set]
  next => exact kept_rfl latch

theorem kept_raiseIf (latch : FaultLatch) (fault : Fault) (tripped : Bool) :
    Kept latch (latch.raiseIf fault tripped) := by
  unfold raiseIf
  split
  next => exact kept_raise latch fault
  next => exact kept_rfl latch

theorem Kept.clear {before after : FaultLatch} (kept : Kept before after) (clear : after.mask = 0) :
    before.mask = 0 := by
  rw [Kept, clear, UInt8.and_zero] at kept
  exact kept.symm

end FaultLatch

def MotorCmd.duty : MotorCmd → Int
  | .drive duty _ => duty
  | .disabled | .coast | .brake => 0

namespace Kernel

/-- What a stage of the rates leaves to the gate: its edges, the duty, and every bit latched. -/
structure Spares (k after : Kernel) : Prop where
  tePrev : after.tePrev = k.tePrev
  runPrev : after.runPrev = k.runPrev
  dutyQ15 : after.dutyQ15 = k.dutyQ15
  faults : k.faults.Kept after.faults

theorem Spares.trans {k between after : Kernel} (first : k.Spares between) (second : between.Spares after) :
    k.Spares after where
  tePrev := second.tePrev.trans first.tePrev
  runPrev := second.runPrev.trans first.runPrev
  dutyQ15 := second.dutyQ15.trans first.dutyQ15
  faults := first.faults.trans second.faults

variable (k : Kernel) (t : Tick) (scan : Scan) (run : Bool)

theorem estimate_spares : k.Spares (k.estimate t scan) :=
  ⟨rfl, rfl, rfl, FaultLatch.kept_rfl _⟩

theorem profile_spares : k.Spares (k.profile t run) := by
  rw [profile_frame]
  exact ⟨rfl, rfl, rfl, FaultLatch.kept_rfl _⟩

theorem foldLimits_spares : k.Spares (k.foldLimits t run) :=
  ⟨rfl, rfl, rfl, FaultLatch.kept_raiseIf _ _ _⟩

theorem regulate_spares : k.Spares (k.regulate t run) := by
  rw [regulate_frame]
  exact ⟨rfl, rfl, rfl, FaultLatch.kept_rfl _⟩

theorem supply_spares : k.Spares (k.supply t scan) :=
  ⟨rfl, rfl, rfl, FaultLatch.kept_rfl _⟩

theorem screen_spares : k.Spares (k.screen t run) :=
  ⟨rfl, rfl, rfl, (FaultLatch.kept_raiseIf _ _ _).trans (FaultLatch.kept_raiseIf _ _ _)⟩

theorem slow_spares : k.Spares (k.slow t scan) :=
  ⟨rfl, rfl, rfl, (FaultLatch.kept_raiseIf _ _ _).trans (FaultLatch.kept_raiseIf _ _ _)⟩

theorem slowed_spares : k.Spares (k.slowed t scan) := by
  have spares := k.slow_spares t scan
  unfold slowed
  split
  next => exact ⟨spares.tePrev, spares.runPrev, spares.dutyQ15, spares.faults⟩
  next => exact ⟨rfl, rfl, rfl, FaultLatch.kept_rfl _⟩

theorem medium_spares : k.Spares (k.medium t scan run) := by
  have steered := (k.estimate_spares t scan).trans (profile_spares _ t run)
  have regulated := (steered.trans (foldLimits_spares _ t run)).trans (regulate_spares _ t run)
  have screened := (regulated.trans (supply_spares _ t scan)).trans (screen_spares _ t run)
  exact screened.trans (slowed_spares _ t scan)

theorem decimated_spares : k.Spares (k.decimated t scan run) := by
  have spares := k.medium_spares t scan run
  unfold decimated
  split
  next => exact ⟨spares.tePrev, spares.runPrev, spares.dutyQ15, spares.faults⟩
  next => exact ⟨rfl, rfl, rfl, FaultLatch.kept_rfl _⟩

theorem acked_scan : ((k.boot t).ack t).scan t = k.scan t := by
  have duty : ((k.boot t).ack t).dutyQ15 = k.dutyQ15 := rfl
  have decay : ((k.boot t).ack t).decay = k.decay := rfl
  have timing : ((k.boot t).ack t).timing = k.timing := rfl
  rw [scan, duty, decay, timing, scan]

theorem acked_ocOver : ((k.boot t).ack t).ocOver t = k.ocOver t := by
  rw [ocOver, acked_scan, ocOver]

theorem sample_det : (k.sample t).det = (k.det.ocSample (k.ocOver t) t.limits.ocTripTicks).2 := by
  rw [sample]

theorem sample_faults :
    (k.sample t).faults =
      k.faults.raiseIf .overCurrent (k.det.ocSample (k.ocOver t) t.limits.ocTripTicks).1 := by
  rw [sample]

theorem sampled_det :
    (k.sampled t).det = (((k.boot t).ack t).det.ocSample (k.ocOver t) t.limits.ocTripTicks).2 := by
  rw [sampled, sample_det, acked_ocOver]

theorem sampled_faults :
    (k.sampled t).faults = ((k.boot t).ack t).faults.raiseIf .overCurrent
      (((k.boot t).ack t).det.ocSample (k.ocOver t) t.limits.ocTripTicks).1 := by
  rw [sampled, sample_faults, acked_ocOver]

theorem sampled_kept (unacked : k.acks t = false) : k.faults.Kept (k.sampled t).faults := by
  have acked : ((k.boot t).ack t).faults = k.faults := by
    simp [ack, acks, boot, show (t.life.torqueEnable && !k.tePrev) = false from unacked]
  rw [sampled_faults, acked]
  exact FaultLatch.kept_raiseIf _ _ _

theorem gated_tePrev : (k.gated t).tePrev = t.life.torqueEnable := by
  rw [gated, gate_frame]
  rfl

theorem gated_runPrev : (k.gated t).runPrev = (k.sampled t).run t := by
  rw [gated, gate_frame]

theorem gated_mediumDue : (k.gated t).mediumDue = k.mediumDue := by
  rw [gated, gate_frame]
  rfl

theorem gated_vbus : (k.gated t).vbus = k.vbus := by
  rw [gated, gate_frame]
  rfl

theorem gated_faults : (k.gated t).faults = (k.sampled t).faults := by
  rw [gated, gate_frame]

theorem closedLoop_duty :
    (k.closedLoop t scan).1.dutyQ15 = (k.closedLoop t scan).2.cmd.duty ∧
      (k.closedLoop t scan).2.cmd ≠ .disabled := by
  cases hold : k.hold with
  | true => simp [closedLoop, hold, MotorCmd.duty]
  | false => cases stuck : k.stuck scan <;> simp [closedLoop, hold, stuck, MotorCmd.duty]

theorem command_duty : (k.command t scan run).1.dutyQ15 = (k.command t scan run).2.cmd.duty := by
  by_cases gate : run = true ∧ k.faults.mask = 0
  next =>
    simp only [command, gate, decide_true, Bool.and_self, if_true]
    cases t.life.mode with
    | openLoop => rfl
    | current => exact (closedLoop_duty _ t scan).1
    | velocity => exact (k.closedLoop_duty t scan).1
    | position => exact (k.closedLoop_duty t scan).1
  next => simp [command, gate, MotorCmd.duty]

theorem command_disabled :
    (k.command t scan run).2.cmd = .disabled ↔ ¬(run = true ∧ k.faults.mask = 0) := by
  by_cases gate : run = true ∧ k.faults.mask = 0
  next =>
    have driven : (k.command t scan run).2.cmd ≠ .disabled := by
      simp only [command, gate, decide_true, Bool.and_self, if_true]
      cases t.life.mode with
      | openLoop => simp
      | current => exact (closedLoop_duty _ t scan).2
      | velocity => exact (k.closedLoop_duty t scan).2
      | position => exact (k.closedLoop_duty t scan).2
    exact iff_of_false driven (not_not_intro gate)
  next => simp [command, gate]

theorem onTick_spares : (k.gated t).Spares { (k.onTick t).1 with dutyQ15 := (k.gated t).dutyQ15 } := by
  have spares := (k.gated t).decimated_spares t (k.scan t) ((k.sampled t).run t)
  have frame := command_frame ((k.gated t).decimated t (k.scan t) ((k.sampled t).run t)) t (k.scan t)
    ((k.sampled t).run t)
  rw [onTick, frame]
  exact ⟨spares.tePrev, spares.runPrev, rfl, spares.faults⟩

theorem onTick_tePrev : (k.onTick t).1.tePrev = t.life.torqueEnable :=
  (k.onTick_spares t).tePrev.trans (k.gated_tePrev t)

theorem onTick_runPrev : (k.onTick t).1.runPrev = (k.sampled t).run t :=
  (k.onTick_spares t).runPrev.trans (k.gated_runPrev t)

theorem onTick_faults : (k.sampled t).faults.Kept (k.onTick t).1.faults := by
  have kept := (k.onTick_spares t).faults
  rwa [gated_faults] at kept

theorem onTick_duty : (k.onTick t).1.dutyQ15 = (k.onTick t).2.cmd.duty :=
  command_duty _ t _ _

theorem onTick_disabled :
    (k.onTick t).2.cmd = .disabled ↔ ¬((k.sampled t).run t = true ∧ (k.onTick t).1.faults.mask = 0) := by
  have faults : (k.onTick t).1.faults = _ := congrArg Kernel.faults (command_frame _ t _ _)
  rw [faults]
  exact command_disabled _ t _ _

theorem run_open {k : Kernel} {t : Tick} (opened : k.run t = true) :
    t.life.torqueEnable = true ∧ k.faults.mask = 0 := by
  simpa [run] using opened

theorem onTick_gate (off : t.life.torqueEnable = false ∨ (k.onTick t).1.faults.mask ≠ 0) :
    (k.onTick t).2.cmd = .disabled := by
  rw [onTick_disabled]
  intro ⟨opened, clear⟩
  cases off with
  | inl unread => simp [(run_open opened).1] at unread
  | inr latched => exact latched clear

/-- What a re-enabled drive starts from: nothing in the loops, and the profile at rest where the sensor is. -/
structure Restarted (k : Kernel) (pos : UInt16) : Prop where
  current : k.cur.integ = 0
  velocity : k.vel.integ = 0
  iRef : k.iRefCc = 0
  omegaRef : k.omegaRef = 0
  hold : k.hold = false
  still : k.traj.omegaRef = 0 ∧ k.traj.alphaLast = 0
  place : pos.toNat ≤ 8192 → k.traj.thetaRef = pos.toNat * 2 ^ 16

theorem reseed_place (pos : UInt16) (within : pos.toNat ≤ 8192) :
    (TrajGen.reseed (FusionObs.seed pos).theta).thetaRef = pos.toNat * 2 ^ 16 := by
  have word : wrap32 (pos.toNat * 2 ^ 16) = pos.toNat * 2 ^ 16 := wrap32_of_mem (by omega) (by omega)
  rw [TrajGen.reseed, FusionObs.seed, word]
  exact clamp_of_mem (by simp only [thetaLim]; omega) (by simp only [thetaLim]; omega)

theorem gate_restarted (closed : k.runPrev = false) : (k.gate t true).Restarted t.frame.pos := by
  have place := reseed_place t.frame.pos
  by_cases same : t.life.mode = k.modePrev
  next =>
    constructor <;> simp [gate, edge, closed, same]
    next => trivial
    next => exact place
  next =>
    constructor <;> simp [gate, edge, closed, same]
    next => trivial
    next => exact place

theorem sampled_runPrev : (k.sampled t).runPrev = k.runPrev :=
  rfl

theorem gated_restarted (closed : k.runPrev = false) (opened : (k.sampled t).run t = true) :
    (k.gated t).Restarted t.frame.pos := by
  rw [gated, opened]
  exact gate_restarted _ t ((k.sampled_runPrev t).trans closed)

end Kernel

structure Drive where
  kernel : Kernel
  cmd : MotorCmd := .disabled

namespace Drive

def start (timing : KernelTiming) : Drive :=
  ⟨{ timing }, .disabled⟩

def tick (d : Drive) (t : Tick) : Drive :=
  let (kernel, out) := d.kernel.onTick t
  ⟨kernel, out.cmd⟩

def enabled (ts : List Tick) : Bool :=
  run (fun _ t => t.life.torqueEnable) false ts

/-- A command that is disabled although the gate was open has its fault, and its enable is still to be dropped. -/
structure Follows (d : Drive) (enabled : Bool) : Prop where
  edge : d.kernel.tePrev = enabled
  faulted : d.cmd = .disabled → d.kernel.runPrev = true → enabled = true ∧ d.kernel.faults.mask ≠ 0

theorem tick_follows (d : Drive) (t : Tick) : (d.tick t).Follows t.life.torqueEnable where
  edge := d.kernel.onTick_tePrev t
  faulted := by
    intro disabled prev
    have opened : (d.kernel.sampled t).run t = true := by
      rwa [tick, Kernel.onTick_runPrev] at prev
    have shut := (d.kernel.onTick_disabled t).mp disabled
    exact ⟨(Kernel.run_open opened).1, fun clear => shut ⟨opened, clear⟩⟩

theorem runs_follow (timing : KernelTiming) (ts : List Tick) :
    (run tick (start timing) ts).Follows (enabled ts) := by
  apply run_simulation tick (fun _ t => t.life.torqueEnable) Follows
  next => exact fun d _ t _ => d.tick_follows t
  next => exact ⟨rfl, fun _ prev => by simp [start] at prev⟩

theorem Follows.closed {d : Drive} {enabled : Bool} (follows : d.Follows enabled) (disabled : d.cmd = .disabled)
    {t : Tick} (opened : (d.kernel.sampled t).run t = true) : d.kernel.runPrev = false := by
  cases prev : d.kernel.runPrev with
  | false => rfl
  | true =>
    have faulted := follows.faulted disabled prev
    have unacked : d.kernel.acks t = false := by simp [Kernel.acks, follows.edge, faulted.1]
    have clear := (d.kernel.sampled_kept t unacked).clear (Kernel.run_open opened).2
    exact absurd clear faulted.2

theorem Follows.kept {d : Drive} {enabled : Bool} (follows : d.Follows enabled) {t : Tick}
    (unacked : ¬(t.life.torqueEnable = true ∧ enabled = false)) :
    d.kernel.faults.Kept (d.tick t).kernel.faults := by
  have held : d.kernel.acks t = false := by
    simpa [Kernel.acks, follows.edge] using unacked
  exact (d.kernel.sampled_kept t held).trans (d.kernel.onTick_faults t)

theorem drive_gated (timing : KernelTiming) (ts : List Tick) (t : Tick) :
    let before := run tick (start timing) ts
    let after := before.tick t
    (t.life.torqueEnable = false ∨ after.kernel.faults.mask ≠ 0 → after.cmd = .disabled) ∧
      (¬(t.life.torqueEnable = true ∧ enabled ts = false) → before.kernel.faults.Kept after.kernel.faults) ∧
      after.kernel.dutyQ15 = after.cmd.duty ∧
      (before.cmd = .disabled → (before.kernel.sampled t).run t = true →
        (before.kernel.gated t).Restarted t.frame.pos) := by
  intro before after
  have follows : before.Follows (enabled ts) := runs_follow timing ts
  have gate := before.kernel.onTick_gate t
  have duty := before.kernel.onTick_duty t
  have restarted : before.cmd = .disabled → (before.kernel.sampled t).run t = true →
      (before.kernel.gated t).Restarted t.frame.pos := by
    intro disabled opened
    exact before.kernel.gated_restarted t (follows.closed disabled opened) opened
  exact ⟨gate, follows.kept, duty, restarted⟩

/-- A sample past the range of the profile: the profile rests at its own limit, 8192 counts. -/
theorem drive_restarted_far :
    let before := start ⟨0, 0, 0, 0⟩
    let t := Tick.blank true .position 10000
    before.cmd = .disabled ∧ (before.kernel.sampled t).run t = true ∧
      (before.kernel.gated t).traj.thetaRef = 8192 * 2 ^ 16 := by
  decide +kernel

end Drive

end OpenServo.Motion
