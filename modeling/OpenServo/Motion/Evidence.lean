import OpenServo.Motion.Gate
import OpenServo.Shared.Streak

set_option autoImplicit false

namespace OpenServo.Motion

open OpenServo.Shared

structure MediumShown where
  collided : Bool
  pinnedSlow : Bool
  stallTimeTicks : Nat
  strayed : Bool
  posErrorTimeTicks : Nat
  pos : UInt16
  deltaMax : UInt16
  supplied : Bool

structure Shown where
  exceeded : Option Bool
  medium : Option MediumShown

namespace Kernel

variable (k : Kernel) (t : Tick) (scan : Scan) (run : Bool)

def mediumShown : MediumShown :=
  let k := k.steered t scan run
  { collided := t.limits.stallTauTripCounts.toNat < k.fusion.tauDCounts.natAbs
    pinnedSlow := LimitState.pinnedSlow k.pinned k.omegaAbsCps (k.limitCfg t)
    stallTimeTicks := k.stallTimeTicks
    strayed := k.posErrOver t run
    posErrorTimeTicks := k.posErrorTimeTicks
    pos := t.frame.pos
    deltaMax := t.faultCfg.sensorDeltaMax
    supplied := scan.vdrive.isSome }

def shown : Shown where
  exceeded := k.ocOver t
  medium := if k.mediumDue then some ((k.gated t).mediumShown t (k.scan t) ((k.sampled t).run t)) else none

end Kernel

def samples (since : List Shown) : List Bool :=
  since.filterMap Shown.exceeded

def mediums (since : List Shown) : List MediumShown :=
  since.filterMap Shown.medium

theorem samples_snoc (since : List Shown) (s : Shown) :
    samples (since ++ [s]) = samples since ++ s.exceeded.toList := by
  cases exceeded : s.exceeded <;> simp [samples, exceeded]

theorem mediums_snoc (since : List Shown) (s : Shown) :
    mediums (since ++ [s]) = mediums since ++ s.medium.toList := by
  cases medium : s.medium <;> simp [mediums, medium]

def jump (a b : MediumShown) : Bool :=
  b.deltaMax.toNat < ((b.pos.toNat : Int) - a.pos.toNat).natAbs

/-- A fold trips on the torque, or on a window that was pinned and slow from end to end. -/
def Tripped (ms : List MediumShown) : Prop :=
  ∃ front m, front ++ [m] <+: ms ∧
    (m.collided = true ∨ Streak (max m.stallTimeTicks 1) ((front ++ [m]).map MediumShown.pinnedSlow))

theorem Tripped.snoc {ms : List MediumShown} (tripped : Tripped ms) (more : List MediumShown) :
    Tripped (ms ++ more) := by
  obtain ⟨front, m, before, trips⟩ := tripped
  exact ⟨front, m, before.trans (List.prefix_append _ _), trips⟩

/-- The evidence of each fault, at the thresholds of the tick that latches it: from the valid current samples and the
medium ticks, in order. -/
def Backed (t : Tick) (flags : List Bool) (ms : List MediumShown) : Fault → Prop
  | .overCurrent => Streak (max t.limits.ocTripTicks.toNat 1) flags
  | .overTemp => True
  | .stall => Tripped ms
  | .positionError =>
    ∃ m, ms.getLast? = some m ∧ Streak (max m.posErrorTimeTicks 1) (ms.map MediumShown.strayed)
  | .sensor => Streak (max t.faultCfg.sensorBadCount.toNat 1) (adjacent jump ms)
  | .underVolt => ∃ m ∈ ms, m.supplied = true

namespace Detectors

variable {d : Detectors} {flags : List Bool}

theorem ocSample_streak (streak : Streak d.ocTicks flags) (exceeded : Option Bool) (tripTicks : UInt8) :
    Streak (d.ocSample exceeded tripTicks).2.ocTicks (flags ++ exceeded.toList) ∧
      ((d.ocSample exceeded tripTicks).1 = true →
        Streak (max tripTicks.toNat 1) (flags ++ exceeded.toList)) := by
  cases exceeded with
  | none => simpa [ocSample] using streak
  | some flag =>
    have counted := streak.count flag 255
    cases flag with
    | false => exact ⟨counted, fun trips => by simp [ocSample] at trips⟩
    | true =>
      refine ⟨counted, fun trips => counted.mono ?_⟩
      simp only [ocSample, decide_eq_true_eq] at trips
      simp only [if_true]
      omega

theorem posErrSample_streak (streak : Streak d.posErrTicks flags) (exceeded : Bool) (tripTicks : Nat) :
    Streak (d.posErrSample exceeded tripTicks).2.posErrTicks (flags ++ [exceeded]) ∧
      ((d.posErrSample exceeded tripTicks).1 = true → Streak (max tripTicks 1) (flags ++ [exceeded])) := by
  have counted := streak.count exceeded (2 ^ 32 - 1)
  cases exceeded with
  | false => exact ⟨counted, fun trips => by simp [posErrSample] at trips⟩
  | true =>
    refine ⟨counted, fun trips => counted.mono ?_⟩
    simp only [posErrSample, if_true, Bool.true_and, decide_eq_true_eq] at trips
    simp only [if_true]
    omega

structure Screened (d : Detectors) (ms : List MediumShown) : Prop where
  seen : d.sensorSeen = true → ∃ m, ms.getLast? = some m ∧ m.pos = d.sensorLastPos
  bad : Streak d.sensorBad (adjacent jump ms)

theorem Screened.sample {ms : List MediumShown} (screened : d.Screened ms) (m : MediumShown) (badCount : UInt8) :
    (d.sensorSample m.pos m.deltaMax badCount).2.Screened (ms ++ [m]) ∧
      ((d.sensorSample m.pos m.deltaMax badCount).1 = true →
        Streak (max badCount.toNat 1) (adjacent jump (ms ++ [m]))) := by
  have last : (ms ++ [m]).getLast? = some m := List.getLast?_concat
  cases seen : d.sensorSeen with
  | false =>
    constructor
    next => exact ⟨fun _ => ⟨m, last, rfl⟩, by simpa [sensorSample, seen] using Streak.zero _⟩
    next => exact fun trips => by simp [sensorSample, seen] at trips
  | true =>
    obtain ⟨a, before, same⟩ := screened.seen seen
    have counted := screened.bad.count (jump a m) 255
    rw [← adjacent_snoc_of_last jump before m] at counted
    have flag : (d.sensorSeen && decide (m.deltaMax.toNat <
        ((m.pos.toNat : Int) - d.sensorLastPos.toNat).natAbs)) = jump a m := by
      rw [seen, Bool.true_and, jump, same]
    constructor
    next =>
      refine ⟨fun _ => ⟨m, last, rfl⟩, ?_⟩
      simp only [sensorSample, flag]
      exact counted
    next =>
      intro trips
      simp only [sensorSample, flag, Bool.and_eq_true, decide_eq_true_eq] at trips
      refine counted.mono ?_
      simp only [trips.1, if_true] at trips ⊢
      omega

end Detectors

namespace LimitState

variable {s : LimitState} {flags : List Bool}

theorem release_streak (streak : Streak s.stallTicks flags) (tau : Nat) (cfg : LimitCfg) :
    Streak (s.release tau cfg).stallTicks flags := by
  unfold release
  split
  next => exact .zero flags
  next => exact streak

theorem time_streak (streak : Streak s.stallTicks flags) (iRefPinned : Bool) (omega tau : Nat) (cfg : LimitCfg) :
    Streak (s.time iRefPinned omega tau cfg).2.stallTicks (flags ++ [pinnedSlow iRefPinned omega cfg]) ∧
      ((s.time iRefPinned omega tau cfg).1 = true → cfg.stallTauTripCounts.toNat < tau ∨
        Streak (max cfg.stallTimeTicks 1) (flags ++ [pinnedSlow iRefPinned omega cfg])) := by
  have counted := streak.count (pinnedSlow iRefPinned omega cfg) (2 ^ 32 - 1)
  cases slow : pinnedSlow iRefPinned omega cfg with
  | false => exact ⟨by simpa [time, slow] using Streak.zero _, fun trips => .inl (by simpa [time, slow] using trips)⟩
  | true =>
    rw [slow] at counted
    refine ⟨by simpa [time, slow] using counted, fun trips => ?_⟩
    simp only [time, slow, if_true, Bool.or_eq_true, decide_eq_true_eq] at trips
    cases trips with
    | inl collided => exact .inl collided
    | inr late =>
      refine .inr (counted.mono ?_)
      simp only [if_true]
      omega

theorem fold_streak (streak : Streak s.stallTicks flags) (iRefPinned : Bool) (omega tau : Nat) (theta : Int)
    (cfg : LimitCfg) :
    Streak (s.fold iRefPinned omega tau theta cfg).2.stallTicks (flags ++ [pinnedSlow iRefPinned omega cfg]) :=
  (time_streak (release_streak streak tau cfg) iRefPinned omega tau cfg).1

theorem release_faultPending (tau : Nat) (cfg : LimitCfg) : (s.release tau cfg).faultPending = s.faultPending := by
  unfold release
  split <;> rfl

theorem time_faultPending (iRefPinned : Bool) (omega tau : Nat) (cfg : LimitCfg) :
    (s.time iRefPinned omega tau cfg).2.faultPending = s.faultPending := by
  unfold time
  dsimp only
  split <;> rfl

theorem fold_pending (streak : Streak s.stallTicks flags) (iRefPinned : Bool) (omega tau : Nat) (theta : Int)
    (cfg : LimitCfg) (pending : (s.fold iRefPinned omega tau theta cfg).2.faultPending = true) :
    s.faultPending = true ∨ cfg.stallTauTripCounts.toNat < tau ∨
      Streak (max cfg.stallTimeTicks 1) (flags ++ [pinnedSlow iRefPinned omega cfg]) := by
  have timed := (time_streak (release_streak streak tau cfg) iRefPinned omega tau cfg).2
  simp only [fold, respond, Bool.or_eq_true, Bool.and_eq_true, time_faultPending, release_faultPending] at pending
  cases pending with
  | inl old => exact .inl old
  | inr trips => exact .inr (timed trips.1)

end LimitState

namespace FaultLatch

theorem raise_latched {latch : FaultLatch} {fault other : Fault} (latched : (latch.raise other).Latched fault) :
    latch.Latched fault ∨ other = fault := by
  by_cases same : other = fault
  next => exact .inr same
  next =>
    left
    unfold raise at latched
    split at latched
    next =>
      have apart : other.bit &&& fault.bit = 0 := by
        cases other <;> cases fault <;> first | rfl | exact absurd rfl same
      have split : (latch.mask ||| other.bit) &&& fault.bit = latch.mask &&& fault.bit ||| other.bit &&& fault.bit := by
        apply UInt8.toBitVec_inj.mp
        simp only [UInt8.toBitVec_and, UInt8.toBitVec_or]
        exact BitVec.and_or_distrib_right
      simpa [Latched, split, apart] using latched
    next => exact latched

theorem raiseIf_latched {latch : FaultLatch} {fault other : Fault} {tripped : Bool}
    (latched : (latch.raiseIf other tripped).Latched fault) :
    latch.Latched fault ∨ other = fault ∧ tripped = true := by
  cases tripped with
  | false => exact .inl latched
  | true =>
    cases raise_latched latched with
    | inl old => exact .inl old
    | inr same => exact .inr ⟨same, rfl⟩

end FaultLatch

namespace Kernel

variable (k : Kernel) (t : Tick) (scan : Scan) (run : Bool)

def foldedLimits : IBand × LimitState :=
  let k := k.steered t scan run
  k.limits.fold k.pinned k.omegaAbsCps k.fusion.tauDCounts.natAbs (k.fusion.theta >>> (16 : Nat)) (k.limitCfg t)

def tended : Kernel :=
  (((k.steered t scan run).foldLimits t run).regulate t run).supply t scan

def jumped : Bool × Detectors :=
  k.det.sensorSample t.frame.pos t.faultCfg.sensorDeltaMax t.faultCfg.sensorBadCount

def strayed : Bool × Detectors :=
  (k.jumped t).2.posErrSample ((k.steered t scan run).posErrOver t run) k.posErrorTimeTicks

theorem steered_frame :
    k.steered t scan run =
      { k with
        fusion := (k.estimate t scan).fusion
        traj := (k.steered t scan run).traj
        omegaRef := (k.steered t scan run).omegaRef
        hold := (k.steered t scan run).hold } :=
  profile_frame (k.estimate t scan) t run

theorem tended_frame :
    k.tended t scan run =
      { k.steered t scan run with
        iRefCc := (k.tended t scan run).iRefCc
        vel := (k.tended t scan run).vel
        iBand := (k.foldedLimits t scan run).1
        limits := (k.foldedLimits t scan run).2
        faults := (k.steered t scan run).faults.raiseIf .stall (run && (k.foldedLimits t scan run).2.faultPending)
        vbus := (k.tended t scan run).vbus
        bemf := (k.tended t scan run).bemf } := by
  rw [tended, regulate_frame]
  rfl

theorem tended_det : (k.tended t scan run).det = k.det := by
  rw [tended_frame, steered_frame]

theorem tended_strayed :
    (k.tended t scan run).posErrOver t run = (k.steered t scan run).posErrOver t run := by
  rw [tended_frame]
  rfl

theorem tended_vbus :
    (k.tended t scan run).vbus = k.vbus.step (scan.vdrive.map Prod.fst) t.thermal.vUndervoltCounts := by
  have kept : (((k.steered t scan run).foldLimits t run).regulate t run).vbus = k.vbus := by
    rw [regulate_frame, steered_frame]
    rfl
  rw [← kept]
  rfl

theorem slowed_det : (k.slowed t scan).det = k.det := by
  unfold slowed
  split <;> rfl

theorem slowed_stall :
    (k.slowed t scan).limits.stallTicks = k.limits.stallTicks ∧
      (k.slowed t scan).limits.faultPending = k.limits.faultPending := by
  unfold slowed
  split <;> exact ⟨rfl, rfl⟩

theorem medium_det : (k.medium t scan run).det = (k.strayed t scan run).2 := by
  have det : (k.medium t scan run).det = ((k.tended t scan run).screen t run).det := slowed_det _ t scan
  have ticks : (k.tended t scan run).posErrorTimeTicks = k.posErrorTimeTicks := by
    rw [tended_frame, steered_frame]
  rw [det, screen, tended_det, tended_strayed, ticks]
  rfl

theorem medium_stall :
    (k.medium t scan run).limits.stallTicks = (k.foldedLimits t scan run).2.stallTicks ∧
      (k.medium t scan run).limits.faultPending = (k.foldedLimits t scan run).2.faultPending := by
  have slowed := slowed_stall ((k.tended t scan run).screen t run) t scan
  have limits : ((k.tended t scan run).screen t run).limits = (k.foldedLimits t scan run).2 := by
    rw [screen, tended_frame]
  rwa [limits] at slowed

theorem slow_latched {fault : Fault} (latched : (k.slow t scan).faults.Latched fault) :
    k.faults.Latched fault ∨ fault = .overTemp ∨ fault = .underVolt ∧ k.vbus.fresh = true := by
  cases FaultLatch.raiseIf_latched latched with
  | inl old =>
    cases FaultLatch.raiseIf_latched old with
    | inl old => exact .inl old
    | inr hot => exact .inr (.inl hot.1.symm)
  | inr low =>
    have fresh : (k.vbus.takeFresh.1 && decide (k.vbus.vbusCounts < t.thermal.vUndervoltCounts.toNat)) = true := low.2
    rw [Bool.and_eq_true] at fresh
    exact .inr (.inr ⟨low.1.symm, fresh.1⟩)

theorem slowed_latched {fault : Fault} (latched : (k.slowed t scan).faults.Latched fault) :
    k.faults.Latched fault ∨ fault = .overTemp ∨ fault = .underVolt ∧ k.vbus.fresh = true := by
  unfold slowed at latched
  split at latched
  next => exact k.slow_latched t scan latched
  next => exact .inl latched

def MediumRaises : Fault → Prop
  | .overCurrent => False
  | .overTemp => True
  | .stall => (k.foldedLimits t scan run).2.faultPending = true
  | .positionError => (k.strayed t scan run).1 = true
  | .sensor => (k.jumped t).1 = true
  | .underVolt => (k.vbus.step (scan.vdrive.map Prod.fst) t.thermal.vUndervoltCounts).fresh = true

theorem tended_faults :
    (k.tended t scan run).faults = k.faults.raiseIf .stall (run && (k.foldedLimits t scan run).2.faultPending) := by
  rw [tended_frame, steered_frame]

theorem screened_faults :
    ((k.tended t scan run).screen t run).faults =
      ((k.tended t scan run).faults.raiseIf .sensor (k.jumped t).1).raiseIf .positionError
        (k.strayed t scan run).1 := by
  have ticks : (k.tended t scan run).posErrorTimeTicks = k.posErrorTimeTicks := by
    rw [tended_frame, steered_frame]
  rw [screen, tended_det, tended_strayed, ticks]
  rfl

theorem screened_vbus :
    ((k.tended t scan run).screen t run).vbus =
      k.vbus.step (scan.vdrive.map Prod.fst) t.thermal.vUndervoltCounts :=
  k.tended_vbus t scan run

theorem medium_latched {fault : Fault} (latched : (k.medium t scan run).faults.Latched fault) :
    k.faults.Latched fault ∨ k.MediumRaises t scan run fault := by
  cases slowed_latched ((k.tended t scan run).screen t run) t scan latched with
  | inr raised =>
    rw [screened_vbus] at raised
    rcases raised with rfl | ⟨rfl, fresh⟩
    next => exact .inr trivial
    next => exact .inr fresh
  | inl old =>
    rw [screened_faults] at old
    cases FaultLatch.raiseIf_latched old with
    | inr position =>
      obtain ⟨rfl, strayed⟩ := position
      exact .inr strayed
    | inl old =>
      cases FaultLatch.raiseIf_latched old with
      | inr sensor =>
        obtain ⟨rfl, jumped⟩ := sensor
        exact .inr jumped
      | inl old =>
        rw [tended_faults] at old
        cases FaultLatch.raiseIf_latched old with
        | inl old => exact .inl old
        | inr stall =>
          obtain ⟨rfl, pending⟩ := stall
          rw [Bool.and_eq_true] at pending
          exact .inr pending.2

end Kernel

/-- What the detectors and the fold count is at most what was shown since the ack. -/
structure Backing (det : Detectors) (limits : LimitState) (flags : List Bool) (ms : List MediumShown) : Prop where
  current : Streak det.ocTicks flags
  position : Streak det.posErrTicks (ms.map MediumShown.strayed)
  screened : det.Screened ms
  stall : Streak limits.stallTicks (ms.map MediumShown.pinnedSlow)
  pending : limits.faultPending = true → Tripped ms

namespace Backing

variable {k : Kernel} {flags : List Bool} {ms : List MediumShown}

theorem reset (det : Detectors) (limits : LimitState) : Backing det.reset limits.ack [] [] where
  current := .zero _
  position := .zero _
  screened := ⟨fun seen => by simp [Detectors.reset] at seen, .zero _⟩
  stall := .zero _
  pending := fun pending => by simp [LimitState.ack] at pending

theorem sample {det : Detectors} {limits : LimitState} (backing : Backing det limits flags ms)
    (exceeded : Option Bool) (tripTicks : UInt8) :
    Backing (det.ocSample exceeded tripTicks).2 limits (flags ++ exceeded.toList) ms where
  current := (Detectors.ocSample_streak backing.current exceeded tripTicks).1
  position := by
    have same : (det.ocSample exceeded tripTicks).2.posErrTicks = det.posErrTicks := by
      unfold Detectors.ocSample
      split <;> rfl
    rw [same]
    exact backing.position
  screened := by
    have same : (det.ocSample exceeded tripTicks).2 =
        { det with ocTicks := (det.ocSample exceeded tripTicks).2.ocTicks } := by
      unfold Detectors.ocSample
      split <;> rfl
    rw [same]
    exact ⟨backing.screened.seen, backing.screened.bad⟩
  stall := backing.stall
  pending := backing.pending

theorem folded (backing : Backing k.det k.limits flags ms) (t : Tick) (scan : Scan) (run : Bool)
    (pending : (k.foldedLimits t scan run).2.faultPending = true) :
    Tripped (ms ++ [k.mediumShown t scan run]) := by
  have limits : (k.steered t scan run).limits = k.limits := by rw [Kernel.steered_frame]
  have stall := backing.stall
  rw [← limits] at stall
  rcases LimitState.fold_pending stall _ _ _ _ _ pending with old | collided | late
  next =>
    rw [limits] at old
    exact (backing.pending old).snoc _
  next => exact ⟨ms, k.mediumShown t scan run, List.prefix_refl _, .inl (decide_eq_true collided)⟩
  next =>
    refine ⟨ms, k.mediumShown t scan run, List.prefix_refl _, .inr ?_⟩
    rw [List.map_append]
    exact late

theorem medium (backing : Backing k.det k.limits flags ms) (t : Tick) (scan : Scan) (run : Bool) :
    Backing (k.medium t scan run).det (k.medium t scan run).limits flags (ms ++ [k.mediumShown t scan run]) := by
  have jumped := (backing.screened.sample (k.mediumShown t scan run) t.faultCfg.sensorBadCount).1
  have strayed := (Detectors.posErrSample_streak (d := (k.jumped t).2) backing.position
    ((k.steered t scan run).posErrOver t run) k.posErrorTimeTicks).1
  have limits : (k.steered t scan run).limits = k.limits := by rw [Kernel.steered_frame]
  have stall := backing.stall
  rw [← limits] at stall
  constructor
  next =>
    rw [Kernel.medium_det]
    exact backing.current
  next =>
    rw [Kernel.medium_det, List.map_append]
    exact strayed
  next =>
    rw [Kernel.medium_det]
    exact ⟨jumped.seen, jumped.bad⟩
  next =>
    rw [(k.medium_stall t scan run).1, List.map_append]
    exact LimitState.fold_streak stall _ _ _ _ _
  next =>
    intro raised
    rw [(k.medium_stall t scan run).2] at raised
    exact backing.folded t scan run raised

theorem raises (backing : Backing k.det k.limits flags ms) (t : Tick) (scan : Scan) (run : Bool) {fault : Fault}
    (raised : k.MediumRaises t scan run fault) (supplied : fault ≠ .underVolt) :
    Backed t flags (ms ++ [k.mediumShown t scan run]) fault := by
  cases fault with
  | overCurrent => exact raised.elim
  | overTemp => trivial
  | stall => exact backing.folded t scan run raised
  | positionError =>
    have strayed := (Detectors.posErrSample_streak (d := (k.jumped t).2) backing.position
      ((k.steered t scan run).posErrOver t run) k.posErrorTimeTicks).2 raised
    have ticks : (k.mediumShown t scan run).posErrorTimeTicks = k.posErrorTimeTicks := by
      rw [Kernel.mediumShown, Kernel.steered_frame]
    refine ⟨_, List.getLast?_concat, ?_⟩
    rw [List.map_append, ticks]
    exact strayed
  | sensor => exact (backing.screened.sample (k.mediumShown t scan run) t.faultCfg.sensorBadCount).2 raised
  | underVolt => exact absurd rfl supplied

theorem gated (t : Tick) (backing : Backing ((k.boot t).ack t).det ((k.boot t).ack t).limits flags ms) :
    Backing (k.gated t).det (k.gated t).limits (flags ++ (k.ocOver t).toList) ms := by
  have det : (k.gated t).det = (k.sampled t).det := by rw [Kernel.gated, Kernel.gate_frame]
  have limits : (k.gated t).limits = ((k.boot t).ack t).limits := by
    rw [Kernel.gated, Kernel.gate_frame]
    rfl
  rw [det, limits, Kernel.sampled_det]
  exact backing.sample (k.ocOver t) t.limits.ocTripTicks

theorem onTick (t : Tick) (backing : Backing ((k.boot t).ack t).det ((k.boot t).ack t).limits flags ms) :
    Backing (k.onTick t).1.det (k.onTick t).1.limits (flags ++ (k.shown t).exceeded.toList)
      (ms ++ (k.shown t).medium.toList) := by
  have gated := gated t backing
  rw [Kernel.onTick, Kernel.command_frame]
  cases due : k.mediumDue with
  | true =>
    have ready : (k.gated t).mediumDue = true := (k.gated_mediumDue t).trans due
    simp only [Kernel.decimated, ready, if_true, Kernel.shown, due, Option.toList]
    exact gated.medium t (k.scan t) ((k.sampled t).run t)
  | false =>
    have ready : (k.gated t).mediumDue = false := (k.gated_mediumDue t).trans due
    simp only [Kernel.decimated, ready, Bool.false_eq_true, if_false, Kernel.shown, due, Option.toList,
      List.append_nil]
    exact gated

theorem latches (t : Tick) (backing : Backing ((k.boot t).ack t).det ((k.boot t).ack t).limits flags ms)
    {fault : Fault} (clear : ¬((k.boot t).ack t).faults.Latched fault) (latched : (k.onTick t).1.faults.Latched fault)
    (supplied : fault ≠ .underVolt) :
    Backed t (flags ++ (k.shown t).exceeded.toList) (ms ++ (k.shown t).medium.toList) fault := by
  have gated := gated t backing
  have sampled : (k.gated t).faults.Latched fault → fault = .overCurrent ∧
      (((k.boot t).ack t).det.ocSample (k.ocOver t) t.limits.ocTripTicks).1 = true := by
    intro raised
    rw [Kernel.gated_faults, Kernel.sampled_faults] at raised
    cases FaultLatch.raiseIf_latched raised with
    | inl old => exact absurd old clear
    | inr trips => exact ⟨trips.1.symm, trips.2⟩
  have current : (k.gated t).faults.Latched fault →
      Backed t (flags ++ (k.shown t).exceeded.toList) (ms ++ (k.shown t).medium.toList) fault := by
    intro raised
    obtain ⟨rfl, trips⟩ := sampled raised
    exact (Detectors.ocSample_streak backing.current (k.ocOver t) t.limits.ocTripTicks).2 trips
  rw [Kernel.onTick, Kernel.command_frame] at latched
  cases due : k.mediumDue with
  | true =>
    have ready : (k.gated t).mediumDue = true := (k.gated_mediumDue t).trans due
    simp only [Kernel.decimated, ready, if_true] at latched
    cases Kernel.medium_latched _ t _ _ latched with
    | inl old => exact current old
    | inr raised =>
      have backed := gated.raises t _ _ raised supplied
      simpa only [Kernel.shown, due, if_true, Option.toList] using backed
  | false =>
    have ready : (k.gated t).mediumDue = false := (k.gated_mediumDue t).trans due
    simp only [Kernel.decimated, ready, Bool.false_eq_true, if_false] at latched
    exact current latched

end Backing

namespace Kernel

variable {k : Kernel}

theorem step_fresh (v : VbusEst) (vdrive : Option UInt16) (floor : UInt16) :
    (v.step vdrive floor).fresh = (vdrive.isSome || v.fresh) := by
  cases vdrive <;> simp [VbusEst.step, VbusEst.sample, VbusEst.updateRecip]

theorem slowed_fresh (k : Kernel) (t : Tick) (scan : Scan) (fresh : (k.slowed t scan).vbus.fresh = true) :
    k.vbus.fresh = true := by
  unfold slowed at fresh
  split at fresh
  next => simp [slow, VbusEst.takeFresh] at fresh
  next => exact fresh

theorem medium_fresh (k : Kernel) (t : Tick) (scan : Scan) (run : Bool)
    (fresh : (k.medium t scan run).vbus.fresh = true) : (scan.vdrive.isSome || k.vbus.fresh) = true := by
  have screened := slowed_fresh ((k.tended t scan run).screen t run) t scan fresh
  rw [screened_vbus, step_fresh] at screened
  simpa using screened

def Supplied (fresh : Bool) (ms : List MediumShown) : Prop :=
  fresh = true → ∃ m ∈ ms, m.supplied = true

theorem medium_supplied {t : Tick} {ms : List MediumShown} (supplied : Supplied k.vbus.fresh ms) (scan : Scan)
    (run : Bool) (taken : (scan.vdrive.isSome || k.vbus.fresh) = true) :
    ∃ m ∈ ms ++ [k.mediumShown t scan run], m.supplied = true := by
  rw [Bool.or_eq_true] at taken
  cases taken with
  | inl now => exact ⟨k.mediumShown t scan run, by simp, now⟩
  | inr before =>
    obtain ⟨m, member, shown⟩ := supplied before
    exact ⟨m, List.mem_append_left _ member, shown⟩

theorem onTick_supplied (t : Tick) {ms : List MediumShown} (supplied : Supplied k.vbus.fresh ms) :
    Supplied (k.onTick t).1.vbus.fresh (ms ++ (k.shown t).medium.toList) := by
  intro fresh
  rw [onTick, command_frame] at fresh
  have gated : Supplied (k.gated t).vbus.fresh ms := by rwa [gated_vbus]
  cases due : k.mediumDue with
  | true =>
    have ready : (k.gated t).mediumDue = true := (k.gated_mediumDue t).trans due
    simp only [decimated, ready, if_true] at fresh
    simp only [shown, due, if_true, Option.toList]
    exact medium_supplied gated _ _ (medium_fresh _ t _ _ fresh)
  | false =>
    have ready : (k.gated t).mediumDue = false := (k.gated_mediumDue t).trans due
    simp only [decimated, ready, Bool.false_eq_true, if_false] at fresh
    simp only [shown, due, Bool.false_eq_true, if_false, Option.toList, List.append_nil]
    exact gated fresh

theorem underVolt_supplied (t : Tick) {ms : List MediumShown} (supplied : Supplied k.vbus.fresh ms)
    (clear : ¬((k.boot t).ack t).faults.Latched .underVolt) (latched : (k.onTick t).1.faults.Latched .underVolt) :
    ∃ m ∈ ms ++ (k.shown t).medium.toList, m.supplied = true := by
  have gated : Supplied (k.gated t).vbus.fresh ms := by rwa [gated_vbus]
  have before : ¬(k.gated t).faults.Latched .underVolt := by
    rw [gated_faults, sampled_faults]
    intro raised
    cases FaultLatch.raiseIf_latched raised with
    | inl old => exact clear old
    | inr trips => exact absurd trips.1 (by simp)
  rw [onTick, command_frame] at latched
  cases due : k.mediumDue with
  | true =>
    have ready : (k.gated t).mediumDue = true := (k.gated_mediumDue t).trans due
    simp only [decimated, ready, if_true] at latched
    simp only [shown, due, if_true, Option.toList]
    cases medium_latched _ t _ _ latched with
    | inl old => exact absurd old before
    | inr raised =>
      have fresh : ((k.gated t).vbus.step ((k.scan t).vdrive.map Prod.fst) t.thermal.vUndervoltCounts).fresh = true :=
        raised
      rw [step_fresh] at fresh
      exact medium_supplied gated _ _ (by simpa using fresh)
  | false =>
    have ready : (k.gated t).mediumDue = false := (k.gated_mediumDue t).trans due
    simp only [decimated, ready, Bool.false_eq_true, if_false] at latched
    exact absurd latched before

/-- A kernel that read the enable off drives nothing, so an ack finds no window. -/
def Rests (k : Kernel) : Prop :=
  k.tePrev = false → k.runPrev = false ∧ k.dutyQ15 = 0

theorem onTick_rests (k : Kernel) (t : Tick) : (k.onTick t).1.Rests := by
  intro off
  rw [onTick_tePrev] at off
  have disabled := k.onTick_gate t (.inl off)
  rw [onTick_runPrev, onTick_duty, disabled]
  exact ⟨by simp [run, off], rfl⟩

theorem Rests.ocOver (rests : k.Rests) {t : Tick} (acks : k.acks t = true) : k.ocOver t = none := by
  have off : k.tePrev = false := by
    simp only [Kernel.acks, Bool.and_eq_true, Bool.not_eq_true'] at acks
    exact acks.2
  simp [Kernel.ocOver, scan, Scan.take, (rests off).2, Window.driveTicks, Window.select, Window.iFromFrame]

theorem Rests.acked (rests : k.Rests) {t : Tick} (acks : k.acks t = true) :
    (k.gated t).fusion = .seed t.frame.pos := by
  have live : t.life.torqueEnable = true ∧ k.tePrev = false := by
    simpa [Kernel.acks] using acks
  have cleared : ((k.boot t).ack t).faults = {} := by
    have opened : (k.boot t).acks t = true := acks
    simp [ack, opened]
  have opened : (k.sampled t).run t = true := by
    rw [run, sampled_faults, rests.ocOver acks, cleared, live.1]
    rfl
  have prev : (k.sampled t).runPrev = false := (k.sampled_runPrev t).trans (rests live.2).1
  rw [gated, opened]
  by_cases same : t.life.mode = (k.sampled t).modePrev <;> simp [gate, edge, prev, same]

end Kernel

structure Observed where
  kernel : Kernel
  since : List Shown := []

namespace Observed

def start (timing : KernelTiming) : Observed :=
  ⟨{ timing }, []⟩

def recalled (w : Observed) (t : Tick) : List Shown :=
  if w.kernel.acks t then [] else w.since

def tick (w : Observed) (t : Tick) : Observed :=
  ⟨(w.kernel.onTick t).1, w.recalled t ++ [w.kernel.shown t]⟩

structure Sound (w : Observed) : Prop where
  rests : w.kernel.Rests
  backing : Backing w.kernel.det w.kernel.limits (samples w.since) (mediums w.since)

theorem start_sound (timing : KernelTiming) : (start timing).Sound where
  rests := fun _ => ⟨rfl, rfl⟩
  backing := ⟨.zero _, .zero _, ⟨fun seen => by simp [start] at seen, .zero _⟩, .zero _,
    fun pending => by simp [start] at pending⟩

theorem Sound.acked {w : Observed} (sound : w.Sound) (t : Tick) :
    Backing ((w.kernel.boot t).ack t).det ((w.kernel.boot t).ack t).limits (samples (w.recalled t))
      (mediums (w.recalled t)) := by
  have det : ((w.kernel.boot t).ack t).det = if w.kernel.acks t then w.kernel.det.reset else w.kernel.det := rfl
  have limits : ((w.kernel.boot t).ack t).limits = if w.kernel.acks t then w.kernel.limits.ack else w.kernel.limits :=
    rfl
  rw [det, limits, recalled]
  cases w.kernel.acks t with
  | true => exact Backing.reset w.kernel.det w.kernel.limits
  | false => exact sound.backing

theorem Sound.tick {w : Observed} (sound : w.Sound) (t : Tick) : (w.tick t).Sound where
  rests := w.kernel.onTick_rests t
  backing := by
    have backing := (sound.acked t).onTick t
    rwa [← samples_snoc, ← mediums_snoc] at backing

theorem runs_sound (timing : KernelTiming) (ts : List Tick) : (run tick (start timing) ts).Sound := by
  apply run_invariant tick (fun _ _ => True) Sound
  next => exact fun _ t sound _ => sound.tick t
  next => exact start_sound timing
  next => exact meets_trivial tick _ ts

def Drained (w : Observed) (t : Tick) : Prop :=
  w.kernel.acks t = true → w.kernel.vbus.fresh = false

instance (w : Observed) (t : Tick) : Decidable (w.Drained t) :=
  inferInstanceAs (Decidable (_ → _))

def Supplied (w : Observed) : Prop :=
  Kernel.Supplied w.kernel.vbus.fresh (mediums w.since)

theorem Supplied.recalled {w : Observed} (supplied : w.Supplied) {t : Tick} (drained : w.Drained t) :
    Kernel.Supplied w.kernel.vbus.fresh (mediums (w.recalled t)) := by
  intro fresh
  cases acks : w.kernel.acks t with
  | true => exact absurd fresh (by simp [drained acks])
  | false =>
    rw [Observed.recalled, acks]
    exact supplied fresh

theorem Supplied.tick {w : Observed} (supplied : w.Supplied) {t : Tick} (drained : w.Drained t) :
    (w.tick t).Supplied := by
  have onTick := w.kernel.onTick_supplied t (supplied.recalled drained)
  rwa [← mediums_snoc] at onTick

theorem runs_supplied (timing : KernelTiming) (ts : List Tick) (drained : Meets tick Drained (start timing) ts) :
    (run tick (start timing) ts).Supplied := by
  apply run_invariant tick Drained Supplied
  next => exact fun _ _ supplied drained => supplied.tick drained
  next => exact fun fresh => by simp [start] at fresh
  next => exact drained

theorem latch_backed (timing : KernelTiming) (ts : List Tick) (t : Tick) (fault : Fault)
    (drained : fault = .underVolt → Meets tick Drained (start timing) (ts ++ [t])) :
    let before := run tick (start timing) ts
    let after := before.tick t
    (before.kernel.acks t = true → (before.kernel.gated t).fusion = .seed t.frame.pos) ∧
      (¬((before.kernel.boot t).ack t).faults.Latched fault → after.kernel.faults.Latched fault →
        Backed t (samples after.since) (mediums after.since) fault) := by
  intro before after
  have sound : before.Sound := runs_sound timing ts
  refine ⟨sound.rests.acked, fun clear latched => ?_⟩
  have history : after.since = before.recalled t ++ [before.kernel.shown t] := rfl
  rw [history, samples_snoc, mediums_snoc]
  by_cases volts : fault = .underVolt
  next =>
    have meets := (meets_append tick Drained (start timing) ts [t]).mp (drained volts)
    have supplied := (runs_supplied timing ts meets.1).recalled meets.2.1
    subst volts
    exact before.kernel.underVolt_supplied t supplied clear latched
  next => exact (sound.acked t).latches t clear latched volts

theorem latch_backed_hot :
    let hot := { Tick.live .current 900 with frame := ⟨2048, 2000, 0, 0, 0, 0, 0, 0⟩ }
    let after := (run tick (start (.derive 2400 20000)) [Tick.live .current 900, hot, hot]).tick hot
    after.kernel.faults.Latched .overCurrent ∧ Backed hot (samples after.since) (mediums after.since) .overCurrent :=
  ⟨by decide +kernel, (latch_backed (.derive 2400 20000) [.live .current 900, _, _] _ .overCurrent
    (fun volts => by cases volts)).2 (by decide +kernel) (by decide +kernel)⟩

set_option maxRecDepth 20000 in
/-- An enable dropped and raised inside one slow period: the sample read before the ack latches after it, and the
ticks since have shown no window. -/
theorem latch_unbacked :
    let driving := { Tick.live .openLoop 0 with life := ⟨true, .openLoop, 16384, 0, 0, 0⟩ }
    let off := { Tick.live .openLoop 0 with life := ⟨false, .openLoop, 0, 0, 0, 0⟩ }
    let quiet := Tick.live .openLoop 0
    let before := run tick (start (.derive 2400 20000)) (List.replicate 11 driving ++ [off] ++ List.replicate 308 quiet)
    let after := before.tick quiet
    before.since.length = 308 ∧ before.kernel.faults.mask = 0 ∧ after.kernel.faults.Latched .underVolt ∧
      (mediums after.since).all (fun m => !m.supplied) = true := by
  decide +kernel

end Observed

end OpenServo.Motion
