import OpenServo.Motion.Gate

set_option autoImplicit false

namespace OpenServo.Motion

open OpenServo.Shared

namespace IBand

def Within (band : IBand) (i : Int) : Prop :=
  band.lo ≤ i ∧ i ≤ band.hi

theorem within_zero (band : IBand) : band.Within 0 :=
  ⟨band.lo_le, band.le_hi⟩

theorem within_clamp (band : IBand) (i : Int) : band.Within (band.clamp i) :=
  ⟨le_clamp i band.lo band.hi, clamp_le i (Int.le_trans band.lo_le band.le_hi)⟩

end IBand

def driven (drivePolarity : Bool) (i : Int) : Int :=
  if drivePolarity then i else -i

namespace LimitState

theorem compose_le_current (s : LimitState) (cfg : LimitCfg) : s.compose cfg ≤ cfg.currentLimitCounts.toNat := by
  unfold compose
  dsimp only
  split <;> omega

theorem compose_le_derate (s : LimitState) (cfg : LimitCfg) : s.compose cfg ≤ s.derateCache := by
  unfold compose
  dsimp only
  split <;> omega

theorem compose_le_yield (s : LimitState) (cfg : LimitCfg) (stalled : s.stalled = true) :
    s.compose cfg ≤ cfg.stallYieldCounts.toNat := by
  rw [compose, if_pos stalled]
  exact Nat.min_le_right _ _

theorem band_le (lim : Nat) (theta : Int) (cfg : LimitCfg) {i : Int} (within : (band lim theta cfg).Within i) :
    i.natAbs ≤ lim := by
  have low : -(lim : Int) ≤ (band lim theta cfg).lo := by
    unfold band
    dsimp only
    split <;> omega
  have high : (band lim theta cfg).hi ≤ lim := by
    unfold band
    dsimp only
    split <;> omega
  have bounds := within
  simp only [IBand.Within] at bounds
  omega

theorem band_max (lim : Nat) (theta : Int) (cfg : LimitCfg) {i : Int} (within : (band lim theta cfg).Within i)
    (past : cfg.posMaxSoftCounts.toInt ≤ theta) : driven cfg.drivePolarity i ≤ 0 := by
  cases polarity : cfg.drivePolarity with
  | true =>
    have high := within.2
    simpa [band, polarity, past, driven] using high
  | false =>
    have low := within.1
    simpa [band, polarity, past, driven] using low

theorem band_min (lim : Nat) (theta : Int) (cfg : LimitCfg) {i : Int} (within : (band lim theta cfg).Within i)
    (past : theta ≤ cfg.posMinSoftCounts.toInt) : 0 ≤ driven cfg.drivePolarity i := by
  cases polarity : cfg.drivePolarity with
  | true =>
    have low := within.1
    simpa [band, polarity, past, driven] using low
  | false =>
    have high := within.2
    simpa [band, polarity, past, driven] using high

end LimitState

structure MediumTick where
  tick : Tick
  folded : Kernel

namespace Kernel

variable (k : Kernel) (t : Tick) (scan : Scan) (run : Bool)

def folded : Kernel :=
  ((k.gated t).steered t (k.scan t) ((k.sampled t).run t)).foldLimits t ((k.sampled t).run t)

theorem foldLimits_band :
    (k.foldLimits t run).iBand =
      LimitState.band ((k.foldLimits t run).limits.compose (k.limitCfg t)) (k.fusion.theta >>> (16 : Nat))
        (k.limitCfg t) :=
  rfl

end Kernel

/-- The envelope of a fold: what bounds a reference until the next one. -/
structure MediumTick.Bounds (m : MediumTick) (i : Int) : Prop where
  current : i.natAbs ≤ m.tick.limits.currentLimitCounts.toNat
  derate : i.natAbs ≤ m.folded.limits.derateCache
  yield : m.folded.limits.stalled = true → i.natAbs ≤ m.tick.limits.stallYieldCounts.toNat
  atMax : m.tick.posLimits.posMaxSoftCounts.toInt ≤ m.folded.fusion.theta >>> (16 : Nat) →
    driven m.tick.limits.drivePolarity i ≤ 0
  atMin : m.folded.fusion.theta >>> (16 : Nat) ≤ m.tick.posLimits.posMinSoftCounts.toInt →
    0 ≤ driven m.tick.limits.drivePolarity i

theorem Kernel.foldLimits_bounds (k : Kernel) (t : Tick) (run : Bool) {i : Int}
    (within : (k.foldLimits t run).iBand.Within i) : (MediumTick.mk t (k.foldLimits t run)).Bounds i := by
  rw [Kernel.foldLimits_band] at within
  have lim := LimitState.band_le _ _ _ within
  constructor
  next => exact Nat.le_trans lim (LimitState.compose_le_current _ _)
  next => exact Nat.le_trans lim (LimitState.compose_le_derate _ _)
  next => exact fun stalled => Nat.le_trans lim (LimitState.compose_le_yield _ _ stalled)
  next => exact LimitState.band_max _ _ _ within
  next => exact LimitState.band_min _ _ _ within

namespace Kernel

variable (k : Kernel) (t : Tick) (scan : Scan) (run : Bool)

def InBand : Prop :=
  k.iBand.Within k.iRefCc

theorem regulate_iBand : (k.regulate t run).iBand = k.iBand := by
  rw [regulate_frame]

theorem regulate_inBand (settled : run = false → k.iRefCc = 0) (regulated : run = true → t.life.mode ≠ .current) :
    (k.regulate t run).InBand := by
  have zero := k.iBand.within_zero
  cases run with
  | false =>
    rw [← settled rfl] at zero
    exact zero
  | true =>
    cases mode : t.life.mode with
    | position =>
      cases hold : k.hold with
      | true => simpa [InBand, regulate, mode, hold] using zero
      | false => simpa [InBand, regulate, mode, hold, VelocityLoop.step] using k.iBand.within_clamp _
    | velocity => simpa [InBand, regulate, mode, VelocityLoop.step] using k.iBand.within_clamp _
    | current => exact absurd mode (regulated rfl)
    | openLoop => simpa [InBand, regulate, mode] using zero

theorem slowed_iBand : (k.slowed t scan).iBand = k.iBand := by
  unfold slowed
  split <;> rfl

theorem slowed_iRefCc : (k.slowed t scan).iRefCc = k.iRefCc := by
  unfold slowed
  split <;> rfl

theorem medium_iBand : (k.medium t scan run).iBand = ((k.steered t scan run).foldLimits t run).iBand :=
  (slowed_iBand _ t scan).trans (regulate_iBand _ t run)

theorem medium_iRefCc :
    (k.medium t scan run).iRefCc = (((k.steered t scan run).foldLimits t run).regulate t run).iRefCc :=
  slowed_iRefCc _ t scan

theorem medium_inBand (settled : run = false → k.iRefCc = 0) (regulated : run = true → t.life.mode ≠ .current) :
    (k.medium t scan run).InBand := by
  have steered : (k.steered t scan run).iRefCc = k.iRefCc := by
    rw [steered, profile_frame]
    rfl
  have inBand := regulate_inBand ((k.steered t scan run).foldLimits t run) t run
    (fun idle => steered.trans (settled idle)) regulated
  rw [InBand, regulate_iBand] at inBand
  rwa [InBand, medium_iBand, medium_iRefCc]

theorem decimated_inBand (inBand : k.InBand) (settled : run = false → k.iRefCc = 0)
    (regulated : run = true → t.life.mode ≠ .current) : (k.decimated t scan run).InBand := by
  unfold decimated
  split
  next => exact k.medium_inBand t scan run settled regulated
  next => exact inBand

theorem closedLoop_loopRef {i : Int} (called : (k.closedLoop t scan).2.loopRef = some i) : i = k.iRefCc := by
  cases hold : k.hold with
  | true => simp [closedLoop, hold] at called
  | false =>
    cases stuck : k.stuck scan with
    | true => simp [closedLoop, hold, stuck] at called
    | false => simpa [closedLoop, hold, stuck] using called.symm

theorem command_loopRef (inBand : run = true → t.life.mode ≠ .current → k.InBand) {i : Int}
    (called : (k.command t scan run).2.loopRef = some i) : k.iBand.Within i := by
  by_cases gate : run = true ∧ k.faults.mask = 0
  next =>
    simp only [command, gate, decide_true, Bool.and_self, if_true] at called
    cases mode : t.life.mode with
    | openLoop => simp [mode] at called
    | current =>
      simp only [mode] at called
      rw [closedLoop_loopRef _ t scan called]
      exact k.iBand.within_clamp _
    | velocity =>
      simp only [mode] at called
      rw [closedLoop_loopRef _ t scan called]
      exact inBand gate.1 (by simp [mode])
    | position =>
      simp only [mode] at called
      rw [closedLoop_loopRef _ t scan called]
      exact inBand gate.1 (by simp [mode])
  next => simp [command, gate] at called

theorem command_inBand (inBand : run = true → t.life.mode ≠ .current → k.InBand) (gate : run = true)
    (clear : k.faults.mask = 0) : (k.command t scan run).1.InBand := by
  have band : (k.command t scan run).1.iBand = k.iBand := by rw [command_frame]
  rw [InBand, band]
  by_cases mode : t.life.mode = .current
  next =>
    simp only [command, gate, clear, mode, decide_true, Bool.and_self, if_true, closedLoop_iRefCc]
    exact k.iBand.within_clamp _
  next =>
    have kept : (k.command t scan run).1.iRefCc = k.iRefCc := by
      simp only [command, gate, clear, decide_true, Bool.and_self, if_true]
      cases other : t.life.mode with
      | openLoop => rfl
      | current => exact absurd other mode
      | velocity => exact k.closedLoop_iRefCc t scan
      | position => exact k.closedLoop_iRefCc t scan
    rw [kept]
    exact inBand gate mode

theorem gate_iRefCc : (k.gate t run).iRefCc = if run = k.runPrev then k.iRefCc else 0 := by
  cases run <;> cases prev : k.runPrev <;> by_cases same : t.life.mode = k.modePrev <;>
    simp [gate, edge, prev, same]

/-- The command of a running drive is in its band, and a drive that is not running has none. A fault of the medium
chain leaves the command stale until the edge of the next tick. -/
structure Held (k : Kernel) : Prop where
  enabled : k.runPrev = true → k.tePrev = true
  idle : k.runPrev = false → k.iRefCc = 0
  inBand : k.runPrev = true → k.faults.mask = 0 → k.InBand

variable {k}

theorem Held.gated_idle (held : k.Held) (closed : (k.sampled t).run t = false) : (k.gated t).iRefCc = 0 := by
  rw [gated, gate_iRefCc, closed]
  cases prev : k.runPrev with
  | false => simpa [sampled, sample, ack, boot, prev] using held.idle prev
  | true => simp [sampled, sample, ack, boot, prev]

theorem Held.gated_inBand (held : k.Held) : (k.gated t).InBand := by
  have band : (k.gated t).iBand = k.iBand := by
    rw [gated, gate_frame]
    rfl
  cases opened : (k.sampled t).run t with
  | false =>
    rw [InBand, held.gated_idle t opened]
    exact IBand.within_zero _
  | true =>
    cases prev : k.runPrev with
    | false =>
      have zero : (k.gated t).iRefCc = 0 := by
        rw [gated, gate_iRefCc, opened]
        simp [sampled, sample, ack, boot, prev]
      rw [InBand, zero]
      exact IBand.within_zero _
    | true =>
      have unacked : k.acks t = false := by simp [acks, held.enabled prev]
      have clear := (k.sampled_kept t unacked).clear (run_open opened).2
      have kept : (k.gated t).iRefCc = k.iRefCc := by
        rw [gated, gate_iRefCc, opened]
        simp [sampled, sample, ack, boot, prev]
      rw [InBand, band, kept]
      exact held.inBand prev clear

theorem decimated_idle (k : Kernel) (idle : k.iRefCc = 0) : (k.decimated t scan false).iRefCc = 0 := by
  unfold decimated
  split
  next =>
    have medium := k.medium_iRefCc t scan false
    rw [steered, profile_frame] at medium
    exact medium.trans idle
  next => exact idle

theorem Held.settled (held : k.Held) (mode : (k.sampled t).run t = true → t.life.mode ≠ .current) :
    ((k.gated t).decimated t (k.scan t) ((k.sampled t).run t)).InBand := by
  apply decimated_inBand
  next => exact held.gated_inBand t
  next => exact held.gated_idle t
  next => exact mode

theorem Held.onTick_loopRef (held : k.Held) {i : Int} (called : (k.onTick t).2.loopRef = some i) :
    (k.onTick t).1.iBand.Within i := by
  have band : (k.onTick t).1.iBand = _ := congrArg Kernel.iBand (command_frame _ t _ _)
  rw [band]
  exact command_loopRef _ t _ _ (fun _ mode => held.settled t (fun _ => mode)) called

theorem Held.onTick (held : k.Held) : (k.onTick t).1.Held where
  enabled := by
    intro opened
    rw [onTick_runPrev] at opened
    rw [onTick_tePrev]
    exact (run_open opened).1
  idle := by
    intro closed
    rw [onTick_runPrev] at closed
    have idle := decimated_idle t (k.scan t) (k.gated t) (held.gated_idle t closed)
    rw [Kernel.onTick, closed]
    simpa [command] using idle
  inBand := by
    intro opened clear
    rw [onTick_runPrev] at opened
    have faults : (k.onTick t).1.faults = _ := congrArg Kernel.faults (command_frame _ t _ _)
    rw [faults] at clear
    exact command_inBand _ t _ _ (fun _ mode => held.settled t (fun _ => mode)) opened clear

end Kernel

structure Watched where
  kernel : Kernel
  last : Option MediumTick := none

namespace Watched

def start (timing : KernelTiming) : Watched :=
  ⟨{ timing }, none⟩

def tick (w : Watched) (t : Tick) : Watched where
  kernel := (w.kernel.onTick t).1
  last := if w.kernel.mediumDue then some ⟨t, w.kernel.folded t⟩ else w.last

structure Sound (w : Watched) : Prop where
  held : w.kernel.Held
  first : w.last = none → w.kernel.mediumDue = true
  bounds : ∀ m, w.last = some m → ∀ i, w.kernel.iBand.Within i → m.Bounds i

theorem onTick_iBand (k : Kernel) (t : Tick) :
    (k.onTick t).1.iBand = if k.mediumDue then (k.folded t).iBand else k.iBand := by
  have command : (k.onTick t).1.iBand = _ := congrArg Kernel.iBand (Kernel.command_frame _ t _ _)
  rw [command, Kernel.decimated, Kernel.gated_mediumDue]
  split
  next => exact (k.gated t).medium_iBand t _ _
  next =>
    rw [Kernel.gated, Kernel.gate_frame]
    rfl

theorem start_sound (timing : KernelTiming) : (start timing).Sound where
  held := ⟨fun prev => absurd prev (by simp [start]), fun _ => rfl, fun prev => absurd prev (by simp [start])⟩
  first := fun _ => rfl
  bounds := by
    intro m last
    simp [start] at last

theorem Sound.folds {w : Watched} (sound : w.Sound) (t : Tick) : ∃ m, (w.tick t).last = some m := by
  cases due : w.kernel.mediumDue with
  | true => exact ⟨⟨t, w.kernel.folded t⟩, by simp [tick, due]⟩
  | false =>
    cases last : w.last with
    | some m => exact ⟨m, by simp [tick, due, last]⟩
    | none => simp [sound.first last] at due

theorem Sound.tick {w : Watched} (sound : w.Sound) (t : Tick) : (w.tick t).Sound where
  held := sound.held.onTick t
  first := by
    intro unfolded
    obtain ⟨m, last⟩ := sound.folds t
    simp [last] at unfolded
  bounds := by
    intro m last i within
    rw [Watched.tick, onTick_iBand] at within
    cases due : w.kernel.mediumDue with
    | true =>
      have read : MediumTick.mk t (w.kernel.folded t) = m := by simpa [Watched.tick, due] using last
      rw [due, if_pos rfl] at within
      rw [← read]
      exact Kernel.foldLimits_bounds _ t _ within
    | false =>
      have read : w.last = some m := by simpa [Watched.tick, due] using last
      rw [due, if_neg (by simp)] at within
      exact sound.bounds m read i within

theorem runs_sound (timing : KernelTiming) (ts : List Tick) : (run tick (start timing) ts).Sound := by
  apply run_invariant tick (fun _ _ => True) Sound
  next => exact fun _ t sound _ => sound.tick t
  next => exact start_sound timing
  next => exact meets_trivial tick _ ts

theorem current_envelope (timing : KernelTiming) (ts : List Tick) (t : Tick) (i : Int)
    (called : ((run tick (start timing) ts).kernel.onTick t).2.loopRef = some i) :
    let after := run tick (start timing) (ts ++ [t])
    after.kernel.iBand.lo ≤ i ∧ i ≤ after.kernel.iBand.hi ∧
      after.kernel.iBand.lo ≤ 0 ∧ 0 ≤ after.kernel.iBand.hi ∧
      ∃ m, after.last = some m ∧ m.Bounds i := by
  have before := runs_sound timing ts
  have within := before.held.onTick_loopRef t called
  obtain ⟨m, last⟩ := before.folds t
  intro after
  have stepped : after = (run tick (start timing) ts).tick t := run_append tick (start timing) ts [t]
  have bounds := (before.tick t).bounds m last i within
  rw [stepped]
  exact ⟨within.1, within.2, IBand.lo_le _, IBand.le_hi _, m, last, bounds⟩

theorem current_envelope_pull :
    let first := run tick (start (.derive 2400 20000)) [Tick.live .current 900, .live .current 300]
    let after := run tick (start (.derive 2400 20000)) ([.live .current 900, .live .current 300] ++ [Tick.live .current 900])
    (first.kernel.onTick (.live .current 900)).2.loopRef = some 500 ∧
      after.kernel.iBand.lo ≤ 500 ∧ 500 ≤ after.kernel.iBand.hi ∧
      after.kernel.iBand.lo ≤ 0 ∧ 0 ≤ after.kernel.iBand.hi ∧ ∃ m, after.last = some m ∧ m.Bounds 500 :=
  ⟨by decide +kernel, current_envelope (.derive 2400 20000) [.live .current 900, .live .current 300] (.live .current 900) 500
    (by decide +kernel)⟩

end Watched

end OpenServo.Motion
