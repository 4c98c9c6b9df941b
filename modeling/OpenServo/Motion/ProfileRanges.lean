import OpenServo.Motion.Ranges

set_option autoImplicit false

namespace OpenServo.Motion

open OpenServo.Shared OpenServo.Shared.Checked

namespace Position

theorem checkedStep_sat (thetaStar omegaStar thetaHat : Int) (cfg : PositionCfg) :
    (checkedStep thetaStar omegaStar thetaHat cfg).Sat (fun out => out.omegaRef.natAbs ≤ 32767 * 2 ^ 16) := by
  have cap : velCapCps = 32767 := rfl
  have deadband := cfg.posDeadbandCounts.toNat_lt
  apply (within_abs (2 ^ 23) rfl).bind
  intro e error
  apply (word_sat (by omega) (by omega)).bind
  intro vLim same
  apply (gain_sat cfg.kpQ88 (2 ^ 23) (65535 * 2 ^ 15) error (by omega) (by omega)).bind
  intro push _
  apply (within_sat (by omega)).bind
  intro omegaRef inside
  apply (u32_sat (by omega)).bind
  intro deadband _
  exact .pure (by simp only; omega)

end Position

theorem slew_sat {room a : Int} (positive : 0 ≤ a) :
    (within room (-a) a).Sat (fun gain => gain.natAbs ≤ a.natAbs ∧ min 0 room ≤ gain ∧ gain ≤ max 0 room) := by
  refine ⟨decide_eq_true (by omega), ?_⟩
  rw [within_val, clamp]
  omega

namespace TrajGen

structure Ranged (t : TrajGen) : Prop where
  thetaRef : t.thetaRef.natAbs ≤ 2 ^ 29
  omegaRef : t.omegaRef.natAbs ≤ 32767 * 2 ^ 16
  alphaLast : t.alphaLast.natAbs ≤ 2 ^ 31

theorem new_ranged : Ranged {} :=
  ⟨by decide, by decide, by decide⟩

theorem accel_range (cfg : TrajCfg) : 0 ≤ accel cfg ∧ accel cfg < 2 ^ 24 := by
  have word := cfg.accelLimitQ88.toNat_lt
  rw [accel]
  omega

theorem softLimits_ordered (cfg : TrajCfg) : (softLimits cfg).1 ≤ (softLimits cfg).2 := by
  simp only [softLimits]
  omega

theorem checkedReseed_sat (thetaHat : Int) : (checkedReseed thetaHat).Sat Ranged := by
  apply (within_abs (2 ^ 29) rfl).bind
  intro thetaRef inside
  exact .pure ⟨inside, Nat.zero_le _, Nat.zero_le _⟩

theorem checkedKeep_sat (keep : Bool) {x : Int} (most : Nat) (size : x.natAbs ≤ most) (small : most < 2 ^ 31) :
    (checkedKeep keep x).Sat (fun v => v.natAbs ≤ most ∧ v = if keep then x else -x) := by
  unfold checkedKeep
  split
  next => exact .pure ⟨size, rfl⟩
  next =>
    apply (i32_sat (by omega) (by omega)).mono
    intro v same
    exact ⟨by omega, same⟩

theorem checkedAdvance_sat {t : TrajGen} (ranged : t.Ranged) (omega : Int) {stepMag : Int}
    (step : 0 ≤ stepMag ∧ stepMag ≤ 2 ^ 30) :
    (t.checkedAdvance omega stepMag).Sat (fun v => v.natAbs ≤ 2 ^ 29) := by
  have theta := ranged.thetaRef
  apply (checkedKeep_sat _ (2 ^ 30) (by omega) (by omega)).bind
  intro travel size
  apply (i32_sat (by omega) (by omega)).bind
  intro moved _
  exact within_abs (2 ^ 29) rfl

section Profile

variable {cfg : TrajCfg} (positive : 0 ≤ cfg.dtMedQ32) (small : cfg.dtMedQ32 < 2 ^ 31)

include positive small

theorem checkedSpeed_sat {v : Int} (speed : v.natAbs ≤ 32767 * 2 ^ 16) (dAbs : Int) :
    (checkedSpeed v dAbs cfg).Sat (fun next => next.natAbs ≤ 32767 * 2 ^ 16) := by
  have cap : velCapCps = 32767 := rfl
  have range := accel_range cfg
  apply (word_sat (by omega) (by omega)).bind
  intro a same
  apply (word_sat (by omega) (by omega)).bind
  intro vLim limit
  split
  next away =>
    apply (i32_sat (by omega) (by omega)).bind
    intro slewed sum
    exact .pure (by omega)
  next =>
    apply (i32_sat (by omega) (by omega)).bind
    intro room gap
    apply (slew_sat (by omega)).bind
    intro gain between
    apply (i32_sat (by omega) (by omega)).bind
    intro vUp sum
    apply (scaled_sat (2 ^ 31) (2 ^ 31) (2 ^ 30) (by omega) (by omega) (by omega) (by omega)).bind
    intro vt scaled
    have forward : 0 ≤ vt := scaled.2 (by omega) positive
    apply (asU32_sat (by omega) (by omega)).bind
    intro _ _
    apply (asU32_sat (by omega) (by omega)).bind
    intro reach _
    apply (asU32_sat forward (by omega)).bind
    intro travel _
    apply (u32_sat (by omega)).bind
    intro twice _
    split
    next =>
      apply (i32_sat (by omega) (by omega)).bind
      intro slower difference
      exact .pure (by omega)
    next => exact .pure (by omega)

theorem checkedTravel_sat {omega : Int} (speed : omega.natAbs ≤ 32767 * 2 ^ 16) :
    (checkedTravel omega cfg).Sat (fun v => 0 ≤ v ∧ v ≤ 2 ^ 30) := by
  apply (checkedKeep_sat _ (32767 * 2 ^ 16) speed (by omega)).bind
  intro size kept
  have forward : 0 ≤ size := by
    have sign := kept.2
    split at sign
    next up =>
      have up : ¬ omega < 0 := by simpa using up
      omega
    next down =>
      have down : omega < 0 := by simpa using down
      omega
  apply (scaled_sat (2 ^ 31) (2 ^ 31) (2 ^ 30) (by omega) (by omega) (by omega) (by omega)).mono
  intro v scaled
  have signed := scaled.2 forward positive
  omega

theorem checkedStepPosition_sat {t : TrajGen} (ranged : t.Ranged) (goalCounts : Int32) :
    (t.checkedStepPosition goalCounts cfg).Sat Ranged := by
  have goals : goalLim = (2 ^ 13 : Nat) := rfl
  have theta := ranged.thetaRef
  have range := accel_range cfg
  apply (word_sat (by omega) (by omega)).bind
  intro a _
  apply (within_sat (softLimits_ordered cfg)).bind
  intro inside _
  apply (within_abs (2 ^ 13) goals).bind
  intro near bounded
  apply (i32_sat (by omega) (by omega)).bind
  intro goal target
  apply (i32_sat (by omega) (by omega)).bind
  intro d distance
  apply (checkedKeep_sat _ (32767 * 2 ^ 16) ranged.omegaRef (by omega)).bind
  intro v kept
  apply (checkedSpeed_sat positive small kept.1 _).bind
  intro vNext next
  apply (checkedKeep_sat _ (32767 * 2 ^ 16) next (by omega)).bind
  intro omega turned
  apply (checkedTravel_sat positive small turned.1).bind
  intro stepMag step
  apply (asU32_sat (by omega) (by omega)).bind
  intro reach _
  have alpha := sat32_range (-t.omegaRef)
  have change := sat32_range (omega - t.omegaRef)
  extract_lets toward land
  split
  next => exact .pure ⟨by simp only; omega, Nat.zero_le _, by simp only; omega⟩
  next =>
    apply (checkedAdvance_sat ranged omega step).bind
    intro thetaRef moved
    exact .pure ⟨moved, turned.1, by simp only; omega⟩

theorem checkedStepVelocity_sat {t : TrajGen} (ranged : t.Ranged) (goalVelocityCps : Int32) (thetaHat : Int) :
    (t.checkedStepVelocity goalVelocityCps thetaHat cfg).Sat Ranged := by
  have cap : velCapCps = 32767 := rfl
  have ramp : ((velCapCps >>> wallRampShift : Nat) : Int) = 2047 := rfl
  have scale (x : Int) : x * 2 ^ wallRampShift = x * 16 := rfl
  have speed := ranged.omegaRef
  have range := accel_range cfg
  apply (word_sat (by omega) (by omega)).bind
  intro a same
  apply (within_sat (by omega)).bind
  intro up above
  apply (within_sat (by omega)).bind
  intro dn below
  apply (word_sat (by rw [scale]; omega) (by rw [scale]; omega)).bind
  intro allowUp high
  apply (word_sat (by rw [scale]; omega) (by rw [scale]; omega)).bind
  intro allowDn low
  rw [scale] at high low
  apply (within_sat (by omega)).bind
  intro capped _
  apply (within_sat (by omega)).bind
  intro allowed inside
  apply (word_sat (by omega) (by omega)).bind
  intro goal target
  apply (slew_sat (by omega)).bind
  intro slew between
  have saturated : min 0 (goal - t.omegaRef) ≤ sat32 (goal - t.omegaRef) ∧
      sat32 (goal - t.omegaRef) ≤ max 0 (goal - t.omegaRef) := by
    rw [sat32, clamp]
    omega
  apply (i32_sat (by omega) (by omega)).bind
  intro omega sum
  have turned : omega.natAbs ≤ 32767 * 2 ^ 16 := by omega
  apply (checkedTravel_sat positive small turned).bind
  intro stepMag step
  apply (checkedAdvance_sat ranged omega step).bind
  intro thetaRef moved
  apply (i32_sat (by omega) (by omega)).bind
  intro alpha change
  exact .pure ⟨moved, turned, by simp only; omega⟩

end Profile

end TrajGen

namespace LimitState

structure Ranged (s : LimitState) : Prop where
  derateCache : s.derateCache ≤ 65535
  iLim : s.iLim ≤ 65535

theorem new_ranged : Ranged {} :=
  ⟨by decide, by decide⟩

theorem checkedCeiling_sat {tWindingCc span : Int} (winding : -2 ^ 15 ≤ tWindingCc) (narrow : span < 2 ^ 31)
    (cfg : LimitCfg) : (checkedCeiling tWindingCc span cfg).Sat (· ≤ 65535) := by
  have limit := cfg.currentLimitCounts.toNat_lt
  have cutoff := cfg.cutoffCc.toInt_lt
  unfold checkedCeiling
  split
  next => exact .pure (Nat.zero_le _)
  next below =>
    split
    next => exact .pure (by omega)
    next =>
      apply (word_sat (by omega) (by omega)).bind
      intro head same
      have product : cfg.currentLimitCounts.toNat * head.toNat ≤ 65535 * 65535 :=
        Nat.mul_le_mul (by omega) (by omega)
      apply (u32_sat (by omega)).bind
      intro num scaled
      apply (recipDiv_sat (by omega) (by omega)).bind
      intro quotient _
      exact .pure (by omega)

theorem checkedUpdateDerate_sat {s : LimitState} (ranged : s.Ranged) {tWindingCc : Int}
    (winding : -2 ^ 15 ≤ tWindingCc) (cfg : LimitCfg) : (s.checkedUpdateDerate tWindingCc cfg).Sat Ranged := by
  have low := cfg.derateStartCc.le_toInt
  have high := cfg.derateStartCc.toInt_lt
  have floor := cfg.cutoffCc.le_toInt
  have top := cfg.cutoffCc.toInt_lt
  apply (word_sat (by omega) (by omega)).bind
  intro span same
  apply (checkedCeiling_sat winding (by omega) cfg).bind
  intro derateCache ceiling
  exact .pure ⟨ceiling, ranged.iLim⟩

theorem band_ranged {lim : Nat} (small : lim ≤ 65535) (theta : Int) (cfg : LimitCfg) :
    (band lim theta cfg).Ranged where
  lo := Nat.le_trans (band_le lim theta cfg ⟨Int.le_refl _, Int.le_trans (IBand.lo_le _) (IBand.le_hi _)⟩) small
  hi := Nat.le_trans (band_le lim theta cfg ⟨Int.le_trans (IBand.lo_le _) (IBand.le_hi _), Int.le_refl _⟩) small

theorem fold_derateCache (s : LimitState) (iRefPinned : Bool) (omegaHatAbsCps tauDAbsCounts : Nat)
    (thetaHatCounts : Int) (cfg : LimitCfg) :
    (s.fold iRefPinned omegaHatAbsCps tauDAbsCounts thetaHatCounts cfg).2.derateCache = s.derateCache := by
  have released : (s.release tauDAbsCounts cfg).derateCache = s.derateCache := by
    unfold release
    split <;> rfl
  rw [← released]
  simp only [fold, respond, time]
  split <;> rfl

theorem checkedFold_sat {s : LimitState} (ranged : s.Ranged) (iRefPinned : Bool) (omegaHatAbsCps tauDAbsCounts : Nat)
    (thetaHatCounts : Int) (cfg : LimitCfg) :
    (s.checkedFold iRefPinned omegaHatAbsCps tauDAbsCounts thetaHatCounts cfg).Sat
      (fun out => out.1.Ranged ∧ out.2.Ranged) := by
  have word := cfg.currentLimitCounts.toNat_lt
  have cache := fold_derateCache s iRefPinned omegaHatAbsCps tauDAbsCounts thetaHatCounts cfg
  have limit : (s.fold iRefPinned omegaHatAbsCps tauDAbsCounts thetaHatCounts cfg).2.iLim ≤ 65535 :=
    Nat.le_trans (compose_le_current _ cfg) (by omega)
  have band : (s.fold iRefPinned omegaHatAbsCps tauDAbsCounts thetaHatCounts cfg).1.Ranged :=
    band_ranged limit _ cfg
  apply (word_sat (by omega) (by omega)).bind
  intro _ _
  exact .pure ⟨band, Nat.le_trans (Nat.le_of_eq cache) ranged.derateCache, limit⟩

end LimitState

end OpenServo.Motion
