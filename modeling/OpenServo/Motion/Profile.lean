import OpenServo.Motion.ProfileRanges

set_option autoImplicit false

namespace OpenServo.Motion

open OpenServo.Shared

namespace TrajGen

def vLim (cfg : TrajCfg) : Int :=
  min cfg.velLimitCps.toNat velCapCps * 2 ^ 16

def target (goalCounts : Int32) (cfg : TrajCfg) : Int :=
  clamp (clamp goalCounts.toInt (softLimits cfg).1 (softLimits cfg).2) (-goalLim) goalLim * 2 ^ 16

def covered (dt v : Int) : Int :=
  v * dt / 2 ^ 32

def pace (a lim dt v left : Int) : Int :=
  if v < 0 then min (v + a) lim
  else
    let vUp := v + clamp (lim - v) (-a) a
    if 2 * a * left ≤ (vUp + a) * covered dt vUp then max (v - a) 0 else vUp

/-- The goal is inside this tick's travel, or near enough at a speed that one step of acceleration ends. -/
def Arrives (a dt w left : Int) : Prop :=
  (0 ≤ w ∨ left = 0) ∧ left ≤ covered dt w.natAbs ∨ w.natAbs ≤ a ∧ left < 2 ^ 16

instance (a dt w left : Int) : Decidable (Arrives a dt w left) :=
  inferInstanceAs (Decidable (_ ∨ _))

section Along

variable (t : TrajGen) (goalCounts : Int32) (cfg : TrajCfg)

def left : Nat :=
  (target goalCounts cfg - t.thetaRef).natAbs

def along : Int :=
  if 0 ≤ target goalCounts cfg - t.thetaRef then t.omegaRef else -t.omegaRef

def paced : Int :=
  pace (accel cfg) (vLim cfg) cfg.dtMedQ32 (t.along goalCounts cfg) (t.left goalCounts cfg)

def headed : Int :=
  if 0 ≤ target goalCounts cfg - t.thetaRef then t.paced goalCounts cfg else -t.paced goalCounts cfg

def Arriving : Prop :=
  Arrives (accel cfg) cfg.dtMedQ32 (t.paced goalCounts cfg) (t.left goalCounts cfg)

instance : Decidable (t.Arriving goalCounts cfg) :=
  inferInstanceAs (Decidable (Arrives _ _ _ _))

end Along

theorem vLim_range (cfg : TrajCfg) : 0 ≤ vLim cfg ∧ vLim cfg ≤ 32767 * 2 ^ 16 := by
  have cap : velCapCps = 32767 := rfl
  rw [vLim]
  omega

theorem reseed_ranged (thetaHat : Int) : (reseed thetaHat).Ranged := by
  rw [← checkedReseed_val]
  exact (checkedReseed_sat thetaHat).2

theorem target_range (goalCounts : Int32) (cfg : TrajCfg) : (target goalCounts cfg).natAbs ≤ 2 ^ 29 := by
  have goals : goalLim = (2 ^ 13 : Nat) := rfl
  have inside := @natAbs_clamp_le (clamp goalCounts.toInt (softLimits cfg).1 (softLimits cfg).2) (2 ^ 13)
  rw [target, goals]
  omega

section Covered

variable {dt v w : Int} (positive : 0 ≤ dt)

include positive

theorem covered_nonneg (forward : 0 ≤ v) : 0 ≤ covered dt v :=
  Int.ediv_nonneg (Int.mul_nonneg forward positive) (by decide)

theorem covered_mono (le : v ≤ w) : covered dt v ≤ covered dt w :=
  Int.ediv_le_ediv (by decide) (Int.mul_le_mul_of_nonneg_right le positive)

variable (small : dt < 2 ^ 31)

include small

theorem covered_le (forward : 0 ≤ v) : 2 * covered dt v ≤ v := by
  have wide : v * dt ≤ v * 2 ^ 31 := Int.mul_le_mul_of_nonneg_left (by omega) forward
  rw [covered]
  omega

theorem qMul_eq_covered (forward : 0 ≤ v) (word : v < 2 ^ 31) : qMul v dt 32 = covered dt v := by
  have low := covered_nonneg positive forward
  have high := covered_le positive small forward
  rw [covered] at low high ⊢
  exact qMul_of_mem (by omega) (by omega)

end Covered

section Pace

variable {a lim dt v left : Int} (accelerates : 0 ≤ a) (limited : 0 ≤ lim)

include accelerates limited

theorem pace_near : (pace a lim dt v left - v).natAbs ≤ a := by
  unfold pace
  split
  next => omega
  next forward =>
    dsimp only
    split
    next => omega
    next => simp only [clamp]; omega

theorem pace_nonneg (forward : 0 ≤ v) : 0 ≤ pace a lim dt v left := by
  rw [pace, if_neg (by omega)]
  dsimp only
  split
  next => omega
  next => simp only [clamp]; omega

theorem pace_le (forward : 0 ≤ v) (below : v ≤ lim) : pace a lim dt v left ≤ lim := by
  rw [pace, if_neg (by omega)]
  dsimp only
  split
  next => omega
  next => simp only [clamp]; omega

theorem pace_bound {bound : Int} (fast : v.natAbs ≤ bound) (most : lim ≤ bound) :
    (pace a lim dt v left).natAbs ≤ bound := by
  unfold pace
  split
  next => omega
  next forward =>
    dsimp only
    split
    next => omega
    next => simp only [clamp]; omega

end Pace

section Step

variable {cfg : TrajCfg} (positive : 0 ≤ cfg.dtMedQ32) (small : cfg.dtMedQ32 < 2 ^ 31)

include positive small

theorem speed_eq {v left : Int} (bounded : v.natAbs ≤ 32767 * 2 ^ 16) (ahead : 0 ≤ left) :
    speed v left cfg = pace (accel cfg) (vLim cfg) cfg.dtMedQ32 v left := by
  have range := accel_range cfg
  have limit := vLim_range cfg
  have same : (min cfg.velLimitCps.toNat velCapCps * 2 ^ 16 : Int) = vLim cfg := rfl
  rw [speed, same, pace]
  split
  next away => rw [wrap32_of_mem (by omega) (by omega)]
  next forward =>
    rw [@wrap32_of_mem (vLim cfg - v) (by omega) (by omega)]
    have room : v + clamp (vLim cfg - v) (-accel cfg) (accel cfg) ≤ 32767 * 2 ^ 16 ∧
        0 ≤ v + clamp (vLim cfg - v) (-accel cfg) (accel cfg) := by
      simp only [clamp]
      omega
    generalize v + clamp (vLim cfg - v) (-accel cfg) (accel cfg) = vUp at room
    dsimp only
    rw [@wrap32_of_mem vUp (by omega) (by omega), @wrap32_of_mem (v - accel cfg) (by omega) (by omega),
      qMul_eq_covered positive small room.2 (by omega)]
    have travel := covered_nonneg positive room.2
    have short := covered_le positive small room.2
    rw [Int.emod_eq_of_lt (by omega) (by omega), Int.emod_eq_of_lt travel (by omega)]
    have test : wideGe (vUp + accel cfg).toNat (covered cfg.dtMedQ32 vUp).toNat (2 * accel cfg).toNat left.toNat = true ↔
        2 * accel cfg * left ≤ (vUp + accel cfg) * covered cfg.dtMedQ32 vUp := by
      rw [wideGe, decide_eq_true_eq, ← Int.ofNat_le, Int.natCast_mul, Int.natCast_mul, Int.toNat_of_nonneg (by omega),
        Int.toNat_of_nonneg ahead, Int.toNat_of_nonneg (by omega), Int.toNat_of_nonneg travel]
    by_cases brakes : 2 * accel cfg * left ≤ (vUp + accel cfg) * covered cfg.dtMedQ32 vUp
    next => rw [if_pos (test.mpr brakes), if_pos brakes]
    next => rw [if_neg (mt test.mp brakes), if_neg brakes]

variable {t : TrajGen} (ranged : t.Ranged) (goalCounts : Int32)

include ranged

omit positive small in
theorem along_bound : ((t.along goalCounts cfg).natAbs : Int) ≤ 32767 * 2 ^ 16 := by
  have speed := ranged.omegaRef
  rw [along]
  split <;> omega

omit positive small in
theorem paced_bound : ((t.paced goalCounts cfg).natAbs : Int) ≤ 32767 * 2 ^ 16 :=
  pace_bound (accel_range cfg).1 (vLim_range cfg).1 (along_bound ranged goalCounts) (vLim_range cfg).2

omit positive small ranged in
theorem headed_near : ((t.headed goalCounts cfg - t.omegaRef).natAbs : Int) ≤ accel cfg := by
  have slew : ((t.paced goalCounts cfg - t.along goalCounts cfg).natAbs : Int) ≤ accel cfg :=
    pace_near (accel_range cfg).1 (vLim_range cfg).1
  rw [along] at slew
  rw [headed]
  split at slew <;> omega

omit positive small ranged in
theorem headed_natAbs : (t.headed goalCounts cfg).natAbs = (t.paced goalCounts cfg).natAbs := by
  rw [headed]
  split <;> omega

omit positive small ranged in
theorem toward_iff :
    (if 0 < t.headed goalCounts cfg then decide (0 ≤ target goalCounts cfg - t.thetaRef)
      else if t.headed goalCounts cfg < 0 then decide (target goalCounts cfg - t.thetaRef ≤ 0) else true) = true ↔
      (0 ≤ t.paced goalCounts cfg ∨ (t.left goalCounts cfg : Int) = 0) := by
  rw [headed, left]
  generalize target goalCounts cfg - t.thetaRef = d
  generalize t.paced goalCounts cfg = w
  by_cases up : 0 ≤ d
  next =>
    rw [if_pos up]
    split
    next => simp only [decide_eq_true_eq]; omega
    next =>
      split
      next => simp only [decide_eq_true_eq]; omega
      next => simp only [true_iff]; omega
  next =>
    rw [if_neg up]
    split
    next => simp only [decide_eq_true_eq]; omega
    next =>
      split
      next => simp only [decide_eq_true_eq]; omega
      next => simp only [true_iff]; omega

omit positive small ranged in
theorem lands_iff {travel : Int} (travelled : covered cfg.dtMedQ32 (t.paced goalCounts cfg).natAbs = travel)
    (forward : 0 ≤ travel) (fits : travel < 2 ^ 32) :
    ((if 0 < t.headed goalCounts cfg then decide (0 ≤ target goalCounts cfg - t.thetaRef)
      else if t.headed goalCounts cfg < 0 then decide (target goalCounts cfg - t.thetaRef ≤ 0) else true) &&
      decide (t.left goalCounts cfg ≤ (travel % 2 ^ 32).toNat) ||
        decide ((t.headed goalCounts cfg).natAbs ≤ (accel cfg).toNat) && decide (t.left goalCounts cfg < snapD)) = true ↔
      t.Arriving goalCounts cfg := by
  have range := accel_range cfg
  have snap : snapD = 2 ^ 16 := rfl
  have inside : t.left goalCounts cfg ≤ (travel % 2 ^ 32).toNat ↔ (t.left goalCounts cfg : Int) ≤ travel := by omega
  have slow : (t.paced goalCounts cfg).natAbs ≤ (accel cfg).toNat ↔
      ((t.paced goalCounts cfg).natAbs : Int) ≤ accel cfg := by omega
  have close : t.left goalCounts cfg < 2 ^ 16 ↔ (t.left goalCounts cfg : Int) < 2 ^ 16 := by omega
  rw [Bool.or_eq_true, Bool.and_eq_true, Bool.and_eq_true, toward_iff, decide_eq_true_eq, decide_eq_true_eq,
    decide_eq_true_eq, headed_natAbs, snap, inside, slow, close, Arriving, Arrives, travelled]

theorem stepPosition_eq :
    t.stepPosition goalCounts cfg =
      if t.Arriving goalCounts cfg then ⟨target goalCounts cfg, 0, -t.omegaRef⟩
      else
        let travel := covered cfg.dtMedQ32 (t.paced goalCounts cfg).natAbs
        ⟨clamp (t.thetaRef + if 0 ≤ t.headed goalCounts cfg then travel else -travel) (-thetaLim) thetaLim,
          t.headed goalCounts cfg, t.headed goalCounts cfg - t.omegaRef⟩ := by
  have theta := ranged.thetaRef
  have speed := ranged.omegaRef
  have goals := target_range goalCounts cfg
  have range := accel_range cfg
  have near := @paced_bound cfg t ranged goalCounts
  have bound := @along_bound cfg t ranged goalCounts
  have change := @headed_near cfg t goalCounts
  have size := @headed_natAbs cfg t goalCounts
  -- No word wraps: the ranges of the profile leave room for every sum.
  have goal : wrap32 (clamp (clamp goalCounts.toInt (softLimits cfg).1 (softLimits cfg).2) (-goalLim) goalLim * 2 ^ 16) =
      target goalCounts cfg := wrap32_of_mem (by rw [← target]; omega) (by rw [← target]; omega)
  have gap : wrap32 (target goalCounts cfg - t.thetaRef) = target goalCounts cfg - t.thetaRef :=
    wrap32_of_mem (by omega) (by omega)
  have turned : wrap32 (-t.omegaRef) = -t.omegaRef := wrap32_of_mem (by omega) (by omega)
  rw [stepPosition]
  dsimp only
  rw [goal, gap, turned, ← along, ← left, speed_eq positive small (by omega) (by omega), ← paced,
    @wrap32_of_mem (-t.paced goalCounts cfg) (by omega) (by omega), ← headed,
    @wrap32_of_mem (-t.headed goalCounts cfg) (by omega) (by omega)]
  have forward : (if t.headed goalCounts cfg < 0 then -t.headed goalCounts cfg else t.headed goalCounts cfg) =
      (t.paced goalCounts cfg).natAbs := by
    split <;> omega
  rw [forward, qMul_eq_covered positive small (by omega) (by omega)]
  have covers : 0 ≤ covered cfg.dtMedQ32 (t.paced goalCounts cfg).natAbs ∧
      2 * covered cfg.dtMedQ32 (t.paced goalCounts cfg).natAbs ≤ (t.paced goalCounts cfg).natAbs :=
    ⟨covered_nonneg positive (by omega), covered_le positive small (by omega)⟩
  generalize travelled : covered cfg.dtMedQ32 (t.paced goalCounts cfg).natAbs = travel at covers
  have lands := lands_iff goalCounts travelled covers.1 (by omega)
  by_cases arrives : t.Arriving goalCounts cfg
  next =>
    have still : sat32 (-t.omegaRef) = -t.omegaRef := clamp_of_mem (by omega) (by omega)
    rw [if_pos (lands.mpr arrives), if_pos arrives, still]
  next =>
    have slewed : sat32 (t.headed goalCounts cfg - t.omegaRef) = t.headed goalCounts cfg - t.omegaRef :=
      clamp_of_mem (by omega) (by omega)
    have moved : wrap32 (t.thetaRef + if 0 ≤ t.headed goalCounts cfg then travel else wrap32 (-travel)) =
        t.thetaRef + if 0 ≤ t.headed goalCounts cfg then travel else -travel := by
      rw [@wrap32_of_mem (-travel) (by omega) (by omega)]
      exact wrap32_of_mem (by split <;> omega) (by split <;> omega)
    rw [if_neg (mt lands.mp arrives), if_neg arrives, slewed, moved]

end Step

end TrajGen

end OpenServo.Motion
