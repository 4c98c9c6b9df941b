import Mathlib.Algebra.BigOperators.Intervals
import Mathlib.Algebra.Order.BigOperators.Group.Finset
import Mathlib.Logic.Function.Iterate
import Mathlib.Tactic.Linarith
import OpenServo.Motion.Profile

set_option autoImplicit false

namespace OpenServo.Motion

open OpenServo.Shared

namespace TrajGen

/-- `2^32 / 2000`, the tick of the medium rate. -/
def dtMed : Int := 2147483

section Travel

theorem two_mul_sum_le {f : Nat → Int} (grows : ∀ i j, f i + f j ≤ f (i + j)) (n : Nat) :
    2 * (Finset.range (n + 1)).sum f ≤ (n + 1) * f n := by
  have mirrored : (Finset.range (n + 1)).sum (fun i => f (n - i)) = (Finset.range (n + 1)).sum f := by
    have reflected := Finset.sum_range_reflect f (n + 1)
    simpa using reflected
  have paired : (Finset.range (n + 1)).sum (fun i => f i + f (n - i)) ≤ (Finset.range (n + 1)).sum (fun _ => f n) := by
    apply Finset.sum_le_sum
    intro i member
    have inside := Finset.mem_range.mp member
    have whole := grows i (n - i)
    rwa [Nat.add_sub_cancel' (by omega)] at whole
  rw [Finset.sum_add_distrib, mirrored, Finset.sum_const, Finset.card_range, nsmul_eq_mul] at paired
  push_cast at paired
  linarith

theorem covered_dtMed (v : Int) : covered dtMed v = v * 2147483 / 4294967296 := rfl

end Travel

section Choice

variable {a lim dt v left : Int}

theorem pace_choice (accelerates : 0 ≤ a) (forward : 0 ≤ v) (below : v ≤ lim) :
    2 * a * left ≤ (min (v + a) lim + a) * covered dt (min (v + a) lim) ∧ pace a lim dt v left = max (v - a) 0 ∨
      (min (v + a) lim + a) * covered dt (min (v + a) lim) < 2 * a * left ∧ pace a lim dt v left = min (v + a) lim := by
  have up : v + clamp (lim - v) (-a) a = min (v + a) lim := by
    simp only [clamp]
    omega
  rw [pace, if_neg (by omega)]
  dsimp only
  rw [up]
  by_cases brakes : 2 * a * left ≤ (min (v + a) lim + a) * covered dt (min (v + a) lim)
  next => exact .inl ⟨brakes, if_pos brakes⟩
  next => exact .inr ⟨by omega, if_neg brakes⟩

end Choice

/-- How many ticks a speed too low to move can last: an acceleration ends it, so does braking on it. -/
def rank (a v : Int) : Int :=
  if 2000 < v then 3 else (2000 - v) / a

section Rank

variable {a v : Int} (least : 768 ≤ a)

include least

theorem rank_slow (forward : 0 ≤ v) (slow : v ≤ 2000) : 0 ≤ rank a v ∧ rank a v ≤ 2 := by
  rw [rank, if_neg (by omega)]
  constructor
  next => exact Int.ediv_nonneg (by omega) (by omega)
  next =>
    have less : (2000 - v) / a < 3 := Int.ediv_lt_of_lt_mul (by omega) (by omega)
    omega

theorem rank_range (forward : 0 ≤ v) : 0 ≤ rank a v ∧ rank a v ≤ 3 := by
  by_cases slow : v ≤ 2000
  next =>
    have bound := rank_slow least forward slow
    omega
  next =>
    rw [rank, if_pos (by omega)]
    decide

theorem rank_step (slow : v + a ≤ 2000) : rank a (v + a) + 1 = rank a v := by
  have shift : 2000 - v = 2000 - (v + a) + 1 * a := by omega
  rw [rank, if_neg (by omega), rank, if_neg (by omega), shift, Int.add_mul_ediv_right _ _ (by omega)]

end Rank

section Progress

variable {a lim v left : Int} (most : a < 2 ^ 24) (fast : 65536 ≤ lim) (forward : 0 ≤ v) (below : v ≤ lim)

include most fast forward below

theorem far_cruises (least : 256 ≤ a) (slow : v ≤ 2000) (far : 65536 ≤ left) :
    pace a lim dtMed v left = min (v + a) lim := by
  have travel : covered dtMed (min (v + a) lim) ≤ 8390 := by
    rw [covered_dtMed]
    omega
  have onward : 0 ≤ covered dtMed (min (v + a) lim) := by
    rw [covered_dtMed]
    omega
  have near : (min (v + a) lim + a) * covered dtMed (min (v + a) lim) ≤ (2000 + 2 * a) * 8390 :=
    Int.mul_le_mul (by omega) travel onward (by omega)
  have wide : 2 * a * 65536 ≤ 2 * a * left := Int.mul_le_mul_of_nonneg_left far (by omega)
  rcases @pace_choice a lim dtMed v left (by omega) forward below with ⟨brakes, -⟩ | ⟨-, cruises⟩
  next => omega
  next => exact cruises

theorem progress (least : 768 ≤ a) (steps : v ≤ 2000 → v ≤ 2 * a) (ahead : 0 ≤ left)
    (going : ¬ Arrives a dtMed (pace a lim dtMed v left) left) :
    4 * (left - covered dtMed (pace a lim dtMed v left)) + rank a (pace a lim dtMed v left) < 4 * left + rank a v := by
  have onward : 0 ≤ pace a lim dtMed v left := pace_nonneg (by omega) (by omega) forward
  have accelerated : v ≤ 2000 → pace a lim dtMed v left ≤ 2000 → pace a lim dtMed v left = v + a := by
    intro slow still
    by_cases far : 65536 ≤ left
    next =>
      have cruises := far_cruises most fast forward below (by omega) slow far
      omega
    next =>
      -- It did not snap onto the goal, so it is faster than what braking would have left.
      have quick : a < pace a lim dtMed v left := by
        by_contra slower
        exact going (.inr ⟨by omega, by omega⟩)
      have bound := steps slow
      rcases @pace_choice a lim dtMed v left (by omega) forward below with ⟨-, braked⟩ | ⟨-, cruises⟩ <;> omega
  generalize pace a lim dtMed v left = w at accelerated onward going ⊢
  have before := rank_range least forward
  have after := rank_range least onward
  have moves := covered_dtMed w
  by_cases quick : 2000 < w
  next =>
    -- It covers ground.
    omega
  next =>
    by_cases moved : 2000 < v
    next =>
      have top : rank a v = 3 := if_pos moved
      have slow := rank_slow least onward (by omega)
      omega
    next =>
      have same := accelerated (by omega) (by omega)
      have step := rank_step least (show v + a ≤ 2000 by omega)
      rw [← same] at step
      omega

end Progress

structure Forward (goalCounts : Int32) (cfg : TrajCfg) (t : TrajGen) : Prop where
  ranged : t.Ranged
  nonneg : 0 ≤ t.along goalCounts cfg
  below : t.along goalCounts cfg ≤ vLim cfg

def Between (goal before after : Int) : Prop :=
  (before ≤ goal → before ≤ after ∧ after ≤ goal) ∧ (goal ≤ before → goal ≤ after ∧ after ≤ before)

section Flight

variable {cfg : TrajCfg} {goalCounts : Int32} {t : TrajGen} (rate : cfg.dtMedQ32 = dtMed)
  (forward : t.Forward goalCounts cfg)

include rate forward

theorem Forward.arrive (arrives : t.Arriving goalCounts cfg) :
    t.stepPosition goalCounts cfg = ⟨target goalCounts cfg, 0, -t.omegaRef⟩ := by
  rw [stepPosition_eq (by rw [rate]; decide) (by rw [rate]; decide) forward.ranged, if_pos arrives]

omit rate in
theorem Forward.paced_range : 0 ≤ t.paced goalCounts cfg ∧ t.paced goalCounts cfg ≤ vLim cfg := by
  have range := accel_range cfg
  have limit := vLim_range cfg
  exact ⟨pace_nonneg range.1 limit.1 forward.nonneg, pace_le range.1 limit.1 forward.nonneg forward.below⟩

theorem Forward.short (going : ¬ t.Arriving goalCounts cfg) :
    covered dtMed (t.paced goalCounts cfg) < t.left goalCounts cfg := by
  have onward := forward.paced_range.1
  by_contra near
  apply going
  rw [Arriving, Arrives, rate, Int.natAbs_of_nonneg onward]
  exact .inl ⟨.inl onward, by omega⟩

theorem Forward.stepPosition_eq (going : ¬ t.Arriving goalCounts cfg) :
    t.stepPosition goalCounts cfg =
      ⟨if 0 ≤ target goalCounts cfg - t.thetaRef then t.thetaRef + covered dtMed (t.paced goalCounts cfg)
        else t.thetaRef - covered dtMed (t.paced goalCounts cfg),
        t.headed goalCounts cfg, t.headed goalCounts cfg - t.omegaRef⟩ := by
  have positive : 0 ≤ cfg.dtMedQ32 := by rw [rate]; decide
  have small : cfg.dtMedQ32 < 2 ^ 31 := by rw [rate]; decide
  have goals := target_range goalCounts cfg
  have theta := forward.ranged.thetaRef
  have onward := forward.paced_range.1
  have travel : 0 ≤ covered dtMed (t.paced goalCounts cfg) := covered_nonneg (by decide) onward
  have short := forward.short rate going
  rw [left] at short
  have guard : thetaLim = 2 ^ 29 := rfl
  have position : clamp (t.thetaRef + if 0 ≤ t.headed goalCounts cfg then covered dtMed (t.paced goalCounts cfg)
      else -covered dtMed (t.paced goalCounts cfg)) (-thetaLim) thetaLim =
      if 0 ≤ target goalCounts cfg - t.thetaRef then t.thetaRef + covered dtMed (t.paced goalCounts cfg)
      else t.thetaRef - covered dtMed (t.paced goalCounts cfg) := by
    rw [headed, guard]
    split
    next up => exact clamp_of_mem (by omega) (by omega)
    next down =>
      by_cases stopped : t.paced goalCounts cfg = 0
      next =>
        have still : covered dtMed (t.paced goalCounts cfg) = 0 := by
          rw [stopped]
          rfl
        rw [still, if_pos (by omega)]
        exact clamp_of_mem (by omega) (by omega)
      next =>
        rw [if_neg (by omega)]
        exact clamp_of_mem (by omega) (by omega)
  rw [TrajGen.stepPosition_eq positive small forward.ranged goalCounts, if_neg going, rate,
    Int.natAbs_of_nonneg onward]
  dsimp only
  rw [position]

theorem Forward.travel (going : ¬ t.Arriving goalCounts cfg) :
    (t.stepPosition goalCounts cfg).Forward goalCounts cfg ∧
      ((t.stepPosition goalCounts cfg).left goalCounts cfg : Int) =
        t.left goalCounts cfg - covered dtMed (t.paced goalCounts cfg) ∧
      (t.stepPosition goalCounts cfg).along goalCounts cfg = t.paced goalCounts cfg ∧
      ((t.stepPosition goalCounts cfg).alphaLast.natAbs : Int) ≤ accel cfg ∧
      Between (target goalCounts cfg) t.thetaRef (t.stepPosition goalCounts cfg).thetaRef := by
  have positive : 0 ≤ cfg.dtMedQ32 := by rw [rate]; decide
  have small : cfg.dtMedQ32 < 2 ^ 31 := by rw [rate]; decide
  obtain ⟨onward, below⟩ := forward.paced_range
  have slow := @headed_near cfg t goalCounts
  have travel : 0 ≤ covered dtMed (t.paced goalCounts cfg) := covered_nonneg (by decide) onward
  have short := forward.short rate going
  have ranged : (t.stepPosition goalCounts cfg).Ranged := by
    rw [← checkedStepPosition_val]
    exact (checkedStepPosition_sat positive small forward.ranged goalCounts).2
  have next := forward.stepPosition_eq rate going
  have speed : (t.stepPosition goalCounts cfg).omegaRef = t.headed goalCounts cfg := by rw [next]
  have alpha : (t.stepPosition goalCounts cfg).alphaLast = t.headed goalCounts cfg - t.omegaRef := by rw [next]
  have theta : (t.stepPosition goalCounts cfg).thetaRef =
      if 0 ≤ target goalCounts cfg - t.thetaRef then t.thetaRef + covered dtMed (t.paced goalCounts cfg)
      else t.thetaRef - covered dtMed (t.paced goalCounts cfg) := by rw [next]
  rw [left] at short
  have side : (t.stepPosition goalCounts cfg).along goalCounts cfg = t.paced goalCounts cfg := by
    rw [along, theta, speed, headed]
    split
    next up => rw [if_pos (by omega)]
    next down => rw [if_neg (by omega), Int.neg_neg]
  refine ⟨⟨ranged, by rw [side]; exact onward, by rw [side]; exact below⟩, ?_, side, ?_, ?_⟩
  next =>
    rw [left, left, theta]
    split <;> omega
  next =>
    rw [alpha]
    exact slow
  next =>
    rw [Between, theta]
    split <;> omega

end Flight

def Landed (goalCounts : Int32) (cfg : TrajCfg) (t : TrajGen) : Prop :=
  t.thetaRef = target goalCounts cfg ∧ t.omegaRef = 0

instance (goalCounts : Int32) (cfg : TrajCfg) (t : TrajGen) : Decidable (t.Landed goalCounts cfg) :=
  inferInstanceAs (Decidable (_ ∧ _))

theorem Landed.arriving {cfg : TrajCfg} {goalCounts : Int32} {t : TrajGen} (rate : cfg.dtMedQ32 = dtMed)
    (landed : t.Landed goalCounts cfg) : t.Arriving goalCounts cfg := by
  have out : t.left goalCounts cfg = 0 := by
    rw [left, landed.1]
    omega
  rw [Arriving, Arrives, out, rate]
  exact .inl ⟨.inr rfl, covered_nonneg (by decide) (by omega)⟩

def ticked (goalCounts : Int32) (cfg : TrajCfg) (n : Nat) (t : TrajGen) : TrajGen :=
  (stepPosition · goalCounts cfg)^[n] t

theorem ticked_succ (goalCounts : Int32) (cfg : TrajCfg) (n : Nat) (t : TrajGen) :
    t.ticked goalCounts cfg (n + 1) = (t.ticked goalCounts cfg n).stepPosition goalCounts cfg :=
  Function.iterate_succ_apply' _ n t

section Ticked

variable {cfg : TrajCfg} {goalCounts : Int32} {t : TrajGen} (rate : cfg.dtMedQ32 = dtMed)
  (forward : t.Forward goalCounts cfg)

include rate forward

theorem Forward.step :
    (t.stepPosition goalCounts cfg).Forward goalCounts cfg ∧
      Between (target goalCounts cfg) t.thetaRef (t.stepPosition goalCounts cfg).thetaRef ∧
      (¬ (t.stepPosition goalCounts cfg).Landed goalCounts cfg →
        ((t.stepPosition goalCounts cfg).alphaLast.natAbs : Int) ≤ accel cfg) ∧
      (t.Landed goalCounts cfg → (t.stepPosition goalCounts cfg).Landed goalCounts cfg) := by
  by_cases arrives : t.Arriving goalCounts cfg
  next =>
    have landing := forward.arrive rate arrives
    have landed : (t.stepPosition goalCounts cfg).Landed goalCounts cfg := by
      rw [landing]
      exact ⟨rfl, rfl⟩
    have still : (t.stepPosition goalCounts cfg).along goalCounts cfg = 0 := by
      rw [along, landed.2]
      exact ite_self 0
    have ranged : (t.stepPosition goalCounts cfg).Ranged := by
      rw [← checkedStepPosition_val]
      exact (checkedStepPosition_sat (by rw [rate]; decide) (by rw [rate]; decide) forward.ranged goalCounts).2
    have limit := vLim_range cfg
    refine ⟨⟨ranged, by omega, by omega⟩, ?_, fun going => absurd landed going, fun _ => landed⟩
    rw [Between, landed.1]
    omega
  next =>
    obtain ⟨onward, -, -, slewed, between⟩ := forward.travel rate arrives
    exact ⟨onward, between, fun _ => slewed, fun landed => absurd (landed.arriving rate) arrives⟩

theorem Forward.ticked (n : Nat) : (t.ticked goalCounts cfg n).Forward goalCounts cfg := by
  induction n with
  | zero => exact forward
  | succ n ih =>
    rw [ticked_succ]
    exact (ih.step rate).1

theorem Forward.stays (landed : t.Landed goalCounts cfg) (n : Nat) :
    (t.ticked goalCounts cfg n).Landed goalCounts cfg := by
  induction n with
  | zero => exact landed
  | succ n ih =>
    rw [ticked_succ]
    exact ((forward.ticked rate n).step rate).2.2.2 ih

/-- What every tick that does not arrive keeps, of the distance and the speed, brings the profile to its goal when it
keeps slow speeds within two steps of acceleration. -/
theorem Forward.lands (least : 768 ≤ accel cfg) (fast : 65536 ≤ vLim cfg) (Keeps : Int → Int → Prop)
    (keeps : ∀ left v, Keeps left v → 0 ≤ v → v ≤ vLim cfg →
      Keeps (left - covered dtMed (pace (accel cfg) (vLim cfg) dtMed v left)) (pace (accel cfg) (vLim cfg) dtMed v left))
    (steps : ∀ left v, Keeps left v → v ≤ 2000 → v ≤ 2 * accel cfg)
    (start : Keeps (t.left goalCounts cfg) (t.along goalCounts cfg)) :
    ∃ n, (t.ticked goalCounts cfg n).Landed goalCounts cfg := by
  generalize measure : (4 * t.left goalCounts cfg + rank (accel cfg) (t.along goalCounts cfg)).toNat = size
  induction size using Nat.strong_induction_on generalizing t with
  | _ size ih =>
    by_cases arrives : t.Arriving goalCounts cfg
    next =>
      refine ⟨1, ?_⟩
      rw [TrajGen.ticked, Function.iterate_one, forward.arrive rate arrives]
      exact ⟨rfl, rfl⟩
    next =>
      obtain ⟨onward, distance, speed, -, -⟩ := forward.travel rate arrives
      have kept := keeps (t.left goalCounts cfg) (t.along goalCounts cfg) start forward.nonneg forward.below
      have nearer : 4 * ((t.stepPosition goalCounts cfg).left goalCounts cfg : Int) +
          rank (accel cfg) ((t.stepPosition goalCounts cfg).along goalCounts cfg) <
          4 * t.left goalCounts cfg + rank (accel cfg) (t.along goalCounts cfg) := by
        rw [Arriving, rate] at arrives
        rw [distance, speed, paced, rate]
        rw [paced, rate] at arrives
        exact progress (accel_range cfg).2 fast forward.nonneg forward.below least
          (steps (t.left goalCounts cfg) (t.along goalCounts cfg) start) (by omega) arrives
      have positive := (rank_range least onward.nonneg).1
      have remaining := ih _ (by omega) onward (by rw [distance, speed, paced, rate]; exact kept) rfl
      obtain ⟨n, landed⟩ := remaining
      exact ⟨n + 1, landed⟩

end Ticked

end TrajGen

end OpenServo.Motion
