import Mathlib.Algebra.Order.Ring.Int
import OpenServo.Motion.Profile
import OpenServo.Shared.Run

set_option autoImplicit false

namespace OpenServo.Motion

open OpenServo.Shared

inductive ProfileCall where
  | position (goalCounts : Int32) (cfg : TrajCfg)
  | velocity (goalVelocityCps : Int32) (thetaHat : Int) (cfg : TrajCfg)

def ProfileCall.cfg : ProfileCall → TrajCfg
  | position _ cfg => cfg
  | velocity _ _ cfg => cfg

namespace TrajGen

def step (t : TrajGen) : ProfileCall → TrajGen
  | .position goalCounts cfg => t.stepPosition goalCounts cfg
  | .velocity goalVelocityCps thetaHat cfg => t.stepVelocity goalVelocityCps thetaHat cfg

def change (t : TrajGen) (call : ProfileCall) : Int :=
  (t.step call).omegaRef - t.omegaRef

def Lands (t : TrajGen) : ProfileCall → Prop
  | .position goalCounts cfg =>
    (t.stepPosition goalCounts cfg).thetaRef = target goalCounts cfg ∧ (t.stepPosition goalCounts cfg).omegaRef = 0
  | .velocity _ _ _ => False

instance (t : TrajGen) : (call : ProfileCall) → Decidable (t.Lands call)
  | .position _ _ => inferInstanceAs (Decidable (_ ∧ _))
  | .velocity _ _ _ => inferInstanceAs (Decidable False)

def Slewed (t : TrajGen) (call : ProfileCall) : Prop :=
  (t.change call).natAbs ≤ if t.Lands call then 2 * accel call.cfg else accel call.cfg

instance (t : TrajGen) (call : ProfileCall) : Decidable (t.Slewed call) :=
  inferInstanceAs (Decidable (_ ≤ _))

/-- A goal that is not met at speed: the reference is at most two steps of acceleration fast, or moves away from
the goal, or does not reach it in a tick even when it brakes. -/
def Calm (t : TrajGen) : ProfileCall → Prop
  | .position goalCounts cfg =>
    let d := target goalCounts cfg - t.thetaRef
    t.omegaRef.natAbs ≤ 2 * accel cfg ∨ t.omegaRef * d < 0 ∨
      qMul (t.omegaRef.natAbs - accel cfg) cfg.dtMedQ32 32 < d.natAbs
  | .velocity _ _ _ => True

instance (t : TrajGen) : (call : ProfileCall) → Decidable (t.Calm call)
  | .position _ _ => inferInstanceAs (Decidable (_ ∨ _))
  | .velocity _ _ _ => inferInstanceAs (Decidable True)

section Core

variable {a lim dt v left : Int} (positive : 0 ≤ dt) (accelerates : 0 ≤ a) (limited : 0 ≤ lim) (ahead : 0 ≤ left)

include positive accelerates limited ahead

theorem arrives_fast_iff (fast : 2 * a < v.natAbs) :
    Arrives a dt (pace a lim dt v left) left ↔ (0 ≤ v ∨ left = 0) ∧ left ≤ covered dt (v.natAbs - a) := by
  unfold pace
  split
  next away =>
    have slower : min (v + a) lim = v + a := by omega
    have size : ((v + a).natAbs : Int) = v.natAbs - a := by omega
    rw [slower, Arrives, size]
    constructor
    next =>
      rintro (⟨zero, near⟩ | ⟨slow, -⟩)
      next => exact ⟨by omega, near⟩
      next => omega
    next =>
      rintro ⟨zero, near⟩
      exact .inl ⟨by omega, near⟩
  next forward =>
    dsimp only
    have size : (v.natAbs : Int) = v := by omega
    split
    next brakes =>
      have slower : max (v - a) 0 = v - a := by omega
      have same : ((v - a).natAbs : Int) = v - a := by omega
      rw [slower, Arrives, same, size]
      constructor
      next =>
        rintro (⟨-, near⟩ | ⟨slow, -⟩)
        next => exact ⟨by omega, near⟩
        next => omega
      next =>
        rintro ⟨-, near⟩
        exact .inl ⟨by omega, near⟩
    next cruises =>
      -- It cruises only where it could still stop, so the goal is further off than a tick takes it.
      have range : v - a ≤ v + clamp (lim - v) (-a) a := by
        simp only [clamp]
        omega
      generalize v + clamp (lim - v) (-a) a = vUp at range cruises
      have further := covered_mono positive range
      have travel := @covered_nonneg dt vUp positive (by omega)
      have short : covered dt vUp < left := by
        by_contra near
        have product : 2 * a * left ≤ (vUp + a) * covered dt vUp :=
          Int.mul_le_mul (by omega) (by omega) ahead (by omega)
        exact cruises product
      have same : (vUp.natAbs : Int) = vUp := by omega
      rw [Arrives, same, size]
      constructor
      next => rintro (⟨-, near⟩ | ⟨slow, -⟩) <;> omega
      next =>
        rintro ⟨-, near⟩
        omega

end Core

section Law

variable {t : TrajGen} (ranged : t.Ranged)

include ranged

theorem step_ranged (call : ProfileCall) (positive : 0 ≤ call.cfg.dtMedQ32) (small : call.cfg.dtMedQ32 < 2 ^ 31) :
    (t.step call).Ranged := by
  cases call with
  | position goalCounts cfg =>
    rw [step, ← checkedStepPosition_val]
    exact (checkedStepPosition_sat positive small ranged goalCounts).2
  | velocity goalVelocityCps thetaHat cfg =>
    rw [step, ← checkedStepVelocity_val]
    exact (checkedStepVelocity_sat positive small ranged goalVelocityCps thetaHat).2

variable {cfg : TrajCfg} (positive : 0 ≤ cfg.dtMedQ32) (small : cfg.dtMedQ32 < 2 ^ 31)

section Position

include positive small

variable (goalCounts : Int32)

theorem alpha_position :
    (t.step (.position goalCounts cfg)).alphaLast = t.change (.position goalCounts cfg) := by
  rw [change, step, stepPosition_eq positive small ranged]
  by_cases arrives : t.Arriving goalCounts cfg
  next =>
    rw [if_pos arrives]
    exact (Int.zero_sub _).symm
  next => rw [if_neg arrives]

theorem arriving_fast_iff (fast : 2 * accel cfg < t.omegaRef.natAbs) :
    t.Arriving goalCounts cfg ↔ ¬ t.Calm (.position goalCounts cfg) := by
  have range := accel_range cfg
  have speed := ranged.omegaRef
  have size : (t.along goalCounts cfg).natAbs = t.omegaRef.natAbs := by
    rw [along]
    split <;> omega
  have away : t.omegaRef * (target goalCounts cfg - t.thetaRef) < 0 ↔
      ¬ (0 ≤ t.along goalCounts cfg ∨ (t.left goalCounts cfg : Int) = 0) := by
    rw [along, left, mul_neg_iff]
    split <;> omega
  have braked : qMul (t.omegaRef.natAbs - accel cfg) cfg.dtMedQ32 32 =
      covered cfg.dtMedQ32 (t.omegaRef.natAbs - accel cfg) := qMul_eq_covered positive small (by omega) (by omega)
  rw [Arriving, paced, arrives_fast_iff positive range.1 (vLim_range cfg).1 (by omega) (by rw [size]; exact fast), size]
  simp only [Calm]
  rw [away, braked, ← left]
  omega

theorem slewed_position_iff : t.Slewed (.position goalCounts cfg) ↔ t.Calm (.position goalCounts cfg) := by
  have range := accel_range cfg
  have near := @headed_near cfg t goalCounts
  by_cases arrives : t.Arriving goalCounts cfg
  next =>
    have landing : t.stepPosition goalCounts cfg = ⟨target goalCounts cfg, 0, -t.omegaRef⟩ := by
      rw [stepPosition_eq positive small ranged, if_pos arrives]
    have lands : t.Lands (.position goalCounts cfg) := by
      rw [Lands, landing]
      exact ⟨rfl, rfl⟩
    have stopped : t.change (.position goalCounts cfg) = -t.omegaRef := by
      rw [change, step, landing]
      exact Int.zero_sub _
    rw [Slewed, if_pos lands, stopped, Int.natAbs_neg]
    by_cases fast : 2 * accel cfg < t.omegaRef.natAbs
    next =>
      have met := (arriving_fast_iff ranged positive small goalCounts fast).mp arrives
      exact ⟨fun slow => absurd fast (Int.not_lt.mpr slow), fun calm => absurd calm met⟩
    next =>
      have slow := Int.not_lt.mp fast
      exact ⟨fun _ => .inl slow, fun _ => slow⟩
  next =>
    have going : t.change (.position goalCounts cfg) = t.headed goalCounts cfg - t.omegaRef := by
      rw [change, step, stepPosition_eq positive small ranged, if_neg arrives]
    have within : t.Slewed (.position goalCounts cfg) := by
      rw [Slewed, going]
      simp only [ProfileCall.cfg]
      split <;> omega
    refine ⟨fun _ => ?_, fun _ => within⟩
    by_cases fast : 2 * accel cfg < t.omegaRef.natAbs
    next => exact not_not.mp (mt (arriving_fast_iff ranged positive small goalCounts fast).mpr arrives)
    next => exact .inl (Int.not_lt.mp fast)

end Position

theorem slew_velocity (goalVelocityCps : Int32) (thetaHat : Int) :
    (t.step (.velocity goalVelocityCps thetaHat cfg)).alphaLast = t.change (.velocity goalVelocityCps thetaHat cfg) ∧
      t.Slewed (.velocity goalVelocityCps thetaHat cfg) := by
  have range := accel_range cfg
  have speed := ranged.omegaRef
  have shape : ∃ goal : Int, goal.natAbs ≤ 32767 * 2 ^ 16 ∧ (t.stepVelocity goalVelocityCps thetaHat cfg).omegaRef =
        wrap32 (t.omegaRef + clamp (sat32 (goal - t.omegaRef)) (-accel cfg) (accel cfg)) ∧
      (t.stepVelocity goalVelocityCps thetaHat cfg).alphaLast =
        wrap32 ((t.stepVelocity goalVelocityCps thetaHat cfg).omegaRef - t.omegaRef) := by
    refine ⟨_, ?_, rfl, rfl⟩
    have ramp : ((velCapCps >>> wallRampShift : Nat) : Int) = 2047 := rfl
    have scale (x : Int) : x * 2 ^ wallRampShift = x * 16 := rfl
    rw [ramp, scale, scale]
    have up := le_clamp (sat32 ((softLimits cfg).2 - thetaHat >>> (16 : Nat))) 0 2047
    have upMost := @clamp_le 0 2047 (sat32 ((softLimits cfg).2 - thetaHat >>> (16 : Nat))) (by decide)
    have dn := le_clamp (sat32 (thetaHat >>> (16 : Nat) - (softLimits cfg).1)) 0 2047
    have dnMost := @clamp_le 0 2047 (sat32 (thetaHat >>> (16 : Nat) - (softLimits cfg).1)) (by decide)
    generalize clamp (sat32 ((softLimits cfg).2 - thetaHat >>> (16 : Nat))) 0 2047 = allowUp at up upMost ⊢
    generalize clamp (sat32 (thetaHat >>> (16 : Nat) - (softLimits cfg).1)) 0 2047 = allowDn at dn dnMost ⊢
    simp only [clamp]
    omega
  obtain ⟨goal, bounded, omega, alpha⟩ := shape
  -- The slew ends between where it starts and the goal.
  have slew : -accel cfg ≤ clamp (sat32 (goal - t.omegaRef)) (-accel cfg) (accel cfg) ∧
      clamp (sat32 (goal - t.omegaRef)) (-accel cfg) (accel cfg) ≤ accel cfg ∧
      (t.omegaRef + clamp (sat32 (goal - t.omegaRef)) (-accel cfg) (accel cfg)).natAbs ≤ 32767 * 2 ^ 16 := by
    simp only [sat32, clamp]
    omega
  generalize clamp (sat32 (goal - t.omegaRef)) (-accel cfg) (accel cfg) = gain at omega slew
  rw [wrap32_of_mem (by omega) (by omega)] at omega
  have gained : t.change (.velocity goalVelocityCps thetaHat cfg) = gain := by
    rw [change, step, omega]
    omega
  constructor
  next =>
    rw [gained, step, alpha, omega, wrap32_of_mem (by omega) (by omega)]
    omega
  next =>
    rw [Slewed, if_neg (show ¬ t.Lands (.velocity goalVelocityCps thetaHat cfg) from fun lands => lands), gained]
    simp only [ProfileCall.cfg]
    omega

end Law

theorem step_law {t : TrajGen} (ranged : t.Ranged) (call : ProfileCall)
    (rate : 0 ≤ call.cfg.dtMedQ32 ∧ call.cfg.dtMedQ32 < 2 ^ 31) :
    (t.step call).alphaLast = t.change call ∧ (t.Slewed call ↔ t.Calm call) := by
  cases call with
  | position goalCounts cfg =>
    exact ⟨alpha_position ranged rate.1 rate.2 goalCounts, slewed_position_iff ranged rate.1 rate.2 goalCounts⟩
  | velocity goalVelocityCps thetaHat cfg =>
    obtain ⟨alpha, slewed⟩ := @slew_velocity t ranged cfg goalVelocityCps thetaHat
    exact ⟨alpha, fun _ => trivial, fun _ => slewed⟩

theorem run_law {t : TrajGen} (ranged : t.Ranged) (calls : List ProfileCall)
    (rate : ∀ call ∈ calls, 0 ≤ call.cfg.dtMedQ32 ∧ call.cfg.dtMedQ32 < 2 ^ 31) :
    Meets step (fun t call => (t.step call).alphaLast = t.change call) t calls ∧
      (Meets step Slewed t calls ↔ Meets step Calm t calls) := by
  induction calls generalizing t with
  | nil => exact ⟨trivial, Iff.rfl⟩
  | cons call calls ih =>
    have first := rate call List.mem_cons_self
    obtain ⟨alpha, slewed⟩ := step_law ranged call first
    obtain ⟨alphas, slews⟩ := ih (step_ranged ranged call first.1 first.2)
      (fun later member => rate later (List.mem_cons_of_mem _ member))
    exact ⟨⟨alpha, alphas⟩, and_congr slewed slews⟩

def retargetCfg : TrajCfg :=
  ⟨1000, 50 * 256, -100000, 100000, 2147483⟩

/-- Three ticks toward a far goal, and then one just ahead: the reference stops from three steps of acceleration. -/
theorem retarget_slams :
    ¬ Meets step Slewed (reseed (-12000))
      [.position 2000 retargetCfg, .position 2000 retargetCfg, .position 2000 retargetCfg, .position 0 retargetCfg] := by
  rintro ⟨-, -, -, last, -⟩
  exact absurd last (by decide)

theorem retarget_law (thetaHat : Int) (calls : List ProfileCall)
    (rate : ∀ call ∈ calls, 0 ≤ call.cfg.dtMedQ32 ∧ call.cfg.dtMedQ32 < 2 ^ 31) :
    Meets step (fun t call => (t.step call).alphaLast = t.change call) (reseed thetaHat) calls ∧
      (Meets step Slewed (reseed thetaHat) calls ↔ Meets step Calm (reseed thetaHat) calls) :=
  run_law (reseed_ranged thetaHat) calls rate

theorem retarget_law_calm :
    Meets step Slewed (reseed (-12000)) [.position 2000 retargetCfg, .velocity (-500) 0 retargetCfg] :=
  (retarget_law (-12000) [.position 2000 retargetCfg, .velocity (-500) 0 retargetCfg] (by decide)).2.mpr
    ⟨by decide, trivial, trivial⟩

end TrajGen

end OpenServo.Motion
