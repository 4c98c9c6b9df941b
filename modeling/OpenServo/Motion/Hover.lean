import OpenServo.Motion.Landing

set_option autoImplicit false

namespace OpenServo.Motion

open OpenServo.Shared

namespace TrajGen

def climbed (a : Int) (n : Nat) : Int :=
  (Finset.range n).sum fun i => covered dtMed (a * i)

theorem climbed_succ (a : Int) (n : Nat) : climbed a (n + 1) = climbed a n + covered dtMed (a * n) :=
  Finset.sum_range_succ _ n

theorem climbed_nonneg {a : Int} (accelerates : 0 ≤ a) (n : Nat) : 0 ≤ climbed a n :=
  Finset.sum_nonneg fun _ _ => covered_nonneg (by decide) (Int.mul_nonneg accelerates (by omega))

theorem covered_grows (a : Int) (i j : Nat) :
    covered dtMed (a * i) + covered dtMed (a * j) ≤ covered dtMed (a * (i + j : Nat)) := by
  have whole : a * ((i + j : Nat) : Int) = a * i + a * j := by
    push_cast
    exact Int.mul_add a i j
  rw [covered_dtMed, covered_dtMed, covered_dtMed, whole]
  omega

/-- Out of reach: some steps of acceleration fast, and more to go than on the whole way down. -/
def Hovers (a left v : Int) : Prop :=
  ∃ n : Nat, v = a * n ∧ climbed a n < left ∧ (n ≤ 1 → 65536 ≤ left)

theorem hover_step {a lim left v : Int} (slow : a = 256 ∨ a = 512) (whole : a ∣ lim) (fast : 65536 ≤ lim)
    (below : v ≤ lim) (hovers : Hovers a left v) :
    ¬ Arrives a dtMed (pace a lim dtMed v left) left ∧
      Hovers a (left - covered dtMed (pace a lim dtMed v left)) (pace a lim dtMed v left) := by
  obtain ⟨n, rfl, short, far⟩ := hovers
  obtain ⟨m, rfl⟩ := whole
  have onward : 0 ≤ a * n := Int.mul_nonneg (by omega) (by omega)
  have ahead := climbed_nonneg (show 0 ≤ a by omega) n
  have up : ∃ k : Nat, min (a * n + a) (a * m) = a * k ∧ n ≤ k ∧ k ≤ n + 1 ∧ 1 ≤ k := by
    refine ⟨min (n + 1) m.toNat, ?_⟩
    rcases slow with rfl | rfl <;> omega
  have still {k : Nat} (small : k ≤ 3) : covered dtMed (a * k) = 0 := by
    rw [covered_dtMed]
    rcases slow with rfl | rfl <;> omega
  obtain ⟨k, level, ge, le, positive⟩ := up
  rcases @pace_choice a (a * m) dtMed (a * n) left (by omega) onward below with
    ⟨brakes, paced⟩ | ⟨cruises, paced⟩
  next =>
    -- It brakes, so it moves, at least by three steps of acceleration.
    rw [level] at brakes
    have moves : 3 < k := by
      by_contra small
      rw [still (by omega), Int.mul_zero] at brakes
      rcases slow with rfl | rfl <;> omega
    obtain ⟨less, rfl⟩ : ∃ less, n = less + 1 := ⟨n - 1, by omega⟩
    have down : max (a * (less + 1 : Nat) - a) 0 = a * less := by
      rcases slow with rfl | rfl <;> omega
    have rest := climbed_nonneg (show 0 ≤ a by omega) less
    rw [climbed_succ] at short
    rw [paced, down]
    refine ⟨?_, less, rfl, by omega, by omega⟩
    rw [Arrives]
    have wide : a < a * less := by
      rcases slow with rfl | rfl <;> omega
    rw [Int.natAbs_of_nonneg (by omega)]
    omega
  next =>
    -- It cruises, so it could still stop: the way down is shorter.
    rw [level] at cruises paced
    have stops : (k + 1 : Int) * covered dtMed (a * k) < 2 * left := by
      have same : (a * k + a) * covered dtMed (a * k) = a * ((k + 1) * covered dtMed (a * k)) := by ring
      have twice : 2 * a * left = a * (2 * left) := by ring
      rw [same, twice] at cruises
      exact Int.lt_of_mul_lt_mul_left cruises (by omega)
    have ramp : 2 * climbed a (k + 1) ≤ (k + 1) * covered dtMed (a * k) := two_mul_sum_le (covered_grows a) k
    have rest := climbed_nonneg (show 0 ≤ a by omega) k
    rw [climbed_succ] at ramp
    rw [paced]
    refine ⟨?_, k, rfl, by omega, fun small => by rw [still (by omega)]; have := far (by omega); omega⟩
    rw [Arrives]
    have wide : a * k ≤ a → k ≤ 1 := by
      rcases slow with rfl | rfl <;> omega
    rw [Int.natAbs_of_nonneg (Int.mul_nonneg (by omega) (by omega))]
    omega

section Ramp

variable {lim v left start : Int}

def Climbing (lim start left v : Int) : Prop :=
  ∃ n : Nat, v = 768 * n ∧ 768 * (n : Int) ≤ lim ∧ left ≤ start - climbed 768 (n + 1)

theorem climbing_step (positive : 0 ≤ lim)
    (short : 2 * 768 * (start - climbed 768 ((lim / 768).toNat + 1)) ≤ (lim + 768) * covered dtMed lim)
    (climbing : Climbing lim start left v) :
    Climbing lim start (left - covered dtMed (pace 768 lim dtMed v left)) (pace 768 lim dtMed v left) := by
  obtain ⟨n, rfl, below, behind⟩ := climbing
  rcases @pace_choice 768 lim dtMed (768 * n) left (by decide) (by omega) below with
    ⟨-, paced⟩ | ⟨cruises, paced⟩
  next =>
    rw [paced]
    cases n with
    | zero =>
      have rest : max (768 * ((0 : Nat) : Int) - 768) 0 = 768 * (0 : Nat) := rfl
      have still : covered dtMed (768 * ((0 : Nat) : Int)) = 0 := rfl
      rw [rest, still]
      exact ⟨0, rfl, by omega, by omega⟩
    | succ n =>
      have down : max (768 * ((n + 1 : Nat) : Int) - 768) 0 = 768 * n := by omega
      have further := @covered_nonneg dtMed (768 * n) (by decide) (by omega)
      have travel := @covered_nonneg dtMed (768 * (n + 1 : Nat)) (by decide) (by omega)
      rw [climbed_succ] at behind
      rw [down]
      exact ⟨n, rfl, by omega, by omega⟩
  next =>
    rw [paced]
    by_cases top : 768 * (n : Int) + 768 ≤ lim
    next =>
      have up : min (768 * (n : Int) + 768) lim = 768 * (n + 1 : Nat) := by omega
      rw [up]
      refine ⟨n + 1, rfl, by omega, ?_⟩
      rw [climbed_succ]
      omega
    next =>
      -- The speed limit is next, and it would not stop from there.
      have level : (lim / 768).toNat = n := by omega
      have limit : min (768 * (n : Int) + 768) lim = lim := by omega
      rw [level] at short
      rw [limit] at cruises
      omega

end Ramp

/-- Where a start at rest ends on its goal: with four units of acceleration or more; from less than a count away; at
three units when the speed limit leaves none or two of them over, or is not reached. -/
def CanLand (goalCounts : Int32) (cfg : TrajCfg) (t : TrajGen) : Prop :=
  4 ≤ cfg.accelLimitQ88.toNat ∨ t.left goalCounts cfg < 2 ^ 16 ∨
    cfg.accelLimitQ88 = 3 ∧ (vLim cfg % accel cfg ≠ 256 ∨
      2 * accel cfg * (t.left goalCounts cfg - climbed (accel cfg) ((vLim cfg / accel cfg).toNat + 1)) ≤
        (vLim cfg + accel cfg) * covered dtMed (vLim cfg))

/-- On every tick toward one goal: toward it and not past it, within the speed limit, and within the acceleration
limit unless it lands. -/
structure Approaches (goalCounts : Int32) (cfg : TrajCfg) (t : TrajGen) : Prop where
  toward : ∀ n, Between (target goalCounts cfg) (t.ticked goalCounts cfg n).thetaRef
    (t.ticked goalCounts cfg (n + 1)).thetaRef
  within : ∀ n, ((t.ticked goalCounts cfg n).omegaRef.natAbs : Int) ≤ vLim cfg
  slewed : ∀ n, ¬ (t.ticked goalCounts cfg (n + 1)).Landed goalCounts cfg →
    ((t.ticked goalCounts cfg (n + 1)).alphaLast.natAbs : Int) ≤ accel cfg

def Settles (goalCounts : Int32) (cfg : TrajCfg) (t : TrajGen) : Prop :=
  ∃ n, ∀ k, n ≤ k → (t.ticked goalCounts cfg k).Landed goalCounts cfg

section Law

variable {cfg : TrajCfg} {goalCounts : Int32} {t : TrajGen} (rate : cfg.dtMedQ32 = dtMed)
  (forward : t.Forward goalCounts cfg)

include rate forward

theorem Forward.approaches : t.Approaches goalCounts cfg where
  toward n := by
    rw [ticked_succ]
    exact ((forward.ticked rate n).step rate).2.1
  within n := by
    have flies := forward.ticked rate n
    have nonneg := flies.nonneg
    have below := flies.below
    rw [along] at nonneg below
    split at below <;> omega
  slewed n := by
    rw [ticked_succ]
    exact ((forward.ticked rate n).step rate).2.2.1

theorem Forward.settles_of_landed {n : Nat} (landed : (t.ticked goalCounts cfg n).Landed goalCounts cfg) :
    t.Settles goalCounts cfg := by
  refine ⟨n, fun k later => ?_⟩
  obtain ⟨more, rfl⟩ := Nat.exists_eq_add_of_le' later
  rw [TrajGen.ticked, Function.iterate_add_apply]
  exact (forward.ticked rate n).stays rate landed more

theorem Forward.hovers_ticked (slow : accel cfg = 256 ∨ accel cfg = 512) (fast : 65536 ≤ vLim cfg)
    (hovers : Hovers (accel cfg) (t.left goalCounts cfg) (t.along goalCounts cfg)) (n : Nat) :
    Hovers (accel cfg) ((t.ticked goalCounts cfg n).left goalCounts cfg)
      ((t.ticked goalCounts cfg n).along goalCounts cfg) := by
  induction n with
  | zero => exact hovers
  | succ n ih =>
    have flies := forward.ticked rate n
    have whole : accel cfg ∣ vLim cfg := by
      rw [vLim]
      rcases slow with slow | slow <;> rw [slow] <;> omega
    obtain ⟨going, next⟩ := hover_step slow whole fast flies.below ih
    rw [← rate] at going
    obtain ⟨-, distance, speed, -, -⟩ := flies.travel rate going
    rw [ticked_succ, distance, speed, paced, rate]
    exact next

theorem Forward.not_settles (slow : accel cfg = 256 ∨ accel cfg = 512) (fast : 65536 ≤ vLim cfg)
    (hovers : Hovers (accel cfg) (t.left goalCounts cfg) (t.along goalCounts cfg)) : ¬ t.Settles goalCounts cfg := by
  rintro ⟨n, landed⟩
  obtain ⟨level, -, short, -⟩ := forward.hovers_ticked rate slow fast hovers n
  have ahead := climbed_nonneg (show 0 ≤ accel cfg by omega) level
  have out := (landed n (Nat.le_refl n)).1
  rw [left, out] at short
  omega

end Law

theorem hovers_of_rest {cfg : TrajCfg} {goalCounts : Int32} {t : TrajGen} (rest : t.omegaRef = 0)
    (far : 2 ^ 16 ≤ t.left goalCounts cfg) : Hovers (accel cfg) (t.left goalCounts cfg) (t.along goalCounts cfg) := by
  have still : t.along goalCounts cfg = 0 := by
    rw [along, rest]
    exact ite_self 0
  have bottom : climbed (accel cfg) 0 = 0 := rfl
  rw [still]
  exact ⟨0, (Int.mul_zero _).symm, by omega, fun _ => by omega⟩

theorem settles_of_canLand {cfg : TrajCfg} {goalCounts : Int32} {t : TrajGen} (rate : cfg.dtMedQ32 = dtMed)
    (forward : t.Forward goalCounts cfg) (rest : t.omegaRef = 0) (fast : 65536 ≤ vLim cfg) (moves : 256 ≤ accel cfg)
    (canLand : t.CanLand goalCounts cfg) : t.Settles goalCounts cfg := by
  have still : t.along goalCounts cfg = 0 := by
    rw [along, rest]
    exact ite_self 0
  have units : accel cfg = cfg.accelLimitQ88.toNat * 256 := rfl
  obtain quick | near | ⟨three, slack | short⟩ := canLand
  next =>
    obtain ⟨n, landed⟩ := forward.lands rate (by omega) fast (fun _ _ => True) (fun _ _ _ _ _ => trivial)
      (fun _ v _ slow => by omega) trivial
    exact forward.settles_of_landed rate landed
  next =>
    have arrives : t.Arriving goalCounts cfg := by
      have slow := @pace_near (accel cfg) (vLim cfg) cfg.dtMedQ32 0 (t.left goalCounts cfg) (by omega) (by omega)
      rw [Arriving, Arrives, paced, still]
      omega
    have landed : (t.ticked goalCounts cfg 1).Landed goalCounts cfg := by
      rw [ticked_succ]
      exact ⟨congrArg thetaRef (forward.arrive rate arrives), congrArg omegaRef (forward.arrive rate arrives)⟩
    exact forward.settles_of_landed rate landed
  next =>
    -- With three units of acceleration the speeds stay on a grid, none of whose points hovers.
    have unit : accel cfg = 768 := by
      rw [units, three]
      rfl
    have whole : vLim cfg % 256 = 0 := by
      rw [vLim]
      omega
    rw [unit] at slack
    obtain ⟨n, landed⟩ := forward.lands rate (by omega) fast (fun _ v => v % 768 = 0 ∨ v % 768 = 512)
      (fun left v level onward below => by
        rw [unit]
        rcases @pace_choice 768 (vLim cfg) dtMed v left (by decide) onward below with
          ⟨-, paced⟩ | ⟨-, paced⟩ <;> rw [paced] <;> omega)
      (fun left v level slow => by omega) (by omega)
    exact forward.settles_of_landed rate landed
  next =>
    have unit : accel cfg = 768 := by
      rw [units, three]
      rfl
    rw [unit] at short
    obtain ⟨n, landed⟩ := forward.lands rate (by omega) fast (Climbing (vLim cfg) (t.left goalCounts cfg))
      (fun left v climbing _ _ => by
        rw [unit]
        exact climbing_step (by omega) short climbing)
      (fun left v climbing slow => by
        obtain ⟨n, rfl, -, -⟩ := climbing
        omega)
      ⟨0, still, by omega, by
        rw [climbed_succ]
        exact (Int.sub_zero _).ge⟩
    exact forward.settles_of_landed rate landed

def hoverCfg : TrajCfg :=
  ⟨1000, 1, -1000, 1000, 2147483⟩

theorem rest_forward {cfg : TrajCfg} {t : TrajGen} (ranged : t.Ranged) (rest : t.omegaRef = 0) (goalCounts : Int32) :
    t.Forward goalCounts cfg := by
  have still : t.along goalCounts cfg = 0 := by
    rw [along, rest]
    exact ite_self 0
  have limit := vLim_range cfg
  exact ⟨ranged, by omega, by omega⟩

theorem landing_hovers : ¬ (Approaches 1 hoverCfg (reseed 0) ∧ Settles 1 hoverCfg (reseed 0)) := by
  rintro ⟨-, settles⟩
  exact (rest_forward (reseed_ranged 0) rfl 1).not_settles rfl (.inl rfl) (by decide)
    (hovers_of_rest rfl (by decide)) settles

theorem landing_law {cfg : TrajCfg} {t : TrajGen} (goalCounts : Int32) (rate : cfg.dtMedQ32 = 2 ^ 32 / 2000)
    (velocity : 1 ≤ cfg.velLimitCps) (acceleration : 1 ≤ cfg.accelLimitQ88) (ranged : t.Ranged)
    (rest : t.omegaRef = 0) :
    t.Approaches goalCounts cfg ∧ (t.CanLand goalCounts cfg → t.Settles goalCounts cfg) ∧
      (cfg.accelLimitQ88 ≠ 3 → t.Settles goalCounts cfg → t.CanLand goalCounts cfg) := by
  have forward := @rest_forward cfg t ranged rest goalCounts
  have units : accel cfg = cfg.accelLimitQ88.toNat * 256 := rfl
  have cap : velCapCps = 32767 := rfl
  have fast : 65536 ≤ vLim cfg := by
    have least := UInt16.le_iff_toNat_le.mp velocity
    have one : (1 : UInt16).toNat = 1 := rfl
    rw [vLim]
    omega
  have moves : 256 ≤ accel cfg := by
    have least := UInt16.le_iff_toNat_le.mp acceleration
    have one : (1 : UInt16).toNat = 1 := rfl
    omega
  refine ⟨forward.approaches rate, settles_of_canLand rate forward rest fast moves, fun other settles => ?_⟩
  by_contra stuck
  rw [CanLand, not_or, not_or] at stuck
  have three : cfg.accelLimitQ88.toNat ≠ 3 := fun same => other (UInt16.toNat_inj.mp same)
  exact forward.not_settles rate (by omega) fast (hovers_of_rest rest (by omega)) settles

theorem landing_law_lands : Settles 500 { hoverCfg with accelLimitQ88 := 1024 } (reseed (-12000)) :=
  (landing_law 500 rfl (by decide) (by decide) (reseed_ranged (-12000)) rfl).2.1 (.inl (by decide))

end TrajGen

end OpenServo.Motion
