import OpenServo.Bus.TrimLoop
import Mathlib.Tactic.Ring

set_option autoImplicit false

namespace OpenServo.Bus

open OpenServo.Shared
open OpenServo.Shared.Checked

namespace TrimLoop

def trimmed (windows : Nat → Int32 × UInt32) : Nat → TrimLoop
  | 0 => new 2500
  | n + 1 => (trimmed windows n).step (windows n)

def outcome (windows : Nat → Int32 × UInt32) (n : Nat) : Option Int :=
  ((trimmed windows n).onWindow (windows n).1 (windows n).2).val.2

/-- What is left of the offset when so many steps have been applied. -/
def residual (offset s total : Int) : Int :=
  offset - s * total

def Noiseless (windows : Nat → Int32 × UInt32) (offset s : Int) : Prop :=
  ∀ n, (windows n).2 ≠ 0 ∧ (ppm (windows n).1 (windows n).2).val = residual offset s (trimmed windows n).total

section Asked

variable {r : Int} {d : Nat} (positive : 0 < d)

include positive

theorem asked_toward (r : Int) :
    (0 ≤ r → 0 ≤ asked r d ∧ asked r d ≤ roundAway r d) ∧ (r < 0 → asked r d ≤ 0 ∧ roundAway r d ≤ asked r d) := by
  rw [asked, clamp, Int.toNat_natCast]
  constructor
  next =>
    intro unsigned
    rw [roundAway_of_nonneg unsigned positive]
    omega
  next =>
    intro negative
    rw [roundAway_of_neg negative]
    omega

/-- A correction leaves half a step, or takes four steps off. -/
theorem asked_leaves (r : Int) :
    2 * (r - d * asked r d).natAbs ≤ d ∨ (r - d * asked r d).natAbs + 4 * d ≤ r.natAbs := by
  have near := @roundAway_near r d positive
  rw [asked, clamp, Int.toNat_natCast, Int.mul_comm]
  generalize roundAway r d = m at near
  by_cases few : -4 ≤ m ∧ m ≤ 4
  next =>
    have kept : max (-4) (min m 4) = m := by omega
    rw [kept]
    omega
  next =>
    right
    rcases Int.lt_or_le 4 m with more | less
    next =>
      have full : max (-4) (min m 4) = 4 := by omega
      have least : 5 * (d : Int) ≤ m * d := Int.mul_le_mul_of_nonneg_right (by omega) (by omega)
      rw [full]
      omega
    next =>
      have full : max (-4) (min m 4) = -4 := by omega
      have most : m * d ≤ -5 * (d : Int) := Int.mul_le_mul_of_nonneg_right (by omega) (by omega)
      rw [full]
      omega

theorem rails_clear {offset total : Int} (inside : total.natAbs ≤ 15) (throw : offset.natAbs ≤ 15 * d) :
    clamp (total + asked (residual offset d total) d) (-15) 15 = total + asked (residual offset d total) d := by
  have near := @roundAway_near (residual offset d total) d positive
  obtain ⟨up, down⟩ := asked_toward positive (residual offset d total)
  generalize asked (residual offset d total) d = a at up down
  generalize roundAway (residual offset d total) d = m at up down near
  have spent : 2 * (residual offset d total - m * d) = 2 * offset - 2 * (d * (total + m)) := by
    rw [residual]
    ring
  rw [spent] at near
  have high : total + m ≤ 15 := by
    by_contra beyond
    have product : d * 16 ≤ d * (total + m) := Int.mul_le_mul_of_nonneg_left (by omega) (by omega)
    omega
  have low : -15 ≤ total + m := by
    by_contra beyond
    have product : d * (total + m) ≤ d * (-16) := Int.mul_le_mul_of_nonneg_left (by omega) (by omega)
    omega
  refine clamp_of_mem ?_ ?_
  next =>
    rcases Int.lt_or_le (residual offset d total) 0 with negative | unsigned
    next => have := down negative; omega
    next => have := up unsigned; omega
  next =>
    rcases Int.lt_or_le (residual offset d total) 0 with negative | unsigned
    next => have := down negative; omega
    next => have := up unsigned; omega

end Asked

/-- The correction on record is what the plant did with it, or the step effect is known already. -/
structure Learned (offset : Int) (s : Nat) (loop : TrimLoop) : Prop where
  ranged : loop.Ranged 2500
  known : loop.lastSteps ≠ 0 ∨ loop.stepPpm = s
  record : loop.lastSteps ≠ 0 → loop.lastPpm - residual offset s loop.total = s * loop.lastSteps

section Plant

variable {offset : Int} {s : Nat} {loop : TrimLoop} (low : 800 ≤ s) (high : s ≤ 4000)

include low high

theorem Learned.gain_eq (learned : Learned offset s loop) : loop.gain (residual offset s loop.total) = s := by
  rw [gain]
  by_cases idle : loop.lastSteps = 0
  next =>
    rw [if_neg (fun all => all.1 idle)]
    exact learned.known.resolve_left (fun some => some idle)
  next =>
    have quotient : (s * loop.lastSteps).tdiv loop.lastSteps = s := Int.mul_tdiv_cancel _ idle
    rw [learned.record idle, quotient, if_pos ⟨idle, by omega, by omega⟩]

theorem Learned.after (learned : Learned offset s loop) (reading : Reading (residual offset s loop.total)) :
    Learned offset s (loop.after (residual offset s loop.total)) := by
  refine ⟨after_ranged learned.ranged reading, .inr (learned.gain_eq low high), fun _ => ?_⟩
  simp only [TrimLoop.after, residual]
  ring

variable (throw : offset.natAbs ≤ 15 * s)

include throw

theorem Learned.moved_eq (learned : Learned offset s loop) :
    loop.moved (residual offset s loop.total) = loop.total + asked (residual offset s loop.total) s := by
  rw [moved, learned.gain_eq low high, rails_clear (by omega) learned.ranged.total throw]

theorem Learned.leaves (learned : Learned offset s loop) :
    2 * (residual offset s (loop.moved (residual offset s loop.total))).natAbs ≤ s ∨
      (residual offset s (loop.moved (residual offset s loop.total))).natAbs + 4 * s ≤
        (residual offset s loop.total).natAbs := by
  have next : residual offset s (loop.moved (residual offset s loop.total)) =
      residual offset s loop.total - s * asked (residual offset s loop.total) s := by
    rw [learned.moved_eq low high throw]
    simp only [residual]
    ring
  rw [next]
  exact asked_leaves (by omega) _

end Plant

theorem told_again {loop : TrimLoop} {ppm : Int} (quiet : loop.told ppm = none) :
    (loop.after ppm).total = loop.total ∧ (loop.after ppm).told ppm = none := by
  have kept : loop.moved ppm = loop.total := by
    by_contra changed
    rw [told, if_neg changed] at quiet
    exact absurd quiet (Option.some_ne_none _)
  have idle : (loop.after ppm).lastSteps = 0 := Int.sub_eq_zero.mpr kept
  have gain : (loop.after ppm).gain ppm = loop.gain ppm := if_neg (fun all => all.1 idle)
  have again : (loop.after ppm).moved ppm = loop.moved ppm := by
    rw [moved, gain, moved, show (loop.after ppm).total = loop.total from kept]
  exact ⟨kept, if_pos again⟩

theorem trimmed_ranged (windows : Nat → Int32 × UInt32) (n : Nat) : (trimmed windows n).Ranged 2500 := by
  induction n with
  | zero => exact new_ranged (by decide)
  | succ n ih => exact (window_law (by decide) (by decide) ih _ _).ranged

section Windows

variable {offset : Int} {s : Nat} {windows : Nat → Int32 × UInt32} (noiseless : Noiseless windows offset s)

include noiseless

theorem Noiseless.reading (n : Nat) : Reading (residual offset s (trimmed windows n).total) := by
  obtain ⟨some, measured⟩ := noiseless n
  rw [← measured]
  exact (ppm_reading _ some).2

theorem window_eq (n : Nat) :
    trimmed windows (n + 1) = (trimmed windows n).after (residual offset s (trimmed windows n).total) ∧
      outcome windows n = (trimmed windows n).told (residual offset s (trimmed windows n).total) := by
  obtain ⟨some, measured⟩ := noiseless n
  have exact : (ppm (windows n).1 (windows n).2).Sat (· = residual offset s (trimmed windows n).total) :=
    ⟨(ppm_reading _ some).1, measured⟩
  obtain ⟨-, value⟩ := onWindow_sat (by decide) (by decide) (trimmed_ranged windows n) some exact (noiseless.reading n)
  rw [trimmed, step, outcome, value]
  exact ⟨rfl, rfl⟩

theorem outcome_again {n : Nat} (quiet : outcome windows n = none) :
    (trimmed windows (n + 1)).total = (trimmed windows n).total ∧ outcome windows (n + 1) = none := by
  obtain ⟨next, here⟩ := window_eq noiseless n
  obtain ⟨-, there⟩ := window_eq noiseless (n + 1)
  obtain ⟨kept, again⟩ := told_again (here.symm.trans quiet)
  rw [← next] at kept again
  rw [there, kept]
  exact ⟨rfl, again⟩

theorem outcome_settled {n : Nat} (quiet : outcome windows n = none) (k : Nat) :
    (trimmed windows (n + k)).total = (trimmed windows n).total ∧ outcome windows (n + k) = none := by
  induction k with
  | zero => exact ⟨rfl, quiet⟩
  | succ k ih =>
    obtain ⟨kept, again⟩ := outcome_again noiseless ih.2
    exact ⟨kept.trans ih.1, again⟩

omit noiseless in
theorem trimmed_zero (windows : Nat → Int32 × UInt32) : trimmed windows 0 = ⟨0, 2500, 0, 0⟩ := by
  show new 2500 = _
  decide

theorem trimmed_one : trimmed windows 1 = ⟨asked offset 2500, 2500, offset, asked offset 2500⟩ := by
  have whole : residual offset s 0 = offset := by
    rw [residual, Int.mul_zero, Int.sub_zero]
  have range := asked_range offset 2500
  have gain : gain ⟨0, 2500, 0, 0⟩ offset = 2500 := if_neg (fun all => all.1 rfl)
  have moved : moved ⟨0, 2500, 0, 0⟩ offset = asked offset 2500 := by
    rw [TrimLoop.moved, gain, Int.zero_add]
    exact clamp_of_mem (by omega) (by omega)
  rw [(window_eq noiseless 0).1, trimmed_zero, whole, after, gain, moved, Int.sub_zero]

theorem learned_one (taken : asked offset 2500 ≠ 0) : Learned offset s (trimmed windows 1) := by
  have ranged := trimmed_ranged windows 1
  rw [trimmed_one noiseless] at ranged ⊢
  refine ⟨ranged, .inl taken, fun _ => ?_⟩
  dsimp only
  rw [residual]
  omega

section Throw

variable (low : 800 ≤ s) (high : s ≤ 4000)

include low high

theorem learned_from_one (taken : asked offset 2500 ≠ 0) (k : Nat) : Learned offset s (trimmed windows (k + 1)) := by
  induction k with
  | zero => exact learned_one noiseless taken
  | succ k ih =>
    rw [(window_eq noiseless (k + 1)).1]
    exact ih.after low high (noiseless.reading (k + 1))

variable (throw : offset.natAbs ≤ 15 * s)

include throw

theorem residual_falls (taken : asked offset 2500 ≠ 0) (k : Nat) :
    2 * (residual offset s (trimmed windows (k + 1)).total).natAbs ≤ s ∨
      (residual offset s (trimmed windows (k + 1)).total).natAbs + 4 * s * k ≤
        (residual offset s (trimmed windows 1).total).natAbs := by
  induction k with
  | zero => exact .inr (by rw [Nat.mul_zero, Nat.add_zero])
  | succ k ih =>
    have leaves := (learned_from_one noiseless low high taken k).leaves low high throw
    have next : (trimmed windows (k + 1 + 1)).total =
        (trimmed windows (k + 1)).moved (residual offset s (trimmed windows (k + 1)).total) := by
      rw [(window_eq noiseless (k + 1)).1]
      rfl
    rw [← next] at leaves
    have more : 4 * s * (k + 1) = 4 * s * k + 4 * s := by ring
    omega

theorem residual_settles (n : Nat) (late : 9 ≤ n) :
    2 * (residual offset s (trimmed windows n).total).natAbs ≤ max 2500 s := by
  obtain ⟨k, rfl⟩ : ∃ k, n = k + 1 := ⟨n - 1, by omega⟩
  by_cases taken : asked offset 2500 = 0
  next =>
    -- Less than half a nominal step: the first window asks for nothing.
    have leaves := asked_leaves (d := 2500) (by decide) offset
    have first : (trimmed windows 1).total = 0 := by rw [trimmed_one noiseless, taken]
    have quiet : outcome windows 0 = none := by
      rw [(window_eq noiseless 0).2]
      have next := congrArg total (window_eq noiseless 0).1
      exact if_pos (next.symm.trans (first.trans (by rw [trimmed_zero])))
    have kept := (outcome_settled noiseless quiet (k + 1)).1
    rw [Nat.zero_add] at kept
    rw [kept, show (trimmed windows 0).total = 0 from rfl, residual, Int.mul_zero, Int.sub_zero]
    rw [show ((2500 : Nat) : Int) = 2500 from rfl, taken] at leaves
    omega
  next =>
    have falls := residual_falls noiseless low high throw taken k
    have inside := (trimmed_ranged windows 1).total
    have start : (residual offset s (trimmed windows 1).total).natAbs ≤ 30 * s := by
      have product : (s * (trimmed windows 1).total).natAbs ≤ s * 15 := by
        rw [Int.natAbs_mul, Int.natAbs_natCast]
        exact Nat.mul_le_mul_left s inside
      rw [residual]
      omega
    have many : 4 * s * 8 ≤ 4 * s * k := Nat.mul_le_mul_left _ (by omega)
    omega

end Throw

end Windows

/-- From any offset inside the throw, over any windows that measure what is left: half a step is reached and kept, and
a window that asks for nothing is followed by none that asks for anything. -/
theorem trim_converges {offset : Int} {s : Nat} (low : 800 ≤ s) (high : s ≤ 4000) (throw : offset.natAbs ≤ 15 * s)
    {windows : Nat → Int32 × UInt32} (noiseless : Noiseless windows offset s) :
    (∃ N, ∀ n, N ≤ n → 2 * (residual offset s (trimmed windows n).total).natAbs ≤ max 2500 s) ∧
      ∀ n m, n ≤ m → outcome windows n = none → outcome windows m = none := by
  refine ⟨⟨9, residual_settles noiseless low high throw⟩, ?_⟩
  intro n m later quiet
  obtain ⟨k, rfl⟩ := Nat.exists_eq_add_of_le later
  exact (outcome_settled noiseless quiet k).2

/-- The plant of the closed loop: what is left, over a span of a million ticks. -/
def plantWindow (offset s : Int) (loop : TrimLoop) : Int32 × UInt32 :=
  (Int32.ofInt (residual offset s loop.total), 1000000)

def plant (offset s : Int) : Nat → TrimLoop
  | 0 => new 2500
  | n + 1 => (plant offset s n).step (plantWindow offset s (plant offset s n))

def plantWindows (offset s : Int) (n : Nat) : Int32 × UInt32 :=
  plantWindow offset s (plant offset s n)

theorem ppm_million {r : Int} (small : r.natAbs < 2 ^ 20) : (ppm (Int32.ofInt r) 1000000).val = r := by
  have same : (Int32.ofInt r).toInt = r := Int32.toInt_ofInt_of_le (by omega) (by omega)
  rw [(ppm_sat (Int32.ofInt r) (by decide)).2, same, show (1000000 : UInt32).toNat = 1000000 from rfl, saturated,
    if_pos (by omega), Nat.mul_div_cancel _ (by decide), Int.sign_mul_natAbs]

theorem trimmed_plant (offset s : Int) (n : Nat) : trimmed (plantWindows offset s) n = plant offset s n := by
  induction n with
  | zero => rfl
  | succ n ih => rw [trimmed, ih, plant, plantWindows]

theorem plant_noiseless {offset : Int} {s : Nat} (high : s ≤ 4000) (throw : offset.natAbs ≤ 15 * s) :
    Noiseless (plantWindows offset s) offset s := by
  intro n
  have inside := (trimmed_ranged (plantWindows offset s) n).total
  rw [trimmed_plant] at inside ⊢
  refine ⟨show (1000000 : UInt32) ≠ 0 by decide, ppm_million ?_⟩
  have product : (s * (plant offset s n).total).natAbs ≤ s * 15 := by
    rw [Int.natAbs_mul, Int.natAbs_natCast]
    exact Nat.mul_le_mul_left s inside
  rw [residual]
  omega

theorem trim_converges_coarse : (800 ≤ 3200 ∧ 3200 ≤ 4000 ∧ (1700 : Int).natAbs ≤ 15 * 3200) ∧
    ∃ N, ∀ n, N ≤ n →
      2 * (residual 1700 (3200 : Nat) (trimmed (plantWindows 1700 (3200 : Nat)) n).total).natAbs ≤ max 2500 3200 :=
  ⟨by decide, (trim_converges (s := 3200) (by decide) (by decide) (by decide)
    (plant_noiseless (by decide) (by decide))).1⟩

end TrimLoop

end OpenServo.Bus
