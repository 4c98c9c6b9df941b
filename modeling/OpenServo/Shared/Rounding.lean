import Mathlib.Algebra.Order.Ring.Int
import Mathlib.Data.List.Count
import Mathlib.Data.List.Range
import Mathlib.Tactic.Ring

set_option autoImplicit false

/-!
Rounding a quotient to the nearest whole number, halves away from zero, and counting it out by thresholds.
-/

namespace OpenServo.Shared

def nearest (n d : Nat) : Nat :=
  (2 * n + d) / (2 * d)

theorem nearest_le (n d : Nat) : 2 * (nearest n d * d) ≤ 2 * n + d := by
  have below := Nat.div_mul_le_self (2 * n + d) (2 * d)
  have product : nearest n d * (2 * d) = 2 * (nearest n d * d) := by ring
  rw [← product]
  exact below

section Nearest

variable {n d : Nat} (positive : 0 < d)

include positive

theorem lt_nearest_iff (k : Nat) : k < nearest n d ↔ (2 * k + 1) * d ≤ 2 * n := by
  have product : (k + 1) * (2 * d) = (2 * k + 1) * d + d := by ring
  rw [nearest, ← Nat.succ_le_iff, Nat.le_div_iff_mul_le (by omega), Nat.succ_eq_add_one, product]
  omega

theorem lt_nearest (n : Nat) : 2 * n < 2 * (nearest n d * d) + d := by
  have above := Nat.lt_div_mul_add (a := 2 * n + d) (b := 2 * d) (by omega)
  have product : nearest n d * (2 * d) = 2 * (nearest n d * d) := by ring
  rw [← product]
  rw [← nearest] at above
  omega

end Nearest

theorem countP_range_lt (limit m : Nat) : (List.range limit).countP (fun k => decide (k < m)) = min limit m := by
  induction limit with
  | zero => simp
  | succ limit ih =>
    rw [List.range_succ, List.countP_append, ih, List.countP_singleton]
    by_cases below : limit < m
    next =>
      rw [if_pos (decide_eq_true below)]
      omega
    next =>
      rw [if_neg (by simpa using below)]
      omega

theorem countP_thresholds {d : Nat} (positive : 0 < d) (n limit : Nat) :
    (List.range limit).countP (fun k => decide ((2 * k + 1) * d ≤ 2 * n)) = min limit (nearest n d) := by
  rw [← countP_range_lt]
  refine List.countP_congr fun k _ => ?_
  rw [decide_eq_true_iff, decide_eq_true_iff, lt_nearest_iff positive]

/-- The nearest whole number to `n / d`, halves away from zero. -/
def roundAway (n : Int) (d : Nat) : Int :=
  n.sign * nearest n.natAbs d

section RoundAway

variable {n : Int} {d : Nat}

theorem roundAway_of_nonneg (unsigned : 0 ≤ n) (positive : 0 < d) : roundAway n d = nearest n.natAbs d := by
  rcases Int.lt_or_eq_of_le unsigned with above | zero
  next => rw [roundAway, Int.sign_eq_one_of_pos above, Int.one_mul]
  next =>
    have nothing : nearest 0 d = 0 := by
      rw [nearest]
      exact Nat.div_eq_of_lt (by omega)
    rw [← zero, roundAway, Int.sign_zero, Int.zero_mul, Int.natAbs_zero, nothing]
    rfl

theorem roundAway_of_neg (negative : n < 0) : roundAway n d = -nearest n.natAbs d := by
  rw [roundAway, Int.sign_eq_neg_one_of_neg negative, Int.neg_one_mul]

theorem roundAway_near (positive : 0 < d) :
    -(d : Int) ≤ 2 * (n - roundAway n d * d) ∧ 2 * (n - roundAway n d * d) ≤ d ∧
      (0 ≤ n → 2 * (n - roundAway n d * d) < d) ∧ (n < 0 → -(d : Int) < 2 * (n - roundAway n d * d)) := by
  have low := nearest_le n.natAbs d
  have high := lt_nearest positive n.natAbs
  rcases Int.lt_or_le n 0 with negative | unsigned
  next =>
    rw [roundAway_of_neg negative, Int.neg_mul, ← Int.natCast_mul]
    omega
  next =>
    rw [roundAway_of_nonneg unsigned positive, ← Int.natCast_mul]
    omega

end RoundAway

end OpenServo.Shared
