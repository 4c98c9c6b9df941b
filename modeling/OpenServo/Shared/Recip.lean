import Mathlib.Algebra.Order.Ring.Nat
import Mathlib.Algebra.Order.Ring.Unbundled.Basic
import Mathlib.Tactic.Linarith
import Mathlib.Tactic.Positivity
import Mathlib.Tactic.Ring

set_option autoImplicit false

/-!
A reciprocal in fixed point, by a linear seed and Newton steps with every product rounded down. `r` stands for
`r * x / k` in units of `1 / one`. Whatever it starts from, a step overshoots by less than its own rounding.
-/

namespace OpenServo.Shared

theorem mul_le_of_add_le {a b bound k : Nat} (sum : a + b ≤ k * bound) : 4 * a * b ≤ k * k * bound ^ 2 :=
  calc 4 * a * b
    _ ≤ (a + b) ^ 2 := four_mul_le_sq_add a b
    _ ≤ (k * bound) ^ 2 := Nat.pow_le_pow_left sum 2
    _ = k * k * bound ^ 2 := by ring

theorem linear_seed_le (c m x k : Nat) (positive : 0 < k) (room : m * x / k ≤ c) :
    (c - m * x / k) * x * (4 * m) ≤ k * (c + 1) ^ 2 := by
  generalize seed : c - m * x / k = r
  have round : m * x < k * (m * x / k + 1) := Nat.lt_mul_div_succ _ positive
  have total : r + (m * x / k + 1) = c + 1 := by omega
  have sum : k * r + m * x ≤ k * (c + 1) := by
    calc k * r + m * x
      _ ≤ k * r + k * (m * x / k + 1) := by omega
      _ = k * (c + 1) := by rw [← Nat.mul_add, total]
  have peak := mul_le_of_add_le sum
  have scaled : k * (r * x * (4 * m)) ≤ k * (k * (c + 1) ^ 2) := by
    calc k * (r * x * (4 * m))
      _ = 4 * (k * r) * (m * x) := by ring
      _ ≤ k * k * (c + 1) ^ 2 := peak
      _ = k * (k * (c + 1) ^ 2) := by ring
  exact Nat.le_of_mul_le_mul_left scaled positive

theorem newton_step_le (r x one k : Nat) (positive : 0 < k) (room : r * x / k ≤ 2 * one) :
    r * (2 * one - r * x / k) / one * x * (4 * one) ≤ k * (2 * one + 1) ^ 2 := by
  generalize rest : 2 * one - r * x / k = z
  have round : r * x < k * (r * x / k + 1) := Nat.lt_mul_div_succ _ positive
  have total : r * x / k + 1 + z = 2 * one + 1 := by omega
  have peak : 4 * (r * x / k + 1) * z ≤ (2 * one + 1) ^ 2 := by
    rw [← total]
    exact four_mul_le_sq_add _ _
  calc r * z / one * x * (4 * one)
    _ = r * z / one * one * (4 * x) := by ring
    _ ≤ r * z * (4 * x) := Nat.mul_le_mul_right _ (Nat.div_mul_le_self _ _)
    _ = r * x * (4 * z) := by ring
    _ ≤ k * (r * x / k + 1) * (4 * z) := Nat.mul_le_mul_right _ (Nat.le_of_lt round)
    _ = k * (4 * (r * x / k + 1) * z) := by ring
    _ ≤ k * (2 * one + 1) ^ 2 := Nat.mul_le_mul_left k peak

theorem linear_seed_ge (c m x k : Nat) (positive : 0 < k) (room : m * x / k ≤ c) (chord : 3 * m ≤ 2 * c)
    (low : k ≤ 2 * x) (high : x ≤ k) : m * k ≤ 2 * ((c - m * x / k) * x) := by
  obtain ⟨rest, whole⟩ := Nat.exists_eq_add_of_le room
  have seed : c - m * x / k = rest := by omega
  have round : m * x / k * k ≤ m * x := Nat.div_mul_le_self _ _
  rw [seed]
  have above : c * k ≤ rest * k + m * x := by
    rw [whole, Nat.add_mul]
    omega
  -- `left` and `right` are the distances to the ends of the range.
  obtain ⟨left, near⟩ := Nat.exists_eq_add_of_le low
  obtain ⟨right, far⟩ := Nat.exists_eq_add_of_le high
  obtain rfl : x = right + left := by omega
  obtain rfl : k = left + 2 * right := by omega
  have between : 3 * m * (left + 2 * right) * (right + left) =
      (left + 2 * right) * (m * (left + 2 * right)) + 2 * m * (right + left) ^ 2 + m * (left * right) := by
    ring
  have expand : 2 * (rest * (left + 2 * right) + m * (right + left)) * (right + left) =
      (left + 2 * right) * (2 * (rest * (right + left))) + 2 * m * (right + left) ^ 2 := by
    ring
  have tall : 3 * m * (left + 2 * right) * (right + left) ≤
      2 * (rest * (left + 2 * right) + m * (right + left)) * (right + left) := by
    calc 3 * m * (left + 2 * right) * (right + left)
      _ ≤ 2 * c * (left + 2 * right) * (right + left) :=
        Nat.mul_le_mul_right _ (Nat.mul_le_mul_right _ chord)
      _ = 2 * (c * (left + 2 * right)) * (right + left) := by ring
      _ ≤ _ := Nat.mul_le_mul_right _ (Nat.mul_le_mul_left 2 above)
  have scaled : (left + 2 * right) * (m * (left + 2 * right)) ≤
      (left + 2 * right) * (2 * (rest * (right + left))) := by
    omega
  exact Nat.le_of_mul_le_mul_left scaled positive

/-- A step squares the defect, but for its own rounding. -/
theorem newton_step_ge (r x one k : Nat) (positive : 0 < one) (room : r * x / k ≤ 2 * one) :
    ((one * k : ℤ) - (r * (2 * one - r * x / k) / one * x : Nat)) * (one * k) ≤
      (one * k - r * x) ^ 2 + one * k * x := by
  generalize rest : 2 * one - r * x / k = z
  have whole : (z : ℤ) = 2 * one - (r * x / k : Nat) := by omega
  have round : ((r * x / k : Nat) : ℤ) * k ≤ r * x := by
    have floor := Nat.div_mul_le_self (r * x) k
    exact_mod_cast floor
  have last : (r * z : ℤ) ≤ (r * z / one : Nat) * one + one := by
    have floor : r * z ≤ r * z / one * one + one := Nat.le_of_lt (Nat.lt_div_mul_add positive)
    exact_mod_cast floor
  rw [Int.natCast_mul]
  generalize ((r * z / one : Nat) : ℤ) = q at last
  have turn : (r * x * (2 * (one * k) - r * x) : ℤ) ≤ r * z * (k * x) := by
    have part : (2 * (one * k) - r * x : ℤ) ≤ z * k := by
      rw [whole, Int.sub_mul]
      linarith
    calc (r * x * (2 * (one * k) - r * x) : ℤ)
      _ ≤ r * x * (z * k) := mul_le_mul_of_nonneg_left part (by positivity)
      _ = r * z * (k * x) := by ring
  have kept : (r * z * (k * x) : ℤ) ≤ (q * one + one) * (k * x) := mul_le_mul_of_nonneg_right last (by positivity)
  linarith

end OpenServo.Shared
