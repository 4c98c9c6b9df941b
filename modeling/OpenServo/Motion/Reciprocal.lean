import Mathlib.Tactic.NormNum
import Mathlib.Tactic.Ring
import OpenServo.Motion.Math
import OpenServo.Shared.Recip

set_option autoImplicit false

namespace OpenServo.Motion

open OpenServo.Shared

theorem qMulU_lt (a b k : Nat) : qMulU a b k < 2 ^ 32 :=
  Nat.mod_lt _ (by decide)

theorem qMulU_of_lt {a b k : Nat} (small : a * b / 2 ^ k < 2 ^ 32) : qMulU a b k = a * b / 2 ^ k := by
  rw [qMulU, Nat.shiftRight_eq_div_pow]
  exact Nat.mod_eq_of_lt small

theorem qMulU_high {a b : Nat} (first : a < 2 ^ 32) (second : b < 2 ^ 32) : qMulU a b 32 = a * b / 2 ^ 32 := by
  have small : a * b < 2 ^ 32 * 2 ^ 32 := Nat.mul_lt_mul'' first second
  exact qMulU_of_lt (by omega)

theorem subU_of_le {a b : Nat} (small : a < 2 ^ 32) (le : b ≤ a) : subU a b = a - b := by
  rw [subU]
  omega

def recipSeed (x : Nat) : Nat :=
  subU seedC1Q30 (qMulU seedC2Q30 x 32)

def recipStep (x r : Nat) : Nat :=
  qMulU r (subU (2 ^ 31) (qMulU r x 32)) 30

def reciprocal (x : Nat) : Nat :=
  recipStep x (recipStep x (recipSeed x))

section Normal

variable {x r : Nat} (low : 2 ^ 31 ≤ x) (small : x < 2 ^ 32)

include small

theorem seed_room : seedC2Q30 * x / 2 ^ 32 ≤ seedC1Q30 := by
  simp only [seedC1Q30, seedC2Q30]
  omega

theorem recipSeed_eq : recipSeed x = seedC1Q30 - seedC2Q30 * x / 2 ^ 32 := by
  rw [recipSeed, qMulU_high (by decide) small, subU_of_le (by decide) (seed_room small)]

theorem recipSeed_le : recipSeed x * x ≤ 1136903110 * 2 ^ 32 := by
  have seed := linear_seed_le seedC1Q30 seedC2Q30 x (2 ^ 32) (by decide) (seed_room small)
  rw [← recipSeed_eq small] at seed
  simp only [seedC1Q30, seedC2Q30] at seed
  omega

include low

theorem recipSeed_ge : 2021161080 * 2 ^ 31 ≤ recipSeed x * x := by
  have seed := linear_seed_ge seedC1Q30 seedC2Q30 x (2 ^ 32) (by decide) (seed_room small) (by decide) (by omega)
    (by omega)
  rw [← recipSeed_eq small] at seed
  simp only [seedC2Q30] at seed
  omega

variable (normal : r < 2 ^ 32) (room : r * x ≤ 2 ^ 63)

include normal room

theorem recipStep_spec :
    recipStep x r * x ≤ 2 ^ 62 + 2 ^ 32 + 1 ∧
      ((2 : ℤ) ^ 62 - (recipStep x r * x : Nat)) * 2 ^ 62 ≤ (2 ^ 62 - (r * x : Nat)) ^ 2 + 2 ^ 62 * x := by
  have below : r * x / 2 ^ 32 ≤ 2 ^ 31 := by omega
  have upper := newton_step_le r x (2 ^ 30) (2 ^ 32) (by decide) (by omega)
  have lower := newton_step_ge r x (2 ^ 30) (2 ^ 32) (by decide) (by omega)
  have step : recipStep x r = qMulU r (2 ^ 31 - r * x / 2 ^ 32) 30 := by
    rw [recipStep, qMulU_high normal small, subU_of_le (by decide) below]
  have twice : 2 * 2 ^ 30 = 2 ^ 31 := rfl
  rw [twice] at upper lower
  generalize 2 ^ 31 - r * x / 2 ^ 32 = z at upper lower step
  have bound : r * z / 2 ^ 30 * x ≤ 2 ^ 62 + 2 ^ 32 + 1 := by omega
  have word : r * z / 2 ^ 30 < 2 ^ 32 := by
    by_contra wide
    have least := Nat.mul_le_mul (Nat.le_of_not_lt wide) low
    omega
  rw [step, qMulU_of_lt word]
  refine ⟨bound, ?_⟩
  rw [Int.natCast_mul r x]
  norm_num at lower ⊢
  exact lower

end Normal

theorem reciprocal_spec {x : Nat} (low : 2 ^ 31 ≤ x) (small : x < 2 ^ 32) :
    reciprocal x * x ≤ 2 ^ 62 + 2 ^ 32 + 1 ∧ 2 ^ 62 * 65535 ≤ reciprocal x * x * 65536 := by
  have seedLow := recipSeed_ge low small
  have seedHigh := recipSeed_le small
  have normal : recipSeed x < 2 ^ 32 := Nat.mod_lt _ (by decide)
  obtain ⟨high₁, step₁⟩ := recipStep_spec low small normal (by omega)
  have normal₁ : recipStep x (recipSeed x) < 2 ^ 32 := qMulU_lt _ _ _
  obtain ⟨high₂, step₂⟩ := recipStep_spec low small normal₁ (by omega)
  refine ⟨high₂, ?_⟩
  -- The relative defect goes from a part in 17 to its square, and to that squared again.
  have square₁ : ((2 : ℤ) ^ 62 - (recipSeed x * x : Nat)) ^ 2 ≤ (63161286 * 2 ^ 32) ^ 2 := sq_le_sq' (by omega) (by omega)
  have defect₁ : (2 : ℤ) ^ 62 - (recipStep x (recipSeed x) * x : Nat) ≤ 15957397000000000 := by omega
  have square₂ : ((2 : ℤ) ^ 62 - (recipStep x (recipSeed x) * x : Nat)) ^ 2 ≤ 15957397000000000 ^ 2 :=
    sq_le_sq' (by omega) (by omega)
  have defect₂ : (2 : ℤ) ^ 62 - (reciprocal x * x : Nat) ≤ 2 ^ 46 := by
    rw [reciprocal]
    omega
  omega

section Division

variable {d : Nat} (large : 2 ≤ d) (small : d < 2 ^ 32)

include large small

theorem normalised : 1 ≤ d.log2 ∧ 2 ^ 31 ≤ d * 2 ^ (31 - d.log2) ∧ d * 2 ^ (31 - d.log2) < 2 ^ 32 := by
  have positive : 1 ≤ d.log2 := (Nat.le_log2 (by omega)).mpr (by omega)
  have log : d.log2 < 32 := (Nat.log2_lt (by omega)).mpr small
  have least : 2 ^ d.log2 ≤ d := Nat.log2_self_le (by omega)
  have bits : d < 2 ^ (d.log2 + 1) := Nat.lt_log2_self
  refine ⟨positive, ?_, ?_⟩
  next =>
    calc 2 ^ 31
      _ = 2 ^ d.log2 * 2 ^ (31 - d.log2) := by rw [← Nat.pow_add, show d.log2 + (31 - d.log2) = 31 by omega]
      _ ≤ d * 2 ^ (31 - d.log2) := Nat.mul_le_mul_right _ least
  next =>
    calc d * 2 ^ (31 - d.log2)
      _ < 2 ^ (d.log2 + 1) * 2 ^ (31 - d.log2) := Nat.mul_lt_mul_of_pos_right bits (Nat.two_pow_pos _)
      _ = 2 ^ 32 := by rw [← Nat.pow_add, show d.log2 + 1 + (31 - d.log2) = 32 by omega]

theorem recipDiv_eq : ∃ n, n ≤ 30 ∧ 2 ^ 31 ≤ d * 2 ^ n ∧ d * 2 ^ n < 2 ^ 32 ∧
    ∀ num, recipDiv num d = num * reciprocal (d * 2 ^ n) / 2 ^ (62 - n) := by
  obtain ⟨positive, low, high⟩ := normalised large small
  refine ⟨31 - d.log2, by omega, low, high, fun num => ?_⟩
  have halves : 2 ^ 32 * 2 ^ (30 - (31 - d.log2)) = 2 ^ (62 - (31 - d.log2)) := by
    rw [← Nat.pow_add, show 32 + (30 - (31 - d.log2)) = 62 - (31 - d.log2) by omega]
  rw [recipDiv, if_neg (by omega), ← halves, ← Nat.div_div_eq_div_mul, ← Nat.shiftRight_eq_div_pow,
    ← Nat.shiftRight_eq_div_pow, ← Nat.shiftLeft_eq]
  rfl

theorem recipDiv_bounds (num : Nat) :
    recipDiv num d * d * 2 ^ 62 ≤ num * (2 ^ 62 + 2 ^ 32 + 1) ∧
      num * 65535 < (recipDiv num d + 1) * d * 65536 := by
  obtain ⟨n, shift, low, high, same⟩ := recipDiv_eq large small
  obtain ⟨most, least⟩ := reciprocal_spec low high
  rw [same num]
  generalize reciprocal (d * 2 ^ n) = r at most least
  have denormal : 2 ^ (62 - n) * 2 ^ n = 2 ^ 62 := by
    rw [← Nat.pow_add, show 62 - n + n = 62 by omega]
  have positive := Nat.two_pow_pos (62 - n)
  have below := Nat.div_mul_le_self (num * r) (2 ^ (62 - n))
  have above : num * r < num * r / 2 ^ (62 - n) * 2 ^ (62 - n) + 2 ^ (62 - n) := Nat.lt_div_mul_add positive
  generalize num * r / 2 ^ (62 - n) = q at below above
  constructor
  next =>
    calc q * d * 2 ^ 62
      _ = q * 2 ^ (62 - n) * (d * 2 ^ n) := by
        rw [← denormal]
        ring
      _ ≤ num * r * (d * 2 ^ n) := Nat.mul_le_mul_right _ below
      _ = num * (r * (d * 2 ^ n)) := Nat.mul_assoc _ _ _
      _ ≤ num * (2 ^ 62 + 2 ^ 32 + 1) := Nat.mul_le_mul_left num most
  next =>
    have scaled : 2 ^ 62 * (num * 65535) < 2 ^ 62 * ((q + 1) * d * 65536) := by
      calc 2 ^ 62 * (num * 65535)
        _ = num * (2 ^ 62 * 65535) := by ring
        _ ≤ num * (r * (d * 2 ^ n) * 65536) := Nat.mul_le_mul_left num least
        _ = num * r * (d * 2 ^ n * 65536) := by ring
        _ < (q * 2 ^ (62 - n) + 2 ^ (62 - n)) * (d * 2 ^ n * 65536) := Nat.mul_lt_mul_of_pos_right above (by omega)
        _ = 2 ^ (62 - n) * 2 ^ n * ((q + 1) * d * 65536) := by ring
        _ = 2 ^ 62 * ((q + 1) * d * 65536) := by rw [denormal]
    exact Nat.lt_of_mul_lt_mul_left scaled

end Division

theorem recipDiv_mul_le (num : Nat) {d : Nat} (small : d < 2 ^ 32) :
    recipDiv num d * d * 2 ^ 62 ≤ num * (2 ^ 62 + 2 ^ 32 + 1) := by
  by_cases unit : d ≤ 1
  next =>
    have whole : num * d ≤ num * 1 := Nat.mul_le_mul_left num unit
    rw [recipDiv, if_pos unit]
    omega
  next => exact (recipDiv_bounds (by omega) small num).1

theorem recipDiv_mono {num more : Nat} (d : Nat) (le : num ≤ more) : recipDiv num d ≤ recipDiv more d := by
  unfold recipDiv
  split
  next => exact le
  next =>
    simp only [Nat.shiftRight_eq_div_pow]
    exact Nat.div_le_div_right (Nat.div_le_div_right (Nat.mul_le_mul_right _ le))

theorem recipDiv_near {num d : Nat} (word : num < 2 ^ 32) (positive : 0 < d) (small : d < 2 ^ 32) :
    recipDiv num d ≤ num / d + num / d / 65536 + 2 ∧ num / d ≤ recipDiv num d + num / d / 65536 + 2 := by
  by_cases unit : d ≤ 1
  next =>
    obtain rfl : d = 1 := by omega
    rw [recipDiv, if_pos unit, Nat.div_one]
    omega
  next =>
    obtain ⟨most, least⟩ := recipDiv_bounds (by omega) small num
    have below := Nat.div_mul_le_self num d
    have above : num < num / d * d + d := Nat.lt_div_mul_add positive
    generalize recipDiv num d = q at most least ⊢
    generalize num / d = v at below above ⊢
    have up : d * (q * 2 ^ 62) < d * ((v + 1) * (2 ^ 62 + 2 ^ 32 + 1)) := by
      calc d * (q * 2 ^ 62)
        _ = q * d * 2 ^ 62 := by ring
        _ ≤ num * (2 ^ 62 + 2 ^ 32 + 1) := most
        _ < (v * d + d) * (2 ^ 62 + 2 ^ 32 + 1) := Nat.mul_lt_mul_of_pos_right above (by omega)
        _ = d * ((v + 1) * (2 ^ 62 + 2 ^ 32 + 1)) := by ring
    have down : d * (v * 65535) < d * ((q + 1) * 65536) := by
      calc d * (v * 65535)
        _ = v * d * 65535 := by ring
        _ ≤ num * 65535 := Nat.mul_le_mul_right _ below
        _ < (q + 1) * d * 65536 := least
        _ = d * ((q + 1) * 65536) := by ring
    have most := Nat.lt_of_mul_lt_mul_left up
    have least := Nat.lt_of_mul_lt_mul_left down
    omega

end OpenServo.Motion
