import Mathlib.Algebra.CharP.Two
import Mathlib.Algebra.Field.ZMod
import Mathlib.Algebra.Polynomial.Div
import Mathlib.Data.Nat.Bitwise
import Mathlib.RingTheory.AdjoinRoot
import Mathlib.RingTheory.Coprime.Lemmas

set_option autoImplicit false

/-!
Reflected shift registers. A register of `w` bits is a polynomial over two elements, its lowest bit the highest power,
and a turn of the register multiplies by `X` modulo the generator that its tap stands for.
-/

namespace OpenServo.Shared

open Polynomial Finset

def bitOf (b : Bool) : ZMod 2 :=
  if b then 1 else 0

theorem bitOf_xor (a b : Bool) : bitOf (a ^^ b) = bitOf a + bitOf b := by
  cases a <;> cases b <;> decide

theorem bitOf_injective : Function.Injective bitOf := by
  decide

noncomputable def reflected (w n : Nat) : (ZMod 2)[X] :=
  ∑ i ∈ range w, C (bitOf (n.testBit i)) * X ^ (w - 1 - i)

section Reflected

variable (w : Nat)

theorem reflected_xor (a b : Nat) : reflected w (a ^^^ b) = reflected w a + reflected w b := by
  simp only [reflected, Nat.testBit_xor, bitOf_xor, C_add, add_mul, sum_add_distrib]

theorem reflected_zero : reflected w 0 = 0 := by
  simp [reflected, bitOf]

theorem coeff_reflected (n : Nat) {k : Nat} (below : k < w) :
    (reflected w n).coeff k = bitOf (n.testBit (w - 1 - k)) := by
  rw [reflected, finsetSum_coeff, sum_eq_single (w - 1 - k)]
  next =>
    rw [coeff_C_mul, coeff_X_pow, if_pos (by omega), mul_one]
  next =>
    intro i inside apart
    rw [mem_range] at inside
    rw [coeff_C_mul, coeff_X_pow, if_neg (by omega), mul_zero]
  next =>
    intro outside
    rw [mem_range] at outside
    omega

theorem degree_reflected_lt (n : Nat) : (reflected w n).degree < w := by
  refine lt_of_le_of_lt (degree_sum_le _ _) ?_
  refine (Finset.sup_lt_iff (WithBot.bot_lt_coe w)).mpr fun i inside => ?_
  rw [mem_range] at inside
  refine lt_of_le_of_lt (degree_C_mul_X_pow_le _ _) ?_
  exact WithBot.coe_lt_coe.mpr (show w - 1 - i < w by omega)

variable {w}

theorem reflected_injective {a b : Nat} (left : a < 2 ^ w) (right : b < 2 ^ w) (same : reflected w a = reflected w b) :
    a = b := by
  apply Nat.eq_of_testBit_eq
  intro i
  by_cases inside : i < w
  next =>
    have coefficient := congrArg (fun p => p.coeff (w - 1 - i)) same
    simp only [coeff_reflected w _ (show w - 1 - i < w by omega), show w - 1 - (w - 1 - i) = i by omega] at coefficient
    exact bitOf_injective coefficient
  next =>
    have wide : 2 ^ w ≤ 2 ^ i := Nat.pow_le_pow_right (by decide) (by omega)
    rw [Nat.testBit_lt_two_pow (by omega), Nat.testBit_lt_two_pow (by omega)]

theorem reflected_shift {n : Nat} (positive : 0 < w) (small : n < 2 ^ w) :
    X * reflected w n = C (bitOf (n.testBit 0)) * X ^ w + reflected w (n >>> 1) := by
  obtain ⟨v, rfl⟩ : ∃ v, w = v + 1 := ⟨w - 1, by omega⟩
  have top : (n >>> 1).testBit v = false := by
    rw [Nat.testBit_shiftRight]
    exact Nat.testBit_lt_two_pow (by rw [Nat.add_comm]; exact small)
  rw [reflected, sum_range_succ', reflected, sum_range_succ, top, mul_add, mul_sum, add_comm]
  congr 1
  next => simp [pow_succ]; ring
  next =>
    rw [bitOf, if_neg (by decide), C_0, zero_mul, add_zero]
    refine sum_congr rfl fun i inside => ?_
    rw [mem_range] at inside
    rw [Nat.testBit_shiftRight, Nat.add_comm 1 i, show v + 1 - 1 - i = v + 1 - 1 - (i + 1) + 1 by omega, pow_succ]
    ring

theorem reflected_append {low : Nat} (v high : Nat) (small : low < 2 ^ w) :
    reflected (w + v) (2 ^ w * high + low) = X ^ v * reflected w low + reflected v high := by
  rw [reflected, sum_range_add, reflected, reflected, mul_sum]
  congr 1
  next =>
    refine sum_congr rfl fun i inside => ?_
    rw [mem_range] at inside
    rw [Nat.testBit_two_pow_mul_add high small, if_pos inside, show w + v - 1 - i = v + (w - 1 - i) by omega, pow_add]
    ring
  next =>
    refine sum_congr rfl fun i _ => ?_
    rw [Nat.testBit_two_pow_mul_add high small, if_neg (by omega), Nat.add_sub_cancel_left,
      show w + v - 1 - (w + i) = v - 1 - i by omega]

theorem reflected_widen {n : Nat} (v : Nat) (small : n < 2 ^ w) : reflected (w + v) n = X ^ v * reflected w n := by
  have parts := reflected_append v 0 small
  rw [Nat.mul_zero, Nat.zero_add, reflected_zero, add_zero] at parts
  exact parts

end Reflected

/-- One turn of a register: it shifts, and takes the tap when the bit that leaves it is set. -/
def registerTurn (tap n : Nat) : Nat :=
  if n.testBit 0 then (n >>> 1) ^^^ tap else n >>> 1

noncomputable def generator (w tap : Nat) : (ZMod 2)[X] :=
  X ^ w + reflected w tap

section Generator

variable {w tap : Nat}

theorem generator_monic : (generator w tap).Monic :=
  monic_X_pow_add (degree_reflected_lt w tap)

theorem degree_generator : (generator w tap).degree = w := by
  rw [generator, degree_add_eq_left_of_degree_lt, degree_X_pow]
  rw [degree_X_pow]
  exact degree_reflected_lt w tap

theorem eq_modByMonic {p q : (ZMod 2)[X]} (small : p.degree < w)
    (same : AdjoinRoot.mk (generator w tap) p = AdjoinRoot.mk (generator w tap) q) : p = q %ₘ generator w tap := by
  rw [AdjoinRoot.mk_eq_mk] at same
  rw [← modByMonic_eq_of_dvd_sub generator_monic same, (modByMonic_eq_self_iff generator_monic).mpr]
  rw [degree_generator]
  exact small

variable (positive : 0 < w) (fits : tap < 2 ^ w)

include fits

theorem registerTurn_lt {n : Nat} (small : n < 2 ^ w) : registerTurn tap n < 2 ^ w := by
  have half : n >>> 1 < 2 ^ w := by
    rw [Nat.shiftRight_eq_div_pow]
    omega
  unfold registerTurn
  split
  next => exact Nat.xor_lt_two_pow half fits
  next => exact half

include positive

omit fits in
theorem mk_registerTurn {n : Nat} (small : n < 2 ^ w) :
    AdjoinRoot.mk (generator w tap) (reflected w (registerTurn tap n)) =
      AdjoinRoot.mk (generator w tap) (X * reflected w n) := by
  rw [AdjoinRoot.mk_eq_mk, reflected_shift positive small, registerTurn]
  by_cases out : n.testBit 0 = true
  next =>
    rw [if_pos out, out, reflected_xor, bitOf, if_pos rfl, C_1, one_mul]
    refine ⟨-1, ?_⟩
    have twice : reflected w tap + reflected w tap = 0 := CharTwo.add_self_eq_zero _
    rw [generator]
    linear_combination twice
  next =>
    rw [Bool.not_eq_true] at out
    rw [if_neg (by simp [out]), out, bitOf, if_neg (by decide), C_0, zero_mul, zero_add, sub_self]
    exact dvd_zero _

theorem mk_registerTurns {n : Nat} (small : n < 2 ^ w) (k : Nat) :
    Nat.repeat (registerTurn tap) k n < 2 ^ w ∧
      AdjoinRoot.mk (generator w tap) (reflected w (Nat.repeat (registerTurn tap) k n)) =
        AdjoinRoot.mk (generator w tap) (X ^ k * reflected w n) := by
  induction k with
  | zero =>
    rw [pow_zero, one_mul]
    exact ⟨small, rfl⟩
  | succ k ih =>
    obtain ⟨inside, same⟩ := ih
    refine ⟨registerTurn_lt fits inside, ?_⟩
    show AdjoinRoot.mk _ (reflected w (registerTurn tap (Nat.repeat (registerTurn tap) k n))) = _
    rw [mk_registerTurn positive inside, map_mul, same, ← map_mul, pow_succ]
    congr 1
    ring

end Generator

section Divides

variable {G B : (ZMod 2)[X]}

theorem coprime_X_pow (unit : G.coeff 0 = 1) (i : Nat) : IsCoprime G (X ^ i) := by
  refine IsCoprime.pow_right ⟨1, -G.divX, ?_⟩
  have parts := divX_mul_X_add G
  rw [unit, C_1] at parts
  linear_combination -parts

/-- Powers in a window shorter than the generator are not a multiple of it. -/
theorem not_dvd_burst (unit : G.coeff 0 = 1) (small : B.degree < G.degree) (nonzero : B ≠ 0) (i : Nat) :
    ¬ G ∣ X ^ i * B := by
  intro divides
  exact nonzero (eq_zero_of_dvd_of_degree_lt ((coprime_X_pow unit i).dvd_of_dvd_mul_left divides) small)

/-- Two powers are, only when the generator's order divides their distance. -/
theorem not_dvd_pair (unit : G.coeff 0 = 1) {d : Nat} (apart : ¬ G ∣ X ^ d + 1) (i : Nat) : ¬ G ∣ X ^ i * (X ^ d + 1) :=
  fun divides => apart ((coprime_X_pow unit i).dvd_of_dvd_mul_left divides)

theorem not_dvd_root {a : ZMod 2} (root : G.eval a = 0) (value : B.eval a ≠ 0) : ¬ G ∣ B := by
  rintro ⟨q, rfl⟩
  rw [eval_mul, root, zero_mul] at value
  exact value rfl

end Divides

section Order

variable {w tap : Nat} (positive : 0 < w) (fits : tap < 2 ^ w)

include positive

theorem reflected_one : reflected w (2 ^ (w - 1)) = 1 := by
  rw [reflected, sum_eq_single (w - 1)]
  next => rw [Nat.testBit_two_pow_self, bitOf, if_pos rfl, C_1, one_mul, Nat.sub_self, pow_zero]
  next =>
    intro i inside apart
    rw [Nat.testBit_two_pow_of_ne (Ne.symm apart), bitOf, if_neg (by decide), C_0, zero_mul]
  next =>
    intro outside
    rw [mem_range] at outside
    omega

include fits

theorem not_dvd_of_turns {d : Nat} (apart : Nat.repeat (registerTurn tap) d (2 ^ (w - 1)) ≠ 2 ^ (w - 1)) :
    ¬ generator w tap ∣ X ^ d + 1 := by
  intro divides
  have start : 2 ^ (w - 1) < 2 ^ w := Nat.pow_lt_pow_right (by decide) (by omega)
  obtain ⟨inside, turned⟩ := mk_registerTurns positive fits start d
  have same : AdjoinRoot.mk (generator w tap) (X ^ d) = AdjoinRoot.mk (generator w tap) 1 := by
    rw [AdjoinRoot.mk_eq_mk, CharTwo.sub_eq_add]
    exact divides
  rw [reflected_one positive, mul_one, same] at turned
  have back := eq_modByMonic (degree_reflected_lt w _) turned
  have one : reflected w (2 ^ (w - 1)) = 1 %ₘ generator w tap :=
    eq_modByMonic (degree_reflected_lt w _) (by rw [reflected_one positive])
  exact apart (reflected_injective inside start (back.trans one.symm))

end Order

theorem repeat_succ {A : Type} (f : A → A) (k : Nat) (a : A) : Nat.repeat f (k + 1) a = Nat.repeat f k (f a) := by
  induction k with
  | zero => rfl
  | succ k ih => exact congrArg f ih

def turnsAvoid (tap target : Nat) : Nat → Nat → Bool
  | 0, _ => true
  | k + 1, n => registerTurn tap n != target && turnsAvoid tap target k (registerTurn tap n)

theorem turnsAvoid_spec {tap target : Nat} (k n : Nat) (avoids : turnsAvoid tap target k n = true) {d : Nat}
    (some : 0 < d) (few : d ≤ k) : Nat.repeat (registerTurn tap) d n ≠ target := by
  induction k generalizing n d with
  | zero => omega
  | succ k ih =>
    rw [turnsAvoid, Bool.and_eq_true, bne_iff_ne] at avoids
    obtain ⟨d, rfl⟩ : ∃ d', d = d' + 1 := ⟨d - 1, by omega⟩
    rw [repeat_succ]
    rcases Nat.eq_zero_or_pos d with rfl | more
    next => exact avoids.1
    next => exact ih _ avoids.2 more (by omega)

noncomputable def flipPoly (n : Nat) (flips : Finset Nat) : (ZMod 2)[X] :=
  ∑ k ∈ flips, X ^ (n - 1 - k)

/-- What a check of `w` bits is meant to notice. -/
inductive Noticed (w : Nat) (flips : Finset Nat) : Prop where
  | one : flips.card = 1 → Noticed w flips
  | two : flips.card = 2 → Noticed w flips
  | odd : Odd flips.card → Noticed w flips
  | burst (first : Nat) : flips.Nonempty → (∀ k ∈ flips, first ≤ k ∧ k < first + w) → Noticed w flips

section Notices

variable {w n : Nat} {flips : Finset Nat} {G : (ZMod 2)[X]} (within : ∀ k ∈ flips, k < n)

theorem not_dvd_odd (root : G.eval 1 = 0) (odd : Odd flips.card) : ¬ G ∣ flipPoly n flips := by
  refine not_dvd_root root ?_
  rw [flipPoly, eval_finsetSum]
  simp only [eval_pow, eval_X, one_pow, sum_const, nsmul_eq_mul, mul_one]
  rw [ZMod.natCast_ne_zero_iff_odd]
  exact odd

include within

theorem not_dvd_two (unit : G.coeff 0 = 1) (order : ∀ d, 0 < d → d < n → ¬ G ∣ X ^ d + 1) (two : flips.card = 2) :
    ¬ G ∣ flipPoly n flips := by
  obtain ⟨i, j, apart, rfl⟩ := card_eq_two.mp two
  have first := within i (by simp)
  have second := within j (by simp)
  have pair (i j : Nat) (before : i < j) (inside : j < n) : ¬ G ∣ X ^ (n - 1 - i) + X ^ (n - 1 - j) := by
    have factor : (X : (ZMod 2)[X]) ^ (n - 1 - i) + X ^ (n - 1 - j) = X ^ (n - 1 - j) * (X ^ (j - i) + 1) := by
      rw [mul_add, mul_one, ← pow_add, show n - 1 - j + (j - i) = n - 1 - i by omega]
    rw [factor]
    exact not_dvd_pair unit (order (j - i) (by omega) (by omega)) _
  rw [flipPoly, sum_pair apart]
  rcases Nat.lt_or_gt_of_ne apart with before | behind
  next => exact pair i j before second
  next =>
    rw [add_comm]
    exact pair j i behind first

theorem not_dvd_window (unit : G.coeff 0 = 1) (degree : G.degree = w) {first : Nat} (some : flips.Nonempty)
    (window : ∀ k ∈ flips, first ≤ k ∧ k < first + w) : ¬ G ∣ flipPoly n flips := by
  -- The last flip is the lowest power.
  obtain ⟨m, member, last⟩ : ∃ m ∈ flips, ∀ k ∈ flips, k ≤ m := ⟨flips.max' some, max'_mem flips some, le_max' flips⟩
  have inside := within m member
  have factor : flipPoly n flips = X ^ (n - 1 - m) * ∑ k ∈ flips, X ^ (m - k) := by
    rw [flipPoly, mul_sum]
    refine sum_congr rfl fun k here => ?_
    have before := last k here
    rw [← pow_add, show n - 1 - m + (m - k) = n - 1 - k by omega]
  rw [factor]
  refine not_dvd_burst unit ?_ ?_ _
  next =>
    rw [degree]
    refine lt_of_le_of_lt (degree_sum_le _ _) ((Finset.sup_lt_iff (WithBot.bot_lt_coe w)).mpr fun k here => ?_)
    have low := (window k here).1
    have high := (window m member).2
    have before := last k here
    refine lt_of_le_of_lt (degree_X_pow_le _) (WithBot.coe_lt_coe.mpr (show m - k < w by omega))
  next =>
    intro zero
    have constant := congrArg (fun p => p.coeff 0) zero
    simp only [finsetSum_coeff, coeff_X_pow, coeff_zero] at constant
    rw [sum_eq_single m] at constant
    next => simp at constant
    next =>
      intro k here apart
      have before := last k here
      rw [if_neg (by omega)]
    next => exact fun out => absurd member out

/-- A generator with a constant term, an even number of terms and an order past the message notices all of it. -/
theorem not_dvd_noticed (unit : G.coeff 0 = 1) (root : G.eval 1 = 0) (degree : G.degree = w)
    (order : ∀ d, 0 < d → d < n → ¬ G ∣ X ^ d + 1) (noticed : Noticed w flips) : ¬ G ∣ flipPoly n flips := by
  cases noticed with
  | one one => exact not_dvd_odd root (by rw [one]; decide)
  | two two => exact not_dvd_two within unit order two
  | odd odd => exact not_dvd_odd root odd
  | burst first some window => exact not_dvd_window within unit degree some window

end Notices

end OpenServo.Shared
