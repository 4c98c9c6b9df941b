import Mathlib.Algebra.Order.Ring.Nat
import OpenServo.Shared.Fixed

set_option autoImplicit false

/-!
Arithmetic that may leave its word. A checked value is what the words hold, beside a flag that no operation on the
way to it overflowed, lost bits, shifted by too much or was given an empty interval.
-/

namespace OpenServo.Shared

structure Checked (A : Type) where
  val : A
  ok : Bool

namespace Checked

variable {A B : Type}

instance : Monad Checked where
  pure value := ⟨value, true⟩
  bind x next := ⟨(next x.val).val, x.ok && (next x.val).ok⟩

@[simp] theorem val_pure (value : A) : (pure value : Checked A).val = value := rfl

@[simp] theorem val_bind (x : Checked A) (next : A → Checked B) : (x >>= next).val = (next x.val).val := rfl

@[simp] theorem val_ite (c : Prop) [Decidable c] (x y : Checked A) :
    (if c then x else y).val = if c then x.val else y.val := by
  split <;> rfl

/-- Every check passed, and the value is as said. -/
def Sat (x : Checked A) (said : A → Prop) : Prop :=
  x.ok = true ∧ said x.val

theorem Sat.pure {value : A} {said : A → Prop} (holds : said value) : (pure value : Checked A).Sat said :=
  ⟨rfl, holds⟩

theorem Sat.bind {x : Checked A} {next : A → Checked B} {mid : A → Prop} {said : B → Prop} (first : x.Sat mid)
    (rest : ∀ value, mid value → (next value).Sat said) : (x >>= next).Sat said := by
  have second := rest x.val first.2
  constructor
  next =>
    show (x.ok && (next x.val).ok) = true
    rw [first.1, second.1]
    rfl
  next => exact second.2

theorem Sat.mono {x : Checked A} {said weaker : A → Prop} (sat : x.Sat said)
    (implies : ∀ value, said value → weaker value) : x.Sat weaker :=
  ⟨sat.1, implies x.val sat.2⟩

section Words

def i32 (x : Int) : Checked Int :=
  ⟨wrap32 x, decide (-2 ^ 31 ≤ x ∧ x < 2 ^ 31)⟩

def word (x : Int) : Checked Int :=
  ⟨x, decide (-2 ^ 31 ≤ x ∧ x < 2 ^ 31)⟩

def u32 (x : Nat) : Checked Nat :=
  ⟨x, decide (x < 2 ^ 32)⟩

def u64 (x : Nat) : Checked Nat :=
  ⟨x, decide (x < 2 ^ 64)⟩

def u16 (x : Nat) : Checked Nat :=
  ⟨x, decide (x < 2 ^ 16)⟩

def u8 (x : Nat) : Checked Nat :=
  ⟨x, decide (x < 2 ^ 8)⟩

def i8 (x : Int) : Checked Int :=
  ⟨x, decide (-2 ^ 7 ≤ x ∧ x < 2 ^ 7)⟩

def asU32 (x : Int) : Checked Nat :=
  ⟨(x % 2 ^ 32).toNat, decide (0 ≤ x ∧ x < 2 ^ 32)⟩

def minus (a b : Nat) : Checked Nat :=
  ⟨a - b, decide (b ≤ a)⟩

def within (x lo hi : Int) : Checked Int :=
  ⟨clamp x lo hi, decide (lo ≤ hi)⟩

@[simp] theorem i32_val (x : Int) : (i32 x).val = wrap32 x := by
  rw [i32]

@[simp] theorem word_val (x : Int) : (word x).val = x := by
  rw [word]

@[simp] theorem u32_val (x : Nat) : (u32 x).val = x := by
  rw [u32]

@[simp] theorem u8_val (x : Nat) : (u8 x).val = x := by
  rw [u8]

@[simp] theorem asU32_val (x : Int) : (asU32 x).val = (x % 2 ^ 32).toNat := by
  rw [asU32]

@[simp] theorem minus_val (a b : Nat) : (minus a b).val = a - b := by
  rw [minus]

@[simp] theorem within_val (x lo hi : Int) : (within x lo hi).val = clamp x lo hi := by
  rw [within]

theorem i32_sat {x : Int} (low : -2 ^ 31 ≤ x) (high : x < 2 ^ 31) : (i32 x).Sat (· = x) :=
  ⟨decide_eq_true ⟨low, high⟩, wrap32_of_mem low high⟩

theorem word_sat {x : Int} (low : -2 ^ 31 ≤ x) (high : x < 2 ^ 31) : (word x).Sat (· = x) :=
  ⟨decide_eq_true ⟨low, high⟩, rfl⟩

theorem u32_sat {x : Nat} (small : x < 2 ^ 32) : (u32 x).Sat (· = x) :=
  ⟨decide_eq_true small, rfl⟩

theorem u64_sat {x : Nat} (small : x < 2 ^ 64) : (u64 x).Sat (· = x) :=
  ⟨decide_eq_true small, rfl⟩

theorem u16_sat {x : Nat} (small : x < 2 ^ 16) : (u16 x).Sat (· = x) :=
  ⟨decide_eq_true small, rfl⟩

theorem u8_sat {x : Nat} (small : x < 2 ^ 8) : (u8 x).Sat (· = x) :=
  ⟨decide_eq_true small, rfl⟩

theorem i8_sat {x : Int} (low : -2 ^ 7 ≤ x) (high : x < 2 ^ 7) : (i8 x).Sat (· = x) :=
  ⟨decide_eq_true ⟨low, high⟩, rfl⟩

theorem asU32_sat {x : Int} (low : 0 ≤ x) (high : x < 2 ^ 32) : (asU32 x).Sat (fun v => (v : Int) = x) := by
  refine ⟨decide_eq_true ⟨low, high⟩, ?_⟩
  rw [asU32_val]
  omega

theorem minus_sat {a b : Nat} (le : b ≤ a) : (minus a b).Sat (fun v => v + b = a) := by
  refine ⟨decide_eq_true le, ?_⟩
  rw [minus_val]
  omega

theorem within_sat {x lo hi : Int} (order : lo ≤ hi) : (within x lo hi).Sat (fun v => lo ≤ v ∧ v ≤ hi) :=
  ⟨decide_eq_true order, le_clamp x lo hi, clamp_le x order⟩

theorem within_eq {x lo hi : Int} (order : lo ≤ hi) : (within x lo hi).Sat (· = clamp x lo hi) :=
  ⟨decide_eq_true order, rfl⟩

theorem within_abs {x lim : Int} (bound : Nat) (same : lim = bound) :
    (within x (-lim) lim).Sat (fun v => v.natAbs ≤ bound) := by
  subst same
  have order : -(bound : Int) ≤ bound := by omega
  exact ⟨decide_eq_true order, natAbs_clamp_le⟩

theorem scaled_sat {a b : Int} {k : Nat} (first second most : Nat) (left : a.natAbs ≤ first) (right : b.natAbs ≤ second)
    (product : first * second ≤ most * 2 ^ k) (small : most < 2 ^ 31) :
    (i32 ((a * b) >>> k)).Sat (fun v => v.natAbs ≤ most ∧ (0 ≤ a → 0 ≤ b → 0 ≤ v)) := by
  have size : (a * b).natAbs ≤ most * 2 ^ k := by
    rw [Int.natAbs_mul]
    exact Nat.le_trans (Nat.mul_le_mul left right) product
  have positive : (0 : Int) < 2 ^ k := Int.pow_pos (by decide)
  have cast : ((most * 2 ^ k : Nat) : Int) = most * 2 ^ k := by
    rw [Int.natCast_mul, Int.natCast_pow]
    rfl
  have low : -(most : Int) ≤ (a * b) >>> k := by
    rw [Int.shiftRight_eq_div_pow, Int.natCast_pow]
    apply Int.le_ediv_of_mul_le positive
    rw [Int.neg_mul]
    omega
  have high : (a * b) >>> k ≤ (most : Int) := by
    rw [Int.shiftRight_eq_div_pow, Int.natCast_pow]
    apply Int.ediv_le_of_le_mul positive
    omega
  apply (i32_sat (by omega) (by omega)).mono
  intro value same
  subst same
  refine ⟨by omega, fun signed other => ?_⟩
  rw [Int.shiftRight_eq_div_pow, Int.natCast_pow]
  exact Int.ediv_nonneg (Int.mul_nonneg signed other) (Int.le_of_lt positive)

def ewma (state x : Int) (shift : Nat) : Checked Int := do
  let d ← i32 (x - state)
  i32 (state + d >>> shift)

@[simp] theorem ewma_val (state x : Int) (shift : Nat) :
    (ewma state x shift).val = wrap32 (state + wrap32 (x - state) >>> shift) := rfl

theorem ewma_sat {state x lo hi : Int} (shift : Nat) (low : lo ≤ state) (high : state ≤ hi) (below : lo ≤ x)
    (above : x ≤ hi) (least : -2 ^ 31 ≤ lo) (most : hi < 2 ^ 31) (span : hi - lo < 2 ^ 31) :
    (ewma state x shift).Sat (fun v => lo ≤ v ∧ v ≤ hi) := by
  apply (i32_sat (by omega) (by omega)).bind
  intro d same
  subst same
  -- The shift rounds toward the smaller end, and never past it.
  have positive : (0 : Int) < 2 ^ shift := Int.pow_pos (by decide)
  have one : (1 : Int) ≤ 2 ^ shift := by omega
  have part : (x - state) >>> shift = (x - state) / 2 ^ shift := by
    rw [Int.shiftRight_eq_div_pow, Int.natCast_pow]
    rfl
  have down : lo - state ≤ (x - state) >>> shift := by
    rw [part]
    apply Int.le_ediv_of_mul_le positive
    have scaled : (state - lo) * 1 ≤ (state - lo) * 2 ^ shift := Int.mul_le_mul_of_nonneg_left one (by omega)
    have negated : (lo - state) * 2 ^ shift = -((state - lo) * 2 ^ shift) := by
      rw [← Int.neg_mul, Int.neg_sub]
    omega
  have up : (x - state) >>> shift ≤ hi - state := by
    rw [part]
    apply Int.ediv_le_of_le_mul positive
    have scaled : (hi - state) * 1 ≤ (hi - state) * 2 ^ shift := Int.mul_le_mul_of_nonneg_left one (by omega)
    omega
  apply (i32_sat (by omega) (by omega)).mono
  intro value same
  omega

end Words

end Checked

end OpenServo.Shared
