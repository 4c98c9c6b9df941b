import Mathlib.Algebra.Ring.Int.Defs
import Mathlib.Algebra.Ring.Nat

set_option autoImplicit false

/-!
Signed words of 32 bits as integers: what wraps, what saturates, and what is clamped.
-/

namespace OpenServo.Shared

def wrap32 (x : Int) : Int :=
  Int.bmod x (2 ^ 32)

def clamp (x lo hi : Int) : Int :=
  max lo (min x hi)

def sat32 (x : Int) : Int :=
  clamp x (-2 ^ 31) (2 ^ 31 - 1)

theorem le_clamp (x lo hi : Int) : lo ≤ clamp x lo hi :=
  Int.le_max_left _ _

theorem clamp_le {lo hi : Int} (x : Int) (order : lo ≤ hi) : clamp x lo hi ≤ hi :=
  Int.max_le.mpr ⟨order, Int.min_le_right _ _⟩

theorem clamp_of_mem {x lo hi : Int} (low : lo ≤ x) (high : x ≤ hi) : clamp x lo hi = x := by
  rw [clamp, Int.min_eq_left high, Int.max_eq_right low]

theorem natAbs_clamp_le {x : Int} {bound : Nat} : (clamp x (-bound) bound).natAbs ≤ bound := by
  have low := le_clamp x (-bound) bound
  have high := clamp_le x (show -(bound : Int) ≤ bound by omega)
  omega

theorem wrap32_of_mem {x : Int} (low : -2 ^ 31 ≤ x) (high : x < 2 ^ 31) : wrap32 x = x := by
  rw [wrap32, Int.bmod_def]
  split <;> omega

end OpenServo.Shared
