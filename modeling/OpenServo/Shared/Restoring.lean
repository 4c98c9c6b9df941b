import Mathlib.Algebra.Order.Ring.Nat

set_option autoImplicit false

/-!
Restoring division: the divisor is tried against what is left, one binary place after the other.
-/

namespace OpenServo.Shared

/-- The bits from `places` up stand in `quotient`, `rest` is what they leave of the number. -/
structure Restoring (number divisor places rest quotient : Nat) : Prop where
  split : number = divisor * quotient + rest
  small : rest < divisor * 2 ^ places
  high : ∃ bits, quotient = 2 ^ places * bits

namespace Restoring

variable {number divisor places rest quotient : Nat}

theorem start (room : number < divisor * 2 ^ places) : Restoring number divisor places number 0 where
  split := by rw [Nat.mul_zero, Nat.zero_add]
  small := room
  high := ⟨0, (Nat.mul_zero _).symm⟩

theorem skip (before : Restoring number divisor (places + 1) rest quotient) (less : rest < divisor * 2 ^ places) :
    Restoring number divisor places rest quotient := by
  obtain ⟨bits, high⟩ := before.high
  refine ⟨before.split, less, 2 * bits, ?_⟩
  rw [high, pow_succ, Nat.mul_assoc]

theorem take (before : Restoring number divisor (places + 1) rest quotient) (fits : divisor * 2 ^ places ≤ rest) :
    Restoring number divisor places (rest - divisor * 2 ^ places) (quotient ||| 2 ^ places) := by
  obtain ⟨bits, high⟩ := before.high
  have below : 2 ^ places < 2 ^ (places + 1) := Nat.pow_lt_pow_right (by omega) (by omega)
  have set : quotient ||| 2 ^ places = quotient + 2 ^ places := by
    rw [high, Nat.two_pow_add_eq_or_of_lt below]
  have wide : divisor * 2 ^ (places + 1) = divisor * 2 ^ places + divisor * 2 ^ places := by
    rw [pow_succ, Nat.mul_two, Nat.mul_add]
  have split := before.split
  have small := before.small
  refine ⟨?_, by omega, 2 * bits + 1, ?_⟩
  next =>
    rw [set, Nat.mul_add]
    omega
  next => rw [set, high, pow_succ, Nat.mul_add, Nat.mul_assoc, Nat.mul_one]

theorem quotient_eq (done : Restoring number divisor 0 rest quotient) : quotient = number / divisor := by
  have small : rest < divisor := by simpa using done.small
  rw [done.split, Nat.mul_add_div (by omega), Nat.div_eq_of_lt small, Nat.add_zero]

end Restoring

end OpenServo.Shared
