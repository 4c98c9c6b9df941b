import Mathlib.Data.UInt

set_option autoImplicit false

/-!
A counter of 32 bits beside the time it counts.
-/

namespace OpenServo.Shared

theorem toNat_sub_ofNat (a b : Nat) :
    (UInt32.ofNat a - UInt32.ofNat b).toNat = (2 ^ 32 - b % 2 ^ 32 + a % 2 ^ 32) % 2 ^ 32 := by
  rw [UInt32.toNat_sub, UInt32.toNat_ofNat', UInt32.toNat_ofNat']

theorem ofNat_add_sub (clock : Nat) (tick : UInt32) :
    UInt32.ofNat (clock + (tick - UInt32.ofNat clock).toNat) = tick := by
  rw [UInt32.ofNat_add, UInt32.ofNat_toNat, UInt32.add_comm]
  exact UInt32.sub_add_cancel tick _

theorem ofNat_add_toNat (clock : Nat) (span : UInt32) :
    UInt32.ofNat clock + span = UInt32.ofNat (clock + span.toNat) := by
  rw [UInt32.ofNat_add, UInt32.ofNat_toNat]

end OpenServo.Shared
