import OpenServo.Shared.Fixed

set_option autoImplicit false

namespace OpenServo.Motion

open OpenServo.Shared

/-- An arithmetic shift of the wide product: rounds down, not to zero. -/
def qMul (a b : Int) (k : Nat) : Int :=
  wrap32 ((a * b) >>> k)

theorem qMul_of_mem {a b : Int} {k : Nat} (low : -2 ^ 31 ≤ a * b / 2 ^ k) (high : a * b / 2 ^ k < 2 ^ 31) :
    qMul a b k = a * b / 2 ^ k := by
  rw [qMul, Int.shiftRight_eq_div_pow]
  exact wrap32_of_mem (by simpa using low) (by simpa using high)

def qMulU (a b k : Nat) : Nat :=
  ((a * b) >>> k) % 2 ^ 32

def wideGe (a b c d : Nat) : Bool :=
  c * d ≤ a * b

def seedC1Q30 : Nat := 3031741621

def seedC2Q30 : Nat := 2021161080

def subU (a b : Nat) : Nat :=
  (a + (2 ^ 32 - b)) % 2 ^ 32

/-- `num / d` without a divide: a linear seed and two Newton steps on the normalised divisor. -/
def recipDiv (num d : Nat) : Nat :=
  if d ≤ 1 then num
  else
    let n := 31 - Nat.log2 d
    let dn := d <<< n
    let r := subU seedC1Q30 (qMulU seedC2Q30 dn 32)
    let r := qMulU r (subU (2 ^ 31) (qMulU r dn 32)) 30
    let r := qMulU r (subU (2 ^ 31) (qMulU r dn 32)) 30
    ((num * r) >>> 32) >>> (30 - n)

end OpenServo.Motion
