import OpenServo.Bus.CalTrain
import OpenServo.Shared.Checked
import OpenServo.Shared.Restoring

set_option autoImplicit false

namespace OpenServo.Bus

open OpenServo.Shared
open OpenServo.Shared.Checked

def restore (rem dshift q bit : Nat) : Checked Nat :=
  if bit = 0 then pure q
  else if dshift ≤ rem then do
    let rem ← minus rem dshift
    restore rem (dshift >>> 1) (q ||| bit) (bit >>> 1)
  else restore rem (dshift >>> 1) q (bit >>> 1)
termination_by bit

/-- Outside the domain the quotient saturates, and nothing is left to divide. -/
def magnitude (rem span : Nat) : Checked Nat := do
  let net ← u64 (span <<< 20)
  let dshift ← u64 (span <<< 19)
  if net ≤ rem then restore 0 dshift ((1 <<< 20) - 1) (1 <<< 19)
  else restore rem dshift 0 (1 <<< 19)

def ppm (err : Int32) (span : UInt32) : Checked Int := do
  let rem ← u64 ((unsignedAbs err).toNat * 1000000)
  let q ← magnitude rem span.toNat
  let q ← i32 q
  if err < 0 then i32 (-q) else pure q

section Restore

variable {number span rem q : Nat}

theorem halve_shifted (x places : Nat) : (x * 2 ^ (places + 1)) >>> 1 = x * 2 ^ places := by
  rw [Nat.shiftRight_eq_div_pow, pow_succ, ← Nat.mul_assoc, Nat.pow_one, Nat.mul_div_cancel _ (by omega)]

theorem restore_sat (places : Nat) (held : Restoring number span (places + 1) rem q) :
    (restore rem (span * 2 ^ places) q (2 ^ places)).Sat (· = number / span) := by
  have here : 2 ^ places ≠ 0 := by
    have positive := Nat.two_pow_pos places
    omega
  induction places generalizing rem q with
  | zero =>
    rw [restore, if_neg here]
    split
    next fits =>
      apply (minus_sat fits).bind
      intro rest same
      have taken := (held.take fits).quotient_eq
      rw [restore, if_pos (by rfl)]
      exact Sat.pure taken
    next short =>
      have kept := (held.skip (by omega)).quotient_eq
      rw [restore, if_pos (by rfl)]
      exact Sat.pure kept
  | succ places ih =>
    have half := halve_shifted 1 places
    rw [Nat.one_mul, Nat.one_mul] at half
    have lower : 2 ^ places ≠ 0 := by
      have positive := Nat.two_pow_pos places
      omega
    rw [restore, if_neg here, halve_shifted, half]
    split
    next fits =>
      apply (minus_sat fits).bind
      intro rest same
      have left : rest = rem - span * 2 ^ (places + 1) := by omega
      subst left
      exact ih (held.take fits) lower
    next short => exact ih (held.skip (by omega)) lower

theorem restore_nothing (positive : 0 < span) (places : Nat) :
    (restore 0 (span * 2 ^ places) q (2 ^ places)).Sat (· = q) := by
  have here : 2 ^ places ≠ 0 := by
    have positive := Nat.two_pow_pos places
    omega
  have wide : ¬ span * 2 ^ places ≤ 0 := by
    have product := Nat.mul_pos positive (Nat.two_pow_pos places)
    omega
  induction places with
  | zero =>
    rw [restore, if_neg here, if_neg wide, restore, if_pos (by rfl)]
    exact Sat.pure rfl
  | succ places ih =>
    have half := halve_shifted 1 places
    rw [Nat.one_mul, Nat.one_mul] at half
    have lower := Nat.two_pow_pos places
    have product := Nat.mul_pos positive lower
    rw [restore, if_neg here, if_neg wide, halve_shifted, half]
    exact ih (by omega) (by omega)

end Restore

def saturated (rem span : Nat) : Nat :=
  if rem < span * 2 ^ 20 then rem / span else 2 ^ 20 - 1

theorem saturated_lt (rem span : Nat) : saturated rem span < 2 ^ 20 := by
  rw [saturated]
  split
  next inside => exact Nat.div_lt_of_lt_mul inside
  next => decide

theorem magnitude_sat {rem span : Nat} (positive : 0 < span) (word : span < 2 ^ 32) :
    (magnitude rem span).Sat (· = saturated rem span) := by
  have shifted (k : Nat) : span <<< k = span * 2 ^ k := Nat.shiftLeft_eq _ _
  have bit : 1 <<< 19 = 2 ^ 19 := Nat.one_shiftLeft 19
  rw [magnitude, shifted, shifted, bit]
  apply (u64_sat (by omega)).bind
  rintro net rfl
  apply (u64_sat (by omega)).bind
  rintro dshift rfl
  rw [saturated]
  split
  next beyond =>
    rw [if_neg (by omega)]
    exact restore_nothing positive 19
  next inside =>
    rw [if_pos (by omega)]
    exact restore_sat 19 (Restoring.start (by omega))

section Signed

variable {span : UInt32}

theorem unsignedAbs_le (err : Int32) : (unsignedAbs err).toNat ≤ 2 ^ 31 := by
  rw [unsignedAbs_toNat]
  have low := err.le_toInt
  have high := err.toInt_lt
  omega

theorem lt_zero_iff {err : Int32} : err < 0 ↔ err.toInt < 0 := by
  rw [Int32.lt_iff_toInt_lt]
  rfl

theorem toNat_pos (nonzero : span ≠ 0) : 0 < span.toNat := by
  have apart : span.toNat ≠ (0 : UInt32).toNat := fun same => nonzero (UInt32.toNat_inj.mp same)
  exact Nat.pos_of_ne_zero apart

theorem ppm_sat (err : Int32) (nonzero : span ≠ 0) :
    (ppm err span).Sat
      (· = err.toInt.sign * (saturated (err.toInt.natAbs * 1000000) span.toNat : Nat)) := by
  have size := unsignedAbs_le err
  rw [ppm]
  apply (u64_sat (by omega)).bind
  rintro rem rfl
  rw [unsignedAbs_toNat]
  apply (magnitude_sat (toNat_pos nonzero) span.toNat_lt).bind
  rintro q rfl
  have small := saturated_lt (err.toInt.natAbs * 1000000) span.toNat
  apply (i32_sat (by omega) (by omega)).bind
  rintro q rfl
  split
  next below =>
    have negative := lt_zero_iff.mp below
    rw [Int.sign_eq_neg_one_of_neg negative, Int.neg_one_mul]
    exact i32_sat (by omega) (by omega)
  next other =>
    refine Sat.pure ?_
    have unsigned := Int.not_lt.mp (mt lt_zero_iff.mpr other)
    rcases Int.lt_or_eq_of_le unsigned with above | zero
    next => rw [Int.sign_eq_one_of_pos above, Int.one_mul]
    next =>
      have nothing : saturated 0 span.toNat = 0 := by
        rw [saturated, if_pos (Nat.mul_pos (toNat_pos nonzero) (by decide)), Nat.zero_div]
      rw [← zero, Int.sign_zero, Int.zero_mul, Int.natAbs_zero, Nat.zero_mul, nothing]
      rfl

/-- Truncation toward zero, as a sign and a magnitude. -/
theorem tdiv_eq (err : Int) (span : Nat) :
    (err * 1000000).tdiv span = err.sign * (err.natAbs * 1000000 / span : Nat) := by
  obtain ⟨size, rfl | rfl⟩ := err.eq_nat_or_neg
  next =>
    rcases Nat.eq_zero_or_pos size with rfl | positive
    next => simp
    next =>
      have signed : (size : Int).sign = 1 := Int.sign_eq_one_of_pos (by omega)
      rw [signed, Int.one_mul, Int.natAbs_natCast, Int.ofNat_tdiv]
      rfl
  next =>
    rcases Nat.eq_zero_or_pos size with rfl | positive
    next => simp
    next =>
      have signed : (-(size : Int)).sign = -1 := Int.sign_eq_neg_one_of_neg (by omega)
      rw [signed, Int.neg_one_mul, Int.natAbs_neg, Int.natAbs_natCast, Int.neg_mul, Int.neg_tdiv, Int.ofNat_tdiv]
      rfl

theorem natAbs_tdiv (err : Int) (span : Nat) :
    ((err * 1000000).tdiv span).natAbs = err.natAbs * 1000000 / span := by
  rw [Int.natAbs_tdiv, Int.natAbs_mul]
  rfl

theorem sanity_iff {rem span : Nat} (positive : 0 < span) :
    (driftSanityPpm + 1) * span ≤ rem ↔ 8000 < rem / span := by
  rw [← Nat.le_div_iff_mul_le positive]
  exact Iff.rfl

theorem ppm_exact (err : Int32) (nonzero : span ≠ 0) :
    (ppm err span).ok = true ∧
      (ppm err span).val =
        (if err.toInt.natAbs * 1000000 < span.toNat * 2 ^ 20 then (err.toInt * 1000000).tdiv span.toNat
          else err.toInt.sign * (2 ^ 20 - 1)) ∧
      (unsignedAbs err).toNat * 1000000 < 2 ^ 64 ∧ (driftSanityPpm + 1) * span.toNat < 2 ^ 64 ∧
      ∀ clock : ClockTracker, clock.calReady = false → clock.driftReady = true → clock.cadenceErr = err →
        clock.cadenceSpan = span → ∀ onWindow : Int32 → UInt32 → Option Int8,
          (clock.poll onWindow).2 =
            if 8000 < ((err.toInt * 1000000).tdiv span.toNat).natAbs then none else onWindow err span := by
  have size := unsignedAbs_le err
  have wide := span.toNat_lt
  have positive := toNat_pos nonzero
  obtain ⟨ok, value⟩ := ppm_sat err nonzero
  have sane : driftSanityPpm = 8000 := rfl
  refine ⟨ok, ?_, by omega, by rw [sane]; omega, ?_⟩
  next =>
    rw [value, saturated]
    split
    next => exact (tdiv_eq _ _).symm
    next => rfl
  next =>
    intro clock trained ready errs spans onWindow
    have test : (driftSanityPpm + 1) * span.toNat ≤ (unsignedAbs err).toNat * 1000000 ↔
        8000 < ((err.toInt * 1000000).tdiv span.toNat).natAbs := by
      rw [sanity_iff positive, natAbs_tdiv, unsignedAbs_toNat]
    rw [ClockTracker.poll, trained, ready, errs, spans, if_neg (by decide), if_neg (by decide), if_neg nonzero]
    by_cases sane : 8000 < ((err.toInt * 1000000).tdiv span.toNat).natAbs
    next => rw [if_pos (test.mpr sane), if_pos sane]
    next => rw [if_neg (mt test.mp sane), if_neg sane]

theorem ppm_exact_saturated :
    (ppm (-1000000) 4).val = -(2 ^ 20 - 1) ∧
      (({ driftReady := true, cadenceErr := -1000000, cadenceSpan := 4 } : ClockTracker).poll
        fun _ _ => some 1).2 = none := by
  obtain ⟨-, value, -, -, polled⟩ := @ppm_exact 4 (-1000000) (by decide)
  constructor
  next =>
    rw [value]
    decide
  next =>
    rw [polled _ rfl rfl rfl rfl]
    decide

end Signed

end OpenServo.Bus
