import OpenServo.Protocol.Bytes
import OpenServo.Protocol.Crc
import OpenServo.Shared.ShiftRegister

set_option autoImplicit false

namespace OpenServo.Protocol

open OpenServo.Shared Polynomial

noncomputable def crcGenerator : (ZMod 2)[X] :=
  X ^ 16 + X ^ 15 + X ^ 2 + 1

noncomputable def crcPoly (crc : UInt16) : (ZMod 2)[X] :=
  reflected 16 crc.toNat

/-- The order in which the UART shifts a byte. -/
def wireBit (bytes : List UInt8) (k : Nat) : Bool :=
  (bytes.getD (k / 8) 0).toNat.testBit (k % 8)

noncomputable def messagePoly (bytes : List UInt8) : (ZMod 2)[X] :=
  ∑ k ∈ Finset.range (8 * bytes.length), C (bitOf (wireBit bytes k)) * X ^ (8 * bytes.length - 1 - k)

theorem generator_eq : generator 16 polyReflected.toNat = crcGenerator := by
  rw [generator, reflected, crcGenerator]
  simp [Finset.sum_range_succ, bitOf, polyReflected, Nat.testBit]
  ring

theorem polyReflected_lt : polyReflected.toNat < 2 ^ 16 :=
  polyReflected.toNat_lt

theorem testBit_zero_iff (crc : UInt16) : crc &&& 1 ≠ 0 ↔ crc.toNat.testBit 0 = true := by
  rw [ne_eq, ← UInt16.toNat_inj, UInt16.toNat_and, Nat.testBit_zero, decide_eq_true_iff]
  show ¬ (crc.toNat &&& 1 = 0) ↔ _
  rw [Nat.and_one_is_mod]
  omega

theorem shiftStep_toNat (crc : UInt16) : (shiftStep crc).toNat = registerTurn polyReflected.toNat crc.toNat := by
  have half : (crc >>> 1).toNat = crc.toNat >>> 1 := by
    rw [UInt16.toNat_shiftRight]
    rfl
  rw [shiftStep, registerTurn]
  by_cases out : crc &&& 1 ≠ 0
  next => rw [if_pos out, if_pos ((testBit_zero_iff crc).mp out), UInt16.toNat_xor, half]
  next => rw [if_neg out, if_neg (mt (testBit_zero_iff crc).mpr out), half]

theorem shiftSteps_toNat (k : Nat) (crc : UInt16) :
    (Nat.repeat shiftStep k crc).toNat = Nat.repeat (registerTurn polyReflected.toNat) k crc.toNat := by
  induction k with
  | zero => rfl
  | succ k ih =>
    show (shiftStep (Nat.repeat shiftStep k crc)).toNat = registerTurn _ (Nat.repeat _ k _)
    rw [shiftStep_toNat, ih]

theorem crcPoly_xor (a b : UInt16) : crcPoly (a ^^^ b) = crcPoly a + crcPoly b := by
  rw [crcPoly, UInt16.toNat_xor, reflected_xor]
  rfl

theorem crcPoly_injective : Function.Injective crcPoly := by
  intro a b same
  exact UInt16.toNat_inj.mp (reflected_injective a.toNat_lt b.toNat_lt same)

noncomputable abbrev residue : (ZMod 2)[X] →+* AdjoinRoot (generator 16 polyReflected.toNat) :=
  AdjoinRoot.mk (generator 16 polyReflected.toNat)

theorem residue_update (crc : UInt16) (byte : UInt8) :
    residue (crcPoly (update crc byte)) = residue (X ^ 8 * crcPoly crc + X ^ 16 * reflected 8 byte.toNat) := by
  have loaded : (crc ^^^ byte.toUInt16).toNat = crc.toNat ^^^ byte.toNat := by
    rw [UInt16.toNat_xor, UInt8.toNat_toUInt16]
  have wide : reflected 16 byte.toNat = X ^ 8 * reflected 8 byte.toNat := reflected_widen 8 byte.toNat_lt
  have turned : residue (crcPoly (update crc byte)) = residue (X ^ 8 * reflected 16 (crc ^^^ byte.toUInt16).toNat) := by
    rw [crcPoly, update, shiftSteps_toNat]
    exact (mk_registerTurns (by decide) polyReflected_lt (crc ^^^ byte.toUInt16).toNat_lt 8).2
  have parts : X ^ 8 * reflected 16 (crc ^^^ byte.toUInt16).toNat =
      X ^ 8 * crcPoly crc + X ^ 16 * reflected 8 byte.toNat := by
    rw [loaded, reflected_xor, wide, crcPoly]
    ring
  exact turned.trans (congrArg residue parts)

theorem wireBit_cons_low (byte : UInt8) (rest : List UInt8) {k : Nat} (low : k < 8) :
    wireBit (byte :: rest) k = byte.toNat.testBit k := by
  rw [wireBit, Nat.div_eq_of_lt low, Nat.mod_eq_of_lt low]
  rfl

theorem wireBit_cons_high (byte : UInt8) (rest : List UInt8) (k : Nat) :
    wireBit (byte :: rest) (8 + k) = wireBit rest k := by
  rw [wireBit, show (8 + k) / 8 = k / 8 + 1 by omega, show (8 + k) % 8 = k % 8 by omega]
  rfl

theorem messagePoly_nil : messagePoly [] = 0 := by
  simp [messagePoly]

theorem messagePoly_cons (byte : UInt8) (rest : List UInt8) :
    messagePoly (byte :: rest) = X ^ (8 * rest.length) * reflected 8 byte.toNat + messagePoly rest := by
  have size : 8 * (byte :: rest).length = 8 + 8 * rest.length := by
    rw [List.length_cons]
    omega
  unfold messagePoly reflected
  rw [size, Finset.sum_range_add, Finset.mul_sum]
  refine congrArg₂ (· + ·) ?_ ?_
  next =>
    refine Finset.sum_congr rfl fun k inside => ?_
    rw [Finset.mem_range] at inside
    rw [wireBit_cons_low byte rest inside,
      show 8 + 8 * rest.length - 1 - k = 8 * rest.length + (8 - 1 - k) by omega, pow_add]
    ring
  next =>
    refine Finset.sum_congr rfl fun k _ => ?_
    rw [wireBit_cons_high, show 8 + 8 * rest.length - 1 - (8 + k) = 8 * rest.length - 1 - k by omega]

theorem residue_continue (crc : UInt16) (chunk : List UInt8) :
    residue (crcPoly (oscCrcContinue crc chunk)) =
      residue (X ^ (8 * chunk.length) * crcPoly crc + X ^ 16 * messagePoly chunk) := by
  induction chunk generalizing crc with
  | nil => simp [messagePoly_nil]
  | cons byte rest ih =>
    rw [oscCrcContinue_cons, ih, map_add, map_mul, residue_update, ← map_mul, ← map_add, messagePoly_cons,
      List.length_cons]
    refine congrArg residue ?_
    ring

theorem crcPoly_zero : crcPoly 0 = 0 :=
  reflected_zero 16

theorem residue_oscCrc (covered : List UInt8) :
    residue (crcPoly (oscCrc covered)) = residue (X ^ 16 * messagePoly covered) := by
  rw [oscCrc, residue_continue, crcPoly_zero, mul_zero, zero_add]

theorem oscCrc_remainder (covered : List UInt8) :
    crcPoly (oscCrc covered) = (X ^ 16 * messagePoly covered) %ₘ crcGenerator := by
  rw [← generator_eq]
  exact eq_modByMonic (degree_reflected_lt 16 _) (residue_oscCrc covered)

theorem messagePoly_xor {first second : List UInt8} (same : first.length = second.length) :
    messagePoly (first.zipWith (· ^^^ ·) second) = messagePoly first + messagePoly second := by
  induction first generalizing second with
  | nil =>
    obtain rfl := List.length_eq_zero_iff.mp same.symm
    simp [messagePoly_nil]
  | cons a first ih =>
    cases second with
    | nil => cases same
    | cons b second =>
      have same : first.length = second.length := Nat.succ.inj same
      have size : (first.zipWith (· ^^^ ·) second).length = first.length := by
        rw [List.length_zipWith, same, Nat.min_self]
      rw [List.zipWith_cons_cons, messagePoly_cons, messagePoly_cons, messagePoly_cons, ih same, size, UInt8.toNat_xor,
        reflected_xor, ← same]
      ring

theorem oscCrc_xor {first second : List UInt8} (same : first.length = second.length) :
    oscCrc (first.zipWith (· ^^^ ·) second) = oscCrc first ^^^ oscCrc second := by
  apply crcPoly_injective
  rw [crcPoly_xor, oscCrc_remainder, oscCrc_remainder, oscCrc_remainder, messagePoly_xor same, mul_add, add_modByMonic]

theorem oscCrc_zeros (n : Nat) (covered : List UInt8) : oscCrc (List.replicate n 0 ++ covered) = oscCrc covered := by
  induction n with
  | zero => rfl
  | succ n ih => rw [List.replicate_succ, List.cons_append, oscCrc_break_cons, ih]

section Generator

theorem crcGenerator_coeff : crcGenerator.coeff 0 = 1 := by
  simp [crcGenerator]

theorem crcGenerator_root : crcGenerator.eval 1 = 0 := by
  simp only [crcGenerator, eval_add, eval_pow, eval_X, one_pow, eval_one]
  decide

theorem crcGenerator_degree : crcGenerator.degree = 16 := by
  rw [← generator_eq]
  exact degree_generator

/-- The generator's order is past the bits of the longest frame. -/
theorem crcGenerator_order {d : Nat} (some : 0 < d) (few : d < 2064) : ¬ crcGenerator ∣ X ^ d + 1 := by
  have avoids : turnsAvoid polyReflected.toNat (2 ^ 15) 2063 (2 ^ 15) = true := by decide +kernel
  rw [← generator_eq]
  exact not_dvd_of_turns (by decide) polyReflected_lt (turnsAvoid_spec 2063 _ avoids some (by omega))

end Generator

theorem crcGenerator_monic : crcGenerator.Monic :=
  generator_eq ▸ generator_monic

theorem crc_eq_zero_iff {crc : UInt16} {p : (ZMod 2)[X]} (remainder : crcPoly crc = (X ^ 16 * p) %ₘ crcGenerator) :
    crc = 0 ↔ crcGenerator ∣ p := by
  have coprime := coprime_X_pow crcGenerator_coeff 16
  rw [← crcPoly_injective.eq_iff, crcPoly_zero, remainder, modByMonic_eq_zero_iff_dvd crcGenerator_monic]
  exact ⟨coprime.dvd_of_dvd_mul_left, fun divides => divides.mul_left _⟩

def crcMatches (bytes : List UInt8) : Bool :=
  oscCrc (bytes.take (bytes.length - 2)) ==
    u16FromLe (bytes.getD (bytes.length - 2) 0) (bytes.getD (bytes.length - 1) 0)

theorem crcPoly_trailer (low high : UInt8) : crcPoly (u16FromLe low high) = messagePoly [low, high] := by
  have parts := reflected_append 8 high.toNat (show low.toNat < 2 ^ 8 from low.toNat_lt)
  rw [crcPoly, u16FromLe_toNat, Nat.add_comm, messagePoly_cons, messagePoly_cons, messagePoly_nil]
  simpa using parts

/-- The checksum over a frame, its trailer too, is zero exactly when the trailer is its checksum. -/
theorem oscCrc_trailer (covered : List UInt8) (low high : UInt8) :
    oscCrc (covered ++ [low, high]) = 0 ↔ oscCrc covered = u16FromLe low high := by
  have whole : residue (crcPoly (oscCrc (covered ++ [low, high]))) =
      residue (X ^ 16 * crcPoly (oscCrc covered ^^^ u16FromLe low high)) := by
    rw [oscCrc, oscCrcContinue_append, residue_continue, crcPoly_xor, crcPoly_trailer, mul_add]
    rfl
  have remainder := eq_modByMonic (degree_reflected_lt 16 _) whole
  rw [generator_eq] at remainder
  rw [crc_eq_zero_iff remainder, ← UInt16.xor_eq_zero_iff]
  constructor
  next =>
    intro divides
    have small : (crcPoly (oscCrc covered ^^^ u16FromLe low high)).degree < crcGenerator.degree := by
      rw [crcGenerator_degree]
      exact degree_reflected_lt 16 _
    exact crcPoly_injective ((eq_zero_of_dvd_of_degree_lt divides small).trans crcPoly_zero.symm)
  next =>
    intro same
    rw [same, crcPoly_zero]
    exact dvd_zero _

theorem crcMatches_iff {bytes : List UInt8} (room : 2 ≤ bytes.length) : crcMatches bytes = true ↔ oscCrc bytes = 0 := by
  obtain ⟨covered, low, high, rfl⟩ : ∃ covered low high, bytes = covered ++ [low, high] := by
    have split := (List.take_append_drop (bytes.length - 2) bytes).symm
    have size : (bytes.drop (bytes.length - 2)).length = 2 := by
      rw [List.length_drop]
      omega
    obtain ⟨low, high, tail⟩ := List.length_eq_two.mp size
    rw [tail] at split
    exact ⟨_, low, high, split⟩
  have length : (covered ++ [low, high]).length = covered.length + 2 := List.length_append
  rw [oscCrc_trailer, crcMatches, length, beq_iff_eq, Nat.add_sub_cancel, List.take_left' rfl,
    show covered.length + 2 - 1 = covered.length + 1 by omega]
  simp [List.getD_eq_getElem?_getD]

def flips (sent received : List UInt8) : Finset Nat :=
  (Finset.range (8 * sent.length)).filter fun k => wireBit sent k ≠ wireBit received k

theorem messagePoly_flips {sent received : List UInt8} (same : sent.length = received.length) :
    messagePoly sent + messagePoly received = flipPoly (8 * sent.length) (flips sent received) := by
  rw [messagePoly, messagePoly, ← same, ← Finset.sum_add_distrib, flipPoly, flips, Finset.sum_filter]
  refine Finset.sum_congr rfl fun k _ => ?_
  rw [← add_mul, ← C_add, ← bitOf_xor]
  by_cases apart : wireBit sent k = wireBit received k
  next => rw [apart, Bool.xor_self, if_neg (fun no => no rfl), bitOf, if_neg (by decide), C_0, zero_mul]
  next => rw [if_pos apart, bitOf, if_pos (by simpa using apart), C_1, one_mul]

theorem corruption_noticed {covered received : List UInt8}
    (same : received.length = (covered ++ u16ToLe (oscCrc covered)).length) (short : received.length ≤ 258)
    (noticed : Noticed 16 (flips (covered ++ u16ToLe (oscCrc covered)) received)) : crcMatches received = false := by
  have length : received.length = covered.length + 2 := same.trans List.length_append
  have sealed : oscCrc (covered ++ u16ToLe (oscCrc covered)) = 0 :=
    (oscCrc_trailer covered _ _).mpr (u16FromLe_toLe (oscCrc covered)).symm
  generalize sentEq : covered ++ u16ToLe (oscCrc covered) = sent at *
  by_contra passes
  rw [Bool.not_eq_false, crcMatches_iff (by omega)] at passes
  have error : oscCrc (sent.zipWith (· ^^^ ·) received) = 0 := by
    rw [oscCrc_xor same.symm, sealed, passes, UInt16.xor_self]
  rw [crc_eq_zero_iff (oscCrc_remainder _), messagePoly_xor same.symm, messagePoly_flips same.symm] at error
  have within : ∀ k ∈ flips sent received, k < 8 * sent.length := fun k member =>
    Finset.mem_range.mp (Finset.mem_filter.mp member).1
  refine not_dvd_noticed within crcGenerator_coeff crcGenerator_root crcGenerator_degree ?_ noticed error
  intro d some few
  exact crcGenerator_order some (by omega)

/-- The checksum of a frame: a remainder, continued over parts, blind to leading zeros, linear; and what it notices. -/
theorem crc_strength :
    (∀ covered, crcPoly (oscCrc covered) = (X ^ 16 * messagePoly covered) %ₘ crcGenerator) ∧
      (∀ first second, oscCrc (first ++ second) = oscCrcContinue (oscCrc first) second) ∧
      (∀ n covered, oscCrc (List.replicate n 0 ++ covered) = oscCrc covered) ∧
      (∀ first second : List UInt8, first.length = second.length →
        oscCrc (first.zipWith (· ^^^ ·) second) = oscCrc first ^^^ oscCrc second) ∧
      ∀ covered received : List UInt8, received.length = (covered ++ u16ToLe (oscCrc covered)).length →
        received.length ≤ 258 → Noticed 16 (flips (covered ++ u16ToLe (oscCrc covered)) received) →
          crcMatches received = false := by
  refine ⟨oscCrc_remainder, ?_, oscCrc_zeros, fun _ _ => oscCrc_xor, fun _ _ => corruption_noticed⟩
  intro first second
  exact oscCrcContinue_append 0 first second

theorem crc_strength_flipped :
    crcMatches [0x00, 0xC1, 0xC0] = false ∧ crcMatches [0x01, 0xC0, 0x40] = false := by
  have noticed := crc_strength.2.2.2.2 [0x01]
  constructor
  next => exact noticed [0x00, 0xC1, 0xC0] (by decide +kernel) (by decide) (.one (by decide +kernel))
  next => exact noticed [0x01, 0xC0, 0x40] (by decide +kernel) (by decide) (.two (by decide +kernel))

end OpenServo.Protocol
