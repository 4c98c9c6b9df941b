import OpenServo.Client.Mgmt
import OpenServo.Core.Dispatch

set_option autoImplicit false

namespace OpenServo.Client

open OpenServo.Protocol OpenServo.Core

def bitAt (uid : Uid) (k : Nat) : Bool :=
  ((List.ofFn uid).getD (k / 8) 0).toNat.testBit (k % 8)

def AgreeTo (first second : Uid) (len : Nat) : Prop :=
  ∀ k < len, bitAt first k = bitAt second k

theorem getD_ofFn (uid : Uid) {i : Nat} (inside : i < uidLen) : (List.ofFn uid).getD i 0 = uid ⟨i, inside⟩ := by
  rw [List.getD_eq_getElem?_getD, List.getElem?_ofFn, dif_pos inside, Option.getD_some]

theorem bitAt_inside (uid : Uid) {k : Nat} (inside : k / 8 < uidLen) :
    bitAt uid k = (uid ⟨k / 8, inside⟩).toNat.testBit (k % 8) := by
  rw [bitAt, getD_ofFn uid inside]

theorem bit_eq_bitAt (uid : Uid) (k : UInt8) : bit uid k = bitAt uid k.toNat := by
  have place : (k % 8).toNat = k.toNat % 8 := UInt8.toNat_mod k 8
  have byte : (k / 8).toNat = k.toNat / 8 := UInt8.toNat_div k 8
  have bound := k.toNat_lt
  rw [bit, bitAt, byte, Nat.testBit_eq_decide_div_mod_eq, decide_eq_decide, ne_eq, ← UInt8.toNat_inj,
    UInt8.toNat_and, UInt8.toNat_shiftRight, place, Nat.mod_mod, Nat.shiftRight_eq_div_pow]
  show ¬ (_ &&& 1 = 0) ↔ _
  rw [Nat.and_one_is_mod]
  omega

theorem matchesPrefix_iff (uid bits : Uid) (len : UInt8) :
    matchesPrefix uid bits len = true ↔ AgreeTo uid bits len.toNat := by
  have bound := len.toNat_lt
  simp only [matchesPrefix, List.all_eq_true, List.mem_range, beq_iff_eq, bit_eq_bitAt]
  refine forall₂_congr fun k below => ?_
  rw [UInt8.toNat_ofNat_of_lt' (show k < 256 by omega)]

theorem byte_ext {first second : UInt8}
    (same : ∀ j < 8, first.toNat.testBit j = second.toNat.testBit j) : first = second := by
  apply UInt8.toNat_inj.mp
  apply Nat.eq_of_testBit_eq
  intro j
  by_cases low : j < 8
  next => exact same j low
  next =>
    have wide : 2 ^ 8 ≤ 2 ^ j := Nat.pow_le_pow_right (by decide) (by omega)
    rw [Nat.testBit_lt_two_pow (Nat.lt_of_lt_of_le first.toNat_lt wide),
      Nat.testBit_lt_two_pow (Nat.lt_of_lt_of_le second.toNat_lt wide)]

theorem agreeTo_bytes (first second : Uid) {full : Nat} (inside : full ≤ uidLen) :
    AgreeTo first second (8 * full) ↔ (List.ofFn first).take full = (List.ofFn second).take full := by
  constructor
  next =>
    intro agree
    apply List.ext_getElem
    next => simp
    next =>
      intro i below _
      have below : i < full := by
        rw [List.length_take] at below
        omega
      rw [List.getElem_take, List.getElem_take, List.getElem_ofFn, List.getElem_ofFn]
      apply byte_ext
      intro j low
      have bit := agree (8 * i + j) (by omega)
      have byte : (8 * i + j) / 8 = i := by omega
      rw [bitAt, bitAt, byte, getD_ofFn _ (by omega), getD_ofFn _ (by omega),
        show (8 * i + j) % 8 = j by omega] at bit
      exact bit
  next =>
    intro same k below
    have byte := congrArg (fun bytes => bytes.getD (k / 8) 0) same
    have low : k / 8 < full := by omega
    simp only [List.getD_eq_getElem?_getD, List.getElem?_take_of_lt low] at byte
    simp only [bitAt, List.getD_eq_getElem?_getD, byte]

theorem agreeTo_full (first second : Uid) : AgreeTo first second (8 * uidLen) ↔ first = second := by
  rw [agreeTo_bytes first second (Nat.le_refl _)]
  constructor
  next =>
    intro same
    rw [List.take_of_length_le (by simp), List.take_of_length_le (by simp)] at same
    exact List.ofFn_injective same
  next =>
    intro same
    rw [same]

theorem masked_iff (first second : UInt8) {rem : UInt8} (inside : rem.toNat < 8) :
    ((first ^^^ second) &&& ((1 <<< rem) - 1) == 0) = true ↔
      ∀ j < rem.toNat, first.toNat.testBit j = second.toNat.testBit j := by
  have small : 2 ^ rem.toNat < 2 ^ 8 := Nat.pow_lt_pow_right (by decide) inside
  have shifted : ((1 : UInt8) <<< rem).toNat = 2 ^ rem.toNat := by
    rw [UInt8.toNat_shiftLeft, Nat.mod_eq_of_lt inside, show (1 : UInt8).toNat = 1 from rfl, Nat.one_shiftLeft,
      Nat.mod_eq_of_lt small]
  have mask : ((1 : UInt8) <<< rem - 1).toNat = 2 ^ rem.toNat - 1 := by
    have some : (1 : UInt8) ≤ 1 <<< rem := by
      rw [UInt8.le_iff_toNat_le, shifted]
      exact Nat.one_le_two_pow
    rw [UInt8.toNat_sub_of_le _ _ some, shifted]
    rfl
  rw [beq_iff_eq, ← UInt8.toNat_inj, UInt8.toNat_and, UInt8.toNat_xor, mask, show UInt8.toNat 0 = 0 from rfl]
  constructor
  next =>
    intro none j low
    have bit := congrArg (fun n => n.testBit j) none
    simpa [Nat.testBit_and, Nat.testBit_two_pow_sub_one, low] using bit
  next =>
    intro same
    apply Nat.eq_of_testBit_eq
    intro j
    rw [Nat.testBit_and, Nat.testBit_xor, Nat.testBit_two_pow_sub_one, Nat.zero_testBit]
    by_cases low : j < rem.toNat
    next => simp [same j low]
    next => simp [low]

theorem uidPrefixMatches_iff (uid bits : Uid) {len : UInt8} (short : len.toNat ≤ 8 * uidLen) :
    uidPrefixMatches (List.ofFn uid) len (List.ofFn bits) = true ↔ AgreeTo uid bits len.toNat := by
  have full : (len / 8).toNat = len.toNat / 8 := UInt8.toNat_div len 8
  have rem : (len % 8).toNat = len.toNat % 8 := UInt8.toNat_mod len 8
  have some := masked_iff ((List.ofFn uid).getD (len.toNat / 8) 0) ((List.ofFn bits).getD (len.toNat / 8) 0)
    (show (len % 8).toNat < 8 by omega)
  have none : (len % 8 == 0) = true ↔ len.toNat % 8 = 0 := by
    rw [beq_iff_eq, ← UInt8.toNat_inj, rem]
    rfl
  simp only [uidPrefixMatches, full, Bool.and_eq_true, Bool.or_eq_true, some, none, rem]
  rw [beq_iff_eq, ← agreeTo_bytes uid bits (show len.toNat / 8 ≤ uidLen by omega)]
  constructor
  next =>
    rintro ⟨bytes, last⟩ k below
    by_cases whole : k < 8 * (len.toNat / 8)
    next => exact bytes k whole
    next =>
      have byte : k / 8 = len.toNat / 8 := by omega
      rw [bitAt, bitAt, byte]
      exact last.resolve_left (by omega) (k % 8) (by omega)
  next =>
    intro agree
    refine ⟨fun k below => agree k (by omega), .inr fun j below => ?_⟩
    have bit := agree (8 * (len.toNat / 8) + j) (by omega)
    have byte : (8 * (len.toNat / 8) + j) / 8 = len.toNat / 8 := by omega
    rw [bitAt, bitAt, byte, show (8 * (len.toNat / 8) + j) % 8 = j by omega] at bit
    exact bit

/-- The bytes of a prefix that are not sent do not count. -/
theorem agreeTo_used (uid bits : Uid) (len : UInt8) :
    AgreeTo uid (Form.used .mgmtEnum (len, bits)).2 len.toNat ↔ AgreeTo uid bits len.toNat := by
  refine forall₂_congr fun k below => ?_
  have same : bitAt (Form.used .mgmtEnum (len, bits)).2 k = bitAt bits k := by
    by_cases inside : k / 8 < uidLen
    next =>
      rw [bitAt_inside _ inside, bitAt_inside _ inside]
      simp only [Form.used]
      rw [if_pos (by omega)]
    next => simp [bitAt, List.getD_eq_getElem?_getD, inside]
  rw [same]

/-- The bits from the end of a prefix on are not set. -/
def ZeroFrom (bits : Uid) (len : Nat) : Prop :=
  ∀ k, len ≤ k → bitAt bits k = false

theorem zeroFrom_zero (len : Nat) : ZeroFrom (fun _ => 0) len := by
  intro k _
  by_cases inside : k / 8 < uidLen
  next => simp [bitAt_inside _ inside]
  next => simp [bitAt, List.getD_eq_getElem?_getD, inside]

theorem testBit_mark (byte : UInt8) {place : UInt8} (low : place.toNat < 8) (j : Nat) :
    (byte ||| 1 <<< place).toNat.testBit j = (byte.toNat.testBit j || decide (place.toNat = j)) := by
  have small : 2 ^ place.toNat < 2 ^ 8 := Nat.pow_lt_pow_right (by decide) low
  rw [UInt8.toNat_or, UInt8.toNat_shiftLeft, Nat.mod_eq_of_lt low, show (1 : UInt8).toNat = 1 from rfl,
    Nat.one_shiftLeft, Nat.mod_eq_of_lt small, Nat.testBit_or, Nat.testBit_two_pow]

theorem bitAt_withBit (bits : Uid) {k : UInt8} (inside : k.toNat < 8 * uidLen) (v : Bool) (j : Nat) :
    bitAt (withBit bits k v) j = (bitAt bits j || (v && decide (k.toNat = j))) := by
  have place : (k % 8).toNat = k.toNat % 8 := UInt8.toNat_mod k 8
  have byte : (k / 8).toNat = k.toNat / 8 := UInt8.toNat_div k 8
  cases v with
  | false => simp [withBit]
  | true =>
    by_cases within : j / 8 < uidLen
    next =>
      rw [bitAt_inside _ within, bitAt_inside _ within, withBit, if_pos rfl, Bool.true_and]
      by_cases here : j / 8 = k.toNat / 8
      next =>
        rw [if_pos (by rw [byte]; exact here), testBit_mark _ (by omega), place]
        congr 1
        exact decide_eq_decide.mpr (by omega)
      next =>
        rw [if_neg (by rw [byte]; exact here), decide_eq_false (by rintro rfl; exact here rfl), Bool.or_false]
    next =>
      have off : k.toNat ≠ j := by
        rintro rfl
        exact within (by omega)
      simp [bitAt, List.getD_eq_getElem?_getD, within, off]

section Children

variable {bits : Uid} {len : UInt8}

theorem toNat_succ (inside : len.toNat < 8 * uidLen) : (len + 1).toNat = len.toNat + 1 := by
  have wide : len.toNat < 128 := inside
  rw [UInt8.toNat_add, show UInt8.toNat 1 = 1 from rfl]
  omega

theorem ZeroFrom.withBit (zero : ZeroFrom bits len.toNat) (inside : len.toNat < 8 * uidLen) (v : Bool) :
    ZeroFrom (withBit bits len v) (len + 1).toNat := by
  intro k past
  rw [toNat_succ inside] at past
  rw [bitAt_withBit bits inside, zero k (by omega), decide_eq_false (show ¬ len.toNat = k by omega)]
  simp

theorem agreeTo_withBit (clear : bitAt bits len.toNat = false) (inside : len.toNat < 8 * uidLen) (uid : Uid)
    (v : Bool) :
    AgreeTo uid (withBit bits len v) (len + 1).toNat ↔ AgreeTo uid bits len.toNat ∧ bitAt uid len.toNat = v := by
  have old : ∀ k < len.toNat, bitAt (withBit bits len v) k = bitAt bits k := by
    intro k below
    rw [bitAt_withBit bits inside, decide_eq_false (show ¬ len.toNat = k by omega), Bool.and_false, Bool.or_false]
  have new : bitAt (withBit bits len v) len.toNat = v := by
    rw [bitAt_withBit bits inside, clear, decide_eq_true rfl, Bool.and_true, Bool.false_or]
  rw [toNat_succ inside]
  constructor
  next =>
    intro agree
    refine ⟨fun k below => ?_, ?_⟩
    next => rw [agree k (by omega), old k below]
    next => rw [agree len.toNat (by omega), new]
  next =>
    rintro ⟨agree, next⟩ k below
    by_cases last : k = len.toNat
    next => rw [last, next, new]
    next => rw [agree k (by omega), old k (by omega)]

end Children

end OpenServo.Client
