import Mathlib.Data.Nat.Bitwise
import Mathlib.Data.List.Basic

set_option autoImplicit false

/-!
Circular buffers read by position. A position is a natural number that only grows; the buffer
shows it at the position modulo its length, so a span of the stream is a span of the buffer that
may cross the seam once.
-/

namespace OpenServo.Shared

variable {A : Type}

/-- The buffer holds the bytes of `stream` at the positions from `low` up to `high`. -/
def Shows (ring : List A) (d : A) (stream : Nat → A) (low high : Nat) : Prop :=
  ∀ p, low ≤ p → p < high → ring.getD (p % ring.length) d = stream p

theorem Shows.mono {ring : List A} {d : A} {stream : Nat → A} {low high low' : Nat}
    (shows : Shows ring d stream low high) (above : low ≤ low') : Shows ring d stream low' high :=
  fun p start stop => shows p (Nat.le_trans above start) stop

theorem wrapped_distance {len first last : Nat} (ordered : first ≤ last) (short : last < first + len) :
    (last % len + len - first % len) % len = last - first := by
  obtain ⟨k, rfl⟩ := Nat.exists_eq_add_of_le ordered
  have below := Nat.mod_lt first (show 0 < len by omega)
  rw [Nat.add_mod, Nat.mod_eq_of_lt (show k < len by omega)]
  by_cases wraps : first % len + k < len
  next =>
    rw [Nat.mod_eq_of_lt wraps, show first % len + k + len - first % len = k + len by omega,
      Nat.add_mod_right, Nat.mod_eq_of_lt (by omega)]
    omega
  next =>
    have back : (first % len + k) % len = first % len + k - len := by
      rw [Nat.mod_eq_sub_mod (by omega), Nat.mod_eq_of_lt (by omega)]
    rw [back, show first % len + k - len + len - first % len = k by omega, Nat.mod_eq_of_lt (by omega)]
    omega

theorem eq_of_wrapped_eq {len first last : Nat} (ordered : first ≤ last) (short : last < first + len)
    (same : first % len = last % len) : first = last := by
  have distance := wrapped_distance ordered short
  rw [same, Nat.add_sub_cancel_left, Nat.mod_self] at distance
  omega

theorem mask_eq_mod {len : Nat} (pow : ∃ k, len = 2 ^ k) (i : Nat) :
    i &&& (len - 1) = i % len := by
  obtain ⟨k, rfl⟩ := pow
  exact Nat.and_two_pow_sub_one_eq_mod i k

theorem pow_pos {len : Nat} (pow : ∃ k, len = 2 ^ k) : 0 < len := by
  obtain ⟨k, rfl⟩ := pow
  exact Nat.two_pow_pos k

theorem even_of_pow {len : Nat} (pow : ∃ k, len = 2 ^ k) (large : 2 ≤ len) : len % 2 = 0 := by
  obtain ⟨k, rfl⟩ := pow
  cases k with
  | zero => omega
  | succ k => omega

theorem extract_eq_range (ring : List A) (d : A) (low high : Nat) (bound : high ≤ ring.length) :
    ring.extract low high =
      (List.range (high - low)).map (fun i => ring.getD (low + i) d) := by
  apply List.ext_getElem
  next => simp [List.extract]; omega
  next =>
    intro i left right
    simp only [List.length_map, List.length_range] at right
    simp [List.extract, List.getElem_take, List.getElem_drop, List.getD_eq_getElem?_getD,
      List.getElem?_eq_getElem (show low + i < ring.length by omega)]

def around (ring : List A) (d : A) (first count : Nat) : List A :=
  (List.range count).map (fun i => ring.getD ((first + i) % ring.length) d)

@[simp] theorem around_length (ring : List A) (d : A) (first count : Nat) :
    (around ring d first count).length = count := by
  simp [around]

theorem around_append (ring : List A) (d : A) (first left right : Nat) :
    around ring d first (left + right) =
      around ring d first left ++ around ring d (first + left) right := by
  simp only [around, List.range_add, List.map_append, List.map_map, List.append_cancel_left_eq]
  apply List.map_congr_left
  intro i _
  simp [Nat.add_assoc]

theorem around_succ (ring : List A) (d : A) (first count : Nat) :
    around ring d first (count + 1) =
      ring.getD (first % ring.length) d :: around ring d (first + 1) count := by
  rw [Nat.add_comm count 1, around_append]
  simp [around]

theorem around_concat (ring : List A) (d : A) (first count : Nat) :
    around ring d first (count + 1) =
      around ring d first count ++ [ring.getD ((first + count) % ring.length) d] := by
  rw [around_append]
  simp [around]

theorem around_inside (ring : List A) (d : A) (first count : Nat)
    (inside : first + count ≤ ring.length) :
    around ring d first count = ring.extract first (first + count) := by
  rw [extract_eq_range ring d first (first + count) inside, around, Nat.add_sub_cancel_left]
  apply List.map_congr_left
  intro i within
  rw [Nat.mod_eq_of_lt (by have := List.mem_range.mp within; omega)]

theorem around_seam (ring : List A) (d : A) (first count : Nat) (start : first ≤ ring.length)
    (crosses : ring.length ≤ first + count) (once : first + count ≤ 2 * ring.length) :
    around ring d first count =
      ring.extract first ring.length ++ ring.extract 0 (first + count - ring.length) := by
  have split : count = (ring.length - first) + (first + count - ring.length) := by omega
  rw [split, around_append, around_inside ring d first _ (by omega)]
  have rest : around ring d (first + (ring.length - first)) (first + count - ring.length) =
      around ring d 0 (first + count - ring.length) := by
    apply List.map_congr_left
    intro i _
    rw [show first + (ring.length - first) + i = 0 + i + ring.length by omega, Nat.add_mod_right]
  rw [rest, around_inside ring d 0 _ (by omega)]
  have tail : first + (ring.length - first + (first + count - ring.length)) - ring.length =
      first + count - ring.length := by omega
  have head : first + (ring.length - first) = ring.length := by omega
  rw [head, ← split, Nat.zero_add]

end OpenServo.Shared
