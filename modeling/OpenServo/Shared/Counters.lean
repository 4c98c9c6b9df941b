import OpenServo.Shared.Checked
import OpenServo.Shared.Ring

set_option autoImplicit false

/-!
Counters that are kept modulo their word, and a ring that is written over without end: its last entries are
there, the ones before them are gone.
-/

namespace OpenServo.Shared

namespace Checked

def plus16 (a b : UInt16) : Checked UInt16 :=
  ⟨a + b, decide (a.toNat + b.toNat < 2 ^ 16)⟩

def minus16 (a b : UInt16) : Checked UInt16 :=
  ⟨a - b, decide (b ≤ a)⟩

def plus32 (a b : UInt32) : Checked UInt32 :=
  ⟨a + b, decide (a.toNat + b.toNat < 2 ^ 32)⟩

def minus32 (a b : UInt32) : Checked UInt32 :=
  ⟨a - b, decide (b ≤ a)⟩

theorem plus16_sat {a b : UInt16} (fits : a.toNat + b.toNat < 2 ^ 16) :
    (plus16 a b).Sat (fun c => c.toNat = a.toNat + b.toNat) :=
  ⟨decide_eq_true fits, (UInt16.toNat_add a b).trans (Nat.mod_eq_of_lt fits)⟩

theorem minus16_sat {a b : UInt16} (le : b.toNat ≤ a.toNat) :
    (minus16 a b).Sat (fun c => c.toNat = a.toNat - b.toNat) :=
  ⟨decide_eq_true (UInt16.le_iff_toNat_le.mpr le), UInt16.toNat_sub_of_le _ _ (UInt16.le_iff_toNat_le.mpr le)⟩

theorem plus32_sat {a b : UInt32} (fits : a.toNat + b.toNat < 2 ^ 32) :
    (plus32 a b).Sat (fun c => c.toNat = a.toNat + b.toNat) :=
  ⟨decide_eq_true fits, (UInt32.toNat_add a b).trans (Nat.mod_eq_of_lt fits)⟩

theorem minus32_sat {a b : UInt32} (le : b.toNat ≤ a.toNat) : (minus32 a b).Sat (· = a - b) :=
  ⟨decide_eq_true (UInt32.le_iff_toNat_le.mpr le), rfl⟩

end Checked

theorem counter_distance {first last : Nat} (ordered : first ≤ last) :
    (UInt32.ofNat last - UInt32.ofNat first).toNat = (last - first) % 2 ^ 32 := by
  rw [← UInt32.ofNat_sub ordered, UInt32.toNat_ofNat']

variable {A : Type}

/-- The ring shows the last entries of the stream, as many as it is long. -/
structure Overwritten (ring : List A) (d : A) (stream : List A) : Prop where
  positive : 0 < ring.length
  shows : Shows ring d (stream.getD · d) (stream.length - ring.length) stream.length

namespace Overwritten

variable {ring stream : List A} {d : A}

theorem write (kept : Overwritten ring d stream) (entry : A) :
    Overwritten (ring.set (stream.length % ring.length) entry) d (stream ++ [entry]) := by
  have positive := kept.positive
  refine ⟨by rwa [List.length_set], fun p low high => ?_⟩
  rw [List.length_set, List.length_append, List.length_singleton] at low
  rw [List.length_append, List.length_singleton] at high
  rw [List.length_set]
  by_cases last : p = stream.length
  next =>
    rw [last, List.getD_eq_getElem?_getD, List.getElem?_set_self (Nat.mod_lt _ positive)]
    simp
  next =>
    have apart : stream.length % ring.length ≠ p % ring.length :=
      fun same => last (eq_of_wrapped_eq (by omega) (by omega) same.symm)
    have shown : ring.getD (p % ring.length) d = stream.getD p d := kept.shows p (by omega) (by omega)
    show _ = (stream ++ [entry]).getD p d
    rw [List.getD_eq_getElem?_getD, List.getElem?_set_ne apart, ← List.getD_eq_getElem?_getD, shown,
      List.getD_append _ _ _ _ (by omega)]

theorem read (kept : Overwritten ring d stream) {p : Nat} (there : p < stream.length)
    (recent : stream.length ≤ p + ring.length) : ring.getD (p % ring.length) d = stream.getD p d :=
  kept.shows p (by omega) there

end Overwritten

end OpenServo.Shared
