import Mathlib.Data.List.Basic

set_option autoImplicit false

/-!
Fixed-size byte stores and the writes that land in them. A write is an address and its bytes; it
replaces exactly the bytes it covers.
-/

namespace OpenServo.Shared

abbrev Store (size : Nat) := Fin size → UInt8

variable {size : Nat}

def peek (store : Store size) (addr : Nat) : UInt8 :=
  if inside : addr < size then store ⟨addr, inside⟩ else 0

def poke (store : Store size) (addr : Nat) (data : List UInt8) : Store size :=
  fun i => if addr ≤ i.val then data.getD (i.val - addr) (store i) else store i

def zeroStore (size : Nat) : Store size :=
  fun _ => 0

def readBytes (store : Store size) (addr count : Nat) : List UInt8 :=
  (List.range count).map (fun i => peek store (addr + i))

theorem store_ext {left right : Store size} (same : ∀ addr < size, peek left addr = peek right addr) :
    left = right := by
  funext i
  simpa [peek] using same i.val i.isLt

@[simp] theorem peek_zeroStore (addr : Nat) : peek (zeroStore size) addr = 0 := by
  simp [peek, zeroStore]

@[simp] theorem poke_nil (store : Store size) (addr : Nat) : poke store addr [] = store := by
  funext i
  simp [poke]

theorem peek_poke (store : Store size) (addr : Nat) (data : List UInt8) (cell : Nat)
    (inside : cell < size) :
    peek (poke store addr data) cell =
      if addr ≤ cell ∧ cell < addr + data.length then data.getD (cell - addr) 0 else peek store cell := by
  simp only [peek, dif_pos inside, poke]
  by_cases above : addr ≤ cell
  next =>
    by_cases below : cell < addr + data.length
    next =>
      have index : cell - addr < data.length := by omega
      simp [above, below, List.getD_eq_getElem?_getD, List.getElem?_eq_getElem index]
    next =>
      have index : data.length ≤ cell - addr := by omega
      simp [above, below, List.getD_eq_getElem?_getD, List.getElem?_eq_none index]
  next => simp [above]

theorem peek_poke_outside (store : Store size) (addr : Nat) (data : List UInt8) (cell : Nat)
    (outside : cell < addr ∨ addr + data.length ≤ cell) :
    peek (poke store addr data) cell = peek store cell := by
  by_cases inside : cell < size
  next =>
    rw [peek_poke store addr data cell inside, if_neg (by omega)]
  next => simp [peek, inside]

theorem peek_poke_inside (store : Store size) (addr : Nat) (data : List UInt8) (cell : Nat)
    (inside : cell < size) (above : addr ≤ cell) (below : cell < addr + data.length) :
    peek (poke store addr data) cell = data.getD (cell - addr) 0 := by
  rw [peek_poke store addr data cell inside, if_pos ⟨above, below⟩]

theorem poke_append (store : Store size) (addr : Nat) (head tail : List UInt8) :
    poke (poke store addr head) (addr + head.length) tail = poke store addr (head ++ tail) := by
  apply store_ext
  intro cell inside
  simp only [peek_poke _ _ _ _ inside, List.length_append, List.getD_eq_getElem?_getD]
  by_cases below : cell < addr + head.length
  next =>
    by_cases above : addr ≤ cell
    next =>
      have index : cell - addr < head.length := by omega
      simp [above, below, List.getElem?_append_left index, show ¬ addr + head.length ≤ cell by omega,
        show cell < addr + (head.length + tail.length) by omega]
    next => simp [above, below, show ¬ addr + head.length ≤ cell by omega]
  next =>
    have index : head.length ≤ cell - addr := by omega
    simp [below, List.getElem?_append_right index, show addr + head.length ≤ cell by omega,
      show addr ≤ cell by omega, Nat.add_assoc, show cell - (addr + head.length) = cell - addr - head.length by omega]

theorem readBytes_congr {left right : Store size} {addr count : Nat}
    (same : ∀ i, addr ≤ i → i < addr + count → peek left i = peek right i) :
    readBytes left addr count = readBytes right addr count := by
  apply List.map_congr_left
  intro i within
  have bound := List.mem_range.mp within
  exact same (addr + i) (by omega) (by omega)

theorem readBytes_poke_outside (store : Store size) (addr : Nat) (data : List UInt8) (first count : Nat)
    (apart : first + count ≤ addr ∨ addr + data.length ≤ first) :
    readBytes (poke store addr data) first count = readBytes store first count := by
  apply readBytes_congr
  intro i low high
  exact peek_poke_outside store addr data i (by omega)

@[simp] theorem length_readBytes (store : Store size) (addr count : Nat) :
    (readBytes store addr count).length = count := by
  simp [readBytes]

theorem readBytes_poke (store : Store size) (addr : Nat) (data : List UInt8)
    (fits : addr + data.length ≤ size) : readBytes (poke store addr data) addr data.length = data := by
  apply List.ext_getElem
  next => simp
  next =>
    intro i low high
    simp only [readBytes, List.getElem_map, List.getElem_range]
    rw [peek_poke_inside store addr data (addr + i) (by omega) (by omega) (by omega), Nat.add_sub_cancel_left,
      List.getD_eq_getElem?_getD, List.getElem?_eq_getElem high, Option.getD_some]

section Constraint

variable {allow : Nat → UInt8 → Prop}

/-- Every byte of the store satisfies its own constraint. -/
def Respects (allow : Nat → UInt8 → Prop) (store : Store size) : Prop :=
  ∀ addr < size, allow addr (peek store addr)

def Fits (allow : Nat → UInt8 → Prop) (write : Nat × List UInt8) : Prop :=
  ∀ i < write.2.length, allow (write.1 + i) (write.2.getD i 0)

theorem fits_singleton {addr : Nat} {b : UInt8} (ok : allow addr b) : Fits allow (addr, [b]) := by
  intro i within
  have zero : i = 0 := by simpa using within
  simpa [zero] using ok

theorem Respects.poke {store : Store size} (respects : Respects allow store) {addr : Nat}
    {data : List UInt8} (fits : Fits allow (addr, data)) : Respects allow (poke store addr data) := by
  intro cell inside
  rw [peek_poke store addr data cell inside]
  split
  next within =>
    have new := fits (cell - addr) (by simp only; omega)
    rwa [Nat.add_sub_cancel' within.1] at new
  next => exact respects cell inside

theorem Respects.foldl_poke {store : Store size} (respects : Respects allow store)
    {writes : List (Nat × List UInt8)} (fits : ∀ write ∈ writes, Fits allow write) :
    Respects allow (writes.foldl (fun store write => Shared.poke store write.1 write.2) store) := by
  induction writes generalizing store with
  | nil => exact respects
  | cons write rest ih =>
    exact ih (respects.poke (fits write List.mem_cons_self))
      (fun other later => fits other (List.mem_cons_of_mem _ later))

end Constraint

end OpenServo.Shared
