import Mathlib.Data.List.Nodup
import OpenServo.Protocol.Bytes

set_option autoImplicit false

namespace OpenServo.Protocol

/-- An iterator over a view. Each entry is at least one byte, so `rest.len` steps exhaust it. -/
def entriesOf {A : Type} (next : FrameBytes → Option (A × FrameBytes)) : Nat → FrameBytes → List A
  | 0, _ => []
  | fuel + 1, rest =>
    match next rest with
    | none => []
    | some (entry, rest) => entry :: entriesOf next fuel rest

/-- First match wins; the slot is the position in the list, in a byte. -/
def findSlot {A : Type} (idOf : A → UInt8) (entries : List A) (id : UInt8) : Option (UInt8 × A) :=
  (entries.zipIdx.find? (fun entry => idOf entry.1 == id)).map
    (fun entry => (UInt8.ofNat entry.2, entry.1))

def slotOf (ids : FrameBytes) (id : UInt8) : Option UInt8 :=
  (ids.bytes.findIdx? (fun b => b == id)).map UInt8.ofNat

theorem entriesOf_length_le {A : Type} (next : FrameBytes → Option (A × FrameBytes)) (fuel : Nat)
    (rest : FrameBytes) : (entriesOf next fuel rest).length ≤ fuel := by
  induction fuel generalizing rest with
  | zero => simp [entriesOf]
  | succ fuel ih =>
    simp only [entriesOf]
    split
    next => simp
    next entry rest _ => simpa using ih rest

theorem findSlot_eq {A : Type} {idOf : A → UInt8} {entries : List A} {k : Nat} {entry : A}
    (distinct : (entries.map idOf).Nodup) (listed : entries[k]? = some entry) :
    findSlot idOf entries (idOf entry) = some (UInt8.ofNat k, entry) := by
  have offset (start : Nat) :
      (entries.zipIdx start).find? (fun e => idOf e.1 == idOf entry) = some (entry, start + k) := by
    induction entries generalizing start k with
    | nil => simp at listed
    | cons head tail ih =>
      rw [List.map_cons, List.nodup_cons] at distinct
      cases k with
      | zero =>
        obtain rfl : head = entry := by simpa using listed
        simp
      | succ k =>
        rw [List.getElem?_cons_succ] at listed
        have other : idOf head ≠ idOf entry := by
          intro same
          exact distinct.1 (same ▸ List.mem_map_of_mem (List.mem_of_getElem? listed))
        rw [List.zipIdx_cons, List.find?_cons_of_neg (by simpa using other), ih distinct.2 listed]
        simp only [Option.some.injEq, Prod.mk.injEq, true_and]
        omega
  simp [findSlot, offset 0]

theorem slotOf_eq {ids : FrameBytes} {k : Nat} {id : UInt8} (distinct : ids.bytes.Nodup)
    (listed : ids.bytes[k]? = some id) : slotOf ids id = some (UInt8.ofNat k) := by
  have position : ids.bytes.findIdx? (fun b => b == id) = some k := by
    rw [List.findIdx?_eq_some_iff_getElem]
    obtain ⟨inside, here⟩ := List.getElem?_eq_some_iff.mp listed
    refine ⟨inside, by simp [here], ?_⟩
    intro j before
    have other : ids.bytes[j] ≠ id := by
      intro same
      exact absurd (distinct.getElem_inj_iff.mp (same.trans here.symm)) (by omega)
    simpa using other
  simp [slotOf, position]

structure GreadTarget where
  id : UInt8
  addr : UInt16
  count : UInt16
deriving DecidableEq, Repr

structure GwriteTarget where
  id : UInt8
  addr : UInt16
  data : FrameBytes
deriving DecidableEq, Repr

structure GreadProfileTarget where
  id : UInt8
  slot : UInt8
deriving DecidableEq, Repr

structure GreadUniform where
  addr : UInt16
  count : UInt16
  ids : FrameBytes
deriving DecidableEq, Repr

def GreadUniform.parse (payload : FrameBytes) : Option GreadUniform := do
  let addr ← payload.u16LeAt 0
  let count ← payload.u16LeAt 2
  guard (4 ≤ payload.len)
  let ids ← payload.sub 4 (payload.len - 4)
  guard (ids.len ≠ 0)
  return ⟨addr, count, ids⟩

def GreadPerTarget.parse (payload : FrameBytes) : Option FrameBytes :=
  if payload.len = 0 ∨ payload.len % 5 ≠ 0 then none else some payload

def GreadPerTarget.next (rest : FrameBytes) : Option (GreadTarget × FrameBytes) := do
  guard (5 ≤ rest.len)
  let id ← rest.u8At 0
  let addr ← rest.u16LeAt 1
  let count ← rest.u16LeAt 3
  let rest ← rest.sub 5 (rest.len - 5)
  return (⟨id, addr, count⟩, rest)

def GreadPerTarget.iter (entries : FrameBytes) : List GreadTarget :=
  entriesOf next entries.len entries

def GreadPerTarget.find (entries : FrameBytes) (id : UInt8) : Option (UInt8 × GreadTarget) :=
  findSlot GreadTarget.id (iter entries) id

structure GreadProfileUniform where
  slot : UInt8
  ids : FrameBytes
deriving DecidableEq, Repr

def GreadProfileUniform.parse (payload : FrameBytes) : Option GreadProfileUniform := do
  let slot ← payload.u8At 0
  guard (1 ≤ payload.len)
  let ids ← payload.sub 1 (payload.len - 1)
  guard (ids.len ≠ 0)
  return ⟨slot, ids⟩

def GreadProfilePerTarget.parse (payload : FrameBytes) : Option FrameBytes :=
  if payload.len = 0 ∨ payload.len % 2 ≠ 0 then none else some payload

def GreadProfilePerTarget.next (rest : FrameBytes) : Option (GreadProfileTarget × FrameBytes) := do
  guard (2 ≤ rest.len)
  let id ← rest.u8At 0
  let slot ← rest.u8At 1
  let rest ← rest.sub 2 (rest.len - 2)
  return (⟨id, slot⟩, rest)

def GreadProfilePerTarget.iter (entries : FrameBytes) : List GreadProfileTarget :=
  entriesOf next entries.len entries

def GreadProfilePerTarget.find (entries : FrameBytes) (id : UInt8) :
    Option (UInt8 × GreadProfileTarget) :=
  findSlot GreadProfileTarget.id (iter entries) id

structure GwriteUniform where
  addr : UInt16
  count : UInt8
  entries : FrameBytes
deriving DecidableEq, Repr

/-- The source subtracts the stride until less than one is left, to spare a divide. -/
def GwriteUniform.parse (payload : FrameBytes) : Option GwriteUniform := do
  let addr ← payload.u16LeAt 0
  let count ← payload.u8At 2
  guard (count ≠ 0)
  guard (3 ≤ payload.len)
  let entries ← payload.sub 3 (payload.len - 3)
  guard (entries.len ≠ 0)
  guard (entries.len % (1 + count.toNat) = 0)
  return ⟨addr, count, entries⟩

def GwriteUniform.next (stride : Nat) (rest : FrameBytes) :
    Option ((UInt8 × FrameBytes) × FrameBytes) := do
  guard (stride ≤ rest.len)
  let id ← rest.u8At 0
  let data ← rest.sub 1 (stride - 1)
  let rest ← rest.sub stride (rest.len - stride)
  return ((id, data), rest)

def GwriteUniform.find (g : GwriteUniform) (id : UInt8) : Option FrameBytes :=
  ((entriesOf (next (1 + g.count.toNat)) g.entries.len g.entries).find?
    (fun entry => entry.1 == id)).map Prod.snd

/-- `none` when an entry's own count leaves the payload. -/
def GwritePerTarget.walk : Nat → FrameBytes → Option Unit
  | 0, rest => guard (rest.len = 0)
  | fuel + 1, rest =>
    if rest.len = 0 then some ()
    else do
      let count ← rest.u8At 3
      let skip := 4 + count.toNat
      guard (skip ≤ rest.len)
      let rest ← rest.sub skip (rest.len - skip)
      walk fuel rest

def GwritePerTarget.parse (payload : FrameBytes) : Option FrameBytes := do
  guard (payload.len ≠ 0)
  walk payload.len payload
  return payload

def GwritePerTarget.next (rest : FrameBytes) : Option (GwriteTarget × FrameBytes) := do
  guard (4 ≤ rest.len)
  let id ← rest.u8At 0
  let addr ← rest.u16LeAt 1
  let count ← rest.u8At 3
  let data ← rest.sub 4 count.toNat
  let rest ← rest.sub (4 + count.toNat) (rest.len - (4 + count.toNat))
  return (⟨id, addr, data⟩, rest)

def GwritePerTarget.find (entries : FrameBytes) (id : UInt8) : Option GwriteTarget :=
  (entriesOf next entries.len entries).find? (fun target => target.id == id)

end OpenServo.Protocol
