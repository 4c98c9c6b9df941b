import Mathlib.Data.List.Basic

set_option autoImplicit false

namespace OpenServo.Protocol

def u16FromLe (low high : UInt8) : UInt16 :=
  low.toUInt16 ||| (high.toUInt16 <<< 8)

def u16ToLe (value : UInt16) : List UInt8 :=
  [value.toUInt8, (value >>> 8).toUInt8]

theorem u16FromLe_toNat (low high : UInt8) : (u16FromLe low high).toNat = low.toNat + 256 * high.toNat := by
  have small := low.toNat_lt
  have top := high.toNat_lt
  have joined := Nat.shiftLeft_add_eq_or_of_lt (show low.toNat < 2 ^ 8 from small) high.toNat
  simp only [u16FromLe, UInt16.toNat_or, UInt16.toNat_shiftLeft, UInt8.toNat_toUInt16]
  rw [Nat.or_comm, show UInt16.toNat 8 % 16 = 8 from rfl,
    Nat.mod_eq_of_lt (by simp only [Nat.shiftLeft_eq]; omega), ← joined]
  simp only [Nat.shiftLeft_eq]
  omega

theorem u16ToLe_fromLe (low high : UInt8) : u16ToLe (u16FromLe low high) = [low, high] := by
  have value := u16FromLe_toNat low high
  have small := low.toNat_lt
  have top := high.toNat_lt
  simp only [u16ToLe, List.cons.injEq, and_true, ← UInt8.toNat_inj, UInt16.toNat_toUInt8,
    UInt16.toNat_shiftRight, value]
  constructor
  next => omega
  next =>
    rw [show UInt16.toNat 8 % 16 = 8 from rfl, Nat.shiftRight_eq_div_pow]
    omega

theorem u16FromLe_toLe (value : UInt16) : u16FromLe value.toUInt8 (value >>> 8).toUInt8 = value := by
  have bound := value.toNat_lt
  apply UInt16.toNat_inj.mp
  rw [u16FromLe_toNat, UInt16.toNat_toUInt8, UInt16.toNat_toUInt8, UInt16.toNat_shiftRight,
    show UInt16.toNat 8 % 16 = 8 from rfl, Nat.shiftRight_eq_div_pow]
  omega

/-- A frame's bytes as up to two contiguous segments: `tail` follows `head` where the frame wraps
the ring seam. -/
structure FrameBytes where
  head : List UInt8
  tail : List UInt8
deriving DecidableEq, Repr

namespace FrameBytes

def len (view : FrameBytes) : Nat :=
  view.head.length + view.tail.length

def bytes (view : FrameBytes) : List UInt8 :=
  view.head ++ view.tail

def u8At (view : FrameBytes) (i : Nat) : Option UInt8 :=
  if i < view.head.length then view.head[i]? else view.tail[i - view.head.length]?

def u16LeAt (view : FrameBytes) (i : Nat) : Option UInt16 := do
  let low ← view.u8At i
  let high ← view.u8At (i + 1)
  return u16FromLe low high

def sub (view : FrameBytes) (start len : Nat) : Option FrameBytes :=
  let stop := start + len
  if view.len < stop then
    none
  else if view.head.length ≤ start then
    some ⟨view.tail.extract (start - view.head.length) (start - view.head.length + len), []⟩
  else if stop ≤ view.head.length then
    some ⟨view.head.extract start stop, []⟩
  else
    some ⟨view.head.drop start, view.tail.take (stop - view.head.length)⟩

def ofList (bytes : List UInt8) : FrameBytes :=
  ⟨bytes, []⟩

@[simp] theorem length_bytes (view : FrameBytes) : view.bytes.length = view.len := by
  simp [bytes, len]

@[simp] theorem bytes_ofList (bytes : List UInt8) : (ofList bytes).bytes = bytes := by
  simp [ofList, FrameBytes.bytes]

theorem u8At_eq (view : FrameBytes) (i : Nat) : view.u8At i = view.bytes[i]? := by
  simp only [u8At, bytes]
  split
  next inside => rw [List.getElem?_append_left inside]
  next beyond => rw [List.getElem?_append_right (by omega)]

theorem sub_bytes (view : FrameBytes) (start len : Nat) :
    (view.sub start len).map bytes =
      if view.len < start + len then none else some (view.bytes.extract start (start + len)) := by
  simp only [sub]
  split
  next => rfl
  next fits =>
    simp only [FrameBytes.len] at fits
    simp only [List.extract_eq_take_drop, Nat.add_sub_cancel_left]
    split
    next beyond =>
      have gone : view.head.drop start = [] := List.drop_eq_nil_of_le beyond
      simp [bytes, List.drop_append, gone]
    next crossing =>
      split
      next inside =>
        simp [bytes, List.drop_append, List.take_append, show start - view.head.length = 0 by omega,
          show len - (view.head.length - start) = 0 by omega]
      next =>
        simp [bytes, List.drop_append, List.take_append, show start - view.head.length = 0 by omega,
          List.take_of_length_le (show (view.head.drop start).length ≤ len by simp; omega),
          show len - (view.head.length - start) = start + len - view.head.length by omega]

theorem sub_len {view part : FrameBytes} {start len : Nat} (cut : view.sub start len = some part) :
    part.len = len := by
  have bytes := view.sub_bytes start len
  rw [cut] at bytes
  split at bytes
  next => simp at bytes
  next fits =>
    have length := congrArg List.length (Option.some.inj bytes)
    simp only [FrameBytes.length_bytes, List.extract_eq_take_drop, List.length_take,
      List.length_drop] at length
    omega

end FrameBytes

end OpenServo.Protocol
