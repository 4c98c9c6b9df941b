import OpenServo.Protocol.Bytes
import OpenServo.Protocol.Crc
import OpenServo.Protocol.Wire
import OpenServo.Shared.ByteStore

set_option autoImplicit false

namespace OpenServo.Protocol

open OpenServo.Shared

/-- A frame under construction in a buffer of `n` bytes: break byte, id, LEN, INST, payload, CRC. -/
structure FrameBuf (n : Nat) where
  bytes : Store n

namespace FrameBuf

variable {n : Nat}

def new (n : Nat) : FrameBuf n :=
  ⟨zeroStore n⟩

def start (buf : FrameBuf n) (id : UInt8) (inst : Inst) : FrameBuf n :=
  ⟨poke buf.bytes 0 [alignByte, id, 0, inst]⟩

def putPayload (buf : FrameBuf n) (payload : List UInt8) : FrameBuf n :=
  ⟨poke buf.bytes 4 payload⟩

def finish (buf : FrameBuf n) (p : Nat) : FrameBuf n :=
  ⟨poke buf.bytes 2 [UInt8.ofNat (lenFor p)]⟩

def covered (buf : FrameBuf n) : List UInt8 :=
  readBytes buf.bytes 0 (coveredLen (peek buf.bytes 2).toNat)

def setCrc (buf : FrameBuf n) (crc : UInt16) : FrameBuf n :=
  ⟨poke buf.bytes (coveredLen (peek buf.bytes 2).toNat) (u16ToLe crc)⟩

def frame (buf : FrameBuf n) : List UInt8 :=
  readBytes buf.bytes 0 (footprint (peek buf.bytes 2))

def sealFrame (buf : FrameBuf n) : List UInt8 :=
  (buf.setCrc (oscCrc buf.covered)).frame

/-- The bytes the trailer is computed over. -/
def layout (id : UInt8) (inst : Inst) (payload : List UInt8) : List UInt8 :=
  [alignByte, id, UInt8.ofNat (lenFor payload.length), inst] ++ payload

theorem finish_eq (buf : FrameBuf n) (id : UInt8) (inst : Inst) (payload : List UInt8) :
    ((buf.start id inst).putPayload payload).finish payload.length =
      ⟨poke buf.bytes 0 (layout id inst payload)⟩ := by
  have merged : (buf.start id inst).putPayload payload =
      ⟨poke buf.bytes 0 ([alignByte, id, 0, inst] ++ payload)⟩ :=
    congrArg FrameBuf.mk (poke_append buf.bytes 0 [alignByte, id, 0, inst] payload)
  rw [merged, finish]
  congr 1
  apply store_ext
  intro cell inside
  simp only [peek_poke _ _ _ _ inside, layout]
  by_cases len : cell = 2
  next =>
    subst len
    simp
  next =>
    rw [if_neg (by simp only [List.length_singleton]; omega)]
    match cell, len with
    | 0, _ | 1, _ | 3, _ => rfl
    | _ + 4, _ => rfl

theorem sealFrame_eq (buf : FrameBuf n) (id : UInt8) (inst : Inst) (payload : List UInt8)
    (small : payload.length ≤ maxPayload) (fits : payload.length + 6 ≤ n) :
    (((buf.start id inst).putPayload payload).finish payload.length).sealFrame =
      layout id inst payload ++ u16ToLe (oscCrc (layout id inst payload)) := by
  have length : (layout id inst payload).length = 4 + payload.length := by
    simp only [layout, List.length_append, List.length_cons, List.length_nil]
  have trailer (crc : UInt16) : (u16ToLe crc).length = 2 := rfl
  have room : payload.length ≤ 252 := small
  have len (rest : List UInt8) :
      (peek (poke buf.bytes 0 (layout id inst payload ++ rest)) 2).toNat = 3 + payload.length := by
    rw [peek_poke_inside _ _ _ _ (by omega) (by omega) (by simp [length]; omega)]
    simp only [layout, lenFor]
    exact Nat.mod_eq_of_lt (by omega)
  have bare := len []
  rw [List.append_nil] at bare
  have whole : covered ⟨poke buf.bytes 0 (layout id inst payload)⟩ = layout id inst payload := by
    rw [covered, bare, show coveredLen (3 + payload.length) = (layout id inst payload).length by
      simp only [coveredLen, length]; omega]
    exact readBytes_poke _ _ _ (by omega)
  rw [finish_eq, sealFrame, whole, setCrc, bare, show coveredLen (3 + payload.length) =
    0 + (layout id inst payload).length by simp only [coveredLen, length]; omega, poke_append, frame, footprint, len]
  rw [show 3 + (3 + payload.length) = (layout id inst payload ++ u16ToLe (oscCrc (layout id inst payload))).length by
    simp only [List.length_append, length, trailer]; omega]
  exact readBytes_poke _ _ _ (by simp only [List.length_append, length, trailer]; omega)

example : ((((new 16).start 1 0x10).putPayload []).finish 0).sealFrame = [0x00, 0x01, 0x03, 0x10, 0x50, 0xFC] := by
  decide +kernel

end FrameBuf

end OpenServo.Protocol
