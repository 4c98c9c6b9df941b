import OpenServo.Host.Shape
import OpenServo.Protocol.Crc

set_option autoImplicit false

namespace OpenServo.Host

open OpenServo.Protocol

structure Look where
  ring : List UInt8
  cursor : Nat

structure Frame where
  id : UInt8
  inst : Inst
  payload : FrameBytes
  payloadPos : Nat

inductive Step where
  | idle
  | partialFrame
  | frame (f : Frame)
  | garble (n : UInt16)

/-- There is no break wake on this side: a frame is what the ring holds behind a zero byte, if its header has a shape
and its trailer the right sum. -/
structure Framer where
  anchor : Nat := 0

def payloadView (ring : List UInt8) (start n : Nat) : FrameBytes :=
  let head := min n (ring.length - start)
  ⟨ring.extract start (start + head), ring.extract 0 (n - head)⟩

def ringCrc (ring : List UInt8) (start n : Nat) : UInt16 :=
  let head := min n (ring.length - start)
  let crc := oscCrc (ring.extract start (start + head))
  if head = n then crc else oscCrcContinue crc (ring.extract 0 (n - head))

namespace Framer

def resync (_ : Framer) (cursor : Nat) : Framer :=
  { anchor := cursor }

/-- The first `n` from here on that is past the span or a zero byte. -/
def huntFrom (ring : List UInt8) (anchor avail : Nat) : Nat → Nat → Nat
  | 0, n => n
  | fuel + 1, n =>
    if n < avail ∧ ring.getD ((anchor + n) % ring.length) 0 ≠ 0 then huntFrom ring anchor avail fuel (n + 1)
    else n

/-- The anchor itself has failed and is skipped. -/
def hunt (framer : Framer) (ring : List UInt8) (avail : Nat) : Framer × Step :=
  let n := huntFrom ring framer.anchor avail avail 1
  ({ anchor := (framer.anchor + n) % ring.length }, .garble (UInt16.ofNat n))

def validShape (ring : List UInt8) (id len : UInt8) (inst : Inst) : Bool :=
  3 ≤ len && isValid id && (inst.isStatus || inst.opcode.isSome) && footprint len ≤ ring.length

def step (framer : Framer) (look : Look) : Framer × Step :=
  let ring := look.ring
  let avail := (look.cursor + ring.length - framer.anchor) % ring.length
  let byte (i : Nat) : UInt8 := ring.getD ((framer.anchor + i) % ring.length) 0
  if avail = 0 then (framer, .idle)
  else if byte 0 ≠ 0 then framer.hunt ring avail
  else if avail < 4 then (framer, .partialFrame)
  else
    let id := byte 1
    let len := byte 2
    let inst : Inst := byte 3
    if !validShape ring id len inst then framer.hunt ring avail
    else if avail < footprint len then (framer, .partialFrame)
    else
      let covered := coveredLen len.toNat
      if ringCrc ring framer.anchor covered ≠ u16FromLe (byte covered) (byte (covered + 1)) then
        framer.hunt ring avail
      else
        let payloadPos := (framer.anchor + 4) % ring.length
        ({ anchor := (framer.anchor + footprint len) % ring.length },
          .frame ⟨id, inst, payloadView ring payloadPos (len.toNat - 3), payloadPos⟩)

end Framer

end OpenServo.Host
