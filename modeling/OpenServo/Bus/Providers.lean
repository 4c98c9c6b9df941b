import OpenServo.Protocol.Crc
import OpenServo.Shared.Ring

set_option autoImplicit false

namespace OpenServo.Bus

open OpenServo.Protocol OpenServo.Shared

def tickReached (a b : UInt32) : Bool :=
  a - b < 0xFFFFFFFF / 2

def ringWrap (i len : Nat) : Nat :=
  i &&& (len - 1)

/-- What an RX ring is by contract: a power of two with lap margin over the largest frame, and
indexed by a 16-bit cursor. -/
structure RingShape (len : Nat) : Prop where
  pow : ∃ k, len = 2 ^ k
  large : 512 ≤ len
  indexed : len ≤ 65536

theorem RingShape.wrap_eq {len : Nat} (shape : RingShape len) (i : Nat) :
    ringWrap i len = i % len :=
  mask_eq_mod shape.pow i

theorem RingShape.wrap_lt {len : Nat} (shape : RingShape len) (i : Nat) : ringWrap i len < len := by
  rw [shape.wrap_eq]
  exact Nat.mod_lt i (pow_pos shape.pow)

theorem RingShape.wrap_u16 {len : Nat} (shape : RingShape len) (i : Nat) :
    ringWrap i len % 65536 = ringWrap i len :=
  Nat.mod_eq_of_lt (Nat.lt_of_lt_of_le (shape.wrap_lt i) shape.indexed)

/-- The CRC engine: the running value over the spans fed since the last reset, and the stable
buffer replies are snapshotted into. -/
structure CrcEngine where
  acc : UInt16 := 0
  snap : List UInt8 := []
deriving DecidableEq, Repr

def CrcEngine.reset (engine : CrcEngine) : CrcEngine :=
  { engine with acc := 0 }

def CrcEngine.feed (engine : CrcEngine) (chunk : List UInt8) : CrcEngine :=
  { engine with acc := oscCrcContinue engine.acc chunk }

def CrcEngine.snapshot (engine : CrcEngine) (off : Nat) (src : List UInt8) : CrcEngine :=
  { engine with snap := engine.snap.take off ++ src ++ engine.snap.drop (off + src.length) }

theorem CrcEngine.foldl_feed (engine : CrcEngine) (chunks : List (List UInt8)) :
    chunks.foldl CrcEngine.feed engine = engine.feed chunks.flatten := by
  induction chunks generalizing engine with
  | nil => simp [feed]
  | cons chunk chunks ih => simp [ih, feed, oscCrcContinue_append]

/-- Polls the result at most `budget + 1` times; the engine is busy for the first `lag` of them. -/
def CrcEngine.await (engine : CrcEngine) : (lag budget : Nat) → Option UInt16
  | 0, _ => some engine.acc
  | _ + 1, 0 => none
  | lag + 1, budget + 1 => engine.await lag budget

theorem CrcEngine.await_eq (engine : CrcEngine) (lag budget : Nat) :
    engine.await lag budget = if lag ≤ budget then some engine.acc else none := by
  induction lag generalizing budget with
  | zero => simp [await]
  | succ lag ih =>
    cases budget with
    | zero => simp [await]
    | succ budget => simp [await, ih]

def spinPerByte : Nat := 64

end OpenServo.Bus
