import OpenServo.Protocol.Bytes

set_option autoImplicit false

namespace OpenServo.Core.Tel

open OpenServo.Protocol

def sync : UInt8 := 0xA7

def hdrLen : Nat := 3

def flagWindowValid : UInt8 := 1

def bitPos : UInt16 := 0x01
def bitCurrent : UInt16 := 0x02
def bitCurrentTrough : UInt16 := 0x04
def bitDuty : UInt16 := 0x08
def bitVdiff : UInt16 := 0x10
def bitVbus : UInt16 := 0x20
def maskAll : UInt16 := 0x3F

def frameBudget : Nat := 15

def countOnes (word : UInt16) : Nat :=
  (List.range 16).countP word.toNat.testBit

def frameLen (mask : UInt16) : Nat :=
  hdrLen + 2 * countOnes (mask &&& maskAll)

def maskValid (mask : UInt16) : Bool :=
  mask &&& ~~~maskAll == 0 && frameLen mask ≤ frameBudget

structure TelSample where
  pos : UInt16
  current : Int16
  currentTrough : UInt16
  dutyQ15 : Int16
  vdiff : Int16
  vbus : UInt16
  windowValid : Bool
deriving DecidableEq

def put (mask bit : UInt16) (value : UInt16) : List UInt8 :=
  if mask &&& maskAll &&& bit ≠ 0 then u16ToLe value else []

/-- The source fills a buffer of `frameBudget` bytes and returns how many it used; these are the bytes
it used. -/
def encode (mask : UInt16) (seq : UInt8) (s : TelSample) : List UInt8 :=
  [sync, seq, if s.windowValid then flagWindowValid else 0] ++
    put mask bitPos s.pos ++
    put mask bitCurrent s.current.toUInt16 ++
    put mask bitCurrentTrough s.currentTrough ++
    put mask bitDuty s.dutyQ15.toUInt16 ++
    put mask bitVdiff s.vdiff.toUInt16 ++
    put mask bitVbus s.vbus

theorem mask_lt {mask : UInt16} (valid : mask &&& ~~~maskAll = 0) : mask.toNat < 64 := by
  show mask.toNat < 2 ^ 6
  apply Nat.lt_pow_two_of_testBit
  intro i high
  by_cases small : i < 16
  next =>
    have reserved : ∀ i < 16, 6 ≤ i → (~~~maskAll).toNat.testBit i = true := by decide
    have same : (mask &&& ~~~maskAll).toNat.testBit i = false := by rw [valid]; exact Nat.zero_testBit i
    rwa [UInt16.toNat_and, Nat.testBit_and, reserved i small high, Bool.and_true] at same
  next =>
    exact Nat.testBit_lt_two_pow
      (Nat.lt_of_lt_of_le mask.toNat_lt (Nat.pow_le_pow_right (by decide) (Nat.le_of_not_lt small)))

end OpenServo.Core.Tel

namespace OpenServo.Core

/-- The streamer: one sequence number an attempted frame, sent or not. -/
structure Tel where
  enabled : Bool
  mask : UInt16
  seq : UInt8
  drops : UInt32

namespace Tel

def onTick (tel : Tel) (sample : TelSample) (taken : Bool) : Tel × List UInt8 :=
  if !tel.enabled || tel.mask == 0 then (tel, [])
  else
    let frame := encode tel.mask tel.seq sample
    let tel := { tel with seq := tel.seq + 1 }
    if taken then (tel, frame)
    else ({ tel with drops := if tel.drops = 0xFFFFFFFF then tel.drops else tel.drops + 1 }, [])

def stream (tel : Tel) : List (TelSample × Bool) → List UInt8
  | [] => []
  | (sample, taken) :: rest => (tel.onTick sample taken).2 ++ (tel.onTick sample taken).1.stream rest

/-- The frames taken over a run of ticks that starts at `seq`. -/
def wire (mask : UInt16) (seq : UInt8) : List (TelSample × Bool) → List UInt8
  | [] => []
  | (sample, taken) :: rest => (if taken then encode mask seq sample else []) ++ wire mask (seq + 1) rest

theorem stream_eq_wire {tel : Tel} (enabled : tel.enabled = true) (nonzero : tel.mask ≠ 0)
    (ticks : List (TelSample × Bool)) : tel.stream ticks = wire tel.mask tel.seq ticks := by
  induction ticks generalizing tel with
  | nil => rfl
  | cons tick rest ih =>
    obtain ⟨sample, taken⟩ := tick
    have live : (!tel.enabled || tel.mask == 0) = false := by simp [enabled, nonzero]
    simp only [stream, wire, onTick, live, Bool.false_eq_true, if_false]
    cases taken with
    | true =>
      congr 1
      exact ih enabled nonzero
    | false =>
      congr 1
      exact ih enabled nonzero

theorem wire_lost (mask : UInt16) (seq : UInt8) (ticks : List (TelSample × Bool)) (lost : List TelSample) :
    wire mask seq (ticks ++ lost.map (fun sample => (sample, false))) = wire mask seq ticks := by
  induction ticks generalizing seq with
  | nil =>
    induction lost generalizing seq with
    | nil => rfl
    | cons sample rest ih => exact ih (seq + 1)
  | cons tick rest ih => simp only [List.cons_append, wire, ih]

end Tel

end OpenServo.Core
