import OpenServo.Host.Framer

set_option autoImplicit false

namespace OpenServo.Host

open OpenServo.Protocol

inductive Command where
  | exchange (id : UInt8) (inst : Inst) (payload : List UInt8)
  | rescue
  | hostBaud (rate : BaudRate)
  | setResponseDeadline (us : UInt16)

inductive SubmitError where
  | busy
  | invalid (reason : InvalidReason)
deriving DecidableEq

structure WireEvidence where
  statuses : UInt8 := 0
  garble : UInt16 := 0
  garbleAfterLastFrame : Bool := false
deriving DecidableEq

inductive Outcome where
  | sent
  | complete
  | timeout (slot : UInt8)
deriving DecidableEq

structure Terminal where
  outcome : Outcome
  tick : UInt32
  evidence : WireEvidence
deriving DecidableEq

inductive Event where
  | status (slot id : UInt8) (inst : Inst) (payload : FrameBytes)
  | done (terminal : Terminal)
  | wireDone (tick : UInt32)
deriving DecidableEq

inductive State where
  | idle
  | pacing
  | transmitting
  | training (left : UInt8) (gap : UInt32)
  | rescueHold
  | awaiting
  | wireTx
  | wirePulse
  | wireTrain (left : UInt8) (gap : UInt32)
deriving DecidableEq

inductive Drive where
  | claim
  | sendBreak
  | send (span : List UInt8)
  | holdLow
  | release
deriving DecidableEq

inductive Uart where
  | apply (rate : BaudRate)
  | applyRaw (bps : UInt32)

inductive Mode where
  | single
  | stream
deriving DecidableEq

/-- `bytes` is the staged front of the raw TX buffer. -/
structure WireJob where
  bytes : List UInt8 := []
  cursor : Nat := 0
  mode : Mode := .single
  train : Option (UInt8 × UInt32) := none

def defaultResponseDeadlineUs : UInt16 := 60

structure HostBus where
  ticksPerUs : UInt32
  tx : List Drive := []
  uart : Uart
  -- What the tick compare is set to.
  compare : Option UInt32 := none
  framer : Framer := {}
  buf : FrameBuf 264 := .new 264
  state : State := .idle
  plan : Option Shape := none
  rate : BaudRate
  responseDeadlineUs : UInt16 := defaultResponseDeadlineUs
  paceUntil : Option UInt32 := none
  deadlineAt : UInt32 := 0
  window : UInt32 := 0
  got : UInt8 := 0
  lastCursor : Nat := 0
  evidence : WireEvidence := {}
  pendingDone : Option Terminal := none
  wireJob : WireJob := {}
  pendingWireDone : Option UInt32 := none

/-- What one call of the engine reads: the tick each time it asks, the ring at each turn of the walk, and the ring
where it is read outside the walk. -/
structure Io where
  clock : Nat → UInt32
  looks : List Look
  here : Look

def later (clock : Nat → UInt32) (n : Nat) : Nat → UInt32 :=
  fun k => clock (n + k)

def tickReached (a b : UInt32) : Bool :=
  a - b < 0x7FFFFFFF

def rescueHoldUs : UInt32 := 1000

def windowMarginBytes : UInt32 := 16

def slowOpExtraUs : UInt32 := 50000

def unresolved (anchor cursor len : Nat) : UInt16 :=
  UInt16.ofNat ((cursor + len - anchor) % len)

def WireEvidence.junk (evidence : WireEvidence) (n : UInt16) : WireEvidence :=
  { evidence with
    garble := UInt16.ofNat (min 65535 (evidence.garble.toNat + n.toNat))
    garbleAfterLastFrame := true }

namespace HostBus

def new (ticksPerUs : UInt32) (rate : BaudRate) : HostBus :=
  { ticksPerUs, uart := .apply rate, rate }

def drive (bus : HostBus) (calls : List Drive) : HostBus :=
  { bus with tx := bus.tx ++ calls }

def arm (bus : HostBus) (tick : UInt32) : HostBus :=
  { bus with deadlineAt := tick, compare := some tick }

def byteTicks (bus : HostBus) : UInt32 :=
  bus.ticksPerUs * 10000000 / bus.rate.asHz

def pace (bus : HostBus) (now : UInt32) : HostBus :=
  { bus with paceUntil := some (now + starveHorizonByteTimes * bus.byteTicks) }

/-- Garble arms the pacing gap, and the terminal waits for the next `poll`. -/
def finish (bus : HostBus) (clock : Nat → UInt32) (outcome : Outcome) : HostBus :=
  { bus with
    paceUntil := if 0 < bus.evidence.garble then (bus.pace (clock 0)).paceUntil else bus.paceUntil
    pendingDone := some ⟨outcome, clock 1, bus.evidence⟩
    evidence := {}
    state := .idle
    plan := none }

def startTx (bus : HostBus) : HostBus :=
  { bus.drive [.claim, .sendBreak, .send (bus.buf.frame.drop 1)] with state := .transmitting }

def windowFor (bus : HostBus) (plan : Shape) : UInt32 :=
  let w := bus.responseDeadlineUs.toUInt32 * bus.ticksPerUs + plan.replyFootprint.toUInt32 * bus.byteTicks +
    windowMarginBytes * bus.byteTicks
  let w := if plan.replies = .collect then w + enumReplySlots.toUInt32 * bus.byteTicks else w
  if plan.slow then w + slowOpExtraUs * bus.ticksPerUs else w

def ready (bus : HostBus) : Bool :=
  bus.state = .idle && bus.pendingDone.isNone && bus.pendingWireDone.isNone

end HostBus

end OpenServo.Host
