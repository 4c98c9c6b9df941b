import OpenServo.Bus.Chain
import OpenServo.Bus.Clock
import OpenServo.Bus.CrcSpan
import OpenServo.Bus.Decode
import OpenServo.Bus.Framer
import OpenServo.Bus.Tx

set_option autoImplicit false

namespace OpenServo.Bus

open OpenServo.Core OpenServo.Protocol

def replyGapUs : UInt32 := 12

def frameMax : Nat := 258

def frameAllowanceSlackBytes : Nat := 8

def deadlineDrainMax : Nat := 8

def framesPerWake : Nat := 16

/-- What the hardware answers during one handler. Ticks, cursors, polls and the store are read one after another; the
ring is one value, for the DMA writes ahead of what a handler reads. -/
structure Wake where
  ring : List UInt8
  cursor : Nat → Nat
  now : Nat → UInt32
  lag : Nat → Nat
  store : Nat → Option StoreAnswer

structure Origin where
  anchor : Nat
  footprint : Nat
  view : FrameBytes
  id : UInt8
  store : Option StoreAnswer
  sum : UInt16
deriving DecidableEq, Repr

/-- A verdict, with what the ring and the engine held for it, where in the stream the frame stands and the id it was
decoded for. -/
structure Ruling where
  origin : Option Origin
  view : FrameBytes
  sum : UInt16
  passed : Bool
  place : Nat
  id : UInt8
deriving DecidableEq, Repr

inductive Effect where
  | frame (origin : Origin) (view : FrameBytes)
  | released
  | rescue
  | calStarted
  | calAbandoned
deriving DecidableEq, Repr

/-- The record a run leaves. No function of the bus reads it. `spot` is where in the stream the ladder stands;
`statuses` are the status frames it strode over, as place and footprint. -/
structure Trace where
  spot : Nat := 0
  statuses : List (Nat × Nat) := []
  owner : Option FrameBytes := none
  started : List (Option FrameBytes) := []
  rulings : List Ruling := []
  effects : List Effect := []
deriving DecidableEq, Repr

/-- How a deferred id or rate lost the reply it was to leave with: there was none in the engine, it was dropped, or
ASSIGN changed the id under it. -/
inductive Stray where
  | unanswered
  | dropped
  | reassigned
deriving DecidableEq, Repr

/-- What decides the rate: a rescue, or a committed write to the baud register. -/
inductive RateMark where
  | rescued
  | written (baud : BaudRate)
deriving DecidableEq, Repr

structure Asked where
  spot : Nat
  anchor : Nat
  slot : UInt8
  owner : Option FrameBytes
deriving DecidableEq, Repr

structure Shot where
  asked : Option Asked
  tolerant : Bool
  cursor : Nat
  latest : Option Ruling
deriving DecidableEq, Repr

structure Pending where
  anchor : Nat
  footprint : Nat
  packetEnd : UInt32
  slot : UInt8
  staged : Bool
  table : Bool
  origin : Option Origin
deriving DecidableEq, Repr

structure ServoBus where
  framer : Framer := {}
  chain : Chain := {}
  tx : TxEngine := {}
  crc : CrcEngine := {}
  id : UInt8
  rate : BaudRate
  tpb : UInt32
  responseDeadlineUs : UInt16
  pendingId : Option UInt8 := none
  pendingBaud : Option BaudRate := none
  pendingReboot : Option BootMode := none
  crcFails : UInt32 := 0
  pending : Option Pending := none
  framerAt : Option UInt32 := none
  chainAt : Option UInt32 := none
  clock : ClockTracker := {}
  -- The providers: ticks of a microsecond, the rate of the USART, the armed compare, and the number
  -- of answers read so far.
  ticksPerUs : UInt32
  uart : BaudRate
  armed : Option UInt32 := none
  reads : Nat := 0
  trace : Trace := {}
  -- Also only a record: the strays and the rate marks so far, the frame the chain works for and the
  -- replies that were started.
  strays : List Stray := []
  rates : List RateMark := []
  asked : Option Asked := none
  shots : List Shot := []

def tpbFor (ticksPerUs : UInt32) (rate : BaudRate) : UInt32 :=
  ticksPerUs * 10000000 / rate.asHz

def due (now : UInt32) : Option UInt32 → Bool
  | some tick => tickReached now tick
  | none => false

def frameView (ring : List UInt8) (anchor footprint : Nat) : FrameBytes :=
  if anchor + footprint ≤ ring.length then
    .ofList (ring.extract anchor (anchor + footprint))
  else
    ⟨ring.drop anchor, ring.take (footprint - (ring.length - anchor))⟩

def ringInst (ring : List UInt8) (anchor : Nat) : Inst :=
  ring.getD ((anchor + 3) % ring.length) 0

def verdictFirst (ring : List UInt8) (anchor : Nat) : Bool :=
  match (ringInst ring anchor).opcode with
  | some .ping | some .read | some .gread | some .write | some .gwrite => false
  | _ => true

def slotKey (payload : List UInt8) : UInt8 :=
  let crc := oscCrc payload
  (crc ^^^ (crc >>> 8)).toUInt8

def ServoBus.deferred (bus : ServoBus) : Bool :=
  bus.pendingId.isSome || bus.pendingBaud.isSome

def ServoBus.stray (bus : ServoBus) (lost : Bool) (how : Stray) : ServoBus :=
  { bus with strays := bus.strays ++ if lost then [how] else [] }

structure ReplyHandle where
  bus : ServoBus
  staged : Bool := false
  tolerant : Bool := false

def ReplyHandle.stage (handle : ReplyHandle) (result : ResultCode) (alert : Bool)
    (spans : List (List UInt8)) : ReplyHandle :=
  let bus := handle.bus
  match bus.tx.stageGather bus.crc bus.id result alert spans with
  | (tx, crc, .ok ()) =>
    let tx := if handle.tolerant then tx.markCollisionTolerant (slotKey spans.flatten) else tx
    { handle with bus := { bus with tx := tx, crc := crc }, staged := true }
  | (tx, crc, .error _) => { handle with bus := { bus with tx := tx, crc := crc } }

def ReplyHandle.call (handle : ReplyHandle) : Call → ReplyHandle
  | .sendStatus result alert data => handle.stage result alert [data]
  | .sendStatusGather result alert spans => handle.stage result alert spans
  | .stageId id =>
    { handle with bus := { handle.bus with pendingId := some id }.stray (!handle.bus.tx.busy) .unanswered }
  | .setId id =>
    { handle with bus := { handle.bus with id := id }.stray handle.bus.pendingId.isSome .reassigned }
  | .stageBaud baud =>
    { handle with
      bus := { handle.bus with
        pendingBaud := some baud, rates := handle.bus.rates ++ [RateMark.written baud] }.stray
        (!handle.bus.tx.busy) .unanswered }
  | .setResponseDeadline us => { handle with bus := { handle.bus with responseDeadlineUs := us } }
  | .stageReboot mode => { handle with bus := { handle.bus with pendingReboot := some mode } }
  | .beginClockCal gapUs gaps =>
    { handle with
      bus := { handle.bus with clock := { handle.bus.clock with pendingCal := some (gapUs, gaps) } } }
  -- The config store is not the bus's.
  | .save .. | .wipe => handle

namespace ServoBus

def replyGap (bus : ServoBus) : UInt32 :=
  replyGapUs * bus.ticksPerUs

def reclaim (bus : ServoBus) : UInt32 :=
  bus.responseDeadlineUs.toUInt32 * bus.ticksPerUs

def frameAllowance (bus : ServoBus) : UInt32 :=
  UInt32.ofNat (frameMax + frameAllowanceSlackBytes) * bus.tpb

def readNow (bus : ServoBus) (wake : Wake) : UInt32 × ServoBus :=
  (wake.now bus.reads, { bus with reads := bus.reads + 1 })

def readCursor (bus : ServoBus) (wake : Wake) : Nat × ServoBus :=
  (wake.cursor bus.reads, { bus with reads := bus.reads + 1 })

def readLag (bus : ServoBus) (wake : Wake) : Nat × ServoBus :=
  (wake.lag bus.reads, { bus with reads := bus.reads + 1 })

def readStore (bus : ServoBus) (wake : Wake) : Option StoreAnswer × ServoBus :=
  (wake.store bus.reads, { bus with reads := bus.reads + 1 })

def armDeadline (bus : ServoBus) (wake : Wake) : ServoBus :=
  let (now, bus) := bus.readNow wake
  let remaining (tick : UInt32) : UInt32 := if tickReached now tick then 0 else tick - now
  let best :=
    match bus.framerAt, bus.chainAt with
    | some a, some b => if remaining a ≤ remaining b then some a else some b
    | some a, none => some a
    | none, chainAt => chainAt
  { bus with armed := best }

def trigger (bus : ServoBus) (override : Option ResultCode) : ServoBus :=
  let (tx, crc) := bus.tx.trigger bus.crc override
  let started := if bus.tx.staged then bus.trace.started ++ [bus.trace.owner] else bus.trace.started
  { bus with tx := tx, crc := crc, trace := { bus.trace with started := started } }

def noteShot (bus : ServoBus) (wake : Wake) : ServoBus :=
  { bus with
    shots := bus.shots ++
      [⟨bus.asked, bus.tx.collisionTolerant, wake.cursor bus.reads,
        (bus.trace.rulings.filter Ruling.passed).getLast?⟩] }

/-- Each pass through the loop takes the chain one predecessor on, so `chain.remaining` bounds it. -/
def routeChainLoop (wake : Wake) : Nat → ServoBus → ChainOut → ServoBus
  | _, bus, .none => bus
  | _, bus, .trigger predecessorSilent =>
    (bus.noteShot wake).trigger (if predecessorSilent then some .predecessorSilent else none)
  | 0, bus, .wait _ => bus
  | fuel + 1, bus, .wait tick =>
    let (now, bus) := bus.readNow wake
    if !tickReached now tick then { bus with chainAt := some tick }
    else
      let (chain, out) := bus.chain.onDeadline now
      routeChainLoop wake fuel { bus with chain := chain } out

def routeChain (bus : ServoBus) (wake : Wake) (out : ChainOut) : ServoBus :=
  routeChainLoop wake (bus.chain.remaining + 1) bus out

def replyDelay (bus : ServoBus) (wake : Wake) : UInt32 × ServoBus :=
  match bus.tx.slotKey with
  | some key =>
    let (now, bus) := bus.readNow wake
    let draw := (key ^^^ now.toUInt8) &&& (enumReplySlots - 1)
    (bus.replyGap + draw.toUInt32 * bus.tpb, bus)
  | none => (bus.replyGap, bus)

def sequenceReply (bus : ServoBus) (wake : Wake) (slot : UInt8) (packetEnd : UInt32) : ServoBus :=
  let (gap, bus) := bus.replyDelay wake
  let (chain, out) := Chain.onReplyStaged slot packetEnd gap bus.reclaim bus.frameAllowance
  { bus with
    chain := chain
    asked := some ⟨bus.trace.spot, bus.framer.anchor, slot, bus.trace.owner⟩ }.routeChain wake out

theorem replyDelay_bus (bus : ServoBus) (wake : Wake) :
    ∃ reads, bus.reads ≤ reads ∧ (bus.replyDelay wake).2 = { bus with reads := reads } := by
  unfold replyDelay
  split
  next => exact ⟨_, Nat.le_succ _, rfl⟩
  next => exact ⟨_, Nat.le_refl _, rfl⟩

def dropStaged (bus : ServoBus) : ServoBus :=
  { bus with
    tx := if bus.tx.staged then bus.tx.abort else bus.tx
    chain := bus.chain.reset
    chainAt := none }.stray (bus.tx.staged && bus.deferred) .dropped

def newestIsBreakByte (ring : List UInt8) (cursor : Nat) : Bool :=
  ring.length ≠ 0 && ring.getD (ringWrap (cursor + ring.length - 1) ring.length) 0 = 0

/-- Only the first frame of a pair has its shape classified. -/
def driftShape (clock : ClockTracker) (ring : List UInt8) (anchor footprint : Nat) : ClockTracker :=
  if !clock.pairOpen then clock.noteVerified footprint false
  else if ring.length = 0 then clock
  else
    let inst := ringInst ring anchor
    let id := ring.getD (ringWrap (anchor + 1) ring.length) 0
    let silent :=
      match inst.opcode with
      | some .gwrite => true
      | some .write | some .commit => inst.noreply || id == broadcast
      | _ => false
    clock.noteVerified footprint silent

def driftNoteVerified (bus : ServoBus) (ring : List UInt8) (anchor footprint : Nat) : ServoBus :=
  { bus with clock := driftShape bus.clock ring anchor footprint }

def climb (bus : ServoBus) (framer : Framer) (len : Nat) : ServoBus :=
  { bus with
    framer := framer
    trace := { bus.trace with spot := bus.trace.spot + dist framer.anchor bus.framer.anchor len } }

def placeOf (bus : ServoBus) (anchor len : Nat) : Nat :=
  bus.trace.spot - dist bus.framer.anchor anchor len

/-- A failed verdict: count it unless the ladder was only probing, and hunt on one byte in. -/
def reject (bus : ServoBus) (ring : List UInt8) (anchor : Nat) : ServoBus :=
  { bus with
    crcFails := if bus.framer.probing then bus.crcFails else bus.crcFails + 1
    framer := bus.framer.onFrameRejected anchor ring.length
    trace := { bus.trace with spot := bus.placeOf anchor ring.length + 1 } }

def accept (bus : ServoBus) (ring : List UInt8) (anchor footprint : Nat) : ServoBus :=
  { bus with framer := bus.framer.onFrameVerified }.driftNoteVerified ring anchor footprint

def setRate (bus : ServoBus) (rate : BaudRate) : ServoBus :=
  { bus with
    uart := rate
    rate := rate
    tpb := tpbFor bus.ticksPerUs rate
    clock := bus.clock.restart }

def note (bus : ServoBus) (effect : Effect) : ServoBus :=
  { bus with trace := { bus.trace with effects := bus.trace.effects ++ [effect] } }

def noteFrame (bus : ServoBus) (origin : Option Origin) (view : FrameBytes) : ServoBus :=
  { bus with
    trace :=
      { bus.trace with
        effects := bus.trace.effects ++ (origin.map (fun origin => Effect.frame origin view)).toList } }

def noteRuling (bus : ServoBus) (ruling : Ruling) : ServoBus :=
  { bus with trace := { bus.trace with rulings := bus.trace.rulings ++ [ruling] } }

def noteStatus (bus : ServoBus) (place footprint : Nat) : ServoBus :=
  { bus with trace := { bus.trace with statuses := bus.trace.statuses ++ [(place, footprint)] } }

def onTxComplete (bus : ServoBus) (wake : Wake) : ServoBus :=
  let (lag, bus) := bus.readLag wake
  let (tx, crc, out) := bus.tx.onArmComplete bus.crc lag
  let bus := { bus with tx := tx, crc := crc }
  match out with
  | .armed => bus
  | .released =>
    let bus :=
      match bus.pendingId with
      | some id => { bus with id := id, pendingId := none }
      | none => bus
    let bus :=
      match bus.pendingBaud with
      | some baud => { bus with pendingBaud := none }.setRate baud
      | none => bus
    bus.note .released

def onRescueBreak (bus : ServoBus) (wake : Wake) : ServoBus :=
  if bus.tx.streaming then bus
  else
    let bus := bus.setRate .b500000
    let (cursor, bus) := bus.readCursor wake
    { bus.climb (bus.framer.resync cursor) wake.ring.length with
      chain := bus.chain.reset
      tx := bus.tx.abort
      pending := none
      framerAt := none
      chainAt := none
      rates := bus.rates ++ [RateMark.rescued] }.stray (bus.tx.busy && bus.deferred) .dropped
    |>.note .rescue |>.armDeadline wake

end ServoBus

structure Servo where
  bus : ServoBus
  session : Session

namespace Servo

def tolerates : Request → Bool
  | .enumerate .. => true
  | _ => false

def reply (servo : Servo) (tolerant : Bool) (calls : List Call) : Servo × Bool :=
  let handle := calls.foldl ReplyHandle.call { bus := servo.bus, tolerant := tolerant }
  ({ servo with bus := handle.bus }, handle.staged)

def dispatchDecoded (servo : Servo) (wake : Wake) (anchor footprint : Nat) :
    Option (Servo × Bool × UInt8 × Dispatched × Origin) :=
  let view := frameView wake.ring anchor footprint
  match decode view servo.bus.id with
  | .own req mayReply slot =>
    let (store, bus) := servo.bus.readStore wake
    let origin : Origin := ⟨anchor, footprint, view, bus.id, store, bus.crc.acc⟩
    let (session, calls, out) := dispatch servo.session store req mayReply
    let (servo, staged) := reply ⟨bus, session⟩ (tolerates req) calls
    let bus :=
      if staged then { servo.bus with trace := { servo.bus.trace with owner := some view } }
      else servo.bus
    some ({ servo with bus := bus }, staged, slot, out, origin)
  | _ => none

def commitTable (servo : Servo) : Servo :=
  let (session, calls) := commit servo.session
  (reply ⟨servo.bus, session⟩ false calls).1

def sequence (servo : Servo) (wake : Wake) (staged : Bool) (slot : UInt8) (packetEnd : UInt32) : Servo :=
  if staged && servo.bus.tx.staged then
    { servo with bus := servo.bus.sequenceReply wake slot packetEnd }
  else servo

def verdictFail (servo : Servo) (wake : Wake) (p : Pending) : Servo :=
  { bus := servo.bus.dropStaged.reject wake.ring p.anchor
    session := if p.table then revert servo.session else servo.session }

def settleTable (servo : Servo) (table : Bool) : Servo :=
  if table then servo.commitTable else servo

def accept (servo : Servo) (wake : Wake) (p : Pending) : Servo :=
  { servo with
    bus := (servo.bus.accept wake.ring p.anchor p.footprint).noteFrame p.origin
      (frameView wake.ring p.anchor p.footprint) }

def verdictPass (servo : Servo) (wake : Wake) (p : Pending) : Servo :=
  ((servo.accept wake p).settleTable p.table).sequence wake p.staged p.slot p.packetEnd

/-- The verdict is on the sum the engine holds and the trailer the ring holds now. -/
def rule (servo : Servo) (wake : Wake) (p : Pending) : Servo × Bool :=
  let (lag, bus) := servo.bus.readLag wake
  let passed := crcVerify bus.crc lag wake.ring p.anchor p.footprint
  ({ servo with
      bus := bus.noteRuling
        ⟨p.origin, frameView wake.ring p.anchor p.footprint, bus.crc.acc, passed,
          bus.placeOf p.anchor wake.ring.length, (p.origin.map Origin.id).getD bus.id⟩ }, passed)

def verify (servo : Servo) (wake : Wake) (p : Pending) : Servo :=
  let (servo, passed) := servo.rule wake p
  if passed then servo.verdictPass wake p else servo.verdictFail wake p

def feed (servo : Servo) (wake : Wake) (span : FrameSpan) : Servo :=
  { servo with
    bus := { servo.bus with crc := crcFeed servo.bus.crc wake.ring span.anchor span.footprint } }

def await (servo : Servo) (wake : Wake) (p : Pending) (complete : Bool) : Servo :=
  if complete then servo.verify wake p
  else { servo with bus := { servo.bus with pending := some p } }

/-- The spine: feed, then dispatch ahead of the verdict. -/
def routeSpine (servo : Servo) (wake : Wake) (span : FrameSpan) (complete : Bool) : Servo :=
  let servo := servo.feed wake span
  match servo.dispatchDecoded wake span.anchor span.footprint with
  | some (servo, staged, slot, out, origin) =>
    servo.await wake
      ⟨span.anchor, span.footprint, span.packetEnd, slot, staged, out == .pending, some origin⟩ complete
  | none =>
    if complete then
      servo.verify wake ⟨span.anchor, span.footprint, span.packetEnd, 0, false, false, none⟩
    else servo

def execute (servo : Servo) (wake : Wake) (span : FrameSpan) : Servo :=
  match servo.dispatchDecoded wake span.anchor span.footprint with
  | none => servo
  | some (servo, staged, slot, out, origin) =>
    let servo := { servo with bus := servo.bus.noteFrame (some origin) origin.view }
    (servo.settleTable (out == .pending)).sequence wake staged slot span.packetEnd

def supersede (servo : Servo) (wake : Wake) (span : FrameSpan) : Servo :=
  { servo with bus := (servo.bus.accept wake.ring span.anchor span.footprint).dropStaged }

/-- The CRC is checked before any effect; then a fresh instruction supersedes a reply that is not on the wire yet. -/
def routeVerdictFirst (servo : Servo) (wake : Wake) (span : FrameSpan) : Servo :=
  let (lag, bus) := servo.bus.readLag wake
  let (crc, passed) := crcOk bus.crc lag wake.ring span.anchor span.footprint
  let servo :=
    { servo with
      bus := { bus with crc := crc }.noteRuling
        ⟨none, frameView wake.ring span.anchor span.footprint, crc.acc, passed,
          bus.placeOf span.anchor wake.ring.length, bus.id⟩ }
  if passed then (servo.supersede wake span).execute wake span
  else { servo with bus := servo.bus.reject wake.ring span.anchor }

def routeFrame (servo : Servo) (wake : Wake) (span : FrameSpan) (complete : Bool) : Servo :=
  if (ringInst wake.ring span.anchor).isStatus then
    if complete then
      let (chain, out) := servo.bus.chain.onStatusEnd span.packetEnd
      let bus := servo.bus.noteStatus (servo.bus.placeOf span.anchor wake.ring.length) span.footprint
      { servo with bus := { bus with chain := chain }.routeChain wake out }
    else servo
  else if !servo.bus.chain.active && !servo.bus.tx.busy && !verdictFirst wake.ring span.anchor then
    servo.routeSpine wake span complete
  else if !complete then servo
  else servo.routeVerdictFirst wake span

def onFrameEnd (servo : Servo) (wake : Wake) (span : FrameSpan) : Servo :=
  let taken := { servo with bus := { servo.bus with pending := none } }
  match servo.bus.pending with
  | some p =>
    if p.anchor = span.anchor ∧ p.footprint = span.footprint then taken.verify wake p
    else { taken with bus := taken.bus.dropStaged }.routeFrame wake span true
  | none => taken.routeFrame wake span true

def driveLoop (wake : Wake) : Nat → Servo → Servo
  | 0, servo =>
    let (now, bus) := servo.bus.readNow wake
    { servo with bus := { bus with framerAt := some now } }
  | fuel + 1, servo =>
    let (now, bus) := servo.bus.readNow wake
    let (cursor, bus) := bus.readCursor wake
    let (framer, out) := bus.framer.resolve wake.ring cursor now bus.tpb
    let bus := bus.climb framer wake.ring.length
    match out with
    | .none => { servo with bus := { bus with framerAt := none } }
    | .wait tick => { servo with bus := { bus with framerAt := some tick } }
    | .covered span endDue =>
      { servo with bus := { bus with framerAt := some endDue } }.routeFrame wake span false
    | .frame span => driveLoop wake fuel ({ servo with bus := bus }.onFrameEnd wake span)

def driveFramer (servo : Servo) (wake : Wake) : Servo :=
  driveLoop wake framesPerWake servo

/-- Kills a staged reply when ringed bytes follow the frame it answers. -/
def yieldReply (bus : ServoBus) (wake : Wake) : ServoBus :=
  if bus.tx.staged && !bus.tx.collisionTolerant && !bus.chain.waiting && bus.pending.isNone then
    let (cursor, bus) := bus.readCursor wake
    if !bus.framer.caughtUp cursor then
      { bus with tx := bus.tx.abort, chain := bus.chain.reset, chainAt := none }.stray bus.deferred .dropped
    else bus
  else bus

def calBreak (bus : ServoBus) (wake : Wake) (now : UInt32) : ServoBus :=
  let (cursor, bus) := bus.readCursor wake
  let (clock, deadline) := bus.clock.onCalBreak now cursor bus.ticksPerUs
  let bus := { bus with clock := clock }.note .calStarted
  match deadline with
  | some tick => { bus with framerAt := some tick }.armDeadline wake
  | none => bus

def driftStamp (bus : ServoBus) (wake : Wake) (now : UInt32) : ServoBus :=
  let (cursor, bus) := bus.readCursor wake
  { bus with clock := bus.clock.onDriftBreak now cursor wake.ring.length bus.tpb }

def wireFault (bus : ServoBus) (wake : Wake) (now : UInt32) : ServoBus × Bool :=
  let (cursor, bus) := bus.readCursor wake
  let (framer, fresh) := bus.framer.onWireFault cursor
  let bus := { bus with framer := framer }
  if fresh && ServoBus.newestIsBreakByte wake.ring cursor then (driftStamp bus wake now, fresh)
  else (bus, fresh)

/-- A wake whose evidence is not ringed yet looks again one byte-time later. -/
def recheck (bus : ServoBus) (fresh : Bool) (now : UInt32) : ServoBus :=
  if !fresh && bus.framerAt.isNone then { bus with framerAt := some (now + bus.tpb) } else bus

def onBreak (servo : Servo) (wake : Wake) : Servo :=
  let (now, bus) := servo.bus.readNow wake
  if bus.clock.calActive then { servo with bus := calBreak bus wake now }
  else
    let (bus, fresh) := wireFault bus wake now
    let servo := { servo with bus := bus }.driveFramer wake
    let bus := recheck servo.bus fresh now
    let bus := yieldReply bus wake
    let bus := bus.routeChain wake (bus.chain.onBreakObserved now)
    { servo with bus := bus.armDeadline wake }

def framerDue (servo : Servo) (wake : Wake) : Servo :=
  let bus := { servo.bus with framerAt := none, clock := servo.bus.clock.abandonCal }
  { servo with bus := bus.note .calAbandoned }.driveFramer wake

def chainDue (bus : ServoBus) (wake : Wake) (now : UInt32) : ServoBus :=
  let (chain, out) := bus.chain.onDeadline now
  { bus with chainAt := none, chain := chain }.routeChain wake out

def framerSlot (servo : Servo) (wake : Wake) (now : UInt32) : Servo :=
  if due now servo.bus.framerAt then servo.framerDue wake else servo

def chainSlot (servo : Servo) (wake : Wake) (now : UInt32) : Servo :=
  if due now servo.bus.chainAt then { servo with bus := chainDue servo.bus wake now } else servo

def drain (wake : Wake) : Nat → Servo → Servo
  | 0, servo => servo
  | fuel + 1, servo =>
    let (now, bus) := servo.bus.readNow wake
    let servo := { servo with bus := bus }
    let framed := servo.framerSlot wake now
    let chained := framed.chainSlot wake now
    if due now servo.bus.framerAt || due now framed.bus.chainAt then drain wake fuel chained else chained

def onDeadline (servo : Servo) (wake : Wake) : Servo :=
  let servo := drain wake deadlineDrainMax servo
  { servo with bus := servo.bus.armDeadline wake }

end Servo

inductive BusEvent where
  | brk (wake : Wake)
  | deadline (wake : Wake)
  | txComplete (wake : Wake)
  | rescueBreak (wake : Wake)

def BusEvent.wake : BusEvent → Wake
  | .brk wake | .deadline wake | .txComplete wake | .rescueBreak wake => wake

def busStep (servo : Servo) : BusEvent → Servo
  | .brk wake => servo.onBreak wake
  | .deadline wake => servo.onDeadline wake
  | .txComplete wake => { servo with bus := servo.bus.onTxComplete wake }
  | .rescueBreak wake => { servo with bus := servo.bus.onRescueBreak wake }

def servoBoot (ticksPerUs : UInt32) (id : UInt8) (rate : BaudRate) (responseDeadlineUs : UInt16)
    (session : Session) : Servo where
  bus :=
    { id := id, rate := rate, tpb := tpbFor ticksPerUs rate, responseDeadlineUs := responseDeadlineUs,
      ticksPerUs := ticksPerUs, uart := rate }
  session := session

end OpenServo.Bus
