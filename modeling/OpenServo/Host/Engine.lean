import OpenServo.Host.WireOp

set_option autoImplicit false

namespace OpenServo.Host

open OpenServo.Protocol

namespace HostBus

def submit (bus : HostBus) (cmd : Command) (io : Io) : HostBus × Except SubmitError Unit :=
  if !bus.ready then (bus, .error .busy)
  else
    let bus := { bus with evidence := {} }
    match cmd with
    | .setResponseDeadline us => (({ bus with responseDeadlineUs := us } : HostBus).finish io.clock .complete, .ok ())
    | .hostBaud rate =>
      ((({ bus with uart := .apply rate, rate } : HostBus).pace (io.clock 0)).finish (later io.clock 1) .complete,
        .ok ())
    | .rescue =>
      (({ bus.drive [.claim, .holdLow] with state := .rescueHold } : HostBus).arm
        (io.clock 0 + rescueHoldUs * bus.ticksPerUs), .ok ())
    | .exchange id inst payload =>
      match Shape.derive id inst payload with
      | .error reason => (bus, .error (.invalid reason))
      | .ok plan =>
        let buf := ((bus.buf.start id inst).putPayload payload).finish payload.length
        let buf := buf.setCrc (oscCrc buf.covered)
        let held := bus.paceUntil
        let bus := { bus with
          buf
          plan := some plan
          -- Whatever is unconsumed before the command is dropped here.
          framer := bus.framer.resync io.here.cursor
          paceUntil := none }
        match held with
        | some tick =>
          if !tickReached (io.clock 0) tick then (({ bus with state := .pacing } : HostBus).arm tick, .ok ())
          else (bus.startTx, .ok ())
        | none => (bus.startTx, .ok ())

def onTxComplete (bus : HostBus) (io : Io) : HostBus :=
  if bus.state = .wireTx then bus.wireAdvance io.clock
  else if bus.state ≠ .transmitting then bus
  else
    match bus.plan with
    | none => (bus.drive [.release]).finish io.clock .sent
    | some plan =>
      match plan.train with
      | some (gapUs, gaps) =>
        -- The wire stays claimed for the whole train.
        let gap := gapUs.toUInt32 * bus.ticksPerUs
        ({ bus with state := .training (gaps + 1) gap } : HostBus).arm (io.clock 0 + gap)
      | none =>
        if plan.replies = .none then (bus.drive [.release]).finish io.clock .sent
        else
          let window := bus.windowFor plan
          ({ bus.drive [.release] with
              window
              got := 0
              lastCursor := io.here.cursor
              state := .awaiting } : HostBus).arm (io.clock 0 + window)

def onDeadline (bus : HostBus) (io : Io) : HostBus :=
  match bus.state with
  | .training left gap =>
    if left ≤ 1 then (bus.drive [.sendBreak, .release]).finish io.clock .sent
    else ({ bus.drive [.sendBreak] with state := .training (left - 1) gap } : HostBus).arm (bus.deadlineAt + gap)
  | .wireTrain left gap =>
    if left ≤ 1 then (bus.drive [.sendBreak]).wireFinish io.clock
    else ({ bus.drive [.sendBreak] with state := .wireTrain (left - 1) gap } : HostBus).arm (bus.deadlineAt + gap)
  | _ => bus

def extend (bus : HostBus) (now : UInt32) : HostBus :=
  bus.arm (now + bus.window)

structure Emit where
  slot : UInt8
  id : UInt8
  inst : Inst
  pos : Nat
  len : Nat

def junk (bus : HostBus) (now : UInt32) (n : UInt16) : HostBus :=
  ({ bus with evidence := bus.evidence.junk n } : HostBus).extend now

/-- What no verdict consumed is evidence, not silence. -/
def strand (bus : HostBus) (look : Look) : HostBus :=
  let left := unresolved bus.framer.anchor look.cursor look.ring.length
  { bus with evidence := if 0 < left then bus.evidence.junk left else bus.evidence }

def satInc (n : UInt8) : UInt8 :=
  if n = 255 then 255 else n + 1

def complete (bus : HostBus) (now paceAt : UInt32) (look : Look) : HostBus :=
  let bus := ({ bus with compare := none, state := .idle } : HostBus).strand look
  { bus with
    paceUntil := if 0 < bus.evidence.garble then some paceAt else bus.paceUntil
    pendingDone := some ⟨.complete, now, bus.evidence⟩
    evidence := {}
    plan := none }

def credit (bus : HostBus) (now : UInt32) (expected : Option UInt8) (paceAt : UInt32) (look : Look) (f : Frame) :
    HostBus × Emit :=
  let bus := { bus with
    got := satInc bus.got
    evidence := { bus.evidence with
      statuses := satInc bus.evidence.statuses
      garbleAfterLastFrame := false } }
  let closed := if expected = some bus.got then bus.complete now paceAt look else bus.extend now
  ({ closed with lastCursor := look.cursor }, ⟨bus.got - 1, f.id, f.inst, f.payloadPos, f.payload.len⟩)

/-- One step of the framer a turn, until a status or nothing more. A call that runs out of turns is not back yet. -/
def walk (now : UInt32) (expected : Option UInt8) (paceAt : UInt32) :
    List Look → HostBus → Option (HostBus × Option Emit)
  | [], _ => none
  | look :: looks, bus =>
    let (framer, step) := bus.framer.step look
    let bus := { bus with framer }
    match step with
    | .frame f =>
      if f.inst.isStatus then
        let (bus, emit) := bus.credit now expected paceAt look f
        some (bus, some emit)
      else walk now expected paceAt looks (bus.junk now (UInt16.ofNat (f.payload.len + 6)))
    | .garble n => walk now expected paceAt looks (bus.junk now n)
    | .partialFrame | .idle => some (bus, none)

def takeDone (bus : HostBus) : HostBus × Option Event :=
  match bus.pendingDone with
  | some terminal => ({ bus with pendingDone := none }, some (.done terminal))
  | none => (bus, none)

def takeEvent (bus : HostBus) : HostBus × Option Event :=
  match bus.pendingWireDone with
  | some tick => ({ bus with pendingWireDone := none }, some (.wireDone tick))
  | none => bus.takeDone

/-- No status this time: the window moves with the wire, and closes the command once it has passed. -/
def wait (bus : HostBus) (now : UInt32) (plan : Shape) (clock : Nat → UInt32) (here : Look) : HostBus :=
  let progressed := here.cursor ≠ bus.lastCursor
  let bus := { bus with lastCursor := here.cursor }
  if progressed then bus.extend now
  else if tickReached now bus.deadlineAt then
    (({ bus with compare := none } : HostBus).strand here).finish clock
      (if plan.replies = .collect then .complete else .timeout bus.got)
  else bus

def pollAwait (bus : HostBus) (now : UInt32) (io : Io) : Option (HostBus × Option Event) :=
  match bus.plan with
  | none => some (bus, none)
  | some plan =>
    let expected : Option UInt8 :=
      match plan.replies with
      | .single => some 1
      | .chain n => some n
      | .collect => none
      | .none => some 1
    let paceAt := now + starveHorizonByteTimes * bus.byteTicks
    match bus.walk now expected paceAt io.looks with
    | none => none
    | some (bus, some emit) =>
      some (bus, some (.status emit.slot emit.id emit.inst (payloadView io.here.ring emit.pos emit.len)))
    | some (bus, none) => some (bus.wait now plan (later io.clock 1) io.here).takeDone

def poll (bus : HostBus) (io : Io) : Option (HostBus × Option Event) :=
  match bus.pendingDone, bus.pendingWireDone with
  | some terminal, _ => some ({ bus with pendingDone := none }, some (.done terminal))
  | none, some tick => some ({ bus with pendingWireDone := none }, some (.wireDone tick))
  | none, none =>
    let now := io.clock 0
    match bus.state with
    | .awaiting => bus.pollAwait now io
    | .pacing => some (if tickReached now bus.deadlineAt then bus.startTx else bus).takeEvent
    | .rescueHold =>
      some (if tickReached now bus.deadlineAt then
        (({ bus.drive [.release] with uart := .apply .b500000, rate := .b500000 } : HostBus).pace (io.clock 1)).finish
          (later io.clock 2) .sent
      else bus).takeEvent
    | .wirePulse =>
      some (if tickReached now bus.deadlineAt then bus.wireFinish (later io.clock 1) else bus).takeEvent
    | .idle | .transmitting | .training _ _ | .wireTx | .wireTrain _ _ => some bus.takeEvent

end HostBus

inductive Op where
  | submit (cmd : Command)
  | wireSend (bytes : List UInt8)
  | wireTrain (announce : List UInt8) (gapUs : UInt16) (breaks : UInt8)
  | wireBaud (bps : UInt32)
  | wireBurst (stream : List UInt8)
  | wirePulseLow (us : UInt16)
  | onTxComplete
  | onDeadline
  | poll

def Op.drained : Op → Bool
  | .onTxComplete => true
  | _ => false

inductive Answer where
  | accepted
  | refused (error : SubmitError)
  | quiet
  | event (event : Event)

def Answer.ofResult : Except SubmitError Unit → Answer
  | .ok () => .accepted
  | .error error => .refused error

def Answer.ofEvent : Option Event → Answer
  | some e => .event e
  | none => .quiet

def HostBus.step (bus : HostBus) (io : Io) : Op → Option (HostBus × Answer)
  | .submit cmd => some ((bus.submit cmd io).map id Answer.ofResult)
  | .wireSend bytes => some ((bus.wireSend bytes).map id Answer.ofResult)
  | .wireTrain announce gapUs breaks => some ((bus.wireTrain announce gapUs breaks).map id Answer.ofResult)
  | .wireBaud bps => some ((bus.wireBaud bps io.clock).map id Answer.ofResult)
  | .wireBurst stream => some ((bus.wireBurst stream).map id Answer.ofResult)
  | .wirePulseLow us => some ((bus.wirePulseLow us io.clock).map id Answer.ofResult)
  | .onTxComplete => some (bus.onTxComplete io, .quiet)
  | .onDeadline => some (bus.onDeadline io, .quiet)
  | .poll => (bus.poll io).map (Prod.map id Answer.ofEvent)

end OpenServo.Host
