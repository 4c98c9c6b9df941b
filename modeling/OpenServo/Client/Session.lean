import OpenServo.Link.Server

set_option autoImplicit false

namespace OpenServo.Client

open OpenServo.Protocol OpenServo.Host

inductive Record where
  | info (version : UInt8) (ticksPerUs : UInt32)
  | status (seq : UInt16) (slot id : UInt8) (inst : Inst) (payload : List UInt8)
  | terminal (seq : UInt16) (outcome : Outcome) (tick : UInt32) (statuses : UInt8) (garble : UInt16) (trailing : Bool)
  | rejected (seq : UInt16) (reason : UInt8)
  | bootloaderAck
  | railsAck (state : UInt8)
  | wireDone (seq : UInt16) (tick : UInt32)
  | edges (overflow : Bool) (now : UInt32) (falls rises : List UInt16)
  | captureAck
  | unknown (rtype : UInt8)
deriving DecidableEq

inductive LinkError where
  | malformed

def field (body : List UInt8) (start stop : Nat) : Except LinkError (List UInt8) :=
  if stop ≤ body.length then .ok (body.extract start stop) else .error .malformed

def byteAt (body : List UInt8) (index : Nat) : Except LinkError UInt8 :=
  match body[index]? with
  | some byte => .ok byte
  | none => .error .malformed

def u16At (body : List UInt8) (start : Nat) : Except LinkError UInt16 := do
  let bytes ← field body start (start + 2)
  return u16FromLe (bytes.getD 0 0) (bytes.getD 1 0)

def u32At (body : List UInt8) (start : Nat) : Except LinkError UInt32 := do
  let bytes ← field body start (start + 4)
  return Link.u32FromLe (bytes.getD 0 0) (bytes.getD 1 0) (bytes.getD 2 0) (bytes.getD 3 0)

def outcomeAt (body : List UInt8) : Except LinkError Outcome := do
  let code ← byteAt body 3
  if code = Link.outcomeSent then return .sent
  else if code = Link.outcomeComplete then return .complete
  else if code = Link.outcomeTimeout then
    let slot ← byteAt body 4
    return .timeout slot
  else throw .malformed

def decodeTerminal (body : List UInt8) : Except LinkError Record := do
  let outcome ← outcomeAt body
  let seq ← u16At body 1
  let tick ← u32At body 5
  let statuses ← byteAt body 9
  let garble ← u16At body 10
  let flags ← byteAt body 12
  return .terminal seq outcome tick statuses garble (flags &&& Link.flagGarbleAfterLastFrame ≠ 0)

def decodeEdges (body : List UInt8) : Except LinkError Record := do
  let fallN ← byteAt body 6
  let riseN ← byteAt body 7
  let ticks ← field body 8 (8 + 2 * (fallN.toNat + riseN.toNat))
  let tick := fun i : Nat => u16FromLe (ticks.getD (2 * i) 0) (ticks.getD (2 * i + 1) 0)
  let now ← u32At body 2
  return .edges (body.getD 1 0 &&& 1 ≠ 0) now ((List.range fallN.toNat).map tick)
    ((List.range riseN.toNat).map fun i => tick (fallN.toNat + i))

/-- A body that gets here has a type. -/
def decode (body : List UInt8) : Except LinkError Record :=
  let rtype := body.getD 0 0
  if rtype = Link.recInfo then do
    let version ← byteAt body 1
    let ticksPerUs ← u32At body 2
    return .info version ticksPerUs
  else if rtype = Link.recStatus then do
    let seq ← u16At body 1
    let slot ← byteAt body 3
    let id ← byteAt body 4
    let inst ← byteAt body 5
    return .status seq slot id inst (body.drop 6)
  else if rtype = Link.recTerminal then decodeTerminal body
  else if rtype = Link.recRejected then do
    let seq ← u16At body 1
    let reason ← byteAt body 3
    return .rejected seq reason
  else if rtype = Link.recBootloaderAck then return .bootloaderAck
  else if rtype = Link.recRailsAck then do
    let state ← byteAt body 1
    return .railsAck state
  else if rtype = Link.recWireDone then do
    let seq ← u16At body 1
    let tick ← u32At body 3
    return .wireDone seq tick
  else if rtype = Link.recEdges then decodeEdges body
  else if rtype = Link.recCaptureAck then return .captureAck
  else if rtype = Link.recUnknown then do
    let rtype ← byteAt body 1
    return .unknown rtype
  else throw .malformed

structure Session where
  rx : List UInt8 := []
  nextSeq : UInt16 := 0

def frame (out body : List UInt8) : List UInt8 :=
  out ++ (u16ToLe (UInt16.ofNat body.length) ++ body)

def encodeHello (out : List UInt8) : List UInt8 :=
  frame out [Link.recHello]

def encodeEnterBootloader (out : List UInt8) : List UInt8 :=
  frame out [Link.recEnterBootloader]

def encodeSetRails (out : List UInt8) (state mask : UInt8) : List UInt8 :=
  frame out [Link.recSetRails, state, mask]

def encodeEdgeDrain (out : List UInt8) (max : UInt8) : List UInt8 :=
  frame out [Link.recEdgeDrain, max]

def encodeCaptureReset (out : List UInt8) : List UInt8 :=
  frame out [Link.recCaptureReset]

def verbed : Command → List UInt8
  | .exchange id inst payload => [Link.verbExchange, id, inst] ++ payload
  | .rescue => [Link.verbRescue]
  | .hostBaud rate => [Link.verbHostBaud, rate.asIdx]
  | .setResponseDeadline us => [Link.verbSetResponseDeadline] ++ u16ToLe us

namespace Session

def allocSeq (session : Session) : UInt16 × Session :=
  let next := session.nextSeq + 1
  (session.nextSeq, { session with nextSeq := if next = Link.seqNone then 0 else next })

def encodeSubmit (session : Session) (out : List UInt8) (cmd : Command) : UInt16 × Session × List UInt8 :=
  let (seq, session) := session.allocSeq
  (seq, session, frame out ([Link.recSubmit] ++ u16ToLe seq ++ verbed cmd))

def encodeWireOp (session : Session) (out : List UInt8) (rtype : UInt8) (body : List UInt8) :
    UInt16 × Session × List UInt8 :=
  let (seq, session) := session.allocSeq
  (seq, session, frame out ([rtype] ++ u16ToLe seq ++ body))

def encodeWireSend (session : Session) (out bytes : List UInt8) : UInt16 × Session × List UInt8 :=
  session.encodeWireOp out Link.recWireSend bytes

def encodeWireBurst (session : Session) (out stream : List UInt8) : UInt16 × Session × List UInt8 :=
  session.encodeWireOp out Link.recWireBurst stream

def encodeWirePulse (session : Session) (out : List UInt8) (us : UInt16) : UInt16 × Session × List UInt8 :=
  session.encodeWireOp out Link.recWirePulse (u16ToLe us)

def encodeWireTrain (session : Session) (out announce : List UInt8) (gapUs : UInt16) (breaks : UInt8) :
    UInt16 × Session × List UInt8 :=
  session.encodeWireOp out Link.recWireTrain (u16ToLe gapUs ++ [breaks] ++ announce)

def encodeWireBaud (session : Session) (out : List UInt8) (bps : UInt32) : UInt16 × Session × List UInt8 :=
  session.encodeWireOp out Link.recWireBaud (Link.u32ToLe bps)

def onBytes (session : Session) (chunk : List UInt8) : Session :=
  { session with rx := session.rx ++ chunk }

def nextRecord (session : Session) : Except LinkError (Option Record × Session) :=
  if session.rx.length < 2 then .ok (none, session)
  else
    let len := (u16FromLe (session.rx.getD 0 0) (session.rx.getD 1 0)).toNat
    if len = 0 then .error .malformed
    else if session.rx.length < 2 + len then .ok (none, session)
    else do
      let record ← decode ((session.rx.drop 2).take len)
      return (some record, { session with rx := session.rx.drop (2 + len) })

end Session

inductive Ask where
  | hello
  | enterBootloader
  | setRails (state mask : UInt8)
  | edgeDrain (max : UInt8)
  | captureReset
  | submit (cmd : Command)
  | wire (op : Link.WireOp)

def Ask.encode (session : Session) (out : List UInt8) : Ask → Session × List UInt8
  | .hello => (session, encodeHello out)
  | .enterBootloader => (session, encodeEnterBootloader out)
  | .setRails state mask => (session, encodeSetRails out state mask)
  | .edgeDrain max => (session, encodeEdgeDrain out max)
  | .captureReset => (session, encodeCaptureReset out)
  | .submit cmd => (session.encodeSubmit out cmd).2
  | .wire (.send bytes) => (session.encodeWireSend out bytes).2
  | .wire (.burst stream) => (session.encodeWireBurst out stream).2
  | .wire (.pulse us) => (session.encodeWirePulse out us).2
  | .wire (.train announce gapUs breaks) => (session.encodeWireTrain out announce gapUs breaks).2
  | .wire (.baud bps) => (session.encodeWireBaud out bps).2

def Ask.seqs (session : Session) : Ask → List UInt16
  | .submit _ | .wire _ => [session.allocSeq.1]
  | .hello | .enterBootloader | .setRails _ _ | .edgeDrain _ | .captureReset => []

/-- The runs of a session: the bytes that have come in, the records handed out, and the sequence numbers taken. -/
inductive Talks : List UInt8 → List Record → List UInt16 → Session → Prop where
  | new : Talks [] [] [] {}
  | bytes {fed : List UInt8} {heard : List Record} {seqs : List UInt16} {session : Session}
    (before : Talks fed heard seqs session) (chunk : List UInt8) :
      Talks (fed ++ chunk) heard seqs (session.onBytes chunk)
  | next {fed : List UInt8} {heard : List Record} {seqs : List UInt16} {session after : Session}
    {record : Option Record} (before : Talks fed heard seqs session)
    (popped : session.nextRecord = .ok (record, after)) :
      Talks fed (heard ++ record.toList) seqs after
  | ask {fed : List UInt8} {heard : List Record} {seqs : List UInt16} {session : Session}
    (before : Talks fed heard seqs session) (out : List UInt8) (ask : Ask) :
      Talks fed heard (seqs ++ ask.seqs session) (ask.encode session out).1

end OpenServo.Client
