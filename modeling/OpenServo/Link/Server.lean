import OpenServo.Host.Engine
import OpenServo.Link.Record

set_option autoImplicit false

namespace OpenServo.Link

open OpenServo.Protocol OpenServo.Host

def rxCap : Nat := 512

inductive AdapterRequest where
  | enterBootloader
  | setRails (v3v3 v5 : Bool)
deriving DecidableEq

/-- The server is the only one that drives the rails. -/
structure AdapterState where
  req : Option AdapterRequest := none
  rails : UInt8 := railsBootState

/-- `rx` is the filled front of the receive buffer. -/
structure LinkServer where
  rx : List UInt8 := []
  active : Option UInt16 := none
  wireActive : Option UInt16 := none
  adapter : AdapterState := {}

inductive WireOp where
  | send (bytes : List UInt8)
  | burst (stream : List UInt8)
  | pulse (us : UInt16)
  | train (announce : List UInt8) (gapUs : UInt16) (breaks : UInt8)
  | baud (bps : UInt32)
deriving DecidableEq

def WireOp.run (bus : HostBus) (clock : Nat → UInt32) : WireOp → HostBus × Except SubmitError Unit
  | .send bytes => bus.wireSend bytes
  | .burst stream => bus.wireBurst stream
  | .pulse us => bus.wirePulseLow us clock
  | .train announce gapUs breaks => bus.wireTrain announce gapUs breaks
  | .baud bps => bus.wireBaud bps clock

inductive Request where
  | hello
  | enterBootloader
  | setRails (state : UInt8) (mask : Option UInt8)
  | wire (seq : UInt16) (op : WireOp)
  | edgeDrain (max : UInt8)
  | captureReset
  | submit (seq : UInt16) (cmd : Command)
  | malformed (seq : UInt16)
  | unknown (rtype : UInt8)

namespace Request

def ofWire (rtype : UInt8) (seq : UInt16) (body : List UInt8) : Request :=
  if rtype = recWireSend then .wire seq (.send body)
  else if rtype = recWireBurst then .wire seq (.burst body)
  else if rtype = recWirePulse then
    match body with
    | [low, high] => .wire seq (.pulse (u16FromLe low high))
    | _ => .malformed seq
  else if rtype = recWireTrain then
    match body with
    | low :: high :: breaks :: first :: rest =>
      .wire seq (.train (first :: rest) (u16FromLe low high) breaks)
    | _ => .malformed seq
  else
    match body with
    | [a, b, c, d] => .wire seq (.baud (u32FromLe a b c d))
    | _ => .malformed seq

def ofSubmit (seq : UInt16) (verb : UInt8) (args : List UInt8) : Request :=
  if verb = verbExchange then
    match args with
    | id :: inst :: payload => .submit seq (.exchange id inst payload)
    | _ => .malformed seq
  else if verb = verbRescue ∧ args = [] then .submit seq .rescue
  else if verb = verbHostBaud ∧ args.length = 1 then
    match BaudRate.fromIdx (args.getD 0 0) with
    | some rate => .submit seq (.hostBaud rate)
    | none => .malformed seq
  else if verb = verbSetResponseDeadline ∧ args.length = 2 then
    .submit seq (.setResponseDeadline (u16FromLe (args.getD 0 0) (args.getD 1 0)))
  else .malformed seq

def isWire (rtype : UInt8) : Bool :=
  rtype ∈ [recWireSend, recWireBurst, recWirePulse, recWireTrain, recWireBaud]

def ofBody (rtype : UInt8) (body : List UInt8) : Request :=
  if rtype = recHello then .hello
  else if rtype = recEnterBootloader then .enterBootloader
  else if rtype = recSetRails ∧ 1 ≤ body.length then .setRails (body.getD 0 0) body[1]?
  else if isWire rtype then
    if body.length < 2 then .unknown rtype
    else ofWire rtype (u16FromLe (body.getD 0 0) (body.getD 1 0)) (body.drop 2)
  else if rtype = recEdgeDrain ∧ 1 ≤ body.length then .edgeDrain (body.getD 0 0)
  else if rtype = recCaptureReset then .captureReset
  else if rtype = recSubmit then
    if body.length < 3 then .unknown rtype
    else ofSubmit (u16FromLe (body.getD 0 0) (body.getD 1 0)) (body.getD 2 0) (body.drop 3)
  else .unknown rtype

def ofRecord : List UInt8 → Request
  | rtype :: body => ofBody rtype body
  | [] => .unknown 0

end Request

structure Reads where
  io : Io
  rises : List UInt16
  falls : List UInt16
  overflow : Bool

inductive Owner where
  | command
  | wire
deriving DecidableEq

/-- What the server has done. That the engine took a request is not on the pipe. -/
inductive Entry where
  | handled (rec : List UInt8)
  | took (owner : Owner) (seq : UInt16)
  | out (reply : Reply)
  | dropped

structure Adapter where
  server : LinkServer := {}
  bus : HostBus
  log : List Entry := []

def fresh : Adapter :=
  { bus := .new 48 .b1000000 }

def still (_ : Nat) : Reads :=
  ⟨⟨fun _ => 0, [], ⟨[], 0⟩⟩, [], [], false⟩

def Entry.record : Entry → Option (List UInt8)
  | .handled rec => some rec
  | .took _ _ | .out _ | .dropped => none

def Entry.reply : Entry → Option Reply
  | .out reply => some reply
  | .handled _ | .took _ _ | .dropped => none

namespace Adapter

def records (link : Adapter) : List (List UInt8) :=
  link.log.filterMap Entry.record

def note (link : Adapter) (entry : Entry) : Adapter :=
  { link with log := link.log ++ [entry] }

def out (link : Adapter) (reply : Reply) : Adapter :=
  link.note (.out reply)

def setRails (link : Adapter) (state : UInt8) (mask : Option UInt8) : Adapter :=
  let mask := mask.getD 0b11 &&& 0b11
  let rails := (link.server.adapter.rails &&& ~~~mask) ||| (state &&& mask)
  let req :=
    if mask ≠ 0 then some (AdapterRequest.setRails (rails &&& 1 ≠ 0) (rails &&& 2 ≠ 0))
    else link.server.adapter.req
  ({ link with server.adapter := ⟨req, rails⟩ } : Adapter).out (.railsAck rails)

def wire (link : Adapter) (seq : UInt16) (op : WireOp) (io : Io) : Adapter :=
  let (bus, result) := op.run link.bus io.clock
  let link := { link with bus }
  match result with
  | .ok () => ({ link with server.wireActive := some seq } : Adapter).note (.took .wire seq)
  | .error .busy => link.out (.rejected seq reasonBusy)
  | .error (.invalid _) => link.out (.rejected seq reasonMalformed)

def submit (link : Adapter) (seq : UInt16) (cmd : Command) (io : Io) : Adapter :=
  let (bus, result) := link.bus.submit cmd io
  let link := { link with bus }
  match result with
  | .ok () => ({ link with server.active := some seq } : Adapter).note (.took .command seq)
  | .error .busy => link.out (.rejected seq reasonBusy)
  | .error (.invalid reason) => link.out (.rejected seq (reasonCode reason))

def handle (link : Adapter) (reads : Reads) (rec : List UInt8) : Adapter :=
  let link := link.note (.handled rec)
  match Request.ofRecord rec with
  | .hello => link.out (.info link.bus.ticksPerUs)
  | .enterBootloader => ({ link with server.adapter.req := some .enterBootloader } : Adapter).out .bootloaderAck
  | .setRails state mask => link.setRails state mask
  | .wire seq op => link.wire seq op reads.io
  | .edgeDrain max =>
    let max := min max.toNat drainMax
    link.out (.edges reads.overflow (reads.io.clock 0) (reads.falls.take max) (reads.rises.take max))
  | .captureReset => link.out .captureAck
  | .submit seq cmd => link.submit seq cmd reads.io
  | .malformed seq => link.out (.rejected seq reasonMalformed)
  | .unknown rtype => link.out (.unknown rtype)

/-- A length that no record has leaves no place to go on from. -/
def drop (link : Adapter) : Adapter :=
  (({ link with server.rx := [] } : Adapter).note .dropped).out (.unknown 0xFF)

def extract (reads : Nat → Reads) (link : Adapter) : Adapter :=
  if link.server.rx.length < 2 then link
  else
    let len := (u16FromLe (link.server.rx.getD 0 0) (link.server.rx.getD 1 0)).toNat
    if len = 0 ∨ rxCap - 2 < len then link.drop
    else if link.server.rx.length < 2 + len then link
    else
      let handled := link.handle (reads link.records.length) ((link.server.rx.drop 2).take len)
      extract reads { handled with server.rx := link.server.rx.drop (2 + len) }
termination_by link.server.rx.length
decreasing_by
  simp only [List.length_drop]
  omega

def onPipe (reads : Nat → Reads) (link : Adapter) (bytes : List UInt8) : Adapter :=
  if bytes = [] then link
  else
    let take := min (rxCap - link.server.rx.length) bytes.length
    let filled := extract reads { link with server.rx := link.server.rx ++ bytes.take take }
    -- A full buffer that holds no record.
    if take = 0 then onPipe reads filled.drop bytes
    else onPipe reads filled (bytes.drop take)
termination_by 2 * bytes.length + if rxCap ≤ link.server.rx.length then 1 else 0
decreasing_by
  next some none =>
    have full : rxCap ≤ link.server.rx.length := by
      have positive := List.length_pos_iff.mpr some
      omega
    rw [if_pos full, if_neg (by simp [drop, note, out, rxCap])]
    omega
  next some more =>
    rw [List.length_drop]
    split <;> split <;> omega

def tell (link : Adapter) : Event → Adapter
  | .status slot id inst payload =>
    link.out (.status (link.server.active.getD seqNone) slot id inst payload)
  | .done t =>
    ({ link with server.active := none } : Adapter).out (.terminal (link.server.active.getD seqNone) t)
  | .wireDone tick =>
    ({ link with server.wireActive := none } : Adapter).out (.wireDone (link.server.wireActive.getD seqNone) tick)

/-- Until the engine has no more to say. A call that runs out of readings is not back yet. -/
def pump : List Io → Adapter → Option Adapter
  | [], _ => none
  | io :: ios, link =>
    match link.bus.poll io with
    | none => none
    | some (bus, none) => some { link with bus }
    | some (bus, some event) => pump ios (({ link with bus } : Adapter).tell event)

def takeAdapterRequest (link : Adapter) : Adapter × Option AdapterRequest :=
  ({ link with server.adapter.req := none }, link.server.adapter.req)

end Adapter

inductive Act where
  | pipe (reads : Nat → Reads) (bytes : List UInt8)
  | pump (ios : List Io)
  | takeAdapterRequest
  | onTxComplete (io : Io)
  | onDeadline (io : Io)

def Adapter.act (link : Adapter) : Act → Option Adapter
  | .pipe reads bytes => some (link.onPipe reads bytes)
  | .pump ios => link.pump ios
  | .takeAdapterRequest => some link.takeAdapterRequest.1
  | .onTxComplete io => some { link with bus := link.bus.onTxComplete io }
  | .onDeadline io => some { link with bus := link.bus.onDeadline io }

def Act.bytes : Act → List UInt8
  | .pipe _ bytes => bytes
  | .pump _ | .takeAdapterRequest | .onTxComplete _ | .onDeadline _ => []

inductive Served : List UInt8 → Adapter → Prop where
  | new (ticksPerUs : UInt32) (rate : BaudRate) : Served [] { bus := .new ticksPerUs rate }
  | act {fed : List UInt8} {link after : Adapter} {act : Act} (before : Served fed link)
    (acted : link.act act = some after) : Served (fed ++ act.bytes) after

end OpenServo.Link
