import OpenServo.Core.Regions

set_option autoImplicit false

namespace OpenServo.Core

open OpenServo.Protocol OpenServo.Shared OpenServo.Table

inductive Request where
  | ping
  | read (addr count : Nat)
  | readProfile (slot : UInt8)
  | write (addr : Nat) (data : FrameBytes) (hold : Bool)
  | commit
  | enumerate (prefixLen : UInt8) (prefixBits : List UInt8)
  | assign (uid : List UInt8) (newId : UInt8)
  | calibrate (gapUs : UInt16) (gaps : UInt8)
  | mgmt (op : MgmtOp) (args : FrameBytes)
  | unsupported
deriving DecidableEq, Repr

/-- The calls the dispatcher makes on the reply surface and the store, in order. Their results
never feed back into it. -/
inductive Call where
  | sendStatus (result : ResultCode) (alert : Bool) (data : List UInt8)
  | sendStatusGather (result : ResultCode) (alert : Bool) (spans : List (List UInt8))
  | stageId (id : UInt8)
  | setId (id : UInt8)
  | stageBaud (baud : BaudRate)
  | setResponseDeadline (us : UInt16)
  | stageReboot (mode : BootMode)
  | beginClockCal (gapUs : UInt16) (gaps : UInt8)
  | save (config profile calib : List UInt8)
  | wipe
deriving DecidableEq, Repr

structure StoreAnswer where
  save : Bool
  wipe : Bool
deriving DecidableEq, Repr

structure PendingWrite where
  snap : Snapshot
  hold : Bool
  addr : Nat
  len : Nat
deriving DecidableEq, Repr

structure Session where
  table : ControlTable
  staged : StagedWrites := {}
  pending : Option PendingWrite := none
  uid : List UInt8

inductive Dispatched where
  | done
  | pending
deriving DecidableEq, Repr

def errorToResult : Error → ResultCode
  | .accessError => .access
  | .validationError _ => .validation
  | _ => .range

namespace Session

variable (s : Session)

def revertDangling : Session :=
  match s.pending with
  | some pending => { s with pending := none, staged := s.staged.revertTo pending.snap }
  | none => s

def alert : Bool :=
  peek s.table Addr.faultFlags != 0

def torqueEnabled : Bool :=
  peek s.table Addr.torqueEnable != 0

def bootMode : BootMode :=
  BootMode.ofByte (peek s.table Addr.bootMode)

end Session

def setDirty (table : ControlTable) : ControlTable :=
  poke table Addr.statusFlags [peek table Addr.statusFlags ||| 0x01]

def clearDirty (table : ControlTable) : ControlTable :=
  poke table Addr.statusFlags [peek table Addr.statusFlags &&& ~~~0x01]

def hitsPersistent (addr len : Nat) : Bool :=
  let stop := min (addr + len) 65535
  addr < configBase + configSize || (addr < profileBase + profileSize && profileBase < stop)

def markDirtyIfPersistent (table : ControlTable) (addr len : Nat) : ControlTable :=
  if hitsPersistent addr len then setDirty table else table

def hookTouched (fieldLo fieldLen addr len : Nat) : Bool :=
  addr < fieldLo + fieldLen && fieldLo < addr + len

def dispatchEvents (table : ControlTable) (addr len : Nat) : List Call :=
  (if hookTouched Addr.id 1 addr len then [.stageId (peek table Addr.id)] else []) ++
  (if hookTouched Addr.baudRateIdx 1 addr len then
    match BaudRate.fromIdx (peek table Addr.baudRateIdx) with
    | some baud => [.stageBaud baud]
    | none => []
  else []) ++
  (if hookTouched Addr.responseDeadlineUs 2 addr len then
    [.setResponseDeadline (u16FromLe (peek table Addr.responseDeadlineUs)
      (peek table (Addr.responseDeadlineUs + 1)))]
  else [])

def ackCode (alert mayReply : Bool) (code : ResultCode) : List Call :=
  if mayReply then [.sendStatus code alert []] else []

def ack (alert mayReply : Bool) (result : Except Error Unit) : List Call :=
  ackCode alert mayReply
    (match result with
      | .ok () => .ok
      | .error e => errorToResult e)

def uidPrefixMatches (uid : List UInt8) (prefixLen : UInt8) (prefixBits : List UInt8) : Bool :=
  let full := (prefixLen / 8).toNat
  let rem := prefixLen % 8
  uid.take full == prefixBits.take full &&
    (rem == 0 || (uid.getD full 0 ^^^ prefixBits.getD full 0) &&& ((1 <<< rem) - 1) == 0)

def ping (s : Session) (mayReply : Bool) : List Call :=
  if mayReply then
    let data :=
      match controlTable.read s.table Addr.modelNumber 3 with
      | .ok data => data
      | .error _ => []
    [.sendStatus .ok s.alert data]
  else []

def read (s : Session) (mayReply : Bool) (addr count : Nat) : List Call :=
  if !mayReply then []
  else if count = 0 then [.sendStatus .range s.alert []]
  else if maxPayload < count then [.sendStatus .limit s.alert []]
  else
    match controlTable.read s.table addr count with
    | .ok data => [.sendStatus .ok s.alert data]
    | .error _ => [.sendStatus .range s.alert []]

def profileSlots : UInt8 := 4

def spansPerSlot : Nat := 8

def slotWords (table : ControlTable) (slot : UInt8) : Option (List UInt16) :=
  if profileSlots ≤ slot then none
  else
    some ((List.range spansPerSlot).map (fun i =>
      let a := profileBase + 2 * (slot.toNat * spansPerSlot + i)
      u16FromLe (peek table a) (peek table (a + 1))))

def spanOf (word : UInt16) : Option (Nat × Nat) :=
  let count := word &&& 0x3F
  if count = 0 then none else some ((word >>> 6).toNat, count.toNat)

def gatherSpans (table : ControlTable) : List UInt16 → Option (List (List UInt8))
  | [] => some []
  | word :: rest =>
    match spanOf word with
    | none => gatherSpans table rest
    | some (addr, count) =>
      match controlTable.read table addr count with
      | .error _ => none
      | .ok data => (gatherSpans table rest).map (data :: ·)

def readProfile (s : Session) (mayReply : Bool) (slot : UInt8) : List Call :=
  if !mayReply then []
  else
    match slotWords s.table slot with
    | none => [.sendStatus .range s.alert []]
    | some words =>
      match gatherSpans s.table words with
      | none => [.sendStatus .range s.alert []]
      | some spans =>
        if spans.isEmpty then [.sendStatus .range s.alert []]
        else if maxPayload < (spans.map List.length).sum then [.sendStatus .limit s.alert []]
        else [.sendStatusGather .ok s.alert spans]

def write (s : Session) (mayReply : Bool) (addr : Nat) (data : FrameBytes) (hold : Bool) :
    Session × List Call × Dispatched :=
  let snap := s.staged.snapshot
  match controlTable.stageSplit s.table addr data.head data.tail s.staged with
  | (staged, .ok ()) =>
    ({ s with staged := staged, pending := some ⟨snap, hold, addr, data.len⟩ },
      ack s.alert mayReply (.ok ()), .pending)
  | (staged, .error .stagingFull) =>
    ({ s with staged := staged }, ackCode s.alert mayReply .busy, .done)
  | (staged, .error e) => ({ s with staged := staged }, ack s.alert mayReply (.error e), .done)

def commitSpans (table : ControlTable) : List (Nat × Nat) → ControlTable × List Call
  | [] => (table, [])
  | (addr, len) :: rest =>
    let table := markDirtyIfPersistent table addr len
    let calls := dispatchEvents table addr len
    let (last, later) := commitSpans table rest
    (last, calls ++ later)

def applyCommit (s : Session) (mayReply : Bool) : Session × List Call :=
  let spans := s.staged.iterAll.map (fun write => (write.1, write.2.length))
  let (table, staged) := controlTable.commitStaged s.table s.staged
  let acks := ack s.alert mayReply (.ok ())
  let (table, events) := commitSpans table spans
  ({ s with table := table, staged := staged }, acks ++ events)

def enumerate (s : Session) (mayReply : Bool) (prefixLen : UInt8) (prefixBits : List UInt8) :
    List Call :=
  if mayReply && uidPrefixMatches s.uid prefixLen prefixBits then [.sendStatus .ok s.alert s.uid]
  else []

def assign (s : Session) (mayReply : Bool) (uid : List UInt8) (newId : UInt8) : Session × List Call :=
  if uid ≠ s.uid then (s, [])
  else if !isUnicast newId then
    (s, ack s.alert mayReply (.error (.validationError .compare)))
  else
    ({ s with table := setDirty (poke s.table Addr.id [newId]) },
      .setId newId :: ack s.alert mayReply (.ok ()))

def saveCall (table : ControlTable) : Call :=
  .save (readBytes table configBase configSize) (readBytes table profileBase profileSize)
    (readBytes table calibBase calibSize)

def save (s : Session) (store : Option StoreAnswer) (mayReply : Bool) : Session × List Call :=
  if s.torqueEnabled then (s, ack s.alert mayReply (.error .accessError))
  else
    match store with
    | none => (s, ackCode s.alert mayReply .hardware)
    | some answer =>
      if answer.save then
        ({ s with table := clearDirty s.table }, saveCall s.table :: ackCode s.alert mayReply .ok)
      else (s, saveCall s.table :: ackCode s.alert mayReply .hardware)

def factory (s : Session) (store : Option StoreAnswer) (mayReply : Bool) : Session × List Call :=
  if s.torqueEnabled then (s, ack s.alert mayReply (.error .accessError))
  else
    match store with
    | none => (s, ackCode s.alert mayReply .hardware)
    | some answer =>
      if answer.wipe then
        (s, .wipe :: ack s.alert mayReply (.ok ()) ++ [.stageReboot s.bootMode])
      else (s, .wipe :: ackCode s.alert mayReply .hardware)

def instructionError (s : Session) (mayReply : Bool) : List Call :=
  ackCode s.alert mayReply .instruction

def mgmt (s : Session) (store : Option StoreAnswer) (mayReply : Bool) : MgmtOp → Session × List Call
  | .save => save s store mayReply
  | .factory => factory s store mayReply
  | .reboot => (s, ack s.alert mayReply (.ok ()) ++ [.stageReboot s.bootMode])
  | .enum | .assign | .cal => (s, instructionError s mayReply)

def dispatch (s : Session) (store : Option StoreAnswer) (req : Request) (mayReply : Bool) :
    Session × List Call × Dispatched :=
  let s := s.revertDangling
  let done (result : Session × List Call) : Session × List Call × Dispatched :=
    (result.1, result.2, .done)
  match req with
  | .ping => done (s, ping s mayReply)
  | .read addr count => done (s, read s mayReply addr count)
  | .readProfile slot => done (s, readProfile s mayReply slot)
  | .write addr data hold => write s mayReply addr data hold
  | .commit => done (applyCommit s mayReply)
  | .enumerate prefixLen prefixBits => done (s, enumerate s mayReply prefixLen prefixBits)
  | .assign uid newId => done (assign s mayReply uid newId)
  | .calibrate gapUs gaps => done (s, [.beginClockCal gapUs gaps])
  | .mgmt op _ => done (mgmt s store mayReply op)
  | .unsupported => done (s, instructionError s mayReply)

/-- Verdict pass: a held write keeps its entries, a plain one lands in the table. -/
def commit (s : Session) : Session × List Call :=
  match s.pending with
  | none => (s, [])
  | some pending =>
    let s := { s with pending := none }
    if pending.hold then (s, [])
    else
      let (table, staged) := controlTable.commitFrom s.table s.staged pending.snap
      let table := markDirtyIfPersistent table pending.addr pending.len
      ({ s with table := table, staged := staged }, dispatchEvents table pending.addr pending.len)

def revert (s : Session) : Session :=
  match s.pending with
  | none => s
  | some pending => { s with pending := none, staged := s.staged.revertTo pending.snap }

end OpenServo.Core
