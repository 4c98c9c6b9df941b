import OpenServo.Client.Mgmt
import OpenServo.Host.HostBus
import OpenServo.Protocol.RoundTrip

set_option autoImplicit false

namespace OpenServo.Protocol

def Opcode.bits : Opcode → UInt8
  | .ping => 0x1
  | .read => 0x2
  | .write => 0x3
  | .commit => 0x4
  | .gread => 0x5
  | .gwrite => 0x6
  | .mgmt => 0x7

def Inst.flagHold : UInt8 := 0x01

def Inst.flagProfile : UInt8 := 0x01

def Inst.instruction (op : Opcode) (flags : UInt8) : Inst :=
  (op.bits <<< 4) ||| (flags &&& 0x0F)

end OpenServo.Protocol

namespace OpenServo.Client.Cyclic

open OpenServo.Host OpenServo.Protocol OpenServo.Shared

structure Sent where
  id : UInt8
  inst : Inst
  payload : List UInt8
deriving DecidableEq

structure Status where
  slot : UInt8
  id : UInt8
  result : Option ResultCode
  alert : Bool
  payload : List UInt8

structure Reply where
  statuses : List Status
  outcome : Outcome

structure Chain where
  statuses : List Status
  timeoutSlot : Option UInt8

/-- How an exchange ends. A refusal leaves the wire alone; a pipe that dies may have delivered the command. -/
inductive Answer where
  | reply (reply : Reply)
  | error (e : Error) (onWire : Bool)

/-- What comes back may depend on everything that went out before. -/
abbrev Adapter : Type :=
  List Sent → Sent → Answer

/-- The frames on the wire so far are the state, and survive an error. -/
abbrev Act (A : Type) : Type :=
  ExceptT Error (StateM (List Sent)) A

structure Group where
  addr : UInt16
  count : UInt8
  ids : List UInt8

inductive Telemetry where
  | span (ids : List UInt8) (addr count : UInt16)
  | profile (ids : List UInt8) (slot : UInt8)

structure Cycle where
  groups : List Group
  telemetry : Telemetry

def chainDigest (reply : Reply) : Chain where
  statuses := reply.statuses
  timeoutSlot :=
    match reply.outcome with
    | .timeout slot => some slot
    | _ => none

namespace Adapter

variable (adapter : Adapter)

def exchange (id : UInt8) (inst : Inst) (payload : List UInt8) : Act Reply := fun sent =>
  let frame : Sent := ⟨id, inst, payload⟩
  match adapter sent frame with
  | .reply reply => (.ok reply, sent ++ [frame])
  | .error e onWire => (.error e, if onWire then sent ++ [frame] else sent)

def built (payload : Build.Built) (inst : Inst) : Act Reply :=
  match payload with
  | none => throw (.servo .limit)
  | some (n, p) => adapter.exchange broadcast inst (p.take n)

def gread (ids : List UInt8) (addr count : UInt16) : Act Chain := do
  let payload := Build.greadUniform (List.replicate (ids.length + 8) 0) addr count ids
  return chainDigest (← adapter.built payload (Inst.instruction .gread 0))

def greadProfile (ids : List UInt8) (slot : UInt8) : Act Chain := do
  let payload := Build.greadProfileUniform (List.replicate (ids.length + 4) 0) slot ids
  return chainDigest (← adapter.built payload (Inst.instruction .gread Inst.flagProfile))

def gwriteFlags (addr : UInt16) (count : UInt8) (pairs : List (UInt8 × List UInt8)) (flags : UInt8) : Act Unit := do
  let payload := Build.gwriteUniform (List.replicate (4 + pairs.length * (1 + count.toNat)) 0) addr count pairs
  let _ ← adapter.built payload (Inst.instruction .gwrite flags)

def gwriteHold (addr : UInt16) (count : UInt8) (pairs : List (UInt8 × List UInt8)) : Act Unit :=
  adapter.gwriteFlags addr count pairs Inst.flagHold

def commit : Act Unit := do
  let _ ← adapter.exchange broadcast (Inst.instruction .commit 0) []

end Adapter

namespace Cycle

variable (cycle : Cycle)

def payloadSlots : Nat :=
  cycle.groups.foldl (fun slots g => slots + g.ids.length) 0

def sendGroups (adapter : Adapter) : List Group → List (List UInt8) → Act Unit
  | [], _ => return ()
  | g :: groups, next => do
    let batch := next.take g.ids.length
    if batch.any fun d => d.length != g.count.toNat then throw (.servo .range)
    adapter.gwriteHold g.addr g.count (g.ids.zip batch)
    sendGroups adapter groups (next.drop g.ids.length)

def readBack (adapter : Adapter) : Telemetry → Act Chain
  | .span ids addr count => adapter.gread ids addr count
  | .profile ids slot => adapter.greadProfile ids slot

def step (adapter : Adapter) (payloads : List (List UInt8)) : Act Chain := do
  if payloads.length ≠ cycle.payloadSlots then throw (.servo .range)
  sendGroups adapter cycle.groups payloads
  adapter.commit
  readBack adapter cycle.telemetry

end Cycle

abbrev Batch : Type :=
  Group × List (UInt8 × List UInt8)

def batches : List Group → List (List UInt8) → List Batch
  | [], _ => []
  | g :: groups, next => (g, g.ids.zip (next.take g.ids.length)) :: batches groups (next.drop g.ids.length)

def Batch.args (batch : Batch) : UInt16 × UInt8 × List (UInt8 × List UInt8) :=
  (batch.1.addr, batch.1.count, batch.2)

inductive Command where
  | hold (batch : Batch)
  | commit
  | read (telemetry : Telemetry)

namespace Command

def frame : Command → Sent
  | hold batch => ⟨broadcast, Inst.instruction .gwrite Inst.flagHold, gwriteUniformFormat.encode batch.args⟩
  | commit => ⟨broadcast, Inst.instruction .commit 0, []⟩
  | read (.span ids addr count) =>
    ⟨broadcast, Inst.instruction .gread 0, greadUniformFormat.encode (addr, count, ids)⟩
  | read (.profile ids slot) =>
    ⟨broadcast, Inst.instruction .gread Inst.flagProfile, greadProfileUniformFormat.encode (slot, ids)⟩

def Valid : Command → Prop
  | hold batch => gwriteUniformFormat.valid batch.args
  | commit => True
  | read (.span ids addr count) => greadUniformFormat.valid (addr, count, ids)
  | read (.profile ids slot) => greadProfileUniformFormat.valid (slot, ids)

structure Fits (command : Command) : Prop where
  valid : command.Valid
  small : command.frame.payload.length ≤ maxPayload

end Command

def plan (cycle : Cycle) (payloads : List (List UInt8)) : List Command :=
  (batches cycle.groups payloads).map .hold ++ [.commit, .read cycle.telemetry]

/-- What goes out, whatever the adapter answers: a front of the commands, and all of them if the call succeeds. -/
structure Out {A : Type} (commands gone : List Command) (sent : List Sent) (ended : Except Error A × List Sent) : Prop where
  front : gone <+: commands
  fits : ∀ command ∈ gone, command.Fits
  wire : ended.2 = sent ++ gone.map Command.frame
  whole : ∀ a, ended.1 = .ok a → gone = commands

def Sends {A : Type} (act : Act A) (commands : List Command) : Prop :=
  ∀ sent, ∃ gone, Out commands gone sent (act sent)

section Acts

variable {A B : Type}

theorem bind_eq (act : Act A) (next : A → Act B) (sent : List Sent) :
    (act >>= next) sent =
      match act sent with
      | (.ok a, sent) => next a sent
      | (.error e, sent) => (.error e, sent) := by
  show (ExceptT.bindCont next (act sent).1) (act sent).2 = _
  obtain ⟨result, after⟩ := act sent
  cases result <;> rfl

theorem pure_sends (a : A) : Sends (pure a : Act A) [] :=
  fun sent => ⟨[], List.nil_prefix, by simp, (List.append_nil sent).symm, fun _ _ => rfl⟩

theorem Sends.bind {act : Act A} {next : A → Act B} {front back : List Command} (first : Sends act front)
    (second : ∀ a, Sends (next a) back) : Sends (act >>= next) (front ++ back) := by
  intro sent
  obtain ⟨gone, out⟩ := first sent
  rw [bind_eq]
  generalize act sent = ended at out
  obtain ⟨result, after⟩ := ended
  cases result with
  | error e => exact ⟨gone, out.front.trans (List.prefix_append front back), out.fits, out.wire, fun _ no => by cases no⟩
  | ok a =>
    obtain rfl := out.whole a rfl
    obtain ⟨more, rest⟩ := second a after
    refine ⟨gone ++ more, (List.prefix_append_right_inj gone).mpr rest.front, ?_, ?_, ?_⟩
    next =>
      intro command member
      rcases List.mem_append.mp member with early | late
      next => exact out.fits command early
      next => exact rest.fits command late
    next =>
      have wire : after = sent ++ gone.map Command.frame := out.wire
      show (next a after).2 = _
      rw [rest.wire, wire, List.map_append, List.append_assoc]
    next => exact fun b done => congrArg (gone ++ ·) (rest.whole b done)

theorem Sends.map {act : Act A} {commands : List Command} (sends : Sends act commands) (f : A → B) :
    Sends (do return f (← act)) commands := by
  have both := sends.bind fun a => pure_sends (f a)
  rwa [List.append_nil] at both

end Acts

section Step

variable (adapter : Adapter)

end Step

end OpenServo.Client.Cyclic
