import OpenServo.Bus.ServoBus

set_option autoImplicit false

namespace OpenServo.Bus

open OpenServo.Core OpenServo.Protocol

structure Untouched (before after : ServoBus) : Prop where
  framer : after.framer = before.framer
  chain : after.chain = before.chain
  acc : after.crc.acc = before.crc.acc
  rate : after.rate = before.rate
  tpb : after.tpb = before.tpb
  uart : after.uart = before.uart
  ticksPerUs : after.ticksPerUs = before.ticksPerUs
  pending : after.pending = before.pending
  framerAt : after.framerAt = before.framerAt
  chainAt : after.chainAt = before.chainAt
  reads : after.reads = before.reads
  trace : after.trace = before.trace
  ghostTriggers : after.tx.ghostTriggers = before.tx.ghostTriggers
  wire : after.tx.wire = before.tx.wire

theorem Untouched.refl (bus : ServoBus) : Untouched bus bus :=
  ⟨rfl, rfl, rfl, rfl, rfl, rfl, rfl, rfl, rfl, rfl, rfl, rfl, rfl, rfl⟩

theorem Untouched.trans {first second third : ServoBus} (before : Untouched first second)
    (after : Untouched second third) : Untouched first third :=
  ⟨after.framer.trans before.framer, after.chain.trans before.chain, after.acc.trans before.acc,
    after.rate.trans before.rate, after.tpb.trans before.tpb, after.uart.trans before.uart,
    after.ticksPerUs.trans before.ticksPerUs, after.pending.trans before.pending,
    after.framerAt.trans before.framerAt, after.chainAt.trans before.chainAt,
    after.reads.trans before.reads, after.trace.trans before.trace,
    after.ghostTriggers.trans before.ghostTriggers, after.wire.trans before.wire⟩

def sends : Call → Bool
  | .sendStatus .. | .sendStatusGather .. => true
  | _ => false

namespace ReplyHandle

@[simp] theorem markCollisionTolerant_staged (tx : TxEngine) (key : UInt8) :
    (tx.markCollisionTolerant key).staged = tx.staged := by
  simp only [TxEngine.markCollisionTolerant]
  split
  next _ state => simp [TxEngine.staged, state]
  next => rfl

@[simp] theorem markCollisionTolerant_ghostTriggers (tx : TxEngine) (key : UInt8) :
    (tx.markCollisionTolerant key).ghostTriggers = tx.ghostTriggers := by
  simp only [TxEngine.markCollisionTolerant]
  split <;> rfl

@[simp] theorem markCollisionTolerant_wire (tx : TxEngine) (key : UInt8) :
    (tx.markCollisionTolerant key).wire = tx.wire := by
  simp only [TxEngine.markCollisionTolerant]
  split <;> rfl

/-- A frame in the engine is the one this handle staged. -/
def Sound (handle : ReplyHandle) : Prop :=
  handle.bus.tx.staged = handle.staged

theorem stage_spec (handle : ReplyHandle) (result : ResultCode) (alert : Bool) (spans : List (List UInt8)) :
    Untouched handle.bus (handle.stage result alert spans).bus ∧
      (handle.Sound → (handle.stage result alert spans).Sound) := by
  rcases TxEngine.stageGather_cases handle.bus.tx handle.bus.crc handle.bus.id result alert spans with
    ⟨e, refused⟩ | ⟨idle, tx, engine, staged, state, ghosts, wire, acc⟩
  next =>
    simp only [stage, refused]
    exact ⟨.refl _, id⟩
  next =>
    simp only [stage, staged, Sound]
    have here : tx.staged = true := by simp [TxEngine.staged, state]
    refine ⟨⟨rfl, rfl, acc, rfl, rfl, rfl, rfl, rfl, rfl, rfl, rfl, rfl, ?_, ?_⟩, fun _ => ?_⟩
    next => split <;> simp [ghosts]
    next => split <;> simp [wire]
    next => split <;> simp [here]

theorem call_spec (handle : ReplyHandle) (call : Call) :
    Untouched handle.bus (handle.call call).bus ∧ (handle.Sound → (handle.call call).Sound) := by
  cases call with
  | sendStatus result alert data => exact stage_spec handle result alert [data]
  | sendStatusGather result alert spans => exact stage_spec handle result alert spans
  | stageId | setId | stageBaud | setResponseDeadline | stageReboot | beginClockCal =>
    exact ⟨⟨rfl, rfl, rfl, rfl, rfl, rfl, rfl, rfl, rfl, rfl, rfl, rfl, rfl, rfl⟩, id⟩
  | save | wipe => exact ⟨.refl _, id⟩

theorem foldl_call_spec (calls : List Call) (handle : ReplyHandle) :
    Untouched handle.bus (calls.foldl call handle).bus ∧
      (handle.Sound → (calls.foldl call handle).Sound) := by
  induction calls generalizing handle with
  | nil => exact ⟨.refl _, id⟩
  | cons call calls ih =>
    obtain ⟨first, sound⟩ := call_spec handle call
    obtain ⟨rest, later⟩ := ih (handle.call call)
    exact ⟨first.trans rest, fun before => later (sound before)⟩

theorem foldl_call_tx (calls : List Call) (handle : ReplyHandle) (mute : ∀ call ∈ calls, sends call = false) :
    (calls.foldl call handle).bus.tx = handle.bus.tx := by
  induction calls generalizing handle with
  | nil => rfl
  | cons call calls ih =>
    rw [List.foldl_cons, ih _ (fun c member => mute c (List.mem_cons_of_mem call member))]
    have silent := mute call List.mem_cons_self
    cases call <;> first | rfl | simp [sends] at silent

end ReplyHandle

theorem sends_dispatchEvents (table : ControlTable) (addr len : Nat) :
    ∀ call ∈ dispatchEvents table addr len, sends call = false := by
  intro call member
  simp only [dispatchEvents, List.mem_append] at member
  rcases member with (id | baud) | deadline
  next => split at id <;> simp_all [sends]
  next =>
    split at baud
    next => split at baud <;> simp_all [sends]
    next => cases baud
  next => split at deadline <;> simp_all [sends]

theorem sends_commit (session : Session) : ∀ call ∈ (commit session).2, sends call = false := by
  intro call member
  simp only [commit] at member
  split at member
  next => cases member
  next =>
    split at member
    next => cases member
    next => exact sends_dispatchEvents _ _ _ call member

namespace Servo

theorem commitTable_spec (servo : Servo) :
    Untouched servo.bus servo.commitTable.bus ∧ servo.commitTable.bus.tx = servo.bus.tx := by
  constructor
  next =>
    exact (ReplyHandle.foldl_call_spec (commit servo.session).2 { bus := servo.bus }).1
  next =>
    exact ReplyHandle.foldl_call_tx (commit servo.session).2 { bus := servo.bus } (sends_commit servo.session)

theorem settleTable_spec (servo : Servo) (table : Bool) :
    Untouched servo.bus (servo.settleTable table).bus ∧ (servo.settleTable table).bus.tx = servo.bus.tx := by
  unfold settleTable
  split
  next => exact commitTable_spec servo
  next => exact ⟨.refl _, rfl⟩

structure Dispatches (servo : Servo) (wake : Wake) (anchor footprint : Nat) (after : Servo)
    (staged : Bool) (slot : UInt8) (out : Dispatched) (origin : Origin) (req : Request) (mayReply : Bool)
    (handle : ReplyHandle) : Prop where
  decoded : decode (frameView wake.ring anchor footprint) servo.bus.id = .own req mayReply slot
  recorded : origin =
    ⟨anchor, footprint, frameView wake.ring anchor footprint, servo.bus.id, wake.store servo.bus.reads,
      servo.bus.crc.acc⟩
  session : after.session = (dispatch servo.session (wake.store servo.bus.reads) req mayReply).1
  returned : out = (dispatch servo.session (wake.store servo.bus.reads) req mayReply).2.2
  called : handle =
    (dispatch servo.session (wake.store servo.bus.reads) req mayReply).2.1.foldl ReplyHandle.call
      { bus := { servo.bus with reads := servo.bus.reads + 1 }, tolerant := tolerates req }
  told : staged = handle.staged
  bus : after.bus =
    if staged then { handle.bus with trace := { handle.bus.trace with owner := some origin.view } }
    else handle.bus

theorem dispatchDecoded_cases {servo after : Servo} {wake : Wake} {anchor footprint : Nat}
    {staged : Bool} {slot : UInt8} {out : Dispatched} {origin : Origin}
    (dispatched : servo.dispatchDecoded wake anchor footprint = some (after, staged, slot, out, origin)) :
    ∃ req mayReply handle,
      Dispatches servo wake anchor footprint after staged slot out origin req mayReply handle := by
  unfold dispatchDecoded at dispatched
  dsimp only at dispatched
  split at dispatched
  next req mayReply own decoded =>
    obtain ⟨rfl, rfl, rfl, rfl, rfl⟩ : _ ∧ _ ∧ _ ∧ _ ∧ _ := by
      simpa only [Option.some.injEq, Prod.mk.injEq] using dispatched
    exact ⟨req, mayReply, _, decoded, rfl, rfl, rfl, rfl, rfl, rfl⟩
  next => cases dispatched

section Dispatches

variable {servo after : Servo} {wake : Wake} {anchor footprint : Nat} {staged mayReply : Bool}
  {slot : UInt8} {out : Dispatched} {origin : Origin} {req : Request} {handle : ReplyHandle}

theorem Dispatches.untouched
    (dispatches : Dispatches servo wake anchor footprint after staged slot out origin req mayReply handle) :
    Untouched { servo.bus with reads := servo.bus.reads + 1 } handle.bus := by
  rw [dispatches.called]
  exact (ReplyHandle.foldl_call_spec _
    { bus := { servo.bus with reads := servo.bus.reads + 1 }, tolerant := tolerates req }).1

theorem Dispatches.tx_staged
    (dispatches : Dispatches servo wake anchor footprint after staged slot out origin req mayReply handle)
    (empty : servo.bus.tx.staged = false) : after.bus.tx.staged = staged := by
  have sound : handle.Sound := by
    rw [dispatches.called]
    exact (ReplyHandle.foldl_call_spec _ _).2 empty
  rw [dispatches.bus]
  split
  next yes => rw [dispatches.told]; exact sound
  next no => rw [dispatches.told]; exact sound

end Dispatches

end Servo

end OpenServo.Bus
