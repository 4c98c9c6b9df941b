import OpenServo.Link.Server

set_option autoImplicit false

namespace OpenServo.Link

open OpenServo.Protocol OpenServo.Host

def txqCap : Nat := 4096

def pumpHeadroom : Nat := 2048

def packetMax : Nat := 512

structure TxQueue where
  buf : List UInt8 := []

namespace TxQueue

def free (queue : TxQueue) : Nat :=
  txqCap - queue.buf.length

def popInto (queue : TxQueue) (room : Nat) : TxQueue × List UInt8 :=
  ({ buf := queue.buf.drop room }, queue.buf.take room)

/-- A record that the queue has no room for is dropped whole. -/
def record (queue : TxQueue) (rec : List UInt8) : TxQueue :=
  if queue.free < rec.length then queue else { buf := queue.buf ++ rec }

def Room (queue : TxQueue) : List (List UInt8) → Prop
  | [] => True
  | rec :: rest => rec.length ≤ queue.free ∧ (queue.record rec).Room rest

def decideRoom (queue : TxQueue) : (recs : List (List UInt8)) → Decidable (queue.Room recs)
  | [] => .isTrue trivial
  | _ :: rest => @instDecidableAnd _ _ _ (decideRoom _ rest)

instance (queue : TxQueue) (recs : List (List UInt8)) : Decidable (queue.Room recs) :=
  decideRoom queue recs

end TxQueue

def Adapter.news (before after : Adapter) : List (List UInt8) :=
  ((after.log.drop before.log.length).filterMap Entry.reply).map Reply.record

/-- The adapter and its queue. `overrun` is up once a record has found no room. -/
structure Port where
  link : Adapter
  txq : TxQueue := {}
  overrun : Bool := false

inductive Move where
  | act (act : Act)
  | drain (room : Nat)

/-- The calls that the main loop makes behind its gate. -/
def Act.gated : Act → Bool
  | .pipe _ _ | .pump _ => true
  | .takeAdapterRequest | .onTxComplete _ | .onDeadline _ => false

def Port.move (port : Port) : Move → Option Port
  | .act act =>
    if act.gated ∧ port.txq.free < pumpHeadroom ∨ packetMax < act.bytes.length then none
    else
      (port.link.act act).map fun after =>
        let recs := port.link.news after
        { link := after
          txq := recs.foldl TxQueue.record port.txq
          overrun := port.overrun || !decide (port.txq.Room recs) }
  | .drain room =>
    if packetMax < room then none else some { port with txq := (port.txq.popInto room).1 }

/-- What a move that takes place comes to. -/
inductive Port.Moved (port : Port) : Move → Port → Prop where
  | act {act : Act} {link : Adapter} (gate : act.gated = true → pumpHeadroom ≤ port.txq.free)
    (short : act.bytes.length ≤ packetMax) (acted : port.link.act act = some link) :
      Moved port (.act act)
        { link := link
          txq := (port.link.news link).foldl TxQueue.record port.txq
          overrun := port.overrun || !decide (port.txq.Room (port.link.news link)) }
  | drain {room : Nat} (short : room ≤ packetMax) :
      Moved port (.drain room) { port with txq := (port.txq.popInto room).1 }

theorem Port.move_cases {port after : Port} {move : Move} (moved : port.move move = some after) :
    port.Moved move after := by
  cases move with
  | act act =>
    rw [Port.move] at moved
    split at moved
    next => cases moved
    next gate =>
      obtain ⟨link, acted, rfl⟩ := Option.map_eq_some_iff.mp moved
      rw [not_or] at gate
      exact .act (fun gated => Nat.le_of_not_lt fun few => gate.1 ⟨gated, few⟩) (Nat.le_of_not_lt gate.2) acted
  | drain room =>
    rw [Port.move] at moved
    split at moved
    next => cases moved
    next short =>
      obtain rfl := Option.some.inj moved
      exact .drain (Nat.le_of_not_lt short)

inductive Ran : List (Port × Move) → Port → Prop where
  | new (ticksPerUs : UInt32) (rate : BaudRate) : Ran [] { link := { bus := .new ticksPerUs rate } }
  | move {moves : List (Port × Move)} {port after : Port} {move : Move} (before : Ran moves port)
    (moved : port.move move = some after) : Ran (moves ++ [(port, move)]) after

end OpenServo.Link
