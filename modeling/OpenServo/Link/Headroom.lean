import OpenServo.Link.Pieces
import OpenServo.Link.Queue
import Mathlib.Algebra.Ring.Nat

set_option autoImplicit false

namespace OpenServo.Link

open OpenServo.Protocol OpenServo.Host

def Request.engine (bus : HostBus) (reads : Reads) : Request → HostBus
  | .wire _ op => (op.run bus reads.io.clock).1
  | .submit _ cmd => (bus.submit cmd reads.io).1
  | _ => bus

def refusal : Except SubmitError Unit → Nat
  | .ok _ => 0
  | .error _ => 6

/-- The bytes that are said at once about a request. -/
def Request.demand (bus : HostBus) (reads : Reads) : Request → Nat
  | .hello => 8
  | .enterBootloader | .captureReset => 3
  | .setRails _ _ | .unknown _ => 4
  | .malformed _ => 6
  | .wire _ op => refusal (op.run bus reads.io.clock).2
  | .submit _ cmd => refusal (bus.submit cmd reads.io).2
  | .edgeDrain max =>
    10 + 2 * (min (min max.toNat drainMax) reads.falls.length + min (min max.toNat drainMax) reads.rises.length)

structure Toll where
  bus : HostBus
  handled : Nat
  bytes : Nat

def Toll.add (reads : Nat → Reads) (toll : Toll) : Piece → Toll
  | .whole rec =>
    { bus := (Request.ofRecord rec).engine toll.bus (reads toll.handled)
      handled := toll.handled + 1
      bytes := toll.bytes + (Request.ofRecord rec).demand toll.bus (reads toll.handled) }
  | .junk => { toll with bytes := toll.bytes + 4 }

/-- The events that the engine hands out until it has no more. -/
def told : List Io → HostBus → List Event
  | [], _ => []
  | io :: ios, bus =>
    match bus.poll io with
    | some (bus, some event) => event :: told ios bus
    | some (_, none) | none => []

end OpenServo.Link

namespace OpenServo.Host

def Event.demand : Event → Nat
  | .status _ _ _ payload => 8 + payload.bytes.length
  | .done _ => 15
  | .wireDone _ => 9

end OpenServo.Host

namespace OpenServo.Link

open OpenServo.Protocol OpenServo.Host

def Move.Fits (port : Port) : Move → Prop
  | .act (.pipe reads bytes) =>
    ((packet port.link.server.rx bytes).1.foldl (Toll.add reads) ⟨port.link.bus, port.link.records.length, 0⟩).bytes ≤
      port.txq.free
  | .act (.pump ios) => ((told ios port.link.bus).map Event.demand).sum ≤ port.txq.free
  | _ => True

def spoken (log : List Entry) : Nat :=
  ((log.filterMap Entry.reply).map fun reply => reply.record.length).sum

theorem spoken_append (log more : List Entry) : spoken (log ++ more) = spoken log + spoken more := by
  simp [spoken]

def Adapter.toll (link : Adapter) : Toll :=
  ⟨link.bus, link.records.length, spoken link.log⟩

namespace TxQueue

theorem record_free {queue : TxQueue} {rec : List UInt8} (fits : rec.length ≤ queue.free) :
    (queue.record rec).free = queue.free - rec.length := by
  rw [record, if_neg (Nat.not_lt_of_le fits), free, free, List.length_append, Nat.sub_sub]

theorem fold_free (queue : TxQueue) (recs : List (List UInt8)) :
    queue.free - (recs.map List.length).sum ≤ (recs.foldl record queue).free := by
  induction recs generalizing queue with
  | nil => exact Nat.sub_le _ _
  | cons rec rest ih =>
    have later := ih (queue.record rec)
    have least : queue.free - rec.length ≤ (queue.record rec).free := by
      by_cases fits : rec.length ≤ queue.free
      next => exact Nat.le_of_eq (record_free fits).symm
      next =>
        rw [record, if_pos (Nat.lt_of_not_le fits)]
        exact Nat.sub_le _ _
    rw [List.map_cons, List.sum_cons, List.foldl_cons]
    omega

theorem room_iff (queue : TxQueue) (recs : List (List UInt8)) :
    queue.Room recs ↔ (recs.map List.length).sum ≤ queue.free := by
  induction recs generalizing queue with
  | nil => simp [Room]
  | cons rec rest ih =>
    rw [Room, ih, List.map_cons, List.sum_cons]
    constructor
    next =>
      rintro ⟨first, others⟩
      rw [record_free first] at others
      omega
    next =>
      intro whole
      refine ⟨by omega, ?_⟩
      rw [record_free (by omega)]
      omega

end TxQueue

section Sizes

theorem length_flatMap_u16 (values : List UInt16) : (values.flatMap u16ToLe).length = 2 * values.length := by
  induction values with
  | nil => rfl
  | cons value rest ih =>
    rw [List.flatMap_cons, List.length_append, ih, List.length_cons]
    simp only [u16ToLe, List.length_cons, List.length_nil]
    omega

theorem length_edges (overflow : Bool) (now : UInt32) (falls rises : List UInt16) :
    (edges overflow now falls rises).length = 10 + 2 * (falls.length + rises.length) := by
  simp only [edges, length_sealed, List.length_append, length_flatMap_u16, u32ToLe, List.length_cons, List.length_nil]
  omega

theorem length_status (seq : UInt16) (slot id : UInt8) (inst : Inst) (payload : FrameBytes) :
    (status seq slot id inst payload).length = 8 + payload.bytes.length := by
  simp only [status, length_sealed, List.length_append, u16ToLe, List.length_cons, List.length_nil, FrameBytes.bytes]
  omega

theorem length_terminal (seq : UInt16) (t : Terminal) : (terminal seq t).length = 15 := by
  simp only [terminal, length_sealed, List.length_append, u16ToLe, u32ToLe, List.length_cons, List.length_nil]

end Sizes

theorem Handles.log {link after : Adapter} {rec : List UInt8} (handles : Handles link rec after) :
    link.log <+: after.log := by
  cases handles <;> exact List.prefix_append _ _

namespace Adapter

variable (link : Adapter)

theorem toll_out (reply : Reply) :
    (link.out reply).toll = { link.toll with bytes := link.toll.bytes + reply.record.length } := by
  have said : spoken [.out reply] = reply.record.length := rfl
  simp [toll, out, note, records, Entry.record, spoken_append, said]

theorem toll_handled (rec : List UInt8) :
    (link.note (.handled rec)).toll = { link.toll with handled := link.toll.handled + 1 } := by
  have silent : spoken [.handled rec] = 0 := rfl
  simp [toll, note, records, Entry.record, spoken_append, silent]

theorem toll_took (owner : Owner) (seq : UInt16) : (link.note (.took owner seq)).toll = link.toll := by
  have silent : spoken [.took owner seq] = 0 := rfl
  simp [toll, note, records, Entry.record, spoken_append, silent]

theorem drop_toll (reads : Nat → Reads) : link.drop.toll = link.toll.add reads .junk := by
  have said : spoken [.dropped, .out (.unknown 0xFF)] = 4 := rfl
  simp [drop, toll, out, note, records, Entry.record, spoken_append, said, Toll.add]

theorem wire_toll (seq : UInt16) (op : WireOp) (io : Io) :
    (link.wire seq op io).toll =
      { link.toll with
        bus := (op.run link.bus io.clock).1
        bytes := link.toll.bytes + refusal (op.run link.bus io.clock).2 } := by
  unfold wire
  dsimp only
  split
  next ok =>
    rw [toll_took, ok]
    rfl
  all_goals
    rename_i failed
    rw [toll_out, failed]
    rfl

theorem submit_toll (seq : UInt16) (cmd : Command) (io : Io) :
    (link.submit seq cmd io).toll =
      { link.toll with
        bus := (link.bus.submit cmd io).1
        bytes := link.toll.bytes + refusal (link.bus.submit cmd io).2 } := by
  unfold submit
  dsimp only
  split
  next ok =>
    rw [toll_took, ok]
    rfl
  all_goals
    rename_i failed
    rw [toll_out, failed]
    rfl

theorem replied_toll (rec : List UInt8) (server : LinkServer) (reply : Reply) :
    (({ link.note (.handled rec) with server } : Adapter).out reply).toll =
      { link.toll with handled := link.toll.handled + 1, bytes := link.toll.bytes + reply.record.length } := by
  have noted : ({ link.note (.handled rec) with server } : Adapter).toll = _ := link.toll_handled rec
  rw [toll_out, noted]

theorem handle_toll (reads : Nat → Reads) (rec : List UInt8) :
    (link.handle (reads link.records.length) rec).toll = link.toll.add reads (.whole rec) := by
  unfold handle
  dsimp only [Toll.add]
  split
  all_goals rename_i request; rw [request]
  next => exact link.replied_toll rec _ _
  next => exact link.replied_toll rec _ _
  next => exact link.replied_toll rec _ _
  next =>
    rw [wire_toll, toll_handled]
    rfl
  next =>
    refine (link.replied_toll rec _ _).trans ?_
    rw [Reply.record, length_edges, List.length_take, List.length_take]
    rfl
  next => exact link.replied_toll rec _ _
  next =>
    rw [submit_toll, toll_handled]
    rfl
  next => exact link.replied_toll rec _ _
  next => exact link.replied_toll rec _ _

theorem handle_log (reads : Reads) (rec : List UInt8) : link.log <+: (link.handle reads rec).log :=
  (link.handle_cases reads rec).log

theorem drop_log : link.log <+: link.drop.log :=
  ⟨[.dropped, .out (.unknown 0xFF)], List.append_cons _ _ _⟩

structure Paid (reads : Nat → Reads) (link after : Adapter) (found : List Piece × List UInt8) : Prop where
  toll : after.toll = found.1.foldl (Toll.add reads) link.toll
  rx : after.server.rx = found.2
  log : link.log <+: after.log

theorem trace_paid {reads : Nat → Reads} {link after : Adapter} {found : List Piece}
    (trace : Trace reads link found after) :
    after.toll = found.foldl (Toll.add reads) link.toll ∧ link.log <+: after.log := by
  induction trace with
  | nil => exact ⟨rfl, List.prefix_rfl⟩
  | fill rx later ih => exact ih
  | whole rec later ih =>
    refine ⟨?_, (handle_log _ _ rec).trans ih.2⟩
    rw [ih.1, handle_toll]
    rfl
  | junk later ih =>
    refine ⟨?_, (drop_log _).trans ih.2⟩
    rw [ih.1, drop_toll]
    rfl

theorem onPipe_paid (reads : Nat → Reads) (bytes : List UInt8) :
    Paid reads link (link.onPipe reads bytes) (packet link.server.rx bytes) := by
  have comes := link.onPipe_comes reads bytes
  obtain ⟨toll, log⟩ := trace_paid comes.trace
  exact ⟨toll, comes.rx, log⟩

theorem tell_said (event : Event) :
    ∃ reply, (link.tell event).log = link.log ++ [.out reply] ∧ reply.record.length = event.demand := by
  cases event with
  | status slot id inst payload => exact ⟨_, rfl, length_status _ slot id inst payload⟩
  | done t => exact ⟨_, rfl, length_terminal _ t⟩
  | wireDone tick => exact ⟨_, rfl, rfl⟩

theorem tell_bus (event : Event) : (link.tell event).bus = link.bus := by
  cases event <;> rfl

variable {link} {after : Adapter}

theorem pump_said {ios : List Io} (pumped : link.pump ios = some after) : link.log <+: after.log ∧
    spoken after.log = spoken link.log + ((told ios link.bus).map Event.demand).sum := by
  fun_induction pump ios link with
  | case1 => cases pumped
  | case2 => cases pumped
  | case3 io ios link bus polled =>
    obtain rfl := Option.some.inj pumped
    rw [told, polled]
    exact ⟨List.prefix_rfl, rfl⟩
  | case4 io ios link bus event polled ih =>
    obtain ⟨front, said⟩ := ih pumped
    obtain ⟨reply, log, size⟩ := tell_said { link with bus } event
    have one : spoken [.out reply] = event.demand := size
    rw [tell_bus] at said
    rw [told, polled]
    dsimp only
    rw [log] at front said
    refine ⟨(List.prefix_append _ _).trans front, ?_⟩
    rw [said, spoken_append, one, List.map_cons, List.sum_cons, Nat.add_assoc]

theorem news_total (front : link.log <+: after.log) :
    spoken after.log = spoken link.log + ((link.news after).map List.length).sum := by
  obtain ⟨more, log⟩ := front
  rw [news, ← log, List.drop_left, spoken_append, List.map_map]
  rfl

theorem news_same (same : after.log = link.log) : link.news after = [] := by
  rw [news, same, List.drop_length]
  rfl

theorem act_still {act : Act} (free : act.gated = false) (acted : link.act act = some after) :
    after.log = link.log := by
  cases act with
  | pipe | pump => cases free
  | takeAdapterRequest | onTxComplete io | onDeadline io =>
    obtain rfl := Option.some.inj acted
    rfl

end Adapter

theorem Toll.fold_bytes (reads : Nat → Reads) (found : List Piece) (toll : Toll) :
    (found.foldl (Toll.add reads) toll).bytes =
      toll.bytes + (found.foldl (Toll.add reads) { toll with bytes := 0 }).bytes := by
  induction found generalizing toll with
  | nil => rfl
  | cons piece rest ih =>
    have behind : ({ toll.add reads piece with bytes := 0 } : Toll) =
        { ({ toll with bytes := 0 } : Toll).add reads piece with bytes := 0 } := by cases piece <;> rfl
    have bytes : (toll.add reads piece).bytes =
        toll.bytes + (({ toll with bytes := 0 } : Toll).add reads piece).bytes := by
      cases piece with
      | whole rec => exact congrArg (toll.bytes + ·) (Nat.zero_add _).symm
      | junk => rfl
    rw [List.foldl_cons, List.foldl_cons, ih, ih (({ toll with bytes := 0 } : Toll).add reads piece), behind, bytes,
      Nat.add_assoc]

end OpenServo.Link
