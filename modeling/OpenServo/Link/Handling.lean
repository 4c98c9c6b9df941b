import OpenServo.Link.Server

set_option autoImplicit false

namespace OpenServo.Link

open OpenServo.Protocol OpenServo.Host

def WireOp.op : WireOp → Op
  | .send bytes => .wireSend bytes
  | .burst stream => .wireBurst stream
  | .pulse us => .wirePulseLow us
  | .train announce gapUs breaks => .wireTrain announce gapUs breaks
  | .baud bps => .wireBaud bps

theorem WireOp.run_step (op : WireOp) (bus : HostBus) (io : Io) :
    bus.step io op.op = some ((op.run bus io.clock).map id Answer.ofResult) := by
  cases op <;> rfl

def Request.seq : Request → Option UInt16
  | .wire seq _ | .submit seq _ | .malformed seq => some seq
  | .hello | .enterBootloader | .setRails _ _ | .edgeDrain _ | .captureReset | .unknown _ => none

def Reply.answers : Reply → Option UInt16
  | .terminal seq _ | .rejected seq _ | .wireDone seq _ => some seq
  | .status .. | .info _ | .unknown _ | .bootloaderAck | .railsAck _ | .edges .. | .captureAck => none

def Reply.seq : Reply → Option UInt16
  | .status seq .. | .terminal seq _ | .rejected seq _ | .wireDone seq _ => some seq
  | .info _ | .unknown _ | .bootloaderAck | .railsAck _ | .edges .. | .captureAck => none

/-- What answers the record in hand, and not an event of the engine. -/
def Reply.instant : Reply → Bool
  | .status .. | .terminal .. | .wireDone .. => false
  | .info _ | .rejected .. | .unknown _ | .bootloaderAck | .railsAck _ | .edges .. | .captureAck => true

def carries : List UInt8 → Option UInt16
  | rtype :: low :: high :: _ =>
    if rtype = recSubmit ∨ Request.isWire rtype then some (u16FromLe low high) else none
  | _ => none

/-- A SUBMIT that stops behind its sequence number. -/
def verbless (rec : List UInt8) : Bool :=
  rec.length = 3 ∧ rec.head? = some recSubmit

theorem ofWire_seq (rtype : UInt8) (seq : UInt16) (body : List UInt8) :
    (Request.ofWire rtype seq body).seq = some seq := by
  unfold Request.ofWire
  repeat' split
  all_goals rfl

theorem ofSubmit_seq (seq : UInt16) (verb : UInt8) (args : List UInt8) :
    (Request.ofSubmit seq verb args).seq = some seq := by
  unfold Request.ofSubmit
  repeat' split
  all_goals rfl

theorem ofBody_wire {rtype : UInt8} (wire : Request.isWire rtype = true) (body : List UInt8) :
    Request.ofBody rtype body =
      if body.length < 2 then .unknown rtype
      else Request.ofWire rtype (u16FromLe (body.getD 0 0) (body.getD 1 0)) (body.drop 2) := by
  have hello : rtype ≠ recHello := by rintro rfl; exact absurd wire (by decide)
  have bootloader : rtype ≠ recEnterBootloader := by rintro rfl; exact absurd wire (by decide)
  have rails : rtype ≠ recSetRails := by rintro rfl; exact absurd wire (by decide)
  rw [Request.ofBody, if_neg hello, if_neg bootloader, if_neg (fun both => rails both.1), if_pos wire]

theorem ofBody_submit (body : List UInt8) :
    Request.ofBody recSubmit body =
      if body.length < 3 then .unknown recSubmit
      else Request.ofSubmit (u16FromLe (body.getD 0 0) (body.getD 1 0)) (body.getD 2 0) (body.drop 3) := by
  rw [Request.ofBody, if_neg (by decide), if_neg (by decide), if_neg (by simp [recSubmit, recSetRails]),
    if_neg (by decide), if_neg (by simp [recSubmit, recEdgeDrain]), if_neg (by decide), if_pos rfl]

theorem request_seq (rec : List UInt8) :
    (Request.ofRecord rec).seq = if verbless rec then none else carries rec := by
  match rec with
  | [] => rfl
  | rtype :: body =>
    rw [Request.ofRecord]
    by_cases wire : Request.isWire rtype = true
    next =>
      have submit : rtype ≠ recSubmit := by rintro rfl; exact absurd wire (by decide)
      have verb : verbless (rtype :: body) = false := by simp [verbless, submit]
      rw [ofBody_wire wire, verb, if_neg Bool.false_ne_true]
      cases body with
      | nil => rfl
      | cons low rest =>
        cases rest with
        | nil => rfl
        | cons high args =>
          rw [if_neg (by simp), ofWire_seq]
          simp [carries, wire]
    next =>
      by_cases submit : rtype = recSubmit
      next =>
        subst submit
        cases body with
        | nil => rfl
        | cons low rest =>
          cases rest with
          | nil => rfl
          | cons high rest =>
            cases rest with
            | nil => rfl
            | cons verb args =>
              have more : verbless (recSubmit :: low :: high :: verb :: args) = false := by simp [verbless]
              rw [more, ofBody_submit, if_neg (by simp), ofSubmit_seq]
              simp [carries]
      next =>
        have other : carries (rtype :: body) = none := by
          unfold carries
          split
          next shape =>
            obtain ⟨rfl, -⟩ := List.cons.inj shape
            rw [if_neg (by simp [submit, wire])]
          next => rfl
        have verb : verbless (rtype :: body) = false := by simp [verbless, submit]
        rw [verb, if_neg Bool.false_ne_true, other, Request.ofBody, if_neg wire, if_neg submit]
        repeat' split
        all_goals rfl

inductive Handles (link : Adapter) (rec : List UInt8) : Adapter → Prop where
  | replied (reply : Reply) (state : AdapterState) (instant : reply.instant = true)
    (answers : reply.answers = (Request.ofRecord rec).seq) :
      Handles link rec
        { link with server.adapter := state, log := link.log ++ [.handled rec, .out reply] }
  | refused {op : Op} {io : Io} {error : SubmitError} {bus : HostBus} (seq : UInt16) (reason : UInt8)
    (asks : (Request.ofRecord rec).seq = some seq) (stepped : link.bus.step io op = some (bus, .refused error)) :
      Handles link rec
        { link with bus, log := link.log ++ [.handled rec, .out (.rejected seq reason)] }
  | submitted {cmd : Command} {io : Io} {bus : HostBus} (seq : UInt16)
    (asks : (Request.ofRecord rec).seq = some seq)
    (stepped : link.bus.step io (.submit cmd) = some (bus, .accepted)) :
      Handles link rec
        { link with
          server.active := some seq
          bus
          log := link.log ++ [.handled rec, .took .command seq] }
  | wired {op : WireOp} {io : Io} {bus : HostBus} (seq : UInt16) (asks : (Request.ofRecord rec).seq = some seq)
    (stepped : link.bus.step io op.op = some (bus, .accepted)) :
      Handles link rec
        { link with
          server.wireActive := some seq
          bus
          log := link.log ++ [.handled rec, .took .wire seq] }

namespace Adapter

variable (link : Adapter)

theorem handle_cases (reads : Reads) (rec : List UInt8) : Handles link rec (link.handle reads rec) := by
  have replied (reply : Reply) (state : AdapterState) (instant : reply.instant = true)
      (answers : reply.answers = (Request.ofRecord rec).seq) :
      Handles link rec (({ link.note (.handled rec) with server.adapter := state } : Adapter).out reply) := by
    have whole := @Handles.replied link rec reply state instant answers
    simpa [out, note] using whole
  unfold handle
  dsimp only
  split
  next request => exact replied _ _ rfl (by rw [request]; rfl)
  next request => exact replied _ _ rfl (by rw [request]; rfl)
  next state mask request => exact replied _ _ rfl (by rw [request]; rfl)
  next seq op request =>
    have asks : (Request.ofRecord rec).seq = some seq := by rw [request]; rfl
    have stepped := op.run_step link.bus reads.io
    unfold wire
    dsimp only [note]
    generalize op.run link.bus reads.io.clock = result at stepped
    obtain ⟨bus, result⟩ := result
    cases result with
    | ok =>
      have whole := Handles.wired seq asks stepped
      simpa [out, note] using whole
    | error error =>
      have whole (reason : UInt8) := Handles.refused seq reason asks stepped
      cases error <;> simpa [out, note] using whole _
  next max request => exact replied _ _ rfl (by rw [request]; rfl)
  next request => exact replied _ _ rfl (by rw [request]; rfl)
  next seq cmd request =>
    have asks : (Request.ofRecord rec).seq = some seq := by rw [request]; rfl
    have stepped : link.bus.step reads.io (.submit cmd) =
        some ((link.bus.submit cmd reads.io).map id Answer.ofResult) := rfl
    unfold submit
    dsimp only [note]
    generalize link.bus.submit cmd reads.io = result at stepped
    obtain ⟨bus, result⟩ := result
    cases result with
    | ok =>
      have whole := Handles.submitted seq asks stepped
      simpa [out, note] using whole
    | error error =>
      have whole (reason : UInt8) := Handles.refused seq reason asks stepped
      cases error <;> simpa [out, note] using whole _
  next seq request => exact replied _ _ rfl (by rw [request]; rfl)
  next rtype request => exact replied _ _ rfl (by rw [request]; rfl)

end Adapter

end OpenServo.Link
