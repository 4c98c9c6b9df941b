import OpenServo.Bus.Providers
import OpenServo.Protocol.Bytes
import OpenServo.Protocol.Wire

set_option autoImplicit false

namespace OpenServo.Bus

open OpenServo.Protocol

def replyBuf : Nat := 16

def smallCopyMax : Nat := 2

inductive TxOut where
  | armed
  | released
deriving DecidableEq, Repr

/-- An arm or a feed: bytes of the staging buffer, or the first bytes of the engine's snapshot, which is the only
storage an external pointer is ever taken of. -/
inductive Arm where
  | buf (off len : Nat)
  | ext (len : Nat)
deriving DecidableEq, Repr

inductive TailByte where
  | buf (off : Nat)
  | snap (off : Nat)
deriving DecidableEq, Repr

inductive TxState where
  | idle
  | staged (slotKey : Option UInt8)
  | streaming (next : Nat)
deriving DecidableEq, Repr

inductive SendError where
  | busy
  | overflow
deriving DecidableEq, Repr

inductive WireOp where
  | startFrame
  | send (bytes : List UInt8)
  | release
deriving DecidableEq, Repr

/-- `arms` and `feeds` hold only the armed entries, so their lengths are `n_arms` and `n_feeds`. `ghostTriggers`
counts the triggers that found no staged frame, which the source asserts away. -/
structure TxEngine where
  wire : List WireOp := []
  buf : List UInt8 := List.replicate replyBuf 0
  arms : List Arm := []
  feeds : List Arm := []
  crcOff : Nat := 0
  state : TxState := .idle
  result : ResultCode := .ok
  tail : Option TailByte := none
  alert : Bool := false
  crcMisses : UInt32 := 0
  ghostTriggers : Nat := 0
deriving DecidableEq, Repr

def overwrite (buf : List UInt8) (off : Nat) (bytes : List UInt8) : List UInt8 :=
  buf.take off ++ bytes ++ buf.drop (off + bytes.length)

def Arm.resolve (engine : CrcEngine) (buf : List UInt8) : Arm → List UInt8
  | .buf off len => buf.extract off (off + len)
  | .ext len => engine.snap.take len

def TailByte.read (engine : CrcEngine) (buf : List UInt8) : TailByte → UInt8
  | .buf off => buf.getD off 0
  | .snap off => engine.snap.getD off 0

namespace TxEngine

def busy (tx : TxEngine) : Bool :=
  match tx.state with
  | .idle => false
  | _ => true

def staged (tx : TxEngine) : Bool :=
  match tx.state with
  | .staged _ => true
  | _ => false

def streaming (tx : TxEngine) : Bool :=
  match tx.state with
  | .streaming _ => true
  | _ => false

def slotKey (tx : TxEngine) : Option UInt8 :=
  match tx.state with
  | .staged key => key
  | _ => none

def collisionTolerant (tx : TxEngine) : Bool :=
  tx.slotKey.isSome

def markCollisionTolerant (tx : TxEngine) (key : UInt8) : TxEngine :=
  match tx.state with
  | .staged _ => { tx with state := .staged (some key) }
  | _ => tx

/-- Each span at its cumulative offset; empty spans are skipped. -/
def snapshotSpans (engine : CrcEngine) : Nat → List (List UInt8) → CrcEngine
  | _, [] => engine
  | off, span :: rest =>
    if span.isEmpty then snapshotSpans engine off rest
    else snapshotSpans (engine.snapshot off span) (off + span.length) rest

def stageGather (tx : TxEngine) (engine : CrcEngine) (id : UInt8) (result : ResultCode) (alert : Bool)
    (spans : List (List UInt8)) : TxEngine × CrcEngine × Except SendError Unit :=
  if tx.busy then (tx, engine, .error .busy)
  else
    let total := (spans.map List.length).sum
    if maxPayload < total then (tx, engine, .error .overflow)
    else
      let head := [alignByte, id, UInt8.ofNat (lenFor total), Inst.status result alert]
      let (tx, engine) :=
        if total ≤ smallCopyMax then
          let cov := coveredLen (lenFor total)
          ({ tx with
              buf := overwrite tx.buf 0 (head ++ spans.flatten)
              arms := [.buf 1 (cov - 1), .buf cov 2]
              feeds := [.buf 0 (cov - cov % 2)]
              tail := if cov % 2 = 1 then some (.buf (cov - 1)) else none
              crcOff := cov }, engine)
        else
          ({ tx with
              buf := overwrite tx.buf 0 head
              arms := [.buf 1 3, .ext total, .buf 4 2]
              feeds := [.buf 0 4, .ext (total - total % 2)]
              tail := if total % 2 = 1 then some (.snap (total - 1)) else none
              crcOff := 4 }, snapshotSpans engine 0 spans)
      ({ tx with
          buf := overwrite tx.buf tx.crcOff [0, 0]
          result := result
          alert := alert
          state := .staged none }, engine, .ok ())

def stage (tx : TxEngine) (engine : CrcEngine) (id : UInt8) (result : ResultCode) (alert : Bool)
    (data : List UInt8) : TxEngine × CrcEngine × Except SendError Unit :=
  tx.stageGather engine id result alert [data]

def trigger (tx : TxEngine) (engine : CrcEngine) (override : Option ResultCode) : TxEngine × CrcEngine :=
  match tx.state with
  | .staged _ =>
    let buf := overwrite tx.buf 3 [Inst.status (override.getD tx.result) tx.alert]
    ({ tx with
        buf := buf
        wire := tx.wire ++ [.startFrame, .send ((tx.arms.getD 0 (.buf 0 0)).resolve engine buf)]
        state := .streaming 1 },
      engine.reset.feed ((tx.feeds.getD 0 (.buf 0 0)).resolve engine buf))
  | _ => ({ tx with ghostTriggers := tx.ghostTriggers + 1 }, engine)

def patchCrc (tx : TxEngine) (engine : CrcEngine) (lag : Nat) : TxEngine :=
  match engine.await lag spinPerByte with
  | some v =>
    let v :=
      match tx.tail with
      | some b => oscCrcContinue v [b.read engine tx.buf]
      | none => v
    { tx with buf := overwrite tx.buf tx.crcOff (u16ToLe v) }
  | none => { tx with crcMisses := tx.crcMisses + 1 }

def onArmComplete (tx : TxEngine) (engine : CrcEngine) (lag : Nat) : TxEngine × CrcEngine × TxOut :=
  match tx.state with
  | .streaming next =>
    if next < tx.arms.length then
      let (tx, engine) :=
        if next < tx.feeds.length then
          (tx, engine.feed ((tx.feeds.getD next (.buf 0 0)).resolve engine tx.buf))
        else (tx.patchCrc engine lag, engine)
      ({ tx with
          wire := tx.wire ++ [.send ((tx.arms.getD next (.buf 0 0)).resolve engine tx.buf)]
          state := .streaming (next + 1) }, engine, .armed)
    else ({ tx with wire := tx.wire ++ [.release], state := .idle }, engine, .released)
  -- A spurious completion: the wire is already released.
  | _ => (tx, engine, .released)

def abort (tx : TxEngine) : TxEngine :=
  if tx.busy then { tx with wire := tx.wire ++ [.release], state := .idle } else tx

theorem abort_idle (tx : TxEngine) : tx.abort.busy = false := by
  unfold abort
  split
  next => rfl
  next idle => exact Bool.eq_false_iff.mpr idle

theorem onArmComplete_busy {tx : TxEngine} {engine : CrcEngine} {lag : Nat}
    (armed : (tx.onArmComplete engine lag).2.2 = .armed) : (tx.onArmComplete engine lag).1.busy = true := by
  unfold onArmComplete at armed ⊢
  split at armed
  next next streams =>
    dsimp only
    split
    next => rfl
    next last =>
      rw [if_neg last] at armed
      cases armed
  next => cases armed

theorem staged_busy {tx : TxEngine} (staged : tx.staged = true) : tx.busy = true := by
  simp only [TxEngine.staged] at staged
  split at staged
  next _ state => simp [busy, state]
  next => cases staged

@[simp] theorem staged_abort (tx : TxEngine) : tx.abort.staged = false := by
  simp only [abort]
  split
  next => rfl
  next idle =>
    cases staged : tx.staged with
    | false => rfl
    | true => exact absurd (staged_busy staged) idle

@[simp] theorem staged_trigger (tx : TxEngine) (engine : CrcEngine) (override : Option ResultCode) :
    (tx.trigger engine override).1.staged = false := by
  simp only [trigger]
  split
  next => rfl
  next other => simp only [TxEngine.staged]

theorem ghostTriggers_trigger {tx : TxEngine} (staged : tx.staged = true) (engine : CrcEngine)
    (override : Option ResultCode) : (tx.trigger engine override).1.ghostTriggers = tx.ghostTriggers := by
  simp only [TxEngine.staged] at staged
  split at staged
  next _ state => simp [trigger, state]
  next => cases staged

@[simp] theorem ghostTriggers_abort (tx : TxEngine) : tx.abort.ghostTriggers = tx.ghostTriggers := by
  simp only [abort]
  split <;> rfl

theorem onArmComplete_spec (tx : TxEngine) (engine : CrcEngine) (lag : Nat) :
    (tx.onArmComplete engine lag).1.staged = tx.staged ∧
      (tx.onArmComplete engine lag).1.ghostTriggers = tx.ghostTriggers := by
  have patched : (tx.patchCrc engine lag).ghostTriggers = tx.ghostTriggers := by
    simp only [patchCrc]
    split <;> rfl
  unfold onArmComplete
  split
  next next state =>
    split
    next =>
      refine ⟨by simp [TxEngine.staged, state], ?_⟩
      dsimp only
      split
      next => rfl
      next => exact patched
    next => exact ⟨by simp [TxEngine.staged, state], rfl⟩
  next => exact ⟨rfl, rfl⟩

@[simp] theorem snapshotSpans_acc (engine : CrcEngine) (off : Nat) (spans : List (List UInt8)) :
    (snapshotSpans engine off spans).acc = engine.acc := by
  induction spans generalizing engine off with
  | nil => rfl
  | cons span rest ih =>
    rw [snapshotSpans]
    split
    next => exact ih engine off
    next => exact ih (engine.snapshot off span) (off + span.length)

/-- Staging either refuses and changes nothing, or leaves a fresh staged frame; it never disturbs the sum the engine
is running. -/
theorem stageGather_cases (tx : TxEngine) (engine : CrcEngine) (id : UInt8) (result : ResultCode)
    (alert : Bool) (spans : List (List UInt8)) :
    (∃ e, tx.stageGather engine id result alert spans = (tx, engine, .error e)) ∨
      tx.busy = false ∧ ∃ tx' engine', tx.stageGather engine id result alert spans = (tx', engine', .ok ()) ∧
        tx'.state = .staged none ∧ tx'.ghostTriggers = tx.ghostTriggers ∧ tx'.wire = tx.wire ∧
        engine'.acc = engine.acc := by
  cases busy : tx.busy with
  | true => exact .inl ⟨.busy, by simp only [stageGather, busy, if_true]⟩
  | false =>
    by_cases long : maxPayload < (spans.map List.length).sum
    next => exact .inl ⟨.overflow, by simp only [stageGather, busy, long, if_true]; rfl⟩
    next =>
      refine .inr ⟨rfl, _, _, by simp only [stageGather, busy, long, if_false]; rfl, rfl, ?_, ?_, ?_⟩
      next => split <;> rfl
      next => split <;> rfl
      next => split <;> simp

end TxEngine

end OpenServo.Bus
