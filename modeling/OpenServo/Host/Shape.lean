import OpenServo.Protocol.Build
import OpenServo.Protocol.Reply
import OpenServo.Protocol.Seam

set_option autoImplicit false

namespace OpenServo.Host

open OpenServo.Protocol

inductive InvalidReason where
  | badId
  | badInst
  | badPayload
  | tooLong
deriving DecidableEq, Repr

inductive Replies where
  | none
  | single
  | chain (slots : UInt8)
  | collect
deriving DecidableEq, Repr

structure Shape where
  replies : Replies
  replyFootprint : UInt16
  train : Option (UInt16 × UInt8)
  slow : Bool
deriving DecidableEq, Repr

def maxReply : UInt16 := UInt16.ofNat (footprint 255)

def ackReply : UInt16 := UInt16.ofNat (footprint 3)

def pingReply : UInt16 := UInt16.ofNat (footprint 6)

def enumReply : UInt16 := UInt16.ofNat (footprint (UInt8.ofNat (3 + uidLen)))

def parsed {A : Type} : Option A → Except InvalidReason A
  | some a => .ok a
  | none => .error .badPayload

namespace Shape

def plain (broadcast : Bool) (replyFootprint : UInt16) : Shape :=
  { replies := if broadcast then .none else .single
    replyFootprint
    train := none
    slow := false }

def silent : Shape :=
  { replies := .none, replyFootprint := 0, train := none, slow := false }

end Shape

/-- A read past the ceiling draws a nack, so no reply is longer than the longest frame. -/
def readReply (count : UInt16) : UInt16 :=
  UInt16.ofNat (footprint (3 + (min count (UInt16.ofNat maxPayload)).toUInt8))

def gread (inst : Inst) (pay : FrameBytes) : Except InvalidReason Shape := do
  let (slots, replyFootprint) ←
    match inst.profile, inst.perTarget with
    | false, false => do
      let g ← parsed (GreadUniform.parse pay)
      pure (g.ids.bytes.length, readReply g.count)
    | false, true => do
      let entries ← parsed (GreadPerTarget.parse pay)
      let targets := GreadPerTarget.iter entries
      pure (targets.length, ((targets.map fun t => readReply t.count).max?).getD 0)
    | true, false => do
      let g ← parsed (GreadProfileUniform.parse pay)
      pure (g.ids.bytes.length, maxReply)
    | true, true => do
      let entries ← parsed (GreadProfilePerTarget.parse pay)
      pure ((GreadProfilePerTarget.iter entries).length, maxReply)
  return { replies := .chain (UInt8.ofNat slots), replyFootprint, train := none, slow := false }

def ofMgmtOp (m : MgmtReq) (broadcast : Bool) : Except InvalidReason Shape := do
  match m.op with
  | .enum =>
    let _ ← parsed (EnumReq.parse m.args)
    return {
      replies := if broadcast then .collect else .single
      replyFootprint := enumReply
      train := none
      slow := false }
  | .assign =>
    -- The sole matcher acks even a broadcast.
    let _ ← parsed (AssignReq.parse m.args)
    return { replies := .single, replyFootprint := ackReply, train := none, slow := false }
  | .cal =>
    let c ← parsed (CalReq.parse m.args)
    if !broadcast then throw .badPayload
    return { replies := .none, replyFootprint := 0, train := some (c.gapUs, c.gaps), slow := false }
  | .save | .factory =>
    if m.args.len ≠ 0 then throw .badPayload
    return { Shape.plain broadcast ackReply with slow := true }
  | .reboot => return Shape.plain broadcast ackReply

def mgmt (pay : FrameBytes) (broadcast : Bool) : Except InvalidReason Shape := do
  let m ← parsed (MgmtReq.parse pay)
  ofMgmtOp m broadcast

def isValid (id : UInt8) : Bool :=
  isUnicast id || isBroadcast id

namespace Shape

def ofOpcode (op : Opcode) (inst : Inst) (broadcast : Bool) (pay : FrameBytes) : Except InvalidReason Shape := do
  match op with
  | .ping =>
    if pay.len ≠ 0 then throw .badPayload
    return plain broadcast pingReply
  | .read =>
    if inst.profile then
      let _ ← parsed (ProfileReq.parse pay)
      return plain broadcast maxReply
    else
      let r ← parsed (ReadReq.parse pay)
      return plain broadcast (readReply r.count)
  | .write =>
    let _ ← parsed (WriteReq.parse pay)
    return plain broadcast ackReply
  | .commit =>
    if pay.len ≠ 0 then throw .badPayload
    return plain broadcast ackReply
  | .gread => gread inst pay
  | .gwrite =>
    if inst.perTarget then
      let _ ← parsed (GwritePerTarget.parse pay)
    else
      let _ ← parsed (GwriteUniform.parse pay)
    return silent
  | .mgmt => mgmt pay broadcast

/-- NOREPLY silences all but a chain, whose slots always reply. -/
def noreply (inst : Inst) (shape : Shape) : Shape :=
  match inst.noreply, shape.replies with
  | true, .chain _ => shape
  | true, _ => { shape with replies := .none }
  | false, _ => shape

def derive (id : UInt8) (inst : Inst) (payload : List UInt8) : Except InvalidReason Shape :=
  if inst.isStatus then .error .badInst
  else
    match inst.opcode with
    | none => .error .badInst
    | some op =>
      if !isValid id then .error .badId
      else if maxPayload < payload.length then .error .tooLong
      else (ofOpcode op inst (isBroadcast id) (.ofList payload)).map (noreply inst)

def txFrame (buf : FrameBuf 264) (id : UInt8) (inst : Inst) (payload : List UInt8) : List UInt8 :=
  (((buf.start id inst).putPayload payload).finish payload.length).sealFrame

structure Accepts (id : UInt8) (inst : Inst) (payload : List UInt8) (op : Opcode) (bare : Shape) : Prop where
  instruction : inst.isStatus = false
  opcode : inst.opcode = some op
  valid : isValid id = true
  short : payload.length ≤ maxPayload
  shaped : ofOpcode op inst (isBroadcast id) (.ofList payload) = .ok bare

theorem derive_cases {id : UInt8} {inst : Inst} {payload : List UInt8} {shape : Shape}
    (accepted : derive id inst payload = .ok shape) :
    ∃ op bare, Accepts id inst payload op bare ∧ shape = bare.noreply inst := by
  unfold derive at accepted
  split at accepted
  next => cases accepted
  next instruction =>
    split at accepted
    next => cases accepted
    next op opcode =>
      split at accepted
      next => cases accepted
      next valid =>
        split at accepted
        next => cases accepted
        next short =>
          cases shaped : ofOpcode op inst (isBroadcast id) (.ofList payload) with
          | error reason => simp [shaped, Except.map] at accepted
          | ok bare =>
            simp only [shaped, Except.map, Except.ok.injEq] at accepted
            rw [Bool.not_eq_true, Bool.not_eq_false'] at valid
            exact ⟨op, bare, ⟨by simpa using instruction, opcode, valid, Nat.le_of_not_lt short, shaped⟩, accepted.symm⟩

end Shape

end OpenServo.Host
