import OpenServo.Core.Dispatch
import OpenServo.Protocol.Frame
import OpenServo.Protocol.Group

set_option autoImplicit false

namespace OpenServo.Bus

open OpenServo.Core OpenServo.Protocol

inductive Decoded where
  | status
  | skip
  | own (req : Request) (mayReply : Bool) (slot : UInt8)
deriving DecidableEq, Repr

def mgmtRequest (broadcast : Bool) (m : MgmtReq) : Request :=
  match m.op with
  | .enum =>
    match EnumReq.parse m.args with
    | some e => .enumerate e.prefixLen e.prefixBits
    | none => .unsupported
  | .assign =>
    match AssignReq.parse m.args with
    | some a => .assign a.uid a.newId
    | none => .unsupported
  | .cal =>
    match CalReq.parse m.args with
    | some c => if broadcast then .calibrate c.gapUs c.gaps else .unsupported
    | none => .unsupported
  | op => .mgmt op m.args

def plainRequest (op : Opcode) (inst : Inst) (broadcast : Bool) (pay : FrameBytes) : Request :=
  match op with
  | .ping => .ping
  | .read =>
    if inst.profile then
      match ProfileReq.parse pay with
      | some slot => .readProfile slot
      | none => .unsupported
    else
      match ReadReq.parse pay with
      | some r => .read r.addr.toNat r.count.toNat
      | none => .unsupported
  | .write =>
    match WriteReq.parse pay with
    | some w => .write w.addr.toNat w.data inst.hold
    | none => .unsupported
  | .commit => .commit
  | .mgmt =>
    match MgmtReq.parse pay with
    | some m => mgmtRequest broadcast m
    | none => .unsupported
  | .gread | .gwrite => .unsupported

/-- ENUM and ASSIGN are broadcast by design: the UID match elects the one replier. -/
def answersBroadcast : Request → Bool
  | .enumerate .. | .assign .. => true
  | _ => false

def plain (op : Opcode) (inst : Inst) (frameId : UInt8) (pay : FrameBytes) (own : UInt8) : Decoded :=
  let broadcast := isBroadcast frameId
  if !addresses frameId own then .skip
  else
    let req := plainRequest op inst broadcast pay
    .own req (!inst.noreply && (!broadcast || answersBroadcast req)) 0

def ownRead (addr count : UInt16) (slot : UInt8) : Decoded :=
  .own (.read addr.toNat count.toNat) true slot

def ownReadProfile (profile slot : UInt8) : Decoded :=
  .own (.readProfile profile) true slot

def gread (inst : Inst) (pay : FrameBytes) (own : UInt8) : Decoded :=
  match inst.profile, inst.perTarget with
  | false, true =>
    match (GreadPerTarget.parse pay).bind (GreadPerTarget.find · own) with
    | some (slot, t) => ownRead t.addr t.count slot
    | none => .skip
  | false, false =>
    match GreadUniform.parse pay with
    | some g =>
      match slotOf g.ids own with
      | some slot => ownRead g.addr g.count slot
      | none => .skip
    | none => .skip
  | true, true =>
    match (GreadProfilePerTarget.parse pay).bind (GreadProfilePerTarget.find · own) with
    | some (slot, t) => ownReadProfile t.slot slot
    | none => .skip
  | true, false =>
    match GreadProfileUniform.parse pay with
    | some g =>
      match slotOf g.ids own with
      | some slot => ownReadProfile g.slot slot
      | none => .skip
    | none => .skip

def ownWrite (addr : UInt16) (data : FrameBytes) (hold : Bool) : Decoded :=
  .own (.write addr.toNat data hold) false 0

def gwrite (inst : Inst) (pay : FrameBytes) (own : UInt8) : Decoded :=
  if inst.perTarget then
    match (GwritePerTarget.parse pay).bind (GwritePerTarget.find · own) with
    | some t => ownWrite t.addr t.data inst.hold
    | none => .skip
  else
    match GwriteUniform.parse pay with
    | some g =>
      match g.find own with
      | some data => ownWrite g.addr data inst.hold
      | none => .skip
    | none => .skip

def headerOf (frame : FrameBytes) : Option Header := do
  return ⟨← frame.u8At 0, ← frame.u8At 1, ← frame.u8At 2, ← frame.u8At 3⟩

def decode (frame : FrameBytes) (id : UInt8) : Decoded :=
  match headerOf frame with
  | none => .skip
  | some h =>
    if h.inst.isStatus then .status
    else
      match h.inst.opcode with
      | none => .skip
      | some op =>
        match frame.sub Header.size h.payloadLen with
        | none => .skip
        | some pay =>
          match op with
          | .gread => gread h.inst pay id
          | .gwrite => gwrite h.inst pay id
          | _ => plain op h.inst h.id pay id

def listedIds (inst : Inst) (pay : FrameBytes) : Option (List UInt8) :=
  match inst.profile, inst.perTarget with
  | false, true =>
    (GreadPerTarget.parse pay).map (fun entries => (GreadPerTarget.iter entries).map GreadTarget.id)
  | false, false => (GreadUniform.parse pay).map (fun g => g.ids.bytes)
  | true, true =>
    (GreadProfilePerTarget.parse pay).map
      (fun entries => (GreadProfilePerTarget.iter entries).map GreadProfileTarget.id)
  | true, false => (GreadProfileUniform.parse pay).map (fun g => g.ids.bytes)

def greadIds (frame : FrameBytes) : Option (List UInt8) := do
  let h ← headerOf frame
  guard (h.inst.opcode = some .gread)
  listedIds h.inst (← frame.sub Header.size h.payloadLen)

theorem gread_listed {inst : Inst} {pay : FrameBytes} {ids : List UInt8} {k : Nat} {id : UInt8}
    (list : listedIds inst pay = some ids) (distinct : ids.Nodup) (listed : ids[k]? = some id) :
    ∃ req, gread inst pay id = .own req true (UInt8.ofNat k) := by
  simp only [listedIds] at list
  simp only [gread]
  cases profile : inst.profile <;> cases target : inst.perTarget <;> simp only [profile, target] at list
  next =>
    obtain ⟨g, parsed, rfl⟩ := Option.map_eq_some_iff.mp list
    simp only [parsed, slotOf_eq distinct listed]
    exact ⟨_, rfl⟩
  next =>
    obtain ⟨entries, parsed, rfl⟩ := Option.map_eq_some_iff.mp list
    obtain ⟨entry, here, rfl⟩ := Option.map_eq_some_iff.mp (List.getElem?_map .. ▸ listed)
    simp only [parsed, Option.bind_some, GreadPerTarget.find, findSlot_eq distinct here]
    exact ⟨_, rfl⟩
  next =>
    obtain ⟨g, parsed, rfl⟩ := Option.map_eq_some_iff.mp list
    simp only [parsed, slotOf_eq distinct listed]
    exact ⟨_, rfl⟩
  next =>
    obtain ⟨entries, parsed, rfl⟩ := Option.map_eq_some_iff.mp list
    obtain ⟨entry, here, rfl⟩ := Option.map_eq_some_iff.mp (List.getElem?_map .. ▸ listed)
    simp only [parsed, Option.bind_some, GreadProfilePerTarget.find, findSlot_eq distinct here]
    exact ⟨_, rfl⟩

theorem listedIds_length {inst : Inst} {pay : FrameBytes} {ids : List UInt8}
    (list : listedIds inst pay = some ids) : ids.length ≤ pay.len := by
  simp only [listedIds] at list
  split at list
  next =>
    obtain ⟨entries, parsed, rfl⟩ := Option.map_eq_some_iff.mp list
    obtain rfl : pay = entries := by
      simp only [GreadPerTarget.parse] at parsed
      split at parsed
      next => cases parsed
      next => exact Option.some.inj parsed
    rw [List.length_map]
    exact entriesOf_length_le GreadPerTarget.next _ _
  next =>
    obtain ⟨g, parsed, rfl⟩ := Option.map_eq_some_iff.mp list
    simp only [GreadUniform.parse, Option.bind_eq_bind, Option.bind_eq_some_iff] at parsed
    obtain ⟨_, _, _, _, _, _, ids, cut, _, _, made⟩ := parsed
    obtain rfl := Option.some.inj made
    rw [FrameBytes.length_bytes, FrameBytes.sub_len cut]
    omega
  next =>
    obtain ⟨entries, parsed, rfl⟩ := Option.map_eq_some_iff.mp list
    obtain rfl : pay = entries := by
      simp only [GreadProfilePerTarget.parse] at parsed
      split at parsed
      next => cases parsed
      next => exact Option.some.inj parsed
    rw [List.length_map]
    exact entriesOf_length_le GreadProfilePerTarget.next _ _
  next =>
    obtain ⟨g, parsed, rfl⟩ := Option.map_eq_some_iff.mp list
    simp only [GreadProfileUniform.parse, Option.bind_eq_bind, Option.bind_eq_some_iff] at parsed
    obtain ⟨_, _, _, _, ids, cut, _, _, made⟩ := parsed
    obtain rfl := Option.some.inj made
    rw [FrameBytes.length_bytes, FrameBytes.sub_len cut]
    omega

theorem greadIds_cases {frame : FrameBytes} {ids : List UInt8} (list : greadIds frame = some ids) :
    ∃ h pay, headerOf frame = some h ∧ h.inst.opcode = some .gread ∧
      frame.sub Header.size h.payloadLen = some pay ∧ listedIds h.inst pay = some ids := by
  simp only [greadIds, Option.bind_eq_bind, Option.bind_eq_some_iff] at list
  obtain ⟨h, header, _, op, pay, cut, listed⟩ := list
  exact ⟨h, pay, header, by simpa [guard] using op, cut, listed⟩

/-- A slot fits its byte: the payload is at most 252 bytes. -/
theorem greadIds_length {frame : FrameBytes} {ids : List UInt8} (list : greadIds frame = some ids) :
    ids.length ≤ 252 := by
  obtain ⟨h, pay, -, -, cut, listed⟩ := greadIds_cases list
  have short := listedIds_length listed
  have bound := h.len.toNat_lt
  rw [FrameBytes.sub_len cut, Header.payloadLen] at short
  omega

theorem decode_listed {frame : FrameBytes} {ids : List UInt8} {k : Nat} {id : UInt8}
    (list : greadIds frame = some ids) (distinct : ids.Nodup) (listed : ids[k]? = some id) :
    ∃ req, decode frame id = .own req true (UInt8.ofNat k) := by
  obtain ⟨h, pay, header, op, cut, payload⟩ := greadIds_cases list
  have instruction : h.inst.isStatus = false := by
    cases status : h.inst.isStatus with
    | false => rfl
    | true => simp [Inst.opcode, status] at op
  simp only [decode, header, instruction, op, cut]
  exact gread_listed payload distinct listed

end OpenServo.Bus
