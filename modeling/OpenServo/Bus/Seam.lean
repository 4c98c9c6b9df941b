import OpenServo.Bus.FrameView
import OpenServo.Protocol.Seam

set_option autoImplicit false

namespace OpenServo.Core

open OpenServo.Protocol

def Request.flat : Request → Request
  | .write addr data hold => .write addr data.flat hold
  | .mgmt op args => .mgmt op args.flat
  | req => req

end OpenServo.Core

namespace OpenServo.Bus

open OpenServo.Core OpenServo.Protocol OpenServo.Shared

def Decoded.flat : Decoded → Decoded
  | .own req mayReply slot => .own req.flat mayReply slot
  | decoded => decoded

section Seam

variable (inst : Inst) (pay : FrameBytes) (own : UInt8)

theorem mgmtRequest_flat (broadcast : Bool) (m : MgmtReq) :
    mgmtRequest broadcast m.flat = (mgmtRequest broadcast m).flat := by
  obtain ⟨op, args⟩ := m
  cases op with
  | enum =>
    simp only [mgmtRequest, MgmtReq.flat, EnumReq.parse_flat]
    cases EnumReq.parse args <;> rfl
  | assign =>
    simp only [mgmtRequest, MgmtReq.flat, AssignReq.parse_flat]
    cases AssignReq.parse args <;> rfl
  | cal =>
    simp only [mgmtRequest, MgmtReq.flat, CalReq.parse_flat]
    cases CalReq.parse args with
    | none => rfl
    | some c => cases broadcast <;> rfl
  | _ => rfl

theorem plainRequest_flat (op : Opcode) (broadcast : Bool) :
    plainRequest op inst broadcast pay.flat = (plainRequest op inst broadcast pay).flat := by
  cases op with
  | read =>
    simp only [plainRequest, ProfileReq.parse_flat, ReadReq.parse_flat]
    split
    next => cases ProfileReq.parse pay <;> rfl
    next => cases ReadReq.parse pay <;> rfl
  | write =>
    simp only [plainRequest, WriteReq.parse_flat]
    cases WriteReq.parse pay <;> rfl
  | mgmt =>
    simp only [plainRequest, MgmtReq.parse_flat]
    cases MgmtReq.parse pay with
    | none => rfl
    | some m => exact mgmtRequest_flat broadcast m
  | _ => rfl

theorem answersBroadcast_flat (req : Request) : answersBroadcast req.flat = answersBroadcast req := by
  cases req <;> rfl

theorem plain_flat (op : Opcode) (frameId : UInt8) :
    plain op inst frameId pay.flat own = (plain op inst frameId pay own).flat := by
  simp only [plain, plainRequest_flat, answersBroadcast_flat]
  split <;> rfl

theorem gread_flat : gread inst pay.flat own = (gread inst pay own).flat := by
  simp only [gread]
  cases inst.profile <;> cases inst.perTarget
  next =>
    simp only [GreadUniform.parse_flat]
    cases GreadUniform.parse pay with
    | none => rfl
    | some g =>
      simp only [Option.map_some, GreadUniform.flat, slotOf_flat]
      cases slotOf g.ids own <;> rfl
  next =>
    simp only [GreadPerTarget.parse_flat, Option.bind_map, Function.comp_def, GreadPerTarget.find_flat]
    cases (GreadPerTarget.parse pay).bind (GreadPerTarget.find · own) <;> rfl
  next =>
    simp only [GreadProfileUniform.parse_flat]
    cases GreadProfileUniform.parse pay with
    | none => rfl
    | some g =>
      simp only [Option.map_some, GreadProfileUniform.flat, slotOf_flat]
      cases slotOf g.ids own <;> rfl
  next =>
    simp only [GreadProfilePerTarget.parse_flat, Option.bind_map, Function.comp_def,
      GreadProfilePerTarget.find_flat]
    cases (GreadProfilePerTarget.parse pay).bind (GreadProfilePerTarget.find · own) <;> rfl

theorem gwrite_flat : gwrite inst pay.flat own = (gwrite inst pay own).flat := by
  simp only [gwrite]
  split
  next =>
    simp only [GwritePerTarget.parse_flat]
    cases GwritePerTarget.parse pay with
    | none => rfl
    | some entries =>
      simp only [Option.map_some, Option.bind_some, GwritePerTarget.find_flat]
      cases GwritePerTarget.find entries own <;> rfl
  next =>
    simp only [GwriteUniform.parse_flat]
    cases GwriteUniform.parse pay with
    | none => rfl
    | some g =>
      simp only [Option.map_some, GwriteUniform.find_flat]
      cases g.find own <;> rfl

theorem headerOf_flat (frame : FrameBytes) : headerOf frame.flat = headerOf frame := by
  simp only [headerOf, FrameBytes.flat_u8At]

theorem decode_flat (frame : FrameBytes) (id : UInt8) : decode frame.flat id = (decode frame id).flat := by
  simp only [decode, headerOf_flat, FrameBytes.flat_sub]
  cases headerOf frame with
  | none => rfl
  | some h =>
    dsimp only
    split
    next => rfl
    next =>
      cases h.inst.opcode with
      | none => rfl
      | some op =>
        cases frame.sub Header.size h.payloadLen with
        | none => rfl
        | some pay =>
          cases op with
          | gread => exact gread_flat h.inst pay id
          | gwrite => exact gwrite_flat h.inst pay id
          | _ => exact plain_flat h.inst pay id _ h.id

end Seam

structure Seamless : Prop where
  read : Hides id ReadReq.parse
  profile : Hides id ProfileReq.parse
  write : Hides (Option.map WriteReq.flat) WriteReq.parse
  mgmt : Hides (Option.map MgmtReq.flat) MgmtReq.parse
  enum : Hides id EnumReq.parse
  assign : Hides id AssignReq.parse
  cal : Hides id CalReq.parse
  greadUniform : Hides (Option.map GreadUniform.flat) GreadUniform.parse
  greadUniformIds : Hides id fun pay => (GreadUniform.parse pay).map fun g => g.ids.bytes
  greadUniformSlot : ∀ own, Hides id fun pay => (GreadUniform.parse pay).bind fun g => slotOf g.ids own
  greadPerTarget : Hides (Option.map FrameBytes.flat) GreadPerTarget.parse
  greadPerTargetIter : Hides id GreadPerTarget.iter
  greadPerTargetFind : ∀ own, Hides id (GreadPerTarget.find · own)
  greadProfileUniform : Hides (Option.map GreadProfileUniform.flat) GreadProfileUniform.parse
  greadProfileUniformIds : Hides id fun pay => (GreadProfileUniform.parse pay).map fun g => g.ids.bytes
  greadProfileUniformSlot : ∀ own,
    Hides id fun pay => (GreadProfileUniform.parse pay).bind fun g => slotOf g.ids own
  greadProfilePerTarget : Hides (Option.map FrameBytes.flat) GreadProfilePerTarget.parse
  greadProfilePerTargetIter : Hides id GreadProfilePerTarget.iter
  greadProfilePerTargetFind : ∀ own, Hides id (GreadProfilePerTarget.find · own)
  gwriteUniform : Hides (Option.map GwriteUniform.flat) GwriteUniform.parse
  gwriteUniformIter : Hides (Option.map (List.map GwriteUniform.flatEntry))
    fun pay => (GwriteUniform.parse pay).map GwriteUniform.iter
  gwriteUniformFind : ∀ own, Hides (Option.map FrameBytes.flat)
    fun pay => (GwriteUniform.parse pay).bind (GwriteUniform.find · own)
  gwritePerTarget : Hides (Option.map FrameBytes.flat) GwritePerTarget.parse
  gwritePerTargetIter : Hides (List.map GwriteTarget.flat) GwritePerTarget.iter
  gwritePerTargetFind : ∀ own, Hides (Option.map GwriteTarget.flat) (GwritePerTarget.find · own)
  plain : ∀ op inst frameId own, Hides Decoded.flat (plain op inst frameId · own)
  gread : ∀ inst own, Hides Decoded.flat (gread inst · own)
  gwrite : ∀ inst own, Hides Decoded.flat (gwrite inst · own)
  decode : ∀ own, Hides Decoded.flat (decode · own)

/-- A frame decodes the same wherever the ring's seam cuts it. -/
theorem decoding_hides_seam :
    Seamless ∧
      ∀ ring anchor footprint own, anchor < ring.length → footprint ≤ ring.length →
        (decode (frameView ring anchor footprint) own).flat =
          decode (.ofList (around ring 0 anchor footprint)) own := by
  constructor
  next =>
    refine ⟨.of_flat ReadReq.parse_flat, .of_flat ProfileReq.parse_flat, .of_flat WriteReq.parse_flat,
      .of_flat MgmtReq.parse_flat, .of_flat EnumReq.parse_flat, .of_flat AssignReq.parse_flat,
      .of_flat CalReq.parse_flat, .of_flat GreadUniform.parse_flat, .of_flat ?_, fun own => .of_flat ?_,
      .of_flat GreadPerTarget.parse_flat, .of_flat GreadPerTarget.iter_flat,
      fun own => .of_flat (GreadPerTarget.find_flat · own), .of_flat GreadProfileUniform.parse_flat,
      .of_flat ?_, fun own => .of_flat ?_, .of_flat GreadProfilePerTarget.parse_flat,
      .of_flat GreadProfilePerTarget.iter_flat, fun own => .of_flat (GreadProfilePerTarget.find_flat · own),
      .of_flat GwriteUniform.parse_flat, .of_flat ?_, fun own => .of_flat ?_,
      .of_flat GwritePerTarget.parse_flat, .of_flat GwritePerTarget.iter_flat,
      fun own => .of_flat (GwritePerTarget.find_flat · own),
      fun op inst frameId own => .of_flat (plain_flat inst · own op frameId),
      fun inst own => .of_flat (gread_flat inst · own), fun inst own => .of_flat (gwrite_flat inst · own),
      fun own => .of_flat (decode_flat · own)⟩
    next =>
      intro view
      simp [GreadUniform.parse_flat, GreadUniform.flat, Function.comp_def]
    next =>
      intro view
      simp [GreadUniform.parse_flat, GreadUniform.flat, slotOf_flat, Option.bind_map, Function.comp_def]
    next =>
      intro view
      simp [GreadProfileUniform.parse_flat, GreadProfileUniform.flat, Function.comp_def]
    next =>
      intro view
      simp [GreadProfileUniform.parse_flat, GreadProfileUniform.flat, slotOf_flat, Option.bind_map, Function.comp_def]
    next =>
      intro view
      simp [GwriteUniform.parse_flat, GwriteUniform.iter_flat, Function.comp_def]
    next =>
      intro view
      simp [GwriteUniform.parse_flat, GwriteUniform.find_flat, Option.map_bind, Option.bind_map]
  next =>
    intro ring anchor footprint own inside fits
    rw [← decode_flat, FrameBytes.flat, frameView_bytes inside fits]

theorem decoding_hides_seam_ping :
    (6 < 8 ∧ 6 ≤ 8) ∧
      (decode (frameView [3, 0x10, 0xAA, 0xBB, 9, 9, 0, 7] 6 6) 7).flat =
        decode (.ofList [0, 7, 3, 0x10, 0xAA, 0xBB]) 7 :=
  ⟨by decide, decoding_hides_seam.2 [3, 0x10, 0xAA, 0xBB, 9, 9, 0, 7] 6 6 7 (by decide) (by decide)⟩

end OpenServo.Bus
