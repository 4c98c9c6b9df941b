import OpenServo.Bus.Answers
import OpenServo.Bus.Seam
import OpenServo.Host.Shape
import OpenServo.Protocol.Formats

set_option autoImplicit false

namespace OpenServo.Host

open OpenServo.Bus OpenServo.Core OpenServo.Protocol OpenServo.Shared

section Guards

variable {A B : Type} {reason : InvalidReason}

theorem bind_ok {x : Except InvalidReason A} {f : A → Except InvalidReason B} {b : B} :
    (x >>= f) = .ok b ↔ ∃ a, x = .ok a ∧ f a = .ok b := by
  cases x <;> simp [bind, Except.bind]

theorem pure_ok {a b : A} : (pure a : Except InvalidReason A) = .ok b ↔ a = b := by
  simp [pure, Except.pure]

theorem parsed_ok {x : Option A} {a : A} : parsed x = .ok a ↔ x = some a := by
  cases x <;> simp [parsed]

end Guards

section Flat

variable (inst : Inst) (broadcast : Bool) (pay : FrameBytes)

theorem gread_flat : gread inst pay.flat = gread inst pay := by
  simp only [gread]
  cases inst.profile <;> cases inst.perTarget
  next =>
    simp only [GreadUniform.parse_flat]
    cases GreadUniform.parse pay with
    | none => rfl
    | some g => simp [parsed, GreadUniform.flat]
  next =>
    simp only [GreadPerTarget.parse_flat]
    cases GreadPerTarget.parse pay with
    | none => rfl
    | some entries => simp [parsed, GreadPerTarget.iter_flat]
  next =>
    simp only [GreadProfileUniform.parse_flat]
    cases GreadProfileUniform.parse pay with
    | none => rfl
    | some g => simp [parsed, GreadProfileUniform.flat]
  next =>
    simp only [GreadProfilePerTarget.parse_flat]
    cases GreadProfilePerTarget.parse pay with
    | none => rfl
    | some entries => simp [parsed, GreadProfilePerTarget.iter_flat]

theorem mgmt_flat : mgmt pay.flat broadcast = mgmt pay broadcast := by
  simp only [mgmt, MgmtReq.parse_flat]
  cases MgmtReq.parse pay with
  | none => rfl
  | some m =>
    obtain ⟨op, args⟩ := m
    show ofMgmtOp ⟨op, args.flat⟩ broadcast = ofMgmtOp ⟨op, args⟩ broadcast
    cases op <;> simp only [ofMgmtOp, EnumReq.parse_flat, AssignReq.parse_flat, CalReq.parse_flat, FrameBytes.flat_len]

theorem ofOpcode_flat (op : Opcode) :
    Shape.ofOpcode op inst broadcast pay.flat = Shape.ofOpcode op inst broadcast pay := by
  cases op with
  | ping | commit => simp only [Shape.ofOpcode, FrameBytes.flat_len]
  | read => simp only [Shape.ofOpcode, ProfileReq.parse_flat, ReadReq.parse_flat]
  | write =>
    simp only [Shape.ofOpcode, WriteReq.parse_flat]
    cases WriteReq.parse pay <;> rfl
  | gread => exact gread_flat inst pay
  | gwrite =>
    simp only [Shape.ofOpcode, GwritePerTarget.parse_flat, GwriteUniform.parse_flat]
    cases GwritePerTarget.parse pay <;> cases GwriteUniform.parse pay <;> rfl
  | mgmt => exact mgmt_flat broadcast pay

end Flat

def ordinary : Request → Bool
  | .enumerate .. | .assign .. | .calibrate .. | .unsupported => false
  | _ => true

theorem ordinary_broadcast {req : Request} (kind : ordinary req = true) : answersBroadcast req = false := by
  cases req <;> first | rfl | cases kind

inductive Planned (broadcast : Bool) : Request → Shape → Prop where
  | plain {req : Request} {bare : Shape} (kind : ordinary req = true)
    (replies : bare.replies = if broadcast then .none else .single) (train : bare.train = none) :
      Planned broadcast req bare
  | enumerate {prefixLen : UInt8} {prefixBits : List UInt8} {bare : Shape}
    (replies : bare.replies = if broadcast then .collect else .single) (train : bare.train = none) :
      Planned broadcast (.enumerate prefixLen prefixBits) bare
  | assign {uid : List UInt8} {newId : UInt8} {bare : Shape} (replies : bare.replies = .single)
    (train : bare.train = none) : Planned broadcast (.assign uid newId) bare
  | calibrate {gapUs : UInt16} {gaps : UInt8} {bare : Shape} (cast : broadcast = true)
    (replies : bare.replies = .none) (train : bare.train = some (gapUs, gaps)) :
      Planned broadcast (.calibrate gapUs gaps) bare

section Plans

variable {inst : Inst} {broadcast : Bool} {pay : FrameBytes} {bare : Shape}

theorem check_ok {A : Type} {p : Prop} [Decidable p] {reason : InvalidReason} {rest : Except InvalidReason A} {a : A} :
    (do if p then throw reason
        rest : Except InvalidReason A) = .ok a ↔ ¬ p ∧ rest = .ok a := by
  by_cases h : p <;> simp [h, throw, throwThe, MonadExceptOf.throw, bind, Except.bind]

theorem planned_mgmtOp {m : MgmtReq} (made : ofMgmtOp m broadcast = .ok bare) :
    Planned broadcast (mgmtRequest broadcast m) bare := by
  obtain ⟨op, args⟩ := m
  cases op with
  | enum =>
    simp only [ofMgmtOp, bind_ok, parsed_ok, pure_ok] at made
    obtain ⟨e, parsed, rfl⟩ := made
    simp only [mgmtRequest, parsed]
    exact .enumerate rfl rfl
  | assign =>
    simp only [ofMgmtOp, bind_ok, parsed_ok, pure_ok] at made
    obtain ⟨a, parsed, rfl⟩ := made
    simp only [mgmtRequest, parsed]
    exact .assign rfl rfl
  | cal =>
    simp only [ofMgmtOp, bind_ok, parsed_ok] at made
    obtain ⟨c, parsed, made⟩ := made
    cases broadcast with
    | false => cases made
    | true =>
      obtain rfl := pure_ok.mp made
      simp only [mgmtRequest, parsed]
      exact .calibrate rfl rfl rfl
  | save | factory =>
    simp only [ofMgmtOp] at made
    obtain ⟨-, made⟩ := check_ok.mp made
    obtain rfl := pure_ok.mp made
    exact .plain rfl rfl rfl
  | reboot =>
    obtain rfl := pure_ok.mp made
    exact .plain rfl rfl rfl

theorem planned {op : Opcode} (addressed : op ≠ .gread ∧ op ≠ .gwrite)
    (made : Shape.ofOpcode op inst broadcast pay = .ok bare) :
    Planned broadcast (plainRequest op inst broadcast pay) bare := by
  cases op with
  | ping | commit =>
    obtain ⟨-, made⟩ := check_ok.mp made
    obtain rfl := pure_ok.mp made
    exact .plain rfl rfl rfl
  | read =>
    simp only [Shape.ofOpcode] at made
    simp only [plainRequest]
    split at made
    next profile =>
      simp only [bind_ok, parsed_ok, pure_ok] at made
      obtain ⟨slot, parsed, rfl⟩ := made
      simp only [profile, if_true, parsed]
      exact .plain rfl rfl rfl
    next span =>
      simp only [bind_ok, parsed_ok, pure_ok] at made
      obtain ⟨r, parsed, rfl⟩ := made
      rw [if_neg span]
      simp only [parsed]
      exact .plain rfl rfl rfl
  | write =>
    simp only [Shape.ofOpcode, bind_ok, parsed_ok, pure_ok] at made
    obtain ⟨w, parsed, rfl⟩ := made
    simp only [plainRequest, parsed]
    exact .plain rfl rfl rfl
  | mgmt =>
    simp only [Shape.ofOpcode, mgmt, bind_ok, parsed_ok] at made
    obtain ⟨m, parsed, made⟩ := made
    simp only [plainRequest, parsed]
    exact planned_mgmtOp made
  | gread => exact absurd rfl addressed.1
  | gwrite => exact absurd rfl addressed.2

theorem enumerates_iff {op : Opcode} (made : Shape.ofOpcode op inst broadcast pay = .ok bare) :
    (∃ l b, plainRequest op inst broadcast pay = .enumerate l b) ↔
      op = .mgmt ∧ (Form.subArgs .enum pay).isSome = true := by
  cases op with
  | ping | commit | gread | gwrite => simp [plainRequest]
  | read =>
    simp only [plainRequest]
    split <;> split <;> simp
  | write =>
    simp only [plainRequest]
    split <;> simp
  | mgmt =>
    simp only [Shape.ofOpcode, mgmt, bind_ok, parsed_ok] at made
    obtain ⟨⟨op, args⟩, parsed, made⟩ := made
    simp only [plainRequest, Form.subArgs, parsed, Option.bind_eq_bind, Option.bind_some, true_and]
    cases op with
    | enum =>
      simp only [ofMgmtOp, bind_ok, parsed_ok] at made
      obtain ⟨e, inside, -⟩ := made
      simp [mgmtRequest, inside, guard]
    | assign =>
      simp only [mgmtRequest]
      split <;> simp [guard]
    | cal =>
      simp only [mgmtRequest]
      split
      next => split <;> simp [guard]
      next => simp [guard]
    | save | factory | reboot => simp [mgmtRequest, guard]

theorem planned_gread (made : gread inst pay = .ok bare) :
    ∃ ids, listedIds inst pay = some ids ∧ ids ≠ [] ∧ bare.replies = .chain (UInt8.ofNat ids.length) ∧
      bare.train = none := by
  simp only [gread] at made
  simp only [listedIds]
  cases profile : inst.profile <;> cases target : inst.perTarget <;>
    simp only [profile, target, bind_ok, parsed_ok, pure_ok] at made ⊢
  next =>
    obtain ⟨g, parsed, _, rfl, rfl⟩ := made
    refine ⟨_, by rw [parsed, Option.map_some], ?_, rfl, rfl⟩
    have valid :=
      ((greadUniform_reads.parse_iff pay trivial (g.addr, g.count, g.ids.bytes)).mp (by rw [parsed]; rfl)).2.1
    exact valid
  next =>
    obtain ⟨entries, parsed, _, rfl, rfl⟩ := made
    refine ⟨_, by rw [parsed, Option.map_some], ?_, by rw [List.length_map], rfl⟩
    have valid := ((greadTargets.reads.parse_iff pay trivial (GreadPerTarget.iter entries)).mp
      (show (GreadPerTarget.parse pay).map _ = _ by rw [parsed]; rfl)).2.1
    simpa using valid.1
  next =>
    obtain ⟨g, parsed, _, rfl, rfl⟩ := made
    refine ⟨_, by rw [parsed, Option.map_some], ?_, rfl, rfl⟩
    have valid := ((greadProfileUniform_reads.parse_iff pay trivial (g.slot, g.ids.bytes)).mp (by rw [parsed]; rfl)).2.1
    exact valid
  next =>
    obtain ⟨entries, parsed, _, rfl, rfl⟩ := made
    refine ⟨_, by rw [parsed, Option.map_some], ?_, by rw [List.length_map], rfl⟩
    have valid := ((greadProfileTargets.reads.parse_iff pay trivial (GreadProfilePerTarget.iter entries)).mp
      (show (GreadProfilePerTarget.parse pay).map _ = _ by rw [parsed]; rfl)).2.1
    simpa using valid.1

end Plans

def BroadcastEnum (id : UInt8) (inst : Inst) (payload : List UInt8) : Prop :=
  isBroadcast id = true ∧ inst.opcode = some .mgmt ∧ (Form.subArgs .enum (.ofList payload)).isSome = true

structure InSlots (view : FrameBytes) (ids : List UInt8) : Prop where
  each : ∀ k own, ids[k]? = some own → ∀ s store, Answers view own s store (UInt8.ofNat k)
  only : ∀ own s store slot, Answers view own s store slot → own ∈ ids

/-- What the servos make of an instruction, against what the host expects of it. -/
structure Agrees (id : UInt8) (inst : Inst) (payload : List UInt8) (shape : Shape) (view : FrameBytes) : Prop where
  supported : ∀ own mayReply slot, decode view own ≠ .own .unsupported mayReply slot
  none : shape.replies = .none ↔ ∀ own s store slot, ¬ Answers view own s store slot
  single : shape.replies = .single ↔
    inst.opcode ≠ some .gread ∧ ¬ BroadcastEnum id inst payload ∧
      (∃ own s store slot, Answers view own s store slot) ∧
      ∀ own s store slot, Answers view own s store slot →
        slot = 0 ∧ (own = id ∨ ∃ newId, decode view own = .own (.assign s.uid newId) true 0)
  chain : ∀ n, (shape.replies = .chain n ∧ ∃ ids, greadIds view = some ids ∧ ids.Nodup) ↔
    ∃ ids, greadIds view = some ids ∧ ids.length = n.toNat ∧ InSlots view ids
  collect : shape.replies = .collect ↔ BroadcastEnum id inst payload ∧ inst.noreply = false
  train : ∀ own gapUs gaps, shape.train = some (gapUs, gaps) ↔
    ∃ mayReply slot, decode view own = .own (.calibrate gapUs gaps) mayReply slot

def arm (op : Opcode) (inst : Inst) (id : UInt8) (pay : FrameBytes) (own : UInt8) : Decoded :=
  match op with
  | .gread => Bus.gread inst pay own
  | .gwrite => Bus.gwrite inst pay own
  | _ => Bus.plain op inst id pay own

section Arrival

variable {id : UInt8} {inst : Inst} {payload : List UInt8} {op : Opcode} {bare : Shape} {view : FrameBytes}

theorem Shape.Accepts.arrives (accepts : Shape.Accepts id inst payload op bare) {buf : FrameBuf 264}
    (sent : view.bytes = Shape.txFrame buf id inst payload) :
    ∃ (len : UInt8) (pay : FrameBytes), pay.bytes = payload ∧
      headerOf view = some ⟨alignByte, id, len, inst⟩ ∧
      view.sub Header.size (Header.mk alignByte id len inst).payloadLen = some pay := by
  have short := accepts.short
  have room : payload.length ≤ 252 := short
  rw [Shape.txFrame, FrameBuf.sealFrame_eq buf id inst payload short (by omega)] at sent
  have size : (UInt8.ofNat (lenFor payload.length)).toNat = 3 + payload.length := Nat.mod_eq_of_lt (by
    simp only [lenFor]
    omega)
  have inside : 4 ≤ view.len := by
    rw [← FrameBytes.length_bytes, sent]
    simp [FrameBuf.layout]
  obtain ⟨pay, cut, bytes⟩ := @FrameBytes.exists_sub view 4 payload
    (u16ToLe (oscCrc (FrameBuf.layout id inst payload))) inside (by rw [sent]; rfl)
  refine ⟨UInt8.ofNat (lenFor payload.length), pay, bytes, ?_, ?_⟩
  next =>
    simp only [headerOf, FrameBytes.u8At_eq, sent]
    rfl
  next =>
    have length : Header.payloadLen ⟨alignByte, id, UInt8.ofNat (lenFor payload.length), inst⟩ = payload.length := by
      simp only [Header.payloadLen, size]
      omega
    rw [length]
    exact cut

theorem Shape.Accepts.opens (accepts : Shape.Accepts id inst payload op bare) {buf : FrameBuf 264}
    (sent : view.bytes = Shape.txFrame buf id inst payload) :
    ∃ pay : FrameBytes, pay.flat = .ofList payload ∧
      (∀ own, decode view own = arm op inst id pay own) ∧
      greadIds view = if op = .gread then listedIds inst pay else none := by
  obtain ⟨len, pay, bytes, header, cut⟩ := accepts.arrives sent
  refine ⟨pay, by rw [FrameBytes.flat, bytes], ?_, ?_⟩
  next =>
    intro own
    simp only [decode, header, accepts.instruction, accepts.opcode, cut]
    exact if_neg Bool.false_ne_true
  next =>
    simp only [greadIds, header, cut, accepts.opcode, Option.bind_eq_bind, Option.bind_some, Option.some.injEq]
    split
    next listed => simp [guard, listed]
    next other => simp [guard, other]

end Arrival

theorem noreply_train (inst : Inst) (bare : Shape) : (bare.noreply inst).train = bare.train := by
  unfold Shape.noreply
  split <;> rfl

theorem noreply_replies {inst : Inst} {bare : Shape} (single : ∀ n, bare.replies ≠ .chain n) :
    (bare.noreply inst).replies = if inst.noreply then .none else bare.replies := by
  unfold Shape.noreply
  split
  next silenced chain => exact absurd chain (single _)
  next silenced _ => rw [silenced]; rfl
  next loud => rw [loud]; rfl

theorem uidPrefixMatches_self (uid : List UInt8) (prefixLen : UInt8) : uidPrefixMatches uid prefixLen uid = true := by
  simp [uidPrefixMatches]

theorem exists_session (uid : List UInt8) : ∃ s : Session, s.uid = uid :=
  ⟨{ table := zeroStore _, uid := uid }, rfl⟩

inductive Outlook (id : UInt8) (inst : Inst) (payload : List UInt8) (shape : Shape) (view : FrameBytes) : Prop where
  | silent (replies : shape.replies = .none) (nobody : ∀ own s store slot, ¬ Answers view own s store slot)
    (muted : BroadcastEnum id inst payload → inst.noreply = true)
  | sole (replies : shape.replies = .single) (somebody : ∃ own s store slot, Answers view own s store slot)
    (only : ∀ own s store slot, Answers view own s store slot →
      slot = 0 ∧ (own = id ∨ ∃ newId, decode view own = .own (.assign s.uid newId) true 0))
    (other : ¬ BroadcastEnum id inst payload)
  | gather (replies : shape.replies = .collect) (somebody : ∃ own s store slot, Answers view own s store slot)
    (enum : BroadcastEnum id inst payload) (loud : inst.noreply = false)

section Plain

variable {id : UInt8} {inst : Inst} {payload : List UInt8} {op : Opcode} {bare : Shape} {view : FrameBytes}
  {req : Request}

/-- A plain instruction, as every servo it addresses takes it. -/
structure Taken (id : UInt8) (inst : Inst) (view : FrameBytes) (req : Request) : Prop where
  own : ∀ own, addresses id own = true →
    decode view own = .own req (!inst.noreply && (!isBroadcast id || answersBroadcast req)) 0
  skip : ∀ own, addresses id own = false → decode view own = .skip

theorem Taken.answers_iff (taken : Taken id inst view req) (own : UInt8) (s : Session)
    (store : Option StoreAnswer) (slot : UInt8) :
    Answers view own s store slot ↔
      addresses id own = true ∧ inst.noreply = false ∧ (isBroadcast id = false ∨ answersBroadcast req = true) ∧
        slot = 0 ∧ elects s.uid req = true := by
  rw [Bus.answers_iff]
  cases reached : addresses id own with
  | false => simp [taken.skip own reached]
  | true =>
    rw [taken.own own reached]
    constructor
    next =>
      rintro ⟨_, mine, elected⟩
      simp only [Decoded.own.injEq, Bool.and_eq_true, Bool.not_eq_true', Bool.or_eq_true] at mine
      obtain ⟨rfl, ⟨loud, heard⟩, rfl⟩ := mine
      exact ⟨rfl, loud, heard, rfl, elected⟩
    next =>
      rintro ⟨-, loud, heard, rfl, elected⟩
      refine ⟨req, ?_, elected⟩
      simp only [Decoded.own.injEq, Bool.and_eq_true, Bool.not_eq_true', Bool.or_eq_true]
      exact ⟨trivial, ⟨loud, heard⟩, trivial⟩

theorem addresses_self (id : UInt8) : addresses id id = true := by
  simp [addresses]

theorem addresses_broadcast {id : UInt8} (cast : isBroadcast id = true) (own : UInt8) : addresses id own = true := by
  simp [addresses, cast]

theorem addresses_unicast {id own : UInt8} (uni : isBroadcast id = false) (reached : addresses id own = true) :
    own = id := by
  simp only [addresses, uni, Bool.false_or, beq_iff_eq] at reached
  exact reached.symm

theorem Taken.outlook (taken : Taken id inst view req) (plan : Planned (isBroadcast id) req bare)
    (enum : BroadcastEnum id inst payload ↔ isBroadcast id = true ∧ ∃ l b, req = .enumerate l b) :
    Outlook id inst payload (bare.noreply inst) view := by
  -- Under NOREPLY no servo answers and the host waits for none.
  cases quiet : inst.noreply with
  | true =>
    refine .silent ?_ (fun own s store slot answers => ?_) fun _ => quiet
    next =>
      rw [noreply_replies, quiet, if_pos rfl]
      intro n
      cases plan with
      | plain _ replies => rw [replies]; split <;> simp
      | enumerate replies => rw [replies]; split <;> simp
      | assign replies | calibrate _ replies => rw [replies]; simp
    next =>
      have loud := ((taken.answers_iff own s store slot).mp answers).2.1
      rw [quiet] at loud
      cases loud
  | false =>
    have keeps : bare.noreply inst = bare := by
      unfold Shape.noreply
      rw [quiet]
    have sole (uid : List UInt8) (heard : isBroadcast id = false ∨ answersBroadcast req = true)
        (elected : elects uid req = true) : ∃ own s store slot, Answers view own s store slot := by
      obtain ⟨s, rfl⟩ := exists_session uid
      exact ⟨id, s, none, 0, (taken.answers_iff _ _ _ _).mpr ⟨addresses_self id, quiet, heard, rfl, elected⟩⟩
    have unicast (uni : isBroadcast id = false) (own : UInt8) (s : Session) (store : Option StoreAnswer) (slot : UInt8)
        (answers : Answers view own s store slot) :
        slot = 0 ∧ (own = id ∨ ∃ newId, decode view own = .own (.assign s.uid newId) true 0) := by
      obtain ⟨reached, -, -, first, -⟩ := (taken.answers_iff own s store slot).mp answers
      exact ⟨first, .inl (addresses_unicast uni reached)⟩
    rw [keeps]
    cases plan with
    | plain kind replies =>
      cases cast : isBroadcast id with
      | true =>
        refine .silent (by rw [replies, cast]; rfl) (fun own s store slot answers => ?_) fun broad => ?_
        next =>
          obtain ⟨-, -, heard, -⟩ := (taken.answers_iff own s store slot).mp answers
          rw [cast, ordinary_broadcast kind] at heard
          exact absurd heard (by decide)
        next =>
          obtain ⟨-, l, b, rfl⟩ := enum.mp broad
          cases kind
      | false =>
        have elected : elects [] req = true := by
          cases req <;> first | rfl | cases kind
        refine .sole (by rw [replies, cast]; rfl) (sole [] (.inl cast) elected) (unicast cast) fun broad => ?_
        rw [(enum.mp broad).1] at cast
        cases cast
    | @enumerate prefixLen prefixBits _ replies =>
      have somebody := sole prefixBits (.inr rfl) (uidPrefixMatches_self prefixBits prefixLen)
      cases cast : isBroadcast id with
      | true => exact .gather (by rw [replies, cast]; rfl) somebody (enum.mpr ⟨cast, _, _, rfl⟩) quiet
      | false =>
        refine .sole (by rw [replies, cast]; rfl) somebody (unicast cast) fun broad => ?_
        rw [(enum.mp broad).1] at cast
        cases cast
    | @assign uid newId _ replies =>
      refine .sole replies (sole uid (.inr rfl) (beq_self_eq_true uid)) (fun own s store slot answers => ?_)
        fun broad => ?_
      next =>
        obtain ⟨reached, -, -, rfl, elected⟩ := (taken.answers_iff own s store slot).mp answers
        have same : uid = s.uid := eq_of_beq elected
        refine ⟨rfl, .inr ⟨newId, ?_⟩⟩
        rw [taken.own own reached, same, quiet]
        simp [answersBroadcast]
      next =>
        obtain ⟨-, l, b, other⟩ := enum.mp broad
        cases other
    | calibrate cast replies =>
      refine .silent replies (fun own s store slot answers => ?_) fun broad => ?_
      next =>
        obtain ⟨-, -, -, -, elected⟩ := (taken.answers_iff own s store slot).mp answers
        cases elected
      next =>
        obtain ⟨-, l, b, other⟩ := enum.mp broad
        cases other

end Plain

section Families

variable {id : UInt8} {inst : Inst} {payload : List UInt8} {op : Opcode} {bare : Shape} {view : FrameBytes}
  {shape : Shape}

theorem Outlook.agrees (outlook : Outlook id inst payload shape view) (other : inst.opcode ≠ some .gread)
    (unlisted : greadIds view = none)
    (supported : ∀ own mayReply slot, decode view own ≠ .own .unsupported mayReply slot)
    (train : ∀ own gapUs gaps, shape.train = some (gapUs, gaps) ↔
      ∃ mayReply slot, decode view own = .own (.calibrate gapUs gaps) mayReply slot) :
    Agrees id inst payload shape view := by
  have chain (n : UInt8) : (shape.replies = .chain n ∧ ∃ ids, greadIds view = some ids ∧ ids.Nodup) ↔
      ∃ ids, greadIds view = some ids ∧ ids.length = n.toNat ∧ InSlots view ids := by
    simp [unlisted]
  cases outlook with
  | silent replies nobody muted =>
    refine ⟨supported, iff_of_true replies nobody, iff_of_false (by rw [replies]; simp) ?_, chain,
      iff_of_false (by rw [replies]; simp) ?_, train⟩
    next =>
      rintro ⟨-, -, ⟨own, s, store, slot, answers⟩, -⟩
      exact nobody own s store slot answers
    next =>
      rintro ⟨broad, loud⟩
      rw [muted broad] at loud
      cases loud
  | sole replies somebody only narrow =>
    obtain ⟨own, s, store, slot, answers⟩ := somebody
    exact ⟨supported, iff_of_false (by rw [replies]; simp) fun nobody => nobody own s store slot answers,
      iff_of_true replies ⟨other, narrow, ⟨own, s, store, slot, answers⟩, only⟩, chain,
      iff_of_false (by rw [replies]; simp) fun both => narrow both.1, train⟩
  | gather replies somebody broad loud =>
    obtain ⟨own, s, store, slot, answers⟩ := somebody
    exact ⟨supported, iff_of_false (by rw [replies]; simp) fun nobody => nobody own s store slot answers,
      iff_of_false (by rw [replies]; simp) fun right => right.2.1 broad, chain, iff_of_true replies ⟨broad, loud⟩,
      train⟩

theorem gwrite_own {pay : FrameBytes} {own : UInt8} {req : Request} {mayReply : Bool} {slot : UInt8}
    (mine : Bus.gwrite inst pay own = .own req mayReply slot) :
    mayReply = false ∧ ∃ addr data hold, req = .write addr data hold := by
  unfold Bus.gwrite at mine
  split at mine
  next =>
    split at mine
    next =>
      cases mine
      exact ⟨rfl, _, _, _, rfl⟩
    next => cases mine
  next =>
    split at mine
    next =>
      split at mine
      next =>
        cases mine
        exact ⟨rfl, _, _, _, rfl⟩
      next => cases mine
    next => cases mine

theorem gwrite_agrees {pay : FrameBytes} (made : Shape.ofOpcode .gwrite inst (isBroadcast id) pay = .ok bare)
    (code : inst.opcode = some .gwrite) (opens : ∀ own, decode view own = arm .gwrite inst id pay own)
    (unlisted : greadIds view = none) : Agrees id inst payload (bare.noreply inst) view := by
  obtain rfl : Shape.silent = bare := by
    simp only [Shape.ofOpcode] at made
    split at made
    all_goals
      simp only [bind_ok, pure_ok] at made
      obtain ⟨_, _, rfl⟩ := made
      rfl
  have silent : (Shape.silent.noreply inst).replies = .none := by
    rw [noreply_replies (by simp [Shape.silent])]
    split <;> rfl
  refine Outlook.agrees (.silent silent (fun own s store slot answers => ?_) fun broad => ?_)
    (by rw [code]; simp) unlisted (fun own mayReply slot mine => ?_) fun own gapUs gaps => ?_
  next =>
    obtain ⟨req, mine, -⟩ := answers_iff.mp answers
    have reply := (gwrite_own ((opens own).symm.trans mine)).1
    cases reply
  next =>
    have mgmt := broad.2.1
    rw [code] at mgmt
    cases mgmt
  next =>
    obtain ⟨-, _, _, _, write⟩ := gwrite_own ((opens own).symm.trans mine)
    cases write
  next =>
    refine iff_of_false (by rw [noreply_train]; simp [Shape.silent]) ?_
    rintro ⟨mayReply, slot, mine⟩
    obtain ⟨-, _, _, _, write⟩ := gwrite_own ((opens own).symm.trans mine)
    cases write

theorem gread_agrees {pay : FrameBytes} (made : Shape.ofOpcode .gread inst (isBroadcast id) pay = .ok bare)
    (code : inst.opcode = some .gread) (opens : ∀ own, decode view own = arm .gread inst id pay own)
    (listed : greadIds view = listedIds inst pay) : Agrees id inst payload (bare.noreply inst) view := by
  obtain ⟨ids, list, nonempty, replies, train⟩ := planned_gread made
  rw [list] at listed
  have small := greadIds_length listed
  have keeps : bare.noreply inst = bare := by
    unfold Shape.noreply
    rw [replies]
    split <;> rfl
  have takes (own : UInt8) (member : own ∈ ids) (s : Session) (store : Option StoreAnswer) :
      ∃ slot, Answers view own s store slot := by
    obtain ⟨req, slot, mine⟩ := gread_of_mem list member
    refine ⟨slot, answers_iff.mpr ⟨req, (opens own).trans mine, ?_⟩⟩
    have kind := (gread_own mine).2.1
    cases req <;> first | rfl | cases kind
  have only (own : UInt8) (s : Session) (store : Option StoreAnswer) (slot : UInt8)
      (answers : Answers view own s store slot) : own ∈ ids := by
    obtain ⟨req, mine, -⟩ := answers_iff.mp answers
    obtain ⟨-, -, ids', list', member⟩ := gread_own ((opens own).symm.trans mine)
    rw [list] at list'
    exact Option.some.inj list' ▸ member
  obtain ⟨first, rest, cons⟩ := List.exists_cons_of_ne_nil nonempty
  obtain ⟨s, -⟩ := exists_session []
  have somebody : ∃ slot, Answers view first s none slot := takes first (by rw [cons]; exact List.mem_cons_self) s none
  have foreign (broad : BroadcastEnum id inst payload) : False := by
    have mgmt := broad.2.1
    rw [code] at mgmt
    cases mgmt
  rw [keeps]
  refine ⟨fun own mayReply slot mine => ?_, iff_of_false (by rw [replies]; simp) ?_,
    iff_of_false (by rw [replies]; simp) fun right => right.1 code, fun n => ?_,
    iff_of_false (by rw [replies]; simp) fun both => foreign both.1, fun own gapUs gaps => ?_⟩
  next =>
    have kind := (gread_own ((opens own).symm.trans mine)).2.1
    cases kind
  next =>
    obtain ⟨slot, answers⟩ := somebody
    exact fun nobody => nobody first s none slot answers
  next =>
    constructor
    next =>
      rintro ⟨chain, ids', listed', distinct⟩
      obtain rfl := Option.some.inj (listed.symm.trans listed')
      have count : UInt8.ofNat ids.length = n := by
        rw [replies] at chain
        exact Replies.chain.inj chain
      refine ⟨ids, listed, ?_, ⟨fun k own here s store => ?_, only⟩⟩
      next => rw [← count, UInt8.toNat_ofNat', Nat.mod_eq_of_lt (by omega)]
      next =>
        obtain ⟨req, mine⟩ := gread_listed list distinct here
        have kind := (gread_own mine).2.1
        refine answers_iff.mpr ⟨req, (opens own).trans mine, ?_⟩
        cases req <;> first | rfl | cases kind
    next =>
      rintro ⟨ids', listed', count, slots⟩
      obtain rfl := Option.some.inj (listed.symm.trans listed')
      refine ⟨?_, ids, listed, ?_⟩
      next =>
        rw [replies, count, UInt8.ofNat_toNat]
      next =>
        -- A servo answers from one place only.
        rw [List.nodup_iff_injective_get]
        intro j k same
        have here (i : Fin ids.length) : ids[i.val]? = some (ids.get i) := by simp
        obtain ⟨req, mine, -⟩ := answers_iff.mp (slots.each j _ (here j) s none)
        obtain ⟨req', mine', -⟩ := answers_iff.mp (slots.each k _ (here k) s none)
        rw [same, mine'] at mine
        have place : UInt8.ofNat k.val = UInt8.ofNat j.val := (Decoded.own.inj mine).2.2
        have numbers := congrArg UInt8.toNat place
        rw [UInt8.toNat_ofNat', UInt8.toNat_ofNat', Nat.mod_eq_of_lt (by omega), Nat.mod_eq_of_lt (by omega)] at numbers
        exact Fin.ext numbers.symm
  next =>
    refine iff_of_false (by rw [train]; simp) ?_
    rintro ⟨mayReply, slot, mine⟩
    have kind := (gread_own ((opens own).symm.trans mine)).2.1
    cases kind

theorem subArgs_flat (op : MgmtOp) (pay : FrameBytes) :
    (Form.subArgs op pay.flat).isSome = (Form.subArgs op pay).isSome := by
  simp only [Form.subArgs, MgmtReq.parse_flat, Option.bind_eq_bind, Option.bind_map]
  cases MgmtReq.parse pay with
  | none => rfl
  | some m =>
    simp only [Option.bind_some, Function.comp_apply, MgmtReq.flat]
    by_cases same : m.op = op <;> simp [guard, same]

theorem plain_agrees {pay : FrameBytes} (addressed : op ≠ .gread ∧ op ≠ .gwrite)
    (made : Shape.ofOpcode op inst (isBroadcast id) pay = .ok bare) (code : inst.opcode = some op)
    (whole : pay.flat = .ofList payload) (opens : ∀ own, decode view own = Bus.plain op inst id pay own)
    (unlisted : greadIds view = none) : Agrees id inst payload (bare.noreply inst) view := by
  have plan := planned addressed made
  have taken : Taken id inst view (plainRequest op inst (isBroadcast id) pay) := by
    constructor
    next =>
      intro own reached
      rw [opens own]
      simp only [Bus.plain, reached, Bool.not_true, Bool.false_eq_true, if_false]
    next =>
      intro own away
      rw [opens own]
      simp only [Bus.plain, away, Bool.not_false, if_true]
  have enum : BroadcastEnum id inst payload ↔
      isBroadcast id = true ∧ ∃ l b, plainRequest op inst (isBroadcast id) pay = .enumerate l b := by
    rw [enumerates_iff made, BroadcastEnum, code, Option.some.injEq, ← whole, subArgs_flat]
  have request (own : UInt8) {req : Request} {mayReply : Bool} {slot : UInt8}
      (mine : decode view own = .own req mayReply slot) : plainRequest op inst (isBroadcast id) pay = req := by
    cases reached : addresses id own with
    | false => rw [taken.skip own reached] at mine; cases mine
    | true => rw [taken.own own reached] at mine; exact (Decoded.own.inj mine).1
  refine (taken.outlook plan enum).agrees (by rw [code]; simpa using addressed.1) unlisted
    (fun own mayReply slot mine => ?_) fun own gapUs gaps => ?_
  next =>
    rw [request own mine] at plan
    cases plan with
    | plain kind => cases kind
  next =>
    rw [noreply_train]
    constructor
    next =>
      intro train
      generalize plainRequest op inst (isBroadcast id) pay = req at plan taken
      cases plan with
      | plain _ _ none | enumerate _ none | assign _ none => rw [none] at train; cases train
      | calibrate cast _ planned =>
        obtain ⟨rfl, rfl⟩ := Prod.mk.inj (Option.some.inj (planned.symm.trans train))
        exact ⟨_, _, taken.own own (addresses_broadcast cast own)⟩
    next =>
      rintro ⟨mayReply, slot, mine⟩
      rw [request own mine] at plan
      cases plan with
      | plain kind => cases kind
      | calibrate _ _ train => exact train

end Families

/-- What the host lets through no servo finds unsupported, and just the servos the host waits for answer it, each from
the slot the host expects it in. -/
theorem derive_agrees {id : UInt8} {inst : Inst} {payload : List UInt8} {shape : Shape}
    (accepted : Shape.derive id inst payload = .ok shape) (buf : FrameBuf 264) {view : FrameBytes}
    (sent : view.bytes = Shape.txFrame buf id inst payload) : Agrees id inst payload shape view := by
  obtain ⟨op, bare, accepts, rfl⟩ := Shape.derive_cases accepted
  obtain ⟨pay, whole, opens, listed⟩ := accepts.opens sent
  have made := accepts.shaped
  rw [← whole, ofOpcode_flat] at made
  have code := accepts.opcode
  cases op with
  | gread => exact gread_agrees made code opens (by rw [listed, if_pos rfl])
  | gwrite => exact gwrite_agrees made code opens (by rw [listed, if_neg (by decide)])
  | ping | read | write | commit | mgmt =>
    exact plain_agrees (by decide) made code whole opens (by rw [listed, if_neg (by decide)])

/-- A GREAD of four bytes from servos 5 and 9. -/
theorem derive_agrees_gread :
    Shape.derive 0xFE 0x50 [0, 0, 4, 0, 5, 9] = .ok ⟨.chain 2, readReply 4, none, false⟩ ∧
      Agrees 0xFE 0x50 [0, 0, 4, 0, 5, 9] ⟨.chain 2, readReply 4, none, false⟩
        (.ofList (Shape.txFrame (FrameBuf.new 264) 0xFE 0x50 [0, 0, 4, 0, 5, 9])) :=
  ⟨by decide, derive_agrees (by decide) (FrameBuf.new 264) (FrameBytes.bytes_ofList _)⟩

/-- An ENUM to everybody under NOREPLY is not collected. A GREAD of one servo, sent to its id, is answered by that
servo alone, and is a chain of one all the same. -/
theorem muted_enum_not_collected :
    (∃ shape, Shape.derive 0xFE 0x74 [0x01, 0] = .ok shape ∧ BroadcastEnum 0xFE 0x74 [0x01, 0] ∧
      shape.replies ≠ .collect) ∧
      ∃ shape view, Shape.derive 5 0x50 [0, 0, 4, 0, 5] = .ok shape ∧ shape.replies ≠ .single ∧
        view.bytes = Shape.txFrame (FrameBuf.new 264) 5 0x50 [0, 0, 4, 0, 5] ∧
        (∃ own s store slot, Answers view own s store slot) ∧
        ∀ own s store slot, Answers view own s store slot → slot = 0 ∧ own = 5 := by
  constructor
  next => exact ⟨⟨.none, enumReply, none, false⟩, by decide, ⟨by decide, by decide, by decide⟩, by decide⟩
  next =>
    let view : FrameBytes := .ofList (FrameBuf.layout 5 0x50 [0, 0, 4, 0, 5] ++
      u16ToLe (oscCrc (FrameBuf.layout 5 0x50 [0, 0, 4, 0, 5])))
    have sent : view.bytes = Shape.txFrame (FrameBuf.new 264) 5 0x50 [0, 0, 4, 0, 5] :=
      (FrameBuf.sealFrame_eq (FrameBuf.new 264) 5 0x50 [0, 0, 4, 0, 5] (by decide) (by decide)).symm
    have opens (own : UInt8) : decode view own = Bus.gread 0x50 (.ofList [0, 0, 4, 0, 5]) own := rfl
    have taken : decode view 5 = .own (.read 0 4) true 0 := by
      rw [opens]
      decide
    obtain ⟨s, -⟩ := exists_session []
    refine ⟨⟨.chain 1, readReply 4, none, false⟩, view, by decide, by decide, sent,
      ⟨5, s, none, 0, answers_iff.mpr ⟨_, taken, rfl⟩⟩, ?_⟩
    intro own s store slot answers
    obtain ⟨req, mine, -⟩ := answers_iff.mp answers
    obtain ⟨-, -, ids, listed, member⟩ := gread_own ((opens own).symm.trans mine)
    have list : listedIds 0x50 (.ofList [0, 0, 4, 0, 5]) = some [5] := by decide
    obtain rfl := Option.some.inj (list.symm.trans listed)
    obtain rfl := List.mem_singleton.mp member
    rw [taken] at mine
    exact ⟨(Decoded.own.inj mine).2.2.symm, rfl⟩

end OpenServo.Host
