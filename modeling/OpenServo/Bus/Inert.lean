import OpenServo.Bus.Attribution
import OpenServo.Bus.Ladder

set_option autoImplicit false

namespace OpenServo.Bus

open OpenServo.Core OpenServo.Protocol OpenServo.Shared

theorem headerOf_inst {ring : List UInt8} {span : FrameSpan} {header : Header}
    (shape : RingShape ring.length) (candidate : Candidate ring span)
    (parsed : headerOf (frameView ring span.anchor span.footprint) = some header) :
    header.inst = ringInst ring span.anchor := by
  have large := shape.large
  have low := candidate.low
  have high := candidate.high
  simp only [headerOf, Option.bind_eq_bind, Option.bind_eq_some_iff, FrameBytes.u8At_eq,
    frameView_bytes candidate.inside (by omega : span.footprint ≤ ring.length)] at parsed
  obtain ⟨_, _, _, _, _, _, inst, here, made⟩ := parsed
  obtain rfl := Option.some.inj made
  rw [around, List.getElem?_map, List.getElem?_range (by omega)] at here
  exact (Option.some.inj here).symm

theorem plainRequest_speculative {op : Opcode} (inst : Inst) (broadcast : Bool) (pay : FrameBytes)
    (early : op = .ping ∨ op = .read ∨ op = .write) : speculative (plainRequest op inst broadcast pay) = true := by
  rcases early with rfl | rfl | rfl
  next => rfl
  next =>
    simp only [plainRequest]
    split
    next => split <;> rfl
    next => split <;> rfl
  next =>
    simp only [plainRequest]
    split <;> rfl

theorem gread_speculative {inst : Inst} {pay : FrameBytes} {id slot : UInt8} {req : Request} {mayReply : Bool}
    (own : gread inst pay id = .own req mayReply slot) : speculative req = true := by
  simp only [gread, ownRead, ownReadProfile] at own
  split at own
  next =>
    split at own
    next => cases own; rfl
    next => cases own
  next =>
    split at own
    next =>
      split at own
      next => cases own; rfl
      next => cases own
    next => cases own
  next =>
    split at own
    next => cases own; rfl
    next => cases own
  next =>
    split at own
    next =>
      split at own
      next => cases own; rfl
      next => cases own
    next => cases own

theorem gwrite_speculative {inst : Inst} {pay : FrameBytes} {id slot : UInt8} {req : Request} {mayReply : Bool}
    (own : gwrite inst pay id = .own req mayReply slot) : speculative req = true := by
  simp only [gwrite, ownWrite] at own
  split at own
  next =>
    split at own
    next => cases own; rfl
    next => cases own
  next =>
    split at own
    next =>
      split at own
      next => cases own; rfl
      next => cases own
    next => cases own

theorem decode_speculative {ring : List UInt8} {span : FrameSpan} {id slot : UInt8} {req : Request}
    {mayReply : Bool} (shape : RingShape ring.length) (candidate : Candidate ring span)
    (early : verdictFirst ring span.anchor = false)
    (own : decode (frameView ring span.anchor span.footprint) id = .own req mayReply slot) :
    speculative req = true := by
  simp only [decode] at own
  split at own
  next => cases own
  next header parsed =>
    have inst := headerOf_inst shape candidate parsed
    simp only [verdictFirst, ← inst] at early
    split at own
    next => cases own
    next =>
      split at own
      next => cases own
      next op named =>
        split at own
        next => cases own
        next pay cut =>
          split at own
          next => exact gread_speculative own
          next => exact gwrite_speculative own
          next _ _ =>
            simp only [plain] at own
            split at own
            next => cases own
            next =>
              injection own with request
              rw [← request]
              refine plainRequest_speculative _ _ _ ?_
              cases op <;> simp_all

theorem Trace.AllFresh.before {before after : ServoBus} (fresh : after.trace.AllFresh)
    (grows : Grows before after) : before.trace.AllFresh :=
  fun ruling member => fresh ruling (grows.rulings.subset member)

section Verdict

variable {uid : List UInt8} {len : Nat} {start before : Standing} {servo : Servo} {wake : Wake}
  {origin : Origin} {view : FrameBytes} {req : Request} {mayReply : Bool} {slot : UInt8}

theorem settleTable_session (servo : Servo) (table : Bool) :
    (servo.settleTable table).session = (if table then commit servo.session else (servo.session, [])).1 := by
  cases table <;> rfl

theorem settleTable_config (servo : Servo) (table : Bool) :
    (servo.settleTable table).bus.config =
      (if table then commit servo.session else (servo.session, [])).2.foldl Config.call servo.bus.config := by
  cases table with
  | false => rfl
  | true => exact foldl_call_config (commit servo.session).2 { bus := servo.bus }

/-- A frame that was good and has run, but for what it staged in the table. -/
structure Ran (uid : List UInt8) (len : Nat) (start before : Standing) (origin : Origin) (view : FrameBytes)
    (req : Request) (mayReply : Bool) (slot : UInt8) (old : List Effect) (servo : Servo) : Prop where
  settled : Stages uid (clean uid before.machine) before.machine
  stood : before = old.foldl (Standing.apply uid) start
  verified : ∀ origin view, Effect.frame origin view ∈ servo.bus.trace.effects →
    CrcHolds view ∧ coveredOf view = coveredOf origin.view
  effects : servo.bus.trace.effects = old ++ [.frame origin view]
  decoded : decode origin.view origin.id = .own req mayReply slot
  session : servo.session = (dispatch (clean uid before.machine) origin.store req mayReply).1
  config : servo.bus.config =
    (dispatch (clean uid before.machine) origin.store req mayReply).2.1.foldl Config.call before.config
  rate : servo.bus.rate = before.rate
  uart : servo.bus.uart = before.uart
  pending : servo.bus.pending = none
  backed : servo.bus.chain.active = true → servo.bus.trace.Verified servo.bus.trace.owner
  started : ∀ owner ∈ servo.bus.trace.started, servo.bus.trace.Verified owner
  logged : servo.bus.tx.wire.count .startFrame = servo.bus.trace.started.length
  anchored : servo.bus.framer.anchor < len

theorem Ran.attributed {old : List Effect}
    (ran : Ran uid len start before origin view req mayReply slot old servo) :
    Attributed uid len start
      (servo.settleTable
        ((dispatch (clean uid before.machine) origin.store req mayReply).2.2 == .pending)) := by
  have carried := ran.settled.carriedOut origin.store req mayReply
  generalize out : ((dispatch (clean uid before.machine) origin.store req mayReply).2.2 == .pending) = table
  have session : (servo.settleTable table).session =
      (Core.carriedOut (clean uid before.machine) origin.store req mayReply).1 := by
    rw [settleTable_session, ran.session, ← out]
    rfl
  have config : (servo.settleTable table).bus.config =
      (Core.carriedOut (clean uid before.machine) origin.store req mayReply).2.foldl Config.call
        before.config := by
    rw [settleTable_config, ran.config, ran.session, ← List.foldl_append, ← out]
    rfl
  obtain ⟨untouched, tx⟩ := servo.settleTable_spec table
  refine ⟨?_, ?_, ?_, ?_, ?_, ?_, ?_, ?_⟩
  next => rw [session]; exact carried
  next =>
    rw [untouched.trace, ran.effects, List.foldl_append, ← ran.stood]
    simp only [List.foldl_cons, List.foldl_nil, Standing.apply, Standing.frame, ran.decoded,
      Servo.standing, session, config, untouched.rate, untouched.uart, ran.rate, ran.uart]
  next => rw [untouched.trace]; exact ran.verified
  next =>
    intro p out
    cases ran.pending.symm.trans (untouched.pending.symm.trans out)
  next => rw [untouched.chain, untouched.trace]; exact ran.backed
  next => rw [untouched.trace]; exact ran.started
  next => rw [untouched.wire, untouched.trace]; exact ran.logged
  next => rw [untouched.framer]; exact ran.anchored

theorem routeChain_attributed {bus : ServoBus} {session : Session}
    (attributed : Attributed uid len start ⟨bus, session⟩) (active : bus.chain.active = true) (out : ChainOut) :
    Attributed uid len start ⟨bus.routeChain wake out, session⟩ := by
  have carried : Carried len bus (bus.routeChain wake out) := routeChain_carried (.refl bus) (fun _ => active)
  exact @Carried.attributed uid len start ⟨bus, session⟩ _ carried attributed

theorem sequence_attributed (attributed : Attributed uid len start servo) {staged : Bool}
    (own : staged = true → servo.bus.trace.Verified servo.bus.trace.owner) (packetEnd : UInt32) :
    Attributed uid len start (servo.sequence wake staged slot packetEnd) := by
  unfold Servo.sequence
  split
  next both =>
    simp only [Bool.and_eq_true] at both
    obtain ⟨reads, -, same⟩ := servo.bus.replyDelay_bus wake
    unfold ServoBus.sequenceReply
    dsimp only
    rw [same]
    generalize (servo.bus.replyDelay wake).1 = gap
    have joined : Attributed uid len start
        ⟨{ servo.bus with
            reads := reads
            chain := (Chain.onReplyStaged slot packetEnd gap servo.bus.reclaim servo.bus.frameAllowance).1
            asked := some ⟨servo.bus.trace.spot, servo.bus.framer.anchor, slot, servo.bus.trace.owner⟩ },
          servo.session⟩ :=
      attributed.rebus [] rfl (by simp) (by simp) (.inl rfl) rfl (fun _ => own both.1) attributed.started
        attributed.logged attributed.anchored
    refine routeChain_attributed joined ?_ _
    simp only [Chain.onReplyStaged]
    split <;> rfl
  next => exact attributed

structure Readable (len : Nat) (wake : Wake) (anchor footprint : Nat) : Prop where
  shape : RingShape len
  length : wake.ring.length = len
  inside : anchor < len
  brk : wake.ring.getD anchor 0 = 0
  low : 6 ≤ footprint
  high : footprint ≤ 258

def Servo.ruling (servo : Servo) (wake : Wake) (p : Pending) : Ruling where
  origin := p.origin
  view := frameView wake.ring p.anchor p.footprint
  sum := servo.bus.crc.acc
  passed := (servo.rule wake p).2
  place := servo.bus.placeOf p.anchor wake.ring.length
  id := (p.origin.map Origin.id).getD servo.bus.id

theorem rule_rulings (servo : Servo) (p : Pending) :
    (servo.rule wake p).1.bus.trace.rulings = servo.bus.trace.rulings ++ [servo.ruling wake p] :=
  rfl

theorem rule_iff {p : Pending} (readable : Readable len wake p.anchor p.footprint)
    (sum : servo.bus.crc.acc = bulkSum p.anchor (coveredOf (frameView wake.ring p.anchor p.footprint))) :
    (servo.rule wake p).2 = true ↔ wake.lag servo.bus.reads ≤ spinPerByte * (p.footprint - 2) ∧
      CrcHolds (frameView wake.ring p.anchor p.footprint) := by
  have shape : RingShape wake.ring.length := readable.length.symm ▸ readable.shape
  have inside : p.anchor < wake.ring.length := readable.length.symm ▸ readable.inside
  exact crcVerify_iff shape inside readable.low readable.high readable.brk sum

theorem rule_fresh {p : Pending} (recorded : p.origin = some origin)
    (sum : origin.sum = bulkSum p.anchor (coveredOf origin.view))
    (fresh : (servo.rule wake p).1.bus.trace.AllFresh) :
    coveredOf (frameView wake.ring p.anchor p.footprint) = coveredOf origin.view ∧
      servo.bus.crc.acc = bulkSum p.anchor (coveredOf (frameView wake.ring p.anchor p.footprint)) := by
  obtain ⟨same, held⟩ := fresh (servo.ruling wake p)
    (by rw [rule_rulings]; exact List.mem_append_right _ (List.mem_singleton_self _)) origin recorded
  change coveredOf (frameView wake.ring p.anchor p.footprint) = _ at same
  refine ⟨same, ?_⟩
  rw [same, ← sum]
  exact held

theorem rule_attributed (attributed : Attributed uid len start servo) (p : Pending) :
    Attributed uid len start (servo.rule wake p).1 :=
  attributed.rebus [] rfl (List.append_nil _).symm (by simp) (.inl rfl)
    rfl attributed.backed attributed.started attributed.logged attributed.anchored

theorem verdictFail_attributed (shape : RingShape len) (length : wake.ring.length = len)
    (attributed : Attributed uid len start servo) (taken : servo.bus.pending = none) {p : Pending}
    (speculated : Speculated uid servo.session servo.bus.trace.owner p origin req mayReply slot) :
    Attributed uid len start (servo.verdictFail wake p) := by
  have stages := attributed.stages
  have dropped : Attributed uid len start ⟨servo.bus.dropStaged.reject wake.ring p.anchor, servo.session⟩ :=
    ((dropStaged_carried servo.bus).trans (reject_carried shape length _ _)).attributed attributed
  cases table : p.table with
  | false => simpa [Servo.verdictFail, table] using dropped
  | true =>
    have reverted : Stages uid (revert servo.session) (abstraction servo.session) := by
      have next := stages.cleaned.reverted speculated.speculates origin.store mayReply
      rw [← speculated.dispatched] at next
      exact next
    have same := reverted.abstraction_eq
    have machine : Servo.standing ⟨servo.bus.dropStaged.reject wake.ring p.anchor, revert servo.session⟩ =
        Servo.standing ⟨servo.bus.dropStaged.reject wake.ring p.anchor, servo.session⟩ := by
      simp only [Servo.standing, same]
    simp only [Servo.verdictFail, table, if_true]
    refine ⟨same.symm ▸ reverted, machine.trans dropped.standing, dropped.verified, ?_, dropped.backed,
      dropped.started, dropped.logged, dropped.anchored⟩
    intro p out
    cases taken.symm.trans out

theorem accept_effects {p : Pending} (recorded : p.origin = some origin) :
    (servo.accept wake p).bus.trace.effects = servo.bus.trace.effects ++
      [.frame origin (frameView wake.ring p.anchor p.footprint)] := by
  simp [Servo.accept, ServoBus.noteFrame, ServoBus.accept, ServoBus.driftNoteVerified, recorded]

theorem verdictPass_attributed (attributed : Attributed uid len start servo)
    (taken : servo.bus.pending = none) {p : Pending}
    (speculated : Speculated uid servo.session servo.bus.trace.owner p origin req mayReply slot)
    (good : CrcHolds (frameView wake.ring p.anchor p.footprint) ∧
      coveredOf (frameView wake.ring p.anchor p.footprint) = coveredOf origin.view) :
    Attributed uid len start (servo.verdictPass wake p) := by
  have effects := @accept_effects servo wake origin p speculated.recorded
  have accepted := @accept_carried len servo.bus wake.ring p.anchor p.footprint
  have ran : Ran uid len start servo.standing origin (frameView wake.ring p.anchor p.footprint) req mayReply
      slot servo.bus.trace.effects (servo.accept wake p) := by
    refine ⟨attributed.stages.cleaned, attributed.standing, ?_, effects, speculated.decoded,
      speculated.dispatched, ?_, rfl, rfl, taken, ?_, ?_, attributed.logged, attributed.anchored⟩
    next =>
      intro origin' view member
      rw [effects] at member
      rcases List.mem_append.mp member with old | new
      next => exact attributed.verified origin' view old
      next =>
        obtain ⟨rfl, rfl⟩ : origin' = origin ∧ view = frameView wake.ring p.anchor p.footprint := by
          simpa using new
        exact good
    next =>
      rw [foldl_config_sends _ _ (speculative_sends speculated.speculates)]
      exact accepted.config
    next => exact fun active => (attributed.backed active).mono effects
    next => exact fun owner member => (attributed.started owner member).mono effects
  have settled := ran.attributed
  have table : ((dispatch (clean uid servo.standing.machine) origin.store req mayReply).2.2 == .pending) =
      p.table := speculated.table.symm
  rw [table] at settled
  obtain ⟨untouched, -⟩ := (servo.accept wake p).settleTable_spec p.table
  refine sequence_attributed settled (fun staged => ?_) p.packetEnd
  rw [untouched.trace]
  refine ⟨origin, frameView wake.ring p.anchor p.footprint, speculated.owner staged, ?_⟩
  rw [effects]
  exact List.mem_append_right _ (List.mem_singleton_self _)

theorem verify_unowned (shape : RingShape len) (length : wake.ring.length = len)
    (attributed : Attributed uid len start servo) (anchor footprint : Nat) (packetEnd : UInt32) :
    Attributed uid len start (servo.verify wake ⟨anchor, footprint, packetEnd, 0, false, false, none⟩) := by
  have ruled := @rule_attributed uid len start servo wake attributed
    ⟨anchor, footprint, packetEnd, 0, false, false, none⟩
  have pass (servo : Servo) : servo.verdictPass wake ⟨anchor, footprint, packetEnd, 0, false, false, none⟩ =
      { servo with bus := servo.bus.accept wake.ring anchor footprint } := by
    simp [Servo.verdictPass, Servo.accept, ServoBus.noteFrame, Servo.settleTable, Servo.sequence]
  unfold Servo.verify
  dsimp only
  split
  next =>
    rw [pass]
    exact (accept_carried _ wake.ring anchor footprint).attributed ruled
  next =>
    exact ((dropStaged_carried _).trans (reject_carried shape length _ anchor)).attributed ruled

theorem verify_attributed {p : Pending} (readable : Readable len wake p.anchor p.footprint)
    (attributed : Attributed uid len start servo) (taken : servo.bus.pending = none)
    (speculated : Speculated uid servo.session servo.bus.trace.owner p origin req mayReply slot)
    (fresh : (servo.rule wake p).1.bus.trace.AllFresh) : Attributed uid len start (servo.verify wake p) := by
  have ruled := @rule_attributed uid len start servo wake attributed p
  unfold Servo.verify
  dsimp only
  split
  next passed =>
    obtain ⟨same, sum⟩ := rule_fresh speculated.recorded speculated.sum fresh
    have good := ((rule_iff readable sum).mp passed).2
    exact @verdictPass_attributed uid len start (servo.rule wake p).1 wake origin req mayReply slot ruled taken
      p speculated ⟨good, same⟩
  next =>
    exact @verdictFail_attributed uid len start (servo.rule wake p).1 wake origin req mayReply slot
      readable.shape readable.length ruled taken p speculated

end Verdict

section Frames

variable {uid : List UInt8} {len : Nat} {start : Standing} {servo after : Servo} {wake : Wake}
  {span : FrameSpan} {staged : Bool} {slot : UInt8} {out : Dispatched} {origin : Origin}

theorem Candidate.readable (candidate : Candidate wake.ring span) (shape : RingShape len)
    (length : wake.ring.length = len) : Readable len wake span.anchor span.footprint :=
  ⟨shape, length, length ▸ candidate.inside, candidate.brk, candidate.low, candidate.high⟩

theorem dispatches_bus {req : Request} {mayReply : Bool} {handle : ReplyHandle}
    (dispatches : Servo.Dispatches servo wake span.anchor span.footprint after staged slot out origin req
      mayReply handle) :
    after.bus.trace = { servo.bus.trace with owner := after.bus.trace.owner } ∧
      after.bus.config = handle.bus.config ∧ after.bus.rate = servo.bus.rate ∧
      after.bus.uart = servo.bus.uart ∧ after.bus.chain = servo.bus.chain ∧
      after.bus.pending = servo.bus.pending ∧ after.bus.framer = servo.bus.framer ∧
      after.bus.tx.wire = servo.bus.tx.wire ∧
      (staged = true → after.bus.trace.owner = some origin.view) := by
  have untouched := dispatches.untouched
  have kept := untouched.trace
  have bus := dispatches.bus
  split at bus
  next =>
    rw [bus]
    refine ⟨?_, rfl, untouched.rate, untouched.uart, untouched.chain, untouched.pending, untouched.framer,
      untouched.wire, fun _ => rfl⟩
    simp [kept]
  next not =>
    rw [bus]
    exact ⟨by rw [kept], rfl, untouched.rate, untouched.uart, untouched.chain, untouched.pending,
      untouched.framer, untouched.wire, fun yes => absurd yes not⟩

theorem dispatched_attributed (attributed : Attributed uid len start servo)
    (idle : servo.bus.chain.active = false)
    (sum : servo.bus.crc.acc = bulkSum span.anchor (coveredOf (frameView wake.ring span.anchor span.footprint)))
    (early : ∀ req mayReply slot,
      decode (frameView wake.ring span.anchor span.footprint) servo.bus.id = .own req mayReply slot →
        speculative req = true)
    (dispatched : servo.dispatchDecoded wake span.anchor span.footprint =
      some (after, staged, slot, out, origin)) :
    Attributed uid len start
      ⟨{ after.bus with
          pending := some ⟨span.anchor, span.footprint, span.packetEnd, slot, staged, out == .pending, some origin⟩ },
        after.session⟩ := by
  obtain ⟨req, mayReply, handle, dispatches⟩ := Servo.dispatchDecoded_cases dispatched
  have speculates := early req mayReply slot dispatches.decoded
  have stages := attributed.stages.dispatched speculates (wake.store servo.bus.reads) mayReply
  rw [← dispatches.session] at stages
  have same := stages.abstraction_eq
  have config : handle.bus.config = servo.bus.config := by
    rw [dispatches.called, foldl_call_config, foldl_config_sends _ _ (speculative_sends speculates)]
    rfl
  obtain ⟨trace, kept, rate, uart, chain, -, framer, wire, owner⟩ := dispatches_bus dispatches
  have effects : after.bus.trace.effects = servo.bus.trace.effects := by rw [trace]
  have begun : after.bus.trace.started = servo.bus.trace.started := by rw [trace]
  have verified (owner : Option FrameBytes) (before : servo.bus.trace.Verified owner) :
      after.bus.trace.Verified owner := before.mono (by rw [effects, List.append_nil])
  have cleaned : dispatch (clean uid (abstraction after.session)) origin.store req mayReply =
      dispatch servo.session (wake.store servo.bus.reads) req mayReply := by
    rw [same, attributed.stages.dispatch_eq, dispatches.recorded]
  -- What is dispatched ahead stays in the session, where the machine does not see it.
  refine ⟨same.symm ▸ stages, ?_, effects ▸ attributed.verified, ?_, ?_, ?_, ?_, ?_⟩
  next =>
    change _ = after.bus.trace.effects.foldl (Standing.apply uid) start
    rw [effects, ← attributed.standing]
    change Standing.mk _ after.bus.config after.bus.rate after.bus.uart = _
    rw [same, kept, config, rate, uart]
    rfl
  next =>
    intro p awaits
    obtain rfl := Option.some.inj awaits
    refine ⟨origin, req, mayReply, slot, rfl, ?_, ?_, speculates, ?_, ?_, owner⟩
    next => rw [dispatches.recorded]; exact sum
    next => rw [dispatches.recorded]; exact dispatches.decoded
    next =>
      change after.session = _
      rw [cleaned, dispatches.session]
    next =>
      change (out == .pending) = _
      rw [cleaned, dispatches.returned]
  next =>
    intro active
    change after.bus.chain.active = true at active
    rw [chain, idle] at active
    cases active
  next =>
    intro owner member
    change owner ∈ after.bus.trace.started at member
    exact verified owner (attributed.started owner (begun ▸ member))
  next =>
    change after.bus.tx.wire.count .startFrame = after.bus.trace.started.length
    rw [wire, begun]
    exact attributed.logged
  next =>
    change after.bus.framer.anchor < len
    rw [framer]
    exact attributed.anchored

theorem Attributed.take (attributed : Attributed uid len start servo) :
    Attributed uid len start { servo with bus := { servo.bus with pending := none } } :=
  attributed.rebus [] rfl (List.append_nil _).symm (by simp) (.inr rfl) rfl attributed.backed
    attributed.started attributed.logged attributed.anchored

theorem feed_attributed (attributed : Attributed uid len start servo) (span : FrameSpan) :
    Attributed uid len start (servo.feed wake span) :=
  attributed.rebus [] rfl (List.append_nil _).symm (by simp) (.inl rfl) rfl attributed.backed
    attributed.started attributed.logged attributed.anchored

theorem routeSpine_attributed (shape : RingShape len) (length : wake.ring.length = len)
    (candidate : Candidate wake.ring span) (attributed : Attributed uid len start servo)
    (idle : servo.bus.chain.active = false) (early : verdictFirst wake.ring span.anchor = false)
    (complete : Bool) (taken : complete = true → servo.bus.pending = none)
    (fresh : (servo.routeSpine wake span complete).bus.trace.AllFresh) :
    Attributed uid len start (servo.routeSpine wake span complete) := by
  have fed := @feed_attributed uid len start servo wake attributed span
  have shaped : RingShape wake.ring.length := length.symm ▸ shape
  have sum : (servo.feed wake span).bus.crc.acc =
      bulkSum span.anchor (coveredOf (frameView wake.ring span.anchor span.footprint)) :=
    crcFeed_bulkSum shaped candidate.inside candidate.low candidate.high servo.bus.crc
  revert fresh
  unfold Servo.routeSpine
  dsimp only
  split
  next after staged slot out origin dispatched =>
    have awaiting := dispatched_attributed fed idle sum
      (fun _ _ _ own => decode_speculative shaped candidate early own) dispatched
    unfold Servo.await
    split
    next whole =>
      intro fresh
      obtain ⟨req, mayReply, handle, dispatches⟩ := Servo.dispatchDecoded_cases dispatched
      have pending : after.bus.pending = none := (dispatches_bus dispatches).2.2.2.2.2.1.trans (taken whole)
      obtain ⟨origin', req', mayReply', slot', speculated⟩ := awaiting.awaited _ rfl
      have ready : Attributed uid len start after :=
        awaiting.rebus [] rfl (List.append_nil _).symm (by simp) (.inr pending) rfl awaiting.backed
          awaiting.started awaiting.logged awaiting.anchored
      exact verify_attributed (candidate.readable shape length) ready pending speculated
        (fresh.before (verify_grows _ _))
    next => exact fun _ => awaiting
  next =>
    split
    next => exact fun _ => verify_unowned shape length fed span.anchor span.footprint span.packetEnd
    next => exact fun _ => fed

theorem execute_attributed (attributed : Attributed uid len start servo) (taken : servo.bus.pending = none)
    (idle : servo.bus.chain.active = false)
    (good : CrcHolds (frameView wake.ring span.anchor span.footprint)) :
    Attributed uid len start (servo.execute wake span) := by
  unfold Servo.execute
  split
  next => exact attributed
  next after staged slot out origin dispatched =>
    obtain ⟨req, mayReply, handle, dispatches⟩ := Servo.dispatchDecoded_cases dispatched
    obtain ⟨trace, config, rate, uart, chain, pending, framer, wire, owner⟩ := dispatches_bus dispatches
    have recorded := dispatches.recorded
    have same := attributed.stages.dispatch_eq (wake.store servo.bus.reads) req mayReply
    have kept : after.bus.trace.effects = servo.bus.trace.effects := by rw [trace]
    have effects : (after.bus.noteFrame (some origin) origin.view).trace.effects =
        servo.bus.trace.effects ++ [.frame origin origin.view] := by
      simp [ServoBus.noteFrame, kept]
    have begun : after.bus.trace.started = servo.bus.trace.started := by rw [trace]
    have verified (owner : Option FrameBytes) (before : servo.bus.trace.Verified owner) :
        (after.bus.noteFrame (some origin) origin.view).trace.Verified owner := before.mono effects
    have ran : Ran uid len start servo.standing origin origin.view req mayReply slot
        servo.bus.trace.effects { after with bus := after.bus.noteFrame (some origin) origin.view } := by
      refine ⟨attributed.stages.cleaned, attributed.standing, ?_, effects, ?_, ?_, ?_, rate, uart,
        pending.trans taken, ?_, ?_, ?_, ?_⟩
      next =>
        intro origin' view member
        rw [effects] at member
        rcases List.mem_append.mp member with old | new
        next => exact attributed.verified origin' view old
        next =>
          obtain ⟨rfl, rfl⟩ : origin' = origin ∧ view = origin.view := by simpa using new
          refine ⟨?_, rfl⟩
          rw [recorded]
          exact good
      next => rw [recorded]; exact dispatches.decoded
      next =>
        rw [recorded]
        exact dispatches.session.trans (congrArg Prod.fst same)
      next =>
        rw [recorded]
        change after.bus.config = _
        rw [config, dispatches.called, foldl_call_config, same]
        rfl
      next =>
        intro active
        change after.bus.chain.active = true at active
        rw [chain, idle] at active
        cases active
      next =>
        intro owner member
        exact verified owner (attributed.started owner (begun ▸ member))
      next =>
        change after.bus.tx.wire.count .startFrame = after.bus.trace.started.length
        rw [wire, begun]
        exact attributed.logged
      next =>
        change after.bus.framer.anchor < len
        rw [framer]
        exact attributed.anchored
    -- The frame has run; its writes are settled next, and its reply is sequenced behind them.
    have settled := ran.attributed
    have table : ((dispatch (clean uid servo.standing.machine) origin.store req mayReply).2.2 == .pending) =
        (out == .pending) := by
      rw [dispatches.returned, same, recorded]
      rfl
    rw [table] at settled
    obtain ⟨untouched, -⟩ := Servo.settleTable_spec
      { after with bus := after.bus.noteFrame (some origin) origin.view } (out == .pending)
    refine sequence_attributed settled (fun staged => ?_) span.packetEnd
    rw [untouched.trace]
    refine ⟨origin, origin.view, owner staged, ?_⟩
    rw [effects]
    exact List.mem_append_right _ (List.mem_singleton_self _)

theorem routeVerdictFirst_attributed (shape : RingShape len) (length : wake.ring.length = len)
    (candidate : Candidate wake.ring span) (attributed : Attributed uid len start servo)
    (taken : servo.bus.pending = none) : Attributed uid len start (servo.routeVerdictFirst wake span) := by
  have shaped : RingShape wake.ring.length := length.symm ▸ shape
  have ruled : Attributed uid len start (checked servo wake span) :=
    attributed.rebus [] rfl (List.append_nil _).symm (by simp) (.inl rfl) rfl attributed.backed
      attributed.started attributed.logged attributed.anchored
  have superseded {servo : Servo} (attributed : Attributed uid len start servo) :
      Attributed uid len start (servo.supersede wake span) :=
    ((accept_carried servo.bus wake.ring span.anchor span.footprint).trans
      (dropStaged_carried _)).attributed attributed
  rw [routeVerdictFirst_eq]
  split
  next passed =>
    have good := ((crcOk_iff shaped candidate.inside candidate.low candidate.high candidate.brk).mp passed).2
    exact execute_attributed (superseded ruled) taken rfl good
  next => exact (reject_carried shape length _ span.anchor).attributed ruled

theorem routeFrame_attributed (shape : RingShape len) (length : wake.ring.length = len)
    (candidate : Candidate wake.ring span) (attributed : Attributed uid len start servo) (complete : Bool)
    (taken : complete = true → servo.bus.pending = none)
    (fresh : (servo.routeFrame wake span complete).bus.trace.AllFresh) :
    Attributed uid len start (servo.routeFrame wake span complete) := by
  revert fresh
  unfold Servo.routeFrame
  split
  next =>
    split
    next =>
      have noted : Carried len servo.bus
          (servo.bus.noteStatus (servo.bus.placeOf span.anchor wake.ring.length) span.footprint) :=
        ⟨rfl, rfl, rfl, rfl, rfl, .inl rfl, id, fun _ => .inl, rfl, id⟩
      exact fun _ => (noted.trans (onStatusEnd_carried _ span.packetEnd)).attributed attributed
    next => exact fun _ => attributed
  next =>
    split
    next free =>
      simp only [Bool.and_eq_true, Bool.not_eq_true'] at free
      exact routeSpine_attributed shape length candidate attributed free.1.1 free.2 complete taken
    next =>
      split
      next => exact fun _ => attributed
      next whole =>
        exact fun _ => routeVerdictFirst_attributed shape length candidate attributed
          (taken (by simpa using whole))

theorem onFrameEnd_attributed (shape : RingShape len) (length : wake.ring.length = len)
    (candidate : Candidate wake.ring span) (attributed : Attributed uid len start servo)
    (fresh : (servo.onFrameEnd wake span).bus.trace.AllFresh) :
    Attributed uid len start (servo.onFrameEnd wake span) := by
  have took := attributed.take
  revert fresh
  unfold Servo.onFrameEnd
  dsimp only
  split
  next p out =>
    split
    next place =>
      intro fresh
      obtain ⟨origin, req, mayReply, slot, speculated⟩ := attributed.awaited p out
      have readable : Readable len wake p.anchor p.footprint := by
        rw [place.1, place.2]
        exact candidate.readable shape length
      exact verify_attributed readable took rfl speculated (fresh.before (verify_grows _ _))
    next =>
      exact routeFrame_attributed shape length candidate
        ((dropStaged_carried { servo.bus with pending := none }).attributed took) true (fun _ => rfl)
  next => exact routeFrame_attributed shape length candidate took true (fun _ => rfl)

end Frames

section Moves

variable {uid : List UInt8} {len : Nat} {start : Standing} {servo after : Servo} {wake : Wake}

/-- What the ring's contract promises a handler: one ring, and cursors inside it. -/
structure Ringed (len : Nat) (wake : Wake) : Prop where
  length : wake.ring.length = len
  within : ∀ n, wake.cursor n < len

theorem looked_attributed (shape : RingShape len) (ringed : Ringed len wake)
    (attributed : Attributed uid len start servo) (framerAt : Option UInt32) :
    Attributed uid len start
      { servo.looked wake with bus := { (servo.looked wake).bus with framerAt := framerAt } } := by
  have shaped : RingShape wake.ring.length := ringed.length.symm ▸ shape
  have inside := (@resolve_candidate wake.ring servo.bus.framer (wake.cursor (servo.bus.reads + 1))
    (wake.now servo.bus.reads) servo.bus.tpb shaped (ringed.length.symm ▸ attributed.anchored)
    (ringed.length.symm ▸ ringed.within _)).1
  exact attributed.rebus [] rfl (List.append_nil _).symm (by simp) (.inl rfl) rfl attributed.backed
    attributed.started attributed.logged (ringed.length ▸ inside)

theorem Attributed.note (attributed : Attributed uid len start servo) {bus : ServoBus} {effect : Effect}
    (frameless : ∀ origin view, effect ≠ .frame origin view)
    (standing : Servo.standing ⟨bus, servo.session⟩ = servo.standing.apply uid effect)
    (effects : bus.trace.effects = servo.bus.trace.effects ++ [effect])
    (owner : bus.trace.owner = servo.bus.trace.owner) (started : bus.trace.started = servo.bus.trace.started)
    (pending : bus.pending = servo.bus.pending ∨ bus.pending = none)
    (active : bus.chain.active = true → servo.bus.chain.active = true)
    (logged : bus.tx.wire.count .startFrame = servo.bus.tx.wire.count .startFrame)
    (anchored : bus.framer.anchor < len) : Attributed uid len start ⟨bus, servo.session⟩ := by
  refine attributed.rebus [effect] standing effects ?_ pending owner ?_ ?_ ?_ anchored
  next =>
    intro origin view member
    exact frameless origin view (List.mem_singleton.mp member).symm
  next =>
    intro now
    rw [owner]
    exact (attributed.backed (active now)).mono effects
  next =>
    intro owner member
    exact (attributed.started owner (started ▸ member)).mono effects
  next => rw [logged, started, attributed.logged]

theorem calBreak_attributed (attributed : Attributed uid len start servo) (now : UInt32) :
    Attributed uid len start { servo with bus := Servo.calBreak servo.bus wake now } := by
  have none (clock : ClockTracker) (cursor : Nat) (ticksPerUs : UInt32) :
      (clock.onCalBreak now cursor ticksPerUs).1.pendingCal = none := by
    unfold ClockTracker.onCalBreak
    split
    next => rfl
    next absent =>
      split
      next => exact absent
      next =>
        split
        next => exact absent
        next =>
          dsimp only
          split
          next => exact absent
          next => split <;> exact absent
  have standing : Servo.standing ⟨Servo.calBreak servo.bus wake now, servo.session⟩ =
      servo.standing.apply uid .calStarted := by
    unfold Servo.calBreak
    dsimp only
    split <;>
      simp [Servo.standing, ServoBus.config, ServoBus.note, ServoBus.armDeadline, ServoBus.readCursor,
        ServoBus.readNow, Standing.apply, none]
  have bus : (Servo.calBreak servo.bus wake now).trace = (servo.bus.note .calStarted).trace ∧
      (Servo.calBreak servo.bus wake now).pending = servo.bus.pending ∧
      (Servo.calBreak servo.bus wake now).chain = servo.bus.chain ∧
      (Servo.calBreak servo.bus wake now).tx = servo.bus.tx ∧
      (Servo.calBreak servo.bus wake now).framer = servo.bus.framer := by
    unfold Servo.calBreak
    dsimp only
    split <;> exact ⟨rfl, rfl, rfl, rfl, rfl⟩
  obtain ⟨trace, pending, chain, tx, framer⟩ := bus
  refine attributed.note (by simp) standing (by rw [trace]; rfl) (by rw [trace]; rfl) (by rw [trace]; rfl)
    (.inl pending) ?_ ?_ ?_
  next => rw [chain]; exact id
  next => rw [tx]
  next => rw [framer]; exact attributed.anchored

theorem onArmComplete_logged (tx : TxEngine) (crc : CrcEngine) (lag : Nat) :
    (tx.onArmComplete crc lag).1.wire.count .startFrame = tx.wire.count .startFrame := by
  have patched : (tx.patchCrc crc lag).wire = tx.wire := by
    simp only [TxEngine.patchCrc]
    split <;> rfl
  unfold TxEngine.onArmComplete
  split
  next =>
    split
    next =>
      dsimp only
      split <;> simp [patched]
    next => simp
  next => rfl

theorem onTxComplete_attributed (attributed : Attributed uid len start servo) :
    Attributed uid len start { servo with bus := servo.bus.onTxComplete wake } := by
  have logged := onArmComplete_logged servo.bus.tx servo.bus.crc (wake.lag servo.bus.reads)
  unfold ServoBus.onTxComplete
  dsimp only
  split
  next =>
    refine Carried.attributed ⟨rfl, rfl, rfl, rfl, rfl, .inl rfl, id, fun _ => .inl, ?_, id⟩ attributed
    exact congrArg (· + servo.bus.trace.started.length) logged
  next =>
    have step (bus : ServoBus)
        (standing : Servo.standing ⟨bus, servo.session⟩ = servo.standing.apply uid .released)
        (trace : bus.trace = (servo.bus.note .released).trace) (pending : bus.pending = servo.bus.pending)
        (chain : bus.chain = servo.bus.chain) (framer : bus.framer = servo.bus.framer)
        (tx : bus.tx = (servo.bus.tx.onArmComplete servo.bus.crc (wake.lag servo.bus.reads)).1) :
        Attributed uid len start ⟨bus, servo.session⟩ :=
      attributed.note (by simp) standing (by rw [trace]; rfl) (by rw [trace]; rfl) (by rw [trace]; rfl)
        (.inl pending) (by rw [chain]; exact id)
        (by rw [tx]; exact logged) (by rw [framer]; exact attributed.anchored)
    -- An id and a rate may be waiting: neither, one or both.
    cases id : servo.bus.pendingId <;> cases baud : servo.bus.pendingBaud <;>
      simp only [ServoBus.readLag, id, baud] <;> refine step _ ?_ rfl rfl rfl rfl rfl <;>
      simp [Servo.standing, Standing.apply, Standing.release, Standing.setRate, ServoBus.config,
        ServoBus.note, ServoBus.setRate, id, baud]

theorem onRescueBreak_attributed (ringed : Ringed len wake) (attributed : Attributed uid len start servo) :
    Attributed uid len start { servo with bus := servo.bus.onRescueBreak wake } := by
  unfold ServoBus.onRescueBreak
  split
  next => exact attributed
  next =>
    exact @Attributed.note uid len start servo attributed _ .rescue (by simp) rfl rfl rfl rfl (.inr rfl)
      (fun active => by cases active) (abort_logged servo.bus.tx) (ringed.within _)

theorem move_attributed (shape : RingShape len) (ringed : Ringed len wake)
    (attributed : Attributed uid len start servo) (move : Move wake servo after)
    (fresh : after.bus.trace.AllFresh) : Attributed uid len start after := by
  have shaped : RingShape wake.ring.length := ringed.length.symm ▸ shape
  have seen := @resolve_candidate wake.ring servo.bus.framer (wake.cursor (servo.bus.reads + 1))
    (wake.now servo.bus.reads) servo.bus.tpb shaped (ringed.length.symm ▸ attributed.anchored)
    (ringed.length.symm ▸ ringed.within _)
  have looked := looked_attributed shape ringed attributed
  cases move with
  | quiet bus quiet => exact quiet.carried.attributed attributed
  | look framerAt => exact looked framerAt
  | covered span endDue out =>
    exact routeFrame_attributed shape ringed.length (seen.2.2 span endDue out) (looked (some endDue)) false
      (by simp) fresh
  | ended span out =>
    exact onFrameEnd_attributed shape ringed.length (seen.2.1 span out) (looked _) fresh
  | yieldReply => exact (yieldReply_carried servo.bus).attributed attributed
  | breakObserved now => exact (breakObserved_carried servo.bus now).attributed attributed
  | chainDue now => exact (chainDue_carried servo.bus now).attributed attributed
  | calBreak now active => exact calBreak_attributed attributed now
  | abandonCal =>
    exact @Attributed.note uid len start servo attributed _ .calAbandoned (by simp) rfl rfl rfl rfl (.inl rfl)
      id rfl
      attributed.anchored

end Moves

theorem boot_attributed {len : Nat} (shape : RingShape len) (ticksPerUs : UInt32) (id : UInt8) (rate : BaudRate)
    (responseDeadlineUs : UInt16) (table : ControlTable) (uid : List UInt8) :
    Attributed uid len (servoBoot ticksPerUs id rate responseDeadlineUs (boot table uid)).standing
      (servoBoot ticksPerUs id rate responseDeadlineUs (boot table uid)) := by
  have stages := run_stages table uid []
  have same := stages.abstraction_eq
  refine ⟨same.symm ▸ stages, rfl, ?_, ?_, ?_, ?_, rfl, pow_pos shape.pow⟩
  next => exact fun _ _ member => absurd member List.not_mem_nil
  next => exact fun _ out => nomatch out
  next => exact fun active => nomatch active
  next => exact fun _ member => absurd member List.not_mem_nil

theorem run_attributed {len : Nat} (shape : RingShape len) {uid : List UInt8} {start : Standing} {servo : Servo}
    (attributed : Attributed uid len start servo) (events : List BusEvent)
    (ringed : ∀ event ∈ events, Ringed len event.wake)
    (fresh : (run busStep servo events).bus.trace.AllFresh) :
    Attributed uid len start (run busStep servo events) := by
  revert fresh
  apply run_invariant busStep (fun _ event => Ringed len event.wake)
    (fun servo => servo.bus.trace.AllFresh → Attributed uid len start servo)
  next =>
    intro servo event before ringed
    refine @busStep_invariant (fun servo => servo.bus.trace.AllFresh → Attributed uid len start servo) event
      ?_ ?_ ?_ servo before
    next =>
      intro servo after before move fresh
      exact move_attributed shape ringed (before (fresh.before (move_grows move))) move fresh
    next =>
      intro servo before fresh
      exact onTxComplete_attributed (before (fresh.before (onTxComplete_grows servo.bus)))
    next =>
      intro servo before fresh
      exact onRescueBreak_attributed ringed (before (fresh.before (onRescueBreak_grows servo.bus)))
  next => exact fun _ => attributed
  next => exact meets_forall busStep servo events ringed

/-- What a servo that runs only good frames comes to: its standing is what those frames and the events that use up
what they left make of the start, and each frame it put on the wire answers one. -/
structure Accounted (uid : List UInt8) (start : Standing) (servo : Servo) : Prop where
  standing : servo.standing = servo.bus.trace.effects.foldl (Standing.apply uid) start
  good : ∀ origin view, Effect.frame origin view ∈ servo.bus.trace.effects →
    CrcHolds view ∧ coveredOf view = coveredOf origin.view
  wire : servo.bus.tx.wire.count .startFrame = servo.bus.trace.started.length
  replies : ∀ owner ∈ servo.bus.trace.started, servo.bus.trace.Verified owner

/-- In every run whose verdicts are fresh a frame that fails its CRC is inert. -/
theorem bad_frame_inert {len : Nat} (shape : RingShape len) (ticksPerUs : UInt32) (id : UInt8) (rate : BaudRate)
    (responseDeadlineUs : UInt16) (table : ControlTable) (uid : List UInt8) (events : List BusEvent)
    (ringed : ∀ event ∈ events, Ringed len event.wake)
    (fresh :
      (run busStep (servoBoot ticksPerUs id rate responseDeadlineUs (boot table uid)) events).bus.trace.AllFresh) :
    Accounted uid (servoBoot ticksPerUs id rate responseDeadlineUs (boot table uid)).standing
      (run busStep (servoBoot ticksPerUs id rate responseDeadlineUs (boot table uid)) events) := by
  have booted := boot_attributed shape ticksPerUs id rate responseDeadlineUs table uid
  have attributed := run_attributed shape booted events ringed fresh
  exact ⟨attributed.standing, attributed.verified, attributed.logged, attributed.started⟩

def steady (ring : List UInt8) (cursor : Nat) (now : UInt32) : Wake :=
  ⟨ring, fun _ => cursor, fun _ => now, fun _ => 0, fun _ => none⟩

theorem steady_ringed {ring : List UInt8} {len cursor : Nat} (length : ring.length = len) (within : cursor < len)
    (now : UInt32) : Ringed len (steady ring cursor now) :=
  ⟨length, fun _ => within⟩

def servoFive : Servo :=
  servoBoot 16 5 .b1000000 250 (boot (zeroStore _) [])

def writeRing : List UInt8 :=
  [0x00, 0x05, 0x07, 0x34, 0x02, 0x01, 0x11, 0x33, 0xF9, 0x4E] ++ List.replicate 502 0x55

/-- Behind it a WRITE of 22 44 to the same register, and under the same trailer, fails its checksum. -/
def badRing : List UInt8 :=
  writeRing.take 10 ++ [0x00, 0x05, 0x07, 0x34, 0x02, 0x01, 0x22, 0x44, 0xF9, 0x4E] ++ List.replicate 492 0x55

def badRun : List BusEvent :=
  [.brk (steady badRing 1 0), .deadline (steady badRing 8 3000), .deadline (steady badRing 10 4000),
    .brk (steady badRing 11 5000), .deadline (steady badRing 18 8000), .deadline (steady badRing 20 9000)]

theorem bad_frame_inert_write :
    (run busStep servoFive badRun).bus.trace.AllFresh ∧
      (run busStep servoFive badRun).bus.trace.rulings.map Ruling.passed = [true, false] ∧
      peek (run busStep servoFive badRun).session.table 0x102 = 0x11 ∧
      Accounted [] servoFive.standing (run busStep servoFive badRun) := by
  -- One evaluation of the run for all that is read off it.
  have outcome : (run busStep servoFive badRun).bus.trace.AllFresh ∧
      (run busStep servoFive badRun).bus.trace.rulings.map Ruling.passed = [true, false] ∧
      peek (run busStep servoFive badRun).session.table 0x102 = 0x11 := by
    decide +kernel
  refine ⟨outcome.1, outcome.2.1, outcome.2.2, ?_⟩
  refine @bad_frame_inert 512 ⟨⟨9, rfl⟩, by decide, by decide⟩ 16 5 .b1000000 250 (zeroStore _) [] badRun ?_ outcome.1
  have length : badRing.length = 512 := by decide +kernel
  simp only [badRun, List.forall_mem_cons, List.not_mem_nil, false_implies, implies_true, and_true]
  refine ⟨?_, ?_, ?_, ?_, ?_, ?_⟩ <;> exact steady_ringed length (by decide) _

/-- The same WRITE stalls before its trailer: the ladder gives up on it, and its verdict stays out. One lap later a
WRITE of 22 44 stands in its place, under the trailer of the first. -/
def staleRing : List UInt8 :=
  [0x00, 0x05, 0x07, 0x34, 0x02, 0x01, 0x22, 0x44, 0xF9, 0x4E] ++ List.replicate 502 0x55

def staleRun : List BusEvent :=
  [.brk (steady writeRing 1 0), .deadline (steady writeRing 8 3000), .deadline (steady writeRing 8 20000),
    .brk (steady writeRing 300 21000), .deadline (steady writeRing 300 21000),
    .brk (steady writeRing 500 22000), .deadline (steady writeRing 500 22000),
    .brk (steady staleRing 1 30000)]

def staleVerdict : BusEvent :=
  .deadline (steady staleRing 10 31000)

def badViews (effects : List Effect) : List FrameBytes :=
  effects.filterMap (fun
    | .frame _ view => if CrcHolds view then none else some view
    | _ => none)

theorem stale_verdict_lands :
    (∀ event ∈ staleRun ++ [staleVerdict], Ringed 512 event.wake) ∧
      ¬ CrcHolds (frameView staleRing 0 10) ∧
      peek (run busStep servoFive staleRun).session.table 0x102 = 0 ∧
      peek (busStep (run busStep servoFive staleRun) staleVerdict).session.table 0x102 = 0x11 ∧
      ¬ Accounted [] servoFive.standing (run busStep servoFive (staleRun ++ [staleVerdict])) := by
  -- One evaluation of the run for all that is read off it.
  have outcome : peek (run busStep servoFive staleRun).session.table 0x102 = 0 ∧
      peek (busStep (run busStep servoFive staleRun) staleVerdict).session.table 0x102 = 0x11 ∧
      badViews (busStep (run busStep servoFive staleRun) staleVerdict).bus.trace.effects ≠ [] := by
    decide +kernel
  refine ⟨?_, by decide +kernel, outcome.1, outcome.2.1, ?_⟩
  next =>
    have first : writeRing.length = 512 := by decide +kernel
    have second : staleRing.length = 512 := by decide +kernel
    simp only [staleRun, staleVerdict, List.cons_append, List.nil_append, List.forall_mem_cons,
      List.not_mem_nil, false_implies, implies_true, and_true]
    refine ⟨?_, ?_, ?_, ?_, ?_, ?_, ?_, ?_, ?_⟩ <;>
      first
        | exact steady_ringed first (by decide) _
        | exact steady_ringed second (by decide) _
  next =>
    intro accounted
    rw [run_append, run_cons, run_nil] at accounted
    obtain ⟨view, member⟩ := List.exists_mem_of_ne_nil _ outcome.2.2
    obtain ⟨effect, happened, bad⟩ := List.mem_filterMap.mp member
    cases effect with
    | frame origin seen =>
      have good := (accounted.good origin seen happened).1
      simp [good] at bad
    | released | rescue | calStarted | calAbandoned => cases bad

end OpenServo.Bus
