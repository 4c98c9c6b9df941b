import OpenServo.Bus.CalTrain
import OpenServo.Bus.Identity
import OpenServo.Bus.TxFrames

set_option autoImplicit false

namespace OpenServo.Bus

open OpenServo.Core OpenServo.Protocol OpenServo.Shared

namespace Framer

/-- Ladders that stand alike: what one does next depends on no counter, nor on whether it was hunting. -/
structure Alike (left right : Framer) : Prop where
  anchor : right.anchor = left.anchor
  frontier : right.frontier = left.frontier
  faultSeen : right.faultSeen = left.faultSeen

variable {left right : Framer}

theorem Alike.giveUp (alike : Alike left right) (len : Nat) (now : UInt32) :
    Alike (left.giveUp len now).1 (right.giveUp len now).1 ∧
      (right.giveUp len now).2 = (left.giveUp len now).2 := by
  refine ⟨⟨?_, rfl, alike.faultSeen⟩, rfl⟩
  simp only [Framer.giveUp, alike.anchor]

theorem Alike.wait (alike : Alike left right) (aim now tpb : UInt32) (cursor len : Nat) :
    Alike (left.wait aim now tpb cursor len).1 (right.wait aim now tpb cursor len).1 ∧
      (right.wait aim now tpb cursor len).2 = (left.wait aim now tpb cursor len).2 := by
  have waits : Alike { left with frontier := left.frontier.advance cursor now }
      { right with frontier := right.frontier.advance cursor now } :=
    ⟨alike.anchor, by simp only [alike.frontier], alike.faultSeen⟩
  simp only [Framer.wait, alike.frontier] at waits ⊢
  split
  next => exact waits.giveUp len now
  next => exact ⟨waits, rfl⟩

theorem Alike.settle (alike : Alike left right) (ring : List UInt8) (cursor : Nat) (now tpb : UInt32)
    (received : Nat) :
    Alike (left.settle ring cursor now tpb received).1 (right.settle ring cursor now tpb received).1 ∧
      (right.settle ring cursor now tpb received).2 = (left.settle ring cursor now tpb received).2 := by
  simp only [Framer.settle, alike.anchor, alike.frontier]
  split
  next => exact alike.wait _ now tpb cursor _
  next =>
    split
    next => exact ⟨⟨rfl, rfl, alike.faultSeen⟩, rfl⟩
    next =>
      split
      next => exact ⟨⟨rfl, rfl, alike.faultSeen⟩, rfl⟩
      next => exact alike.wait _ now tpb cursor _

theorem Alike.hunt (alike : Alike left right) (ring : List UInt8) (now : UInt32) (budget received : Nat) :
    Alike (Framer.hunt ring now budget left received).1 (Framer.hunt ring now budget right received).1 ∧
      (Framer.hunt ring now budget right received).2 = (Framer.hunt ring now budget left received).2 := by
  induction budget generalizing left right received with
  | zero => exact ⟨alike, rfl⟩
  | succ budget ih =>
    have same : right.isPlausible ring received = left.isPlausible ring received := by
      simp only [Framer.isPlausible, alike.anchor]
    have skips : Alike
        { left with hunting := true, anchor := ringWrap (left.anchor + 1) ring.length % 65536, frontier := {} }
        { right with hunting := true, anchor := ringWrap (right.anchor + 1) ring.length % 65536, frontier := {} } :=
      ⟨by simp only [alike.anchor], rfl, alike.faultSeen⟩
    simp only [Framer.hunt, same]
    split
    next => exact ⟨alike, rfl⟩
    next =>
      split
      next => exact ⟨skips, rfl⟩
      next => exact ih skips (received - 1)

theorem Alike.resolve (alike : Alike left right) (ring : List UInt8) (cursor : Nat) (now tpb : UInt32) :
    Alike (left.resolve ring cursor now tpb).1 (right.resolve ring cursor now tpb).1 ∧
      (right.resolve ring cursor now tpb).2 = (left.resolve ring cursor now tpb).2 := by
  simp only [Framer.resolve, alike.anchor]
  split
  next => exact ⟨alike, rfl⟩
  next =>
    split
    next => exact ⟨⟨rfl, rfl, alike.faultSeen⟩, rfl⟩
    next =>
      obtain ⟨hunts, out⟩ := alike.hunt ring now huntBytesPerWake (dist cursor left.anchor ring.length)
      generalize Framer.hunt ring now huntBytesPerWake left (dist cursor left.anchor ring.length) = first at hunts out ⊢
      generalize
        Framer.hunt ring now huntBytesPerWake right (dist cursor left.anchor ring.length) = second at hunts out ⊢
      obtain ⟨first, found⟩ := first
      obtain ⟨second, found'⟩ := second
      obtain rfl : found' = found := out
      cases found' with
      | inl out => exact ⟨hunts, rfl⟩
      | inr received => exact hunts.settle ring cursor now tpb received

end Framer

structure ClockTracker.Alike (left right : ClockTracker) : Prop where
  pendingCal : right.pendingCal = left.pendingCal
  cal : right.cal = left.cal

theorem ClockTracker.Alike.onCalBreak {left right : ClockTracker} (alike : Alike left right) (now : UInt32)
    (cursor : Nat) (ticksPerUs : UInt32) :
    Alike (left.onCalBreak now cursor ticksPerUs).1 (right.onCalBreak now cursor ticksPerUs).1 ∧
      (right.onCalBreak now cursor ticksPerUs).2 = (left.onCalBreak now cursor ticksPerUs).2 := by
  unfold ClockTracker.onCalBreak
  rw [alike.pendingCal, alike.cal]
  split
  next => exact ⟨⟨rfl, rfl⟩, rfl⟩
  next quiet =>
    split
    next => exact ⟨alike, rfl⟩
    next live =>
      split
      next => exact ⟨alike, rfl⟩
      next =>
        dsimp only
        split
        next => exact ⟨⟨rfl, rfl⟩, rfl⟩
        next =>
          split
          next => exact ⟨⟨rfl, rfl⟩, rfl⟩
          next => exact ⟨⟨rfl, rfl⟩, rfl⟩

theorem ClockTracker.Alike.onDriftBreak {left right : ClockTracker} (alike : Alike left right) (now : UInt32)
    (cursor len : Nat) (tpb : UInt32) :
    Alike (left.onDriftBreak now cursor len tpb) (right.onDriftBreak now cursor len tpb) where
  pendingCal := by rw [pendingCal_onDriftBreak, pendingCal_onDriftBreak, alike.pendingCal]
  cal := by
    rw [(right.onDriftBreak_flags now cursor len tpb).1, (left.onDriftBreak_flags now cursor len tpb).1, alike.cal]

theorem ClockTracker.Alike.driftShape {left right : ClockTracker} (alike : Alike left right) (ring : List UInt8)
    (anchor footprint : Nat) :
    Alike (ServoBus.driftShape left ring anchor footprint) (ServoBus.driftShape right ring anchor footprint) := by
  have kept (clock : ClockTracker) : Alike clock (ServoBus.driftShape clock ring anchor footprint) := by
    unfold ServoBus.driftShape
    split
    next => exact ⟨rfl, rfl⟩
    next => split <;> exact ⟨rfl, rfl⟩
  exact ⟨by rw [(kept right).pendingCal, (kept left).pendingCal, alike.pendingCal],
    by rw [(kept right).cal, (kept left).cal, alike.cal]⟩

theorem Laid.first {id : UInt8} {payload : List UInt8} {tx : TxEngine} (laid : Laid id payload tx)
    (engine : CrcEngine) (inst : Inst) :
    (tx.arms.getD 0 (.buf 0 0)).resolve engine (overwrite tx.buf 3 [inst]) =
        id :: UInt8.ofNat (lenFor payload.length) :: inst :: (if payload.length ≤ smallCopyMax then payload else []) ∧
      (tx.feeds.getD 0 (.buf 0 0)).resolve engine (overwrite tx.buf 3 [inst]) =
        (FrameBuf.layout id inst payload).take
          (if payload.length ≤ smallCopyMax then 4 + payload.length - (4 + payload.length) % 2 else 4) := by
  cases laid with
  | copied before rest short buf arms feeds tail crcOff =>
    have patched : overwrite tx.buf 3 [inst] = FrameBuf.layout id inst payload ++ 0 :: 0 :: rest := by
      rw [buf]
      rfl
    have length : (FrameBuf.layout id inst payload).length = 4 + payload.length := by
      simp only [FrameBuf.layout, List.length_append, List.length_cons, List.length_nil]
    rw [patched, arms, feeds, if_pos short, if_pos short]
    refine ⟨?_, ?_⟩
    next =>
      have front : List.take (3 + payload.length) (id :: UInt8.ofNat (lenFor payload.length) :: inst ::
          (payload ++ 0 :: 0 :: rest)) = id :: UInt8.ofNat (lenFor payload.length) :: inst :: payload := by
        rw [Nat.add_comm]
        simp
      simpa [Arm.resolve, FrameBuf.layout] using front
    next =>
      simp only [List.getD_cons_zero, Arm.resolve, List.extract_eq_take_drop, List.drop_zero, Nat.sub_zero,
        Nat.zero_add]
      rw [List.take_append_of_le_length (by omega)]
  | streamed before rest long buf arms feeds tail crcOff =>
    have patched : overwrite tx.buf 3 [inst] =
        alignByte :: id :: UInt8.ofNat (lenFor payload.length) :: inst :: 0 :: 0 :: rest := by
      rw [buf]
      rfl
    rw [patched, arms, feeds, if_neg (Nat.not_le.mpr long), if_neg (Nat.not_le.mpr long)]
    exact ⟨rfl, rfl⟩

namespace TxEngine

/-- Engines in one state, the same reply staged in both. What an idle one still holds does not count. -/
structure Alike (left right : TxEngine) : Prop where
  state : right.state = left.state
  wire : right.wire = left.wire
  reply : left.staged = true → right.result = left.result ∧ right.alert = left.alert ∧
    ∃ id payload, Laid id payload left ∧ Laid id payload right

variable {left right : TxEngine}

theorem Alike.busy (alike : Alike left right) : right.busy = left.busy := by
  simp only [TxEngine.busy, alike.state]

theorem Alike.staged (alike : Alike left right) : right.staged = left.staged := by
  simp only [TxEngine.staged, alike.state]

theorem Alike.slotKey (alike : Alike left right) : right.slotKey = left.slotKey := by
  simp only [TxEngine.slotKey, alike.state]

theorem Alike.collisionTolerant (alike : Alike left right) :
    right.collisionTolerant = left.collisionTolerant := by
  simp only [TxEngine.collisionTolerant, alike.slotKey]

theorem Alike.abort (alike : Alike left right) : Alike left.abort right.abort := by
  simp only [TxEngine.abort, alike.busy]
  split
  next =>
    refine ⟨rfl, by simp only [alike.wire], ?_⟩
    intro staged
    cases staged
  next => exact alike

theorem Alike.stageGather (alike : Alike left right) (engine : CrcEngine) (id : UInt8) (result : ResultCode)
    (alert : Bool) (spans : List (List UInt8)) :
    Alike (left.stageGather engine id result alert spans).1 (right.stageGather engine id result alert spans).1 ∧
      (right.stageGather engine id result alert spans).2 = (left.stageGather engine id result alert spans).2 := by
  by_cases busy : left.busy = true
  next =>
    have busy' := alike.busy.trans busy
    simp only [TxEngine.stageGather, busy, busy', if_true]
    exact ⟨alike, trivial⟩
  next =>
    have free := Bool.eq_false_iff.mpr busy
    have free' := alike.busy.trans free
    have total : (spans.map List.length).sum = spans.flatten.length := by simp [List.length_flatten]
    by_cases long : maxPayload < (spans.map List.length).sum
    next =>
      simp only [TxEngine.stageGather, free, free', long, Bool.false_eq_true, if_false, if_true]
      exact ⟨alike, trivial⟩
    next =>
      have fits : spans.flatten.length ≤ maxPayload := by omega
      obtain ⟨staged, kept, stages, first⟩ := stageGather_staging left engine id result alert spans free fits
      obtain ⟨staged', kept', stages', second⟩ := stageGather_staging right engine id result alert spans free' fits
      refine ⟨?_, ?_⟩
      next =>
        rw [stages, stages']
        refine ⟨second.state.trans first.state.symm, ?_, ?_⟩
        next => rw [second.wire, first.wire, alike.wire]
        next =>
          intro _
          exact ⟨second.result.trans first.result.symm, second.alert.trans first.alert.symm, id, spans.flatten,
            first.laid, second.laid⟩
      next =>
        simp only [TxEngine.stageGather, free, free', long, Bool.false_eq_true, if_false]
        split <;> rfl

theorem Alike.markCollisionTolerant (alike : Alike left right) (key : UInt8) :
    Alike (left.markCollisionTolerant key) (right.markCollisionTolerant key) := by
  have keyed {id : UInt8} {payload : List UInt8} {tx : TxEngine} (laid : Laid id payload tx) :
      Laid id payload { tx with state := .staged (some key) } := by
    cases laid with
    | copied inst rest short buf arms feeds tail crcOff =>
      exact .copied inst rest short buf arms feeds tail crcOff
    | streamed inst rest long buf arms feeds tail crcOff =>
      exact .streamed inst rest long buf arms feeds tail crcOff
  have state := alike.state
  cases held : left.state with
  | staged old =>
    obtain ⟨result, alert, id, payload, first, second⟩ := alike.reply (by simp [TxEngine.staged, held])
    simp only [TxEngine.markCollisionTolerant, held, state]
    exact ⟨rfl, alike.wire, fun _ => ⟨result, alert, id, payload, keyed first, keyed second⟩⟩
  | idle | streaming next =>
    simp only [TxEngine.markCollisionTolerant, held, state]
    exact alike

theorem Alike.trigger (alike : Alike left right) (engine : CrcEngine) (override : Option ResultCode) :
    Alike (left.trigger engine override).1 (right.trigger engine override).1 ∧
      (right.trigger engine override).2 = (left.trigger engine override).2 := by
  have state := alike.state
  cases held : left.state with
  | staged old =>
    obtain ⟨result, alert, id, payload, first, second⟩ := alike.reply (by simp [TxEngine.staged, held])
    have sent := first.first engine (Inst.status (override.getD left.result) left.alert)
    have sent' := second.first engine (Inst.status (override.getD left.result) left.alert)
    simp only [TxEngine.trigger, held, state, result, alert, sent.1, sent.2, sent'.1, sent'.2, alike.wire]
    refine ⟨⟨rfl, rfl, ?_⟩, trivial⟩
    intro staged
    cases staged
  | idle | streaming next =>
    simp only [TxEngine.trigger, held, state]
    refine ⟨⟨rfl, alike.wire, ?_⟩, trivial⟩
    intro staged
    simp [TxEngine.staged] at staged

end TxEngine

namespace Chain

def Alike (left right : Chain) : Prop :=
  right = left ∨ left.state = .idle ∧ right.state = .idle

variable {left right : Chain}

theorem Alike.state (alike : Alike left right) : right.state = left.state := by
  obtain rfl | ⟨idle, idle'⟩ := alike
  next => rfl
  next => rw [idle, idle']

theorem Alike.active (alike : Alike left right) : right.active = left.active := by
  simp only [Chain.active, alike.state]

theorem Alike.waiting (alike : Alike left right) : right.waiting = left.waiting := by
  simp only [Chain.waiting, alike.state]

theorem Alike.remaining (alike : Alike left right) : right.remaining = left.remaining := by
  simp only [Chain.remaining, alike.state]

theorem Alike.reset (left right : Chain) : Alike left.reset right.reset :=
  .inr ⟨rfl, rfl⟩

theorem Alike.onDeadline (alike : Alike left right) (now : UInt32) :
    Alike (left.onDeadline now).1 (right.onDeadline now).1 ∧ (right.onDeadline now).2 = (left.onDeadline now).2 := by
  obtain rfl | ⟨idle, idle'⟩ := alike
  next => exact ⟨.inl rfl, rfl⟩
  next =>
    simp only [Chain.onDeadline, idle, idle']
    exact ⟨.inr ⟨idle, idle'⟩, trivial⟩

theorem Alike.onStatusEnd (alike : Alike left right) (endTick : UInt32) :
    Alike (left.onStatusEnd endTick).1 (right.onStatusEnd endTick).1 ∧
      (right.onStatusEnd endTick).2 = (left.onStatusEnd endTick).2 := by
  obtain rfl | ⟨idle, idle'⟩ := alike
  next => exact ⟨.inl rfl, rfl⟩
  next =>
    simp only [Chain.onStatusEnd, idle, idle']
    exact ⟨.inr ⟨idle, idle'⟩, trivial⟩

theorem Alike.onBreakObserved (alike : Alike left right) (now : UInt32) :
    right.onBreakObserved now = left.onBreakObserved now := by
  obtain rfl | ⟨idle, idle'⟩ := alike
  next => rfl
  next => simp only [Chain.onBreakObserved, idle, idle']

end Chain

/-- Buses that route alike from here on: equal but for counters, deferred changes, drift and records. The
effects of the left one start with what it had done before. -/
structure Twins (past : List Effect) (left right : ServoBus) : Prop where
  framer : left.framer.Alike right.framer
  chain : left.chain.Alike right.chain
  tx : left.tx.Alike right.tx
  crc : right.crc = left.crc
  id : right.id = left.id
  rate : right.rate = left.rate
  tpb : right.tpb = left.tpb
  responseDeadlineUs : right.responseDeadlineUs = left.responseDeadlineUs
  pending : right.pending = left.pending
  framerAt : right.framerAt = left.framerAt
  chainAt : right.chainAt = left.chainAt
  clock : left.clock.Alike right.clock
  ticksPerUs : right.ticksPerUs = left.ticksPerUs
  uart : right.uart = left.uart
  armed : right.armed = left.armed
  reads : right.reads = left.reads
  effects : left.trace.effects = past ++ right.trace.effects

namespace Twins

variable {past : List Effect} {left right : ServoBus} (twins : Twins past left right) (wake : Wake)

include twins

theorem read : Twins past { left with reads := left.reads + 1 } { right with reads := right.reads + 1 } :=
  { twins with reads := by simp only [twins.reads] }

theorem armDeadline : Twins past (left.armDeadline wake) (right.armDeadline wake) := by
  refine { twins with armed := ?_, reads := ?_ }
  next =>
    simp only [ServoBus.armDeadline, ServoBus.readNow, twins.reads]
    rw [twins.framerAt, twins.chainAt]
    rfl
  next => simp only [ServoBus.armDeadline, ServoBus.readNow, twins.reads]

theorem trigger (override : Option ResultCode) : Twins past (left.trigger override) (right.trigger override) := by
  obtain ⟨tx, crc⟩ := twins.tx.trigger left.crc override
  refine { twins with tx := ?_, crc := ?_ }
  next => simp only [ServoBus.trigger, twins.crc]; exact tx
  next => simp only [ServoBus.trigger, twins.crc]; exact crc

theorem routeChain (out : ChainOut) : Twins past (left.routeChain wake out) (right.routeChain wake out) := by
  have fires {left right : ServoBus} (twins : Twins past left right) (override : Option ResultCode) :
      Twins past ((left.noteShot wake).trigger override) ((right.noteShot wake).trigger override) := by
    refine trigger ?_ override
    exact { twins with }
  have loop (fuel : Nat) {left right : ServoBus} (twins : Twins past left right) (out : ChainOut) :
      Twins past (ServoBus.routeChainLoop wake fuel left out) (ServoBus.routeChainLoop wake fuel right out) := by
    induction fuel generalizing left right out with
    | zero =>
      cases out with
      | none | wait => exact twins
      | trigger silent => exact fires twins _
    | succ fuel ih =>
      cases out with
      | none => exact twins
      | trigger silent => exact fires twins _
      | wait tick =>
        have served := twins.chain.onDeadline (wake.now left.reads)
        simp only [ServoBus.routeChainLoop, ServoBus.readNow, twins.reads, served.2]
        by_cases reached : tickReached (wake.now left.reads) tick = true
        next =>
          simp only [reached, Bool.not_true, Bool.false_eq_true, if_false]
          refine ih ?_ _
          exact { twins with chain := served.1, reads := rfl }
        next =>
          rw [Bool.not_eq_true] at reached
          simp only [reached, Bool.not_false, if_true]
          exact { twins with chainAt := rfl, reads := rfl }
  simp only [ServoBus.routeChain, twins.chain.remaining]
  exact loop _ twins out

theorem replyDelay : (right.replyDelay wake).1 = (left.replyDelay wake).1 ∧
    Twins past (left.replyDelay wake).2 (right.replyDelay wake).2 := by
  have gap : right.replyGap = left.replyGap := by simp only [ServoBus.replyGap, twins.ticksPerUs]
  unfold ServoBus.replyDelay
  rw [twins.tx.slotKey]
  cases left.tx.slotKey with
  | some key =>
    refine ⟨?_, { twins with reads := by simp only [ServoBus.readNow, twins.reads] }⟩
    simp only [ServoBus.readNow, ServoBus.replyGap, twins.reads, twins.tpb, twins.ticksPerUs]
  | none => exact ⟨gap, twins⟩

theorem sequenceReply (slot : UInt8) (packetEnd : UInt32) :
    Twins past (left.sequenceReply wake slot packetEnd) (right.sequenceReply wake slot packetEnd) := by
  obtain ⟨gap, later⟩ := twins.replyDelay wake
  have reclaim : (right.replyDelay wake).2.reclaim = (left.replyDelay wake).2.reclaim := by
    simp only [ServoBus.reclaim, later.responseDeadlineUs, later.ticksPerUs]
  have allowance : (right.replyDelay wake).2.frameAllowance = (left.replyDelay wake).2.frameAllowance := by
    simp only [ServoBus.frameAllowance, later.tpb]
  simp only [ServoBus.sequenceReply, gap, reclaim, allowance]
  refine routeChain ?_ wake _
  exact { later with chain := .inl rfl }

theorem dropStaged : Twins past left.dropStaged right.dropStaged := by
  refine { twins with chain := .reset _ _, tx := ?_, chainAt := rfl }
  simp only [ServoBus.dropStaged, ServoBus.stray, twins.tx.staged]
  split
  next => exact twins.tx.abort
  next => exact twins.tx

theorem climb {framer framer' : Framer} (alike : framer.Alike framer') (len : Nat) :
    Twins past (left.climb framer len) (right.climb framer' len) :=
  { twins with framer := alike }

theorem reject (anchor : Nat) : Twins past (left.reject wake.ring anchor) (right.reject wake.ring anchor) :=
  { twins with framer := ⟨rfl, rfl, twins.framer.faultSeen⟩ }

theorem accept (anchor footprint : Nat) :
    Twins past (left.accept wake.ring anchor footprint) (right.accept wake.ring anchor footprint) :=
  { twins with
    framer := ⟨twins.framer.anchor, twins.framer.frontier, twins.framer.faultSeen⟩
    clock := twins.clock.driftShape wake.ring anchor footprint }

theorem note (effect : Effect) : Twins past (left.note effect) (right.note effect) :=
  { twins with effects := by simp [ServoBus.note, twins.effects] }

theorem noteFrame (origin : Option Origin) (view : FrameBytes) :
    Twins past (left.noteFrame origin view) (right.noteFrame origin view) :=
  { twins with effects := by simp [ServoBus.noteFrame, twins.effects] }

theorem owned (staged : Bool) (view : FrameBytes) :
    Twins past (if staged then { left with trace := { left.trace with owner := some view } } else left)
      (if staged then { right with trace := { right.trace with owner := some view } } else right) := by
  cases staged with
  | true => exact { twins with }
  | false => exact twins

theorem noteRuling (ruling ruling' : Ruling) : Twins past (left.noteRuling ruling) (right.noteRuling ruling') :=
  { twins with }

theorem noteStatus (place place' footprint : Nat) :
    Twins past (left.noteStatus place footprint) (right.noteStatus place' footprint) :=
  { twins with }

theorem calBreak (now : UInt32) : Twins past (Servo.calBreak left wake now) (Servo.calBreak right wake now) := by
  obtain ⟨clock, out⟩ := twins.clock.onCalBreak now (wake.cursor left.reads) left.ticksPerUs
  have same : right.clock.onCalBreak now (wake.cursor right.reads) right.ticksPerUs =
      right.clock.onCalBreak now (wake.cursor left.reads) left.ticksPerUs := by rw [twins.reads, twins.ticksPerUs]
  have marked : Twins past
      ({ left with
          reads := left.reads + 1
          clock := (left.clock.onCalBreak now (wake.cursor left.reads) left.ticksPerUs).1 }.note .calStarted)
      ({ right with
          reads := right.reads + 1
          clock := (right.clock.onCalBreak now (wake.cursor left.reads) left.ticksPerUs).1 }.note .calStarted) := by
    refine note ?_ .calStarted
    exact { twins.read with clock := clock }
  unfold Servo.calBreak
  simp only [ServoBus.readCursor, same, out]
  cases (left.clock.onCalBreak now (wake.cursor left.reads) left.ticksPerUs).2 with
  | some tick =>
    refine armDeadline ?_ wake
    exact { marked with framerAt := rfl }
  | none => exact marked

theorem driftStamp (now : UInt32) : Twins past (Servo.driftStamp left wake now) (Servo.driftStamp right wake now) := by
  refine { twins.read with clock := ?_ }
  simp only [Servo.driftStamp, ServoBus.readCursor, twins.reads, twins.tpb]
  exact twins.clock.onDriftBreak now (wake.cursor left.reads) wake.ring.length left.tpb

theorem wireFault (now : UInt32) :
    Twins past (Servo.wireFault left wake now).1 (Servo.wireFault right wake now).1 ∧
      (Servo.wireFault right wake now).2 = (Servo.wireFault left wake now).2 := by
  have cursor : wake.cursor right.reads = wake.cursor left.reads := by rw [twins.reads]
  have faults : (left.framer.onWireFault (wake.cursor left.reads)).1.Alike
        (right.framer.onWireFault (wake.cursor left.reads)).1 ∧
      (right.framer.onWireFault (wake.cursor left.reads)).2 = (left.framer.onWireFault (wake.cursor left.reads)).2 := by
    simp only [Framer.onWireFault, twins.framer.faultSeen]
    split
    next => exact ⟨twins.framer, rfl⟩
    next => exact ⟨⟨twins.framer.anchor, twins.framer.frontier, rfl⟩, rfl⟩
  have served : Twins past
      { left with reads := left.reads + 1, framer := (left.framer.onWireFault (wake.cursor left.reads)).1 }
      { right with reads := right.reads + 1, framer := (right.framer.onWireFault (wake.cursor left.reads)).1 } :=
    { twins.read with framer := faults.1 }
  unfold Servo.wireFault
  cases stamps : (left.framer.onWireFault (wake.cursor left.reads)).2 &&
      ServoBus.newestIsBreakByte wake.ring (wake.cursor left.reads) with
  | true =>
    simp only [ServoBus.readCursor, cursor, faults.2, stamps, if_true]
    exact ⟨served.driftStamp wake now, trivial⟩
  | false =>
    simp only [ServoBus.readCursor, cursor, faults.2, stamps, Bool.false_eq_true, if_false]
    exact ⟨served, trivial⟩

theorem recheck (fresh : Bool) (now : UInt32) :
    Twins past (Servo.recheck left fresh now) (Servo.recheck right fresh now) := by
  unfold Servo.recheck
  rw [twins.framerAt, twins.tpb]
  split
  next => exact { twins with framerAt := rfl, tpb := rfl }
  next => exact twins

theorem yieldReply : Twins past (Servo.yieldReply left wake) (Servo.yieldReply right wake) := by
  have cursor : wake.cursor right.reads = wake.cursor left.reads := by rw [twins.reads]
  have kills : Twins past
      { left with
        reads := left.reads + 1, tx := left.tx.abort, chain := left.chain.reset, chainAt := none }
      { right with
        reads := right.reads + 1, tx := right.tx.abort, chain := right.chain.reset, chainAt := none } :=
    { twins.read with tx := twins.tx.abort, chain := .reset _ _, chainAt := rfl }
  have caught : right.framer.caughtUp (wake.cursor left.reads) = left.framer.caughtUp (wake.cursor left.reads) := by
    simp only [Framer.caughtUp, twins.framer.anchor]
  cases level : left.framer.caughtUp (wake.cursor left.reads) with
  | false =>
    unfold Servo.yieldReply
    rw [twins.tx.staged, twins.tx.collisionTolerant, twins.chain.waiting, twins.pending]
    simp only [ServoBus.readCursor, cursor, caught, level, Bool.not_false, if_true]
    split
    next => exact { kills with }
    next => exact twins
  | true =>
    unfold Servo.yieldReply
    rw [twins.tx.staged, twins.tx.collisionTolerant, twins.chain.waiting, twins.pending]
    simp only [ServoBus.readCursor, cursor, caught, level, Bool.not_true, Bool.false_eq_true, if_false]
    split
    next => exact twins.read
    next => exact twins

end Twins

structure TwinHandles (past : List Effect) (left right : ReplyHandle) : Prop where
  bus : Twins past left.bus right.bus
  staged : right.staged = left.staged
  tolerant : right.tolerant = left.tolerant

namespace TwinHandles

variable {past : List Effect} {left right : ReplyHandle} (twins : TwinHandles past left right)

include twins

theorem stage (result : ResultCode) (alert : Bool) (spans : List (List UInt8)) :
    TwinHandles past (left.stage result alert spans) (right.stage result alert spans) := by
  obtain ⟨tx, out⟩ := twins.bus.tx.stageGather left.bus.crc left.bus.id result alert spans
  have bus := twins.bus
  unfold ReplyHandle.stage
  dsimp only
  rw [bus.crc, bus.id, twins.tolerant]
  generalize left.bus.tx.stageGather left.bus.crc left.bus.id result alert spans = first at tx out ⊢
  generalize right.bus.tx.stageGather left.bus.crc left.bus.id result alert spans = second at tx out ⊢
  obtain ⟨first, crc, said⟩ := first
  obtain ⟨second, rest⟩ := second
  obtain rfl : rest = (crc, said) := out
  cases said with
  | ok said =>
    cases said
    dsimp only at tx ⊢
    refine ⟨{ bus with tx := ?_, crc := rfl, id := rfl }, rfl, rfl⟩
    dsimp only
    split
    next => exact tx.markCollisionTolerant _
    next => exact tx
  | error =>
    dsimp only at tx ⊢
    exact ⟨{ bus with tx := tx, crc := rfl, id := rfl }, twins.staged, rfl⟩

theorem call (call : Call) : TwinHandles past (left.call call) (right.call call) := by
  have bus := twins.bus
  cases call with
  | sendStatus result alert data => exact twins.stage result alert [data]
  | sendStatusGather result alert spans => exact twins.stage result alert spans
  | stageId id => exact { twins with bus := { bus with } }
  | setId id => exact { twins with bus := { bus with id := rfl } }
  | stageBaud baud => exact { twins with bus := { bus with } }
  | setResponseDeadline us => exact { twins with bus := { bus with responseDeadlineUs := rfl } }
  | stageReboot mode => exact { twins with bus := { bus with } }
  | beginClockCal gapUs gaps => exact { twins with bus := { bus with clock := ⟨rfl, bus.clock.cal⟩ } }
  | save | wipe => exact twins

theorem calls (calls : List Call) :
    TwinHandles past (calls.foldl ReplyHandle.call left) (calls.foldl ReplyHandle.call right) := by
  induction calls generalizing left right with
  | nil => exact twins
  | cons call calls ih => exact ih (twins.call call)

end TwinHandles

structure TwinServos (past : List Effect) (left right : Servo) : Prop where
  bus : Twins past left.bus right.bus
  session : right.session = left.session

namespace TwinServos

variable {past : List Effect} {left right : Servo} (twins : TwinServos past left right) (wake : Wake)

include twins

theorem reply (tolerant : Bool) (calls : List Call) :
    TwinServos past (left.reply tolerant calls).1 (right.reply tolerant calls).1 ∧
      (right.reply tolerant calls).2 = (left.reply tolerant calls).2 := by
  have handles : TwinHandles past (calls.foldl ReplyHandle.call { bus := left.bus, tolerant := tolerant })
      (calls.foldl ReplyHandle.call { bus := right.bus, tolerant := tolerant }) := by
    refine TwinHandles.calls ?_ calls
    exact ⟨twins.bus, rfl, rfl⟩
  exact ⟨⟨handles.bus, twins.session⟩, handles.staged⟩

theorem settleTable (table : Bool) : TwinServos past (left.settleTable table) (right.settleTable table) := by
  cases table with
  | false => exact twins
  | true =>
    have settled : TwinServos past ⟨left.bus, (commit left.session).1⟩ ⟨right.bus, (commit left.session).1⟩ :=
      ⟨twins.bus, rfl⟩
    simp only [Servo.settleTable, Servo.commitTable, twins.session, if_true]
    exact (settled.reply false _).1

theorem dispatchDecoded (anchor footprint : Nat) :
    (left.dispatchDecoded wake anchor footprint = none ∧ right.dispatchDecoded wake anchor footprint = none) ∨
      ∃ left' right' out, left.dispatchDecoded wake anchor footprint = some (left', out) ∧
        right.dispatchDecoded wake anchor footprint = some (right', out) ∧ TwinServos past left' right' := by
  have decoded : decode (frameView wake.ring anchor footprint) right.bus.id =
      decode (frameView wake.ring anchor footprint) left.bus.id := by rw [twins.bus.id]
  unfold Servo.dispatchDecoded
  dsimp only
  rw [decoded]
  cases decode (frameView wake.ring anchor footprint) left.bus.id with
  | own req mayReply slot =>
    have dispatched : dispatch right.session (wake.store right.bus.reads) req mayReply =
        dispatch left.session (wake.store left.bus.reads) req mayReply := by rw [twins.session, twins.bus.reads]
    have reads : TwinServos past
        ⟨{ left.bus with reads := left.bus.reads + 1 },
          (dispatch left.session (wake.store left.bus.reads) req mayReply).1⟩
        ⟨{ right.bus with reads := right.bus.reads + 1 },
          (dispatch left.session (wake.store left.bus.reads) req mayReply).1⟩ := ⟨twins.bus.read, rfl⟩
    obtain ⟨replies, staged⟩ := reads.reply (Servo.tolerates req)
      (dispatch left.session (wake.store left.bus.reads) req mayReply).2.1
    have origin : (⟨anchor, footprint, frameView wake.ring anchor footprint, right.bus.id,
        wake.store right.bus.reads, right.bus.crc.acc⟩ : Origin) =
        ⟨anchor, footprint, frameView wake.ring anchor footprint, left.bus.id, wake.store left.bus.reads,
          left.bus.crc.acc⟩ := by rw [twins.bus.id, twins.bus.reads, twins.bus.crc]
    simp only [ServoBus.readStore, dispatched, origin]
    refine .inr ⟨_, _, _, rfl, congrArg some (Prod.ext rfl ?_), ?_⟩
    next => exact Prod.ext staged rfl
    next =>
      refine ⟨?_, replies.session⟩
      dsimp only
      rw [staged]
      exact replies.bus.owned _ _
  | _ => exact .inl ⟨rfl, rfl⟩

theorem sequence (staged : Bool) (slot : UInt8) (packetEnd : UInt32) :
    TwinServos past (left.sequence wake staged slot packetEnd) (right.sequence wake staged slot packetEnd) := by
  simp only [Servo.sequence, twins.bus.tx.staged]
  split
  next => exact ⟨twins.bus.sequenceReply wake slot packetEnd, twins.session⟩
  next => exact twins

theorem accept (p : Pending) : TwinServos past (left.accept wake p) (right.accept wake p) :=
  ⟨(twins.bus.accept wake p.anchor p.footprint).noteFrame p.origin _, twins.session⟩

theorem verify (p : Pending) : TwinServos past (left.verify wake p) (right.verify wake p) := by
  have ruled : TwinServos past (left.rule wake p).1 (right.rule wake p).1 :=
    ⟨twins.bus.read.noteRuling _ _, twins.session⟩
  have passed : (right.rule wake p).2 = (left.rule wake p).2 := by
    simp only [Servo.rule, ServoBus.readLag, twins.bus.reads, twins.bus.crc]
  unfold Servo.verify
  dsimp only
  rw [passed]
  split
  next => exact ((ruled.accept wake p).settleTable p.table).sequence wake p.staged p.slot p.packetEnd
  next =>
    refine ⟨ruled.bus.dropStaged.reject wake p.anchor, ?_⟩
    simp only [Servo.verdictFail, ruled.session]

theorem routeSpine (span : FrameSpan) (complete : Bool) :
    TwinServos past (left.routeSpine wake span complete) (right.routeSpine wake span complete) := by
  have fed : TwinServos past (left.feed wake span) (right.feed wake span) := by
    refine ⟨{ twins.bus with crc := ?_ }, twins.session⟩
    simp only [Servo.feed, twins.bus.crc]
  unfold Servo.routeSpine
  dsimp only
  obtain ⟨none, none'⟩ | ⟨left', right', out, some, some', both⟩ := fed.dispatchDecoded wake span.anchor span.footprint
  next =>
    rw [none, none']
    dsimp only
    split
    next => exact fed.verify wake _
    next => exact fed
  next =>
    obtain ⟨staged, slot, out, origin⟩ := out
    rw [some, some']
    simp only [Servo.await]
    split
    next => exact both.verify wake _
    next => exact ⟨{ both.bus with pending := rfl }, both.session⟩

theorem execute (span : FrameSpan) : TwinServos past (left.execute wake span) (right.execute wake span) := by
  unfold Servo.execute
  obtain ⟨none, none'⟩ | ⟨left', right', out, some, some', both⟩ :=
    twins.dispatchDecoded wake span.anchor span.footprint
  next =>
    rw [none, none']
    exact twins
  next =>
    obtain ⟨staged, slot, out, origin⟩ := out
    rw [some, some']
    have noted : TwinServos past { left' with bus := left'.bus.noteFrame (.some origin) origin.view }
        { right' with bus := right'.bus.noteFrame (.some origin) origin.view } :=
      ⟨both.bus.noteFrame _ _, both.session⟩
    exact (noted.settleTable (out == .pending)).sequence wake staged slot span.packetEnd

theorem routeVerdictFirst (span : FrameSpan) :
    TwinServos past (left.routeVerdictFirst wake span) (right.routeVerdictFirst wake span) := by
  have checked : crcOk right.bus.crc (wake.lag right.bus.reads) wake.ring span.anchor span.footprint =
      crcOk left.bus.crc (wake.lag left.bus.reads) wake.ring span.anchor span.footprint := by
    rw [twins.bus.crc, twins.bus.reads]
  have ruled (crc : CrcEngine) (first second : Ruling) :
      TwinServos past ⟨{ left.bus with reads := left.bus.reads + 1, crc := crc }.noteRuling first, left.session⟩
        ⟨{ right.bus with reads := right.bus.reads + 1, crc := crc }.noteRuling second, right.session⟩ :=
    ⟨{ twins.bus.read with crc := rfl }, twins.session⟩
  unfold Servo.routeVerdictFirst
  dsimp only [ServoBus.readLag]
  rw [checked]
  generalize crcOk left.bus.crc (wake.lag left.bus.reads) wake.ring span.anchor span.footprint = verdict
  obtain ⟨crc, passed⟩ := verdict
  dsimp only
  split
  next =>
    refine execute ?_ wake span
    exact ⟨((ruled crc _ _).bus.accept wake span.anchor span.footprint).dropStaged, twins.session⟩
  next => exact ⟨(ruled crc _ _).bus.reject wake span.anchor, twins.session⟩

theorem routeFrame (span : FrameSpan) (complete : Bool) :
    TwinServos past (left.routeFrame wake span complete) (right.routeFrame wake span complete) := by
  have served := twins.bus.chain.onStatusEnd span.packetEnd
  unfold Servo.routeFrame
  rw [twins.bus.tx.busy, twins.bus.chain.active]
  simp only [served.2]
  split
  next =>
    split
    next =>
      refine ⟨Twins.routeChain ?_ wake _, twins.session⟩
      exact { twins.bus with chain := served.1 }
    next => exact twins
  next =>
    split
    next => exact twins.routeSpine wake span complete
    next =>
      split
      next => exact twins
      next => exact twins.routeVerdictFirst wake span

theorem onFrameEnd (span : FrameSpan) : TwinServos past (left.onFrameEnd wake span) (right.onFrameEnd wake span) := by
  have taken : TwinServos past { left with bus := { left.bus with pending := none } }
      { right with bus := { right.bus with pending := none } } := ⟨{ twins.bus with pending := rfl }, twins.session⟩
  unfold Servo.onFrameEnd
  rw [twins.bus.pending]
  cases left.bus.pending with
  | some p =>
    dsimp only
    split
    next => exact taken.verify wake p
    next =>
      refine routeFrame ?_ wake span true
      exact ⟨taken.bus.dropStaged, twins.session⟩
  | none => exact taken.routeFrame wake span true

theorem driveLoop (fuel : Nat) :
    TwinServos past (Servo.driveLoop wake fuel left) (Servo.driveLoop wake fuel right) := by
  induction fuel generalizing left right with
  | zero =>
    have now : some (wake.now right.bus.reads) = some (wake.now left.bus.reads) := by rw [twins.bus.reads]
    exact ⟨{ twins.bus.read with framerAt := now }, twins.session⟩
  | succ fuel ih =>
    have looks := twins.bus.framer.resolve wake.ring (wake.cursor (left.bus.reads + 1)) (wake.now left.bus.reads)
      left.bus.tpb
    have same : right.bus.framer.resolve wake.ring (wake.cursor (right.bus.reads + 1)) (wake.now right.bus.reads)
        right.bus.tpb = right.bus.framer.resolve wake.ring (wake.cursor (left.bus.reads + 1))
          (wake.now left.bus.reads) left.bus.tpb := by rw [twins.bus.reads, twins.bus.tpb]
    have climbs : Twins past
        ({ left.bus with reads := left.bus.reads + 1 + 1 }.climb (left.bus.framer.resolve wake.ring
          (wake.cursor (left.bus.reads + 1)) (wake.now left.bus.reads) left.bus.tpb).1 wake.ring.length)
        ({ right.bus with reads := right.bus.reads + 1 + 1 }.climb (right.bus.framer.resolve wake.ring
          (wake.cursor (left.bus.reads + 1)) (wake.now left.bus.reads) left.bus.tpb).1 wake.ring.length) :=
      { twins.bus with framer := looks.1, reads := by simp only [ServoBus.climb, twins.bus.reads] }
    rw [Servo.driveLoop, Servo.driveLoop]
    simp only [ServoBus.readNow, ServoBus.readCursor, same, looks.2]
    cases (left.bus.framer.resolve wake.ring (wake.cursor (left.bus.reads + 1)) (wake.now left.bus.reads)
      left.bus.tpb).2 with
    | none => exact ⟨{ climbs with framerAt := rfl }, twins.session⟩
    | wait tick => exact ⟨{ climbs with framerAt := rfl }, twins.session⟩
    | covered span endDue =>
      refine routeFrame ?_ wake span false
      exact ⟨{ climbs with framerAt := rfl }, twins.session⟩
    | frame span =>
      refine ih (onFrameEnd ?_ wake span)
      exact ⟨climbs, twins.session⟩

theorem driveFramer : TwinServos past (left.driveFramer wake) (right.driveFramer wake) :=
  twins.driveLoop wake framesPerWake

theorem onBreak : TwinServos past (left.onBreak wake) (right.onBreak wake) := by
  have now : wake.now right.bus.reads = wake.now left.bus.reads := by rw [twins.bus.reads]
  have active : right.bus.clock.calActive = left.bus.clock.calActive := by
    simp only [ClockTracker.calActive, twins.bus.clock.cal, twins.bus.clock.pendingCal]
  have read := twins.bus.read
  unfold Servo.onBreak
  cases live : left.bus.clock.calActive with
  | true =>
    have live' := active.trans live
    simp only [ServoBus.readNow, now, live, live', if_true]
    exact ⟨read.calBreak wake _, twins.session⟩
  | false =>
    have live' := active.trans live
    simp only [ServoBus.readNow, now, live, live', Bool.false_eq_true, if_false]
    obtain ⟨fault, fresh⟩ := read.wireFault wake (wake.now left.bus.reads)
    rw [fresh]
    have served : TwinServos past
        ⟨(Servo.wireFault { left.bus with reads := left.bus.reads + 1 } wake (wake.now left.bus.reads)).1, left.session⟩
        ⟨(Servo.wireFault { right.bus with reads := right.bus.reads + 1 } wake (wake.now left.bus.reads)).1,
          right.session⟩ := ⟨fault, twins.session⟩
    have driven := served.driveFramer wake
    have yields := (driven.bus.recheck (Servo.wireFault { left.bus with reads := left.bus.reads + 1 } wake
      (wake.now left.bus.reads)).2 (wake.now left.bus.reads)).yieldReply wake
    refine ⟨?_, driven.session⟩
    refine Twins.armDeadline ?_ wake
    rw [yields.chain.onBreakObserved]
    exact yields.routeChain wake _

theorem framerSlot (now : UInt32) : TwinServos past (left.framerSlot wake now) (right.framerSlot wake now) := by
  unfold Servo.framerSlot
  rw [twins.bus.framerAt]
  split
  next =>
    refine driveFramer ?_ wake
    refine ⟨Twins.note ?_ .calAbandoned, twins.session⟩
    exact { twins.bus with framerAt := rfl, clock := ⟨rfl, rfl⟩ }
  next => exact twins

theorem chainSlot (now : UInt32) : TwinServos past (left.chainSlot wake now) (right.chainSlot wake now) := by
  unfold Servo.chainSlot
  rw [twins.bus.chainAt]
  split
  next =>
    have served := twins.bus.chain.onDeadline now
    simp only [Servo.chainDue, served.2]
    refine ⟨Twins.routeChain ?_ wake _, twins.session⟩
    exact { twins.bus with chain := served.1, chainAt := rfl }
  next => exact twins

theorem drain (fuel : Nat) : TwinServos past (Servo.drain wake fuel left) (Servo.drain wake fuel right) := by
  induction fuel generalizing left right with
  | zero => exact twins
  | succ fuel ih =>
    have read : TwinServos past { left with bus := { left.bus with reads := left.bus.reads + 1 } }
        { right with bus := { right.bus with reads := right.bus.reads + 1 } } := ⟨twins.bus.read, twins.session⟩
    have framed := read.framerSlot wake (wake.now left.bus.reads)
    have chained := framed.chainSlot wake (wake.now left.bus.reads)
    have now : wake.now right.bus.reads = wake.now left.bus.reads := by rw [twins.bus.reads]
    have again : (due (wake.now left.bus.reads) right.bus.framerAt || due (wake.now left.bus.reads)
          ({ right with bus := { right.bus with reads := right.bus.reads + 1 } }.framerSlot wake
            (wake.now left.bus.reads)).bus.chainAt) =
        (due (wake.now left.bus.reads) left.bus.framerAt || due (wake.now left.bus.reads)
          ({ left with bus := { left.bus with reads := left.bus.reads + 1 } }.framerSlot wake
            (wake.now left.bus.reads)).bus.chainAt) := by
      rw [framed.bus.chainAt, twins.bus.framerAt]
    rw [Servo.drain, Servo.drain]
    cases goesOn : due (wake.now left.bus.reads) left.bus.framerAt || due (wake.now left.bus.reads)
        ({ left with bus := { left.bus with reads := left.bus.reads + 1 } }.framerSlot wake
          (wake.now left.bus.reads)).bus.chainAt with
    | true =>
      simp only [ServoBus.readNow, now, again, goesOn, if_true]
      exact ih chained
    | false =>
      simp only [ServoBus.readNow, now, again, goesOn, Bool.false_eq_true, if_false]
      exact chained

theorem onDeadline : TwinServos past (left.onDeadline wake) (right.onDeadline wake) :=
  ⟨(twins.drain wake deadlineDrainMax).bus.armDeadline wake, (twins.drain wake deadlineDrainMax).session⟩

end TwinServos

def BusEvent.wakes : BusEvent → Bool
  | .brk _ | .deadline _ => true
  | _ => false

theorem TwinServos.step {past : List Effect} (left right : Servo) (event : BusEvent)
    (twins : TwinServos past left right) (wakes : event.wakes = true) :
    TwinServos past (busStep left event) (busStep right event) := by
  cases event with
  | brk wake => exact twins.onBreak wake
  | deadline wake => exact twins.onDeadline wake
  | txComplete | rescueBreak => cases wakes

theorem TwinServos.run {past : List Effect} (events : List BusEvent) (wakes : ∀ event ∈ events, event.wakes = true)
    (left right : Servo) (twins : TwinServos past left right) :
    TwinServos past (run busStep left events) (run busStep right events) := by
  induction events generalizing left right with
  | nil => exact twins
  | cons event events ih =>
    exact ih (fun later member => wakes later (List.mem_cons_of_mem event member)) _ _
      (twins.step left right event (wakes event List.mem_cons_self))

/-- A bus newly built at the rescue rate over the same providers, for the same dispatcher, where the ring stands: the
anchor of a boot is its first byte. -/
def Servo.rebuilt (servo : Servo) (wake : Wake) : Servo :=
  let boot := servoBoot servo.bus.ticksPerUs servo.bus.id .b500000 servo.bus.responseDeadlineUs servo.session
  { boot with
    bus := { boot.bus with
      framer := boot.bus.framer.resync (wake.cursor servo.bus.reads)
      tx := { wire := servo.bus.tx.abort.wire }
      crc := servo.bus.crc
      reads := servo.bus.reads + 2 } }

/-- From a rescue on the bus answers every run of breaks and deadlines like the newly built one. -/
def Servo.RescueRestores (servo : Servo) (wake : Wake) : Prop :=
  ∀ events : List BusEvent, (∀ event ∈ events, event.wakes = true) →
    TwinServos (servo.bus.onRescueBreak wake).trace.effects
      (Shared.run busStep (busStep servo (.rescueBreak wake)) events)
      (Shared.run busStep (servo.rebuilt wake) events)

theorem TwinServos.rescued {servo : Servo} (idle : servo.bus.tx.streaming = false)
    (quiet : servo.bus.clock.calActive = false) (wake : Wake) :
    TwinServos (servo.bus.onRescueBreak wake).trace.effects (busStep servo (.rescueBreak wake))
      (servo.rebuilt wake) := by
  obtain ⟨live, announced⟩ : servo.bus.clock.cal = none ∧ servo.bus.clock.pendingCal = none := by
    simpa [ClockTracker.calActive] using quiet
  have spent : servo.bus.tx.abort.state = .idle := by
    cases held : servo.bus.tx.state with
    | idle => simp [TxEngine.abort, TxEngine.busy, held]
    | staged key => simp [TxEngine.abort, TxEngine.busy, held]
    | streaming next => simp [TxEngine.streaming, held] at idle
  refine ⟨?_, ?_⟩
  next =>
    simp only [busStep, ServoBus.onRescueBreak, idle, Bool.false_eq_true, if_false]
    refine ⟨⟨rfl, rfl, rfl⟩, .inr ⟨rfl, rfl⟩, ⟨spent.symm, rfl, ?_⟩, rfl, rfl, rfl, rfl, rfl, rfl, rfl, rfl,
      ⟨announced.symm, live.symm⟩, rfl, rfl, rfl, rfl, (List.append_nil _).symm⟩
    intro staged
    have none := TxEngine.staged_abort servo.bus.tx
    exact absurd (staged.symm.trans none) (by decide)
  next => rfl

theorem Servo.onBreak_marks {servo : Servo} (live : servo.bus.clock.calActive = true) (wake : Wake) :
    (servo.onBreak wake).bus.trace.effects = servo.bus.trace.effects ++ [.calStarted] ∧
      (servo.onBreak wake).session = servo.session := by
  unfold Servo.onBreak
  simp only [ServoBus.readNow, live, if_true, Servo.calBreak, ServoBus.readCursor]
  refine ⟨?_, trivial⟩
  split <;> rfl

/-- A bare break on an empty ring already tells the two buses apart. -/
theorem Servo.onBreak_empty {servo : Servo} (quiet : servo.bus.clock.calActive = false)
    (idle : servo.bus.tx.staged = false) (free : servo.bus.chain.state = .idle) :
    (servo.onBreak (steady [] 0 0)).bus.trace.effects = servo.bus.trace.effects := by
  have blank (bus : ServoBus) (session : Session) : Servo.driveFramer ⟨bus, session⟩ (steady [] 0 0) =
      ⟨{ bus.climb bus.framer 0 with reads := bus.reads + 1 + 1, framerAt := none }, session⟩ := rfl
  have fault (bus : ServoBus) : Servo.wireFault bus (steady [] 0 0) 0 =
      ({ bus with reads := bus.reads + 1, framer := (bus.framer.onWireFault 0).1 }, (bus.framer.onWireFault 0).2) := by
    simp [Servo.wireFault, ServoBus.readCursor, steady, ServoBus.newestIsBreakByte]
  have again (bus : ServoBus) (fresh : Bool) (now : UInt32) :
      (Servo.recheck bus fresh now).tx = bus.tx ∧ (Servo.recheck bus fresh now).chain = bus.chain ∧
        (Servo.recheck bus fresh now).trace = bus.trace := by
    unfold Servo.recheck
    split <;> exact ⟨rfl, rfl, rfl⟩
  have stays (bus : ServoBus) (idle : bus.tx.staged = false) : Servo.yieldReply bus (steady [] 0 0) = bus := by
    simp [Servo.yieldReply, idle]
  have waits (bus : ServoBus) (free : bus.chain.state = .idle) (now : UInt32) :
      bus.routeChain (steady [] 0 0) (bus.chain.onBreakObserved now) = bus := by
    simp [ServoBus.routeChain, Chain.onBreakObserved, free, ServoBus.routeChainLoop]
  have now : (steady [] 0 0).now servo.bus.reads = 0 := rfl
  unfold Servo.onBreak
  simp only [ServoBus.readNow, quiet, Bool.false_eq_true, if_false, now, fault, blank]
  rw [stays _ (by rw [(again _ _ _).1]; exact idle), waits _ (by rw [(again _ _ _).2.1]; exact free)]
  simp only [ServoBus.armDeadline, ServoBus.readNow, (again _ _ _).2.2, ServoBus.climb]

theorem rescue_restores_iff (servo : Servo) (wake : Wake) (idle : servo.bus.tx.streaming = false) :
    servo.RescueRestores wake ↔ servo.bus.clock.calActive = false := by
  constructor
  next =>
    intro restores
    by_contra live
    rw [Bool.not_eq_false] at live
    have twins := restores [.brk (steady [] 0 0)] (by simp [BusEvent.wakes])
    have effects := twins.bus.effects
    have still : (busStep servo (.rescueBreak wake)).bus.clock.calActive = true := by
      simp only [busStep, ServoBus.onRescueBreak, idle, Bool.false_eq_true, if_false]
      exact live
    have silent := @Servo.onBreak_empty (servo.rebuilt wake) rfl rfl rfl
    rw [run_cons, run_nil, run_cons, run_nil] at effects
    rw [busStep, busStep, silent, (Servo.onBreak_marks still _).1] at effects
    exact absurd (List.append_cancel_left effects) (by simp [Servo.rebuilt, servoBoot])
  next =>
    intro quiet events wakes
    exact TwinServos.run events wakes _ _ (.rescued idle quiet wake)

theorem rescue_restores_iff_quiet :
    let servo := run busStep servoFive [.brk (steady (pingRing []) 6 0)]
    servo.RescueRestores (steady (pingRing []) 6 20000) ↔ servo.bus.clock.calActive = false :=
  rescue_restores_iff _ _ (by decide +kernel)

def calFrame : List UInt8 := [0x00, 0xFE, 0x07, 0x70, 0x06, 0xE8, 0x03, 0x02, 0x5E, 0x3E]

def calTraffic : List BusEvent :=
  [.brk (steady (pingRing calFrame) 16 40000), .deadline (steady (pingRing calFrame) 16 40192)]

/-- The announce outlives the rescue, and the PING behind it is taken for the train's first mark. -/
theorem rescue_keeps_train :
    let servo := run busStep servoFive [.brk (steady (pingRing calFrame) 10 0)]
    let wake := steady (pingRing calFrame) 10 20000
    servo.bus.tx.streaming = false ∧
      (run busStep (servo.rebuilt wake) calTraffic).bus.tx.wire.length = 2 ∧
      (run busStep (busStep servo (.rescueBreak wake)) calTraffic).bus.tx.wire = [] ∧
      (run busStep (busStep servo (.rescueBreak wake)) calTraffic).bus.clock.cal =
        some ⟨16000, 2, 2, 0, 40000, 16, 0, 0⟩ ∧
      ¬ servo.RescueRestores wake := by
  intro servo wake
  have outcome : servo.bus.tx.streaming = false ∧
      (run busStep (servo.rebuilt wake) calTraffic).bus.tx.wire.length = 2 ∧
      (run busStep (busStep servo (.rescueBreak wake)) calTraffic).bus.tx.wire = [] ∧
      (run busStep (busStep servo (.rescueBreak wake)) calTraffic).bus.clock.cal =
        some ⟨16000, 2, 2, 0, 40000, 16, 0, 0⟩ := by
    decide +kernel
  obtain ⟨idle, answered, silent, taken⟩ := outcome
  refine ⟨idle, answered, silent, taken, ?_⟩
  intro restores
  have same := (restores calTraffic (by decide)).bus.tx.wire
  rw [same, silent] at answered
  cases answered

end OpenServo.Bus
