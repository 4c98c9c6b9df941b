import OpenServo.Bus.Tx
import OpenServo.Protocol.Reply

set_option autoImplicit false

namespace OpenServo.Bus

open OpenServo.Protocol

structure Transmission where
  tx : TxEngine
  engine : CrcEngine
  fed : List (List UInt8)

def TxEngine.feeding (tx : TxEngine) (engine : CrcEngine) (override : Option ResultCode) : List (List UInt8) :=
  match tx.state with
  | .idle => []
  | .staged _ =>
    [(tx.feeds.getD 0 (.buf 0 0)).resolve engine
      (overwrite tx.buf 3 [Inst.status (override.getD tx.result) tx.alert])]
  | .streaming next =>
    if next < tx.arms.length ∧ next < tx.feeds.length then
      [(tx.feeds.getD next (.buf 0 0)).resolve engine tx.buf]
    else []

namespace Transmission

def start (tx : TxEngine) (engine : CrcEngine) (override : Option ResultCode) : Transmission where
  tx := (tx.trigger engine override).1
  engine := (tx.trigger engine override).2
  fed := tx.feeding engine override

def complete (sending : Transmission) (lag : Nat) : Transmission where
  tx := (sending.tx.onArmComplete sending.engine lag).1
  engine := (sending.tx.onArmComplete sending.engine lag).2.1
  fed := sending.fed ++ sending.tx.feeding sending.engine none

def run (tx : TxEngine) (engine : CrcEngine) (override : Option ResultCode) (lags : List Nat) : Transmission :=
  lags.foldl complete (start tx engine override)

theorem run_engine (tx : TxEngine) (engine : CrcEngine) (override : Option ResultCode) (lags : List Nat)
    (staged : tx.staged = true) :
    (run tx engine override lags).engine = (run tx engine override lags).fed.foldl CrcEngine.feed engine.reset ∧
      (run tx engine override lags).tx.staged = false := by
  have step (sending : Transmission) (lag : Nat) (empty : sending.tx.staged = false)
      (same : sending.engine = sending.fed.foldl CrcEngine.feed engine.reset) :
      (sending.complete lag).engine = (sending.complete lag).fed.foldl CrcEngine.feed engine.reset ∧
        (sending.complete lag).tx.staged = false := by
    refine ⟨?_, (TxEngine.onArmComplete_spec _ _ _).1.trans empty⟩
    rw [complete, List.foldl_append, ← same]
    cases state : sending.tx.state with
    | idle => simp [TxEngine.onArmComplete, TxEngine.feeding, state]
    | staged key => simp [TxEngine.staged, state] at empty
    | streaming next =>
      by_cases more : next < sending.tx.arms.length
      next =>
        by_cases feeds : next < sending.tx.feeds.length
        next => simp [TxEngine.onArmComplete, TxEngine.feeding, state, more, feeds]
        next => simp [TxEngine.onArmComplete, TxEngine.feeding, state, more, feeds]
      next => simp [TxEngine.onArmComplete, TxEngine.feeding, state, more]
  have first : (start tx engine override).engine =
      (start tx engine override).fed.foldl CrcEngine.feed engine.reset := by
    simp only [TxEngine.staged] at staged
    split at staged
    next key state => simp [start, TxEngine.trigger, TxEngine.feeding, state]
    next => cases staged
  have all (sending : Transmission) (empty : sending.tx.staged = false)
      (same : sending.engine = sending.fed.foldl CrcEngine.feed engine.reset) :
      (lags.foldl complete sending).engine = (lags.foldl complete sending).fed.foldl CrcEngine.feed engine.reset ∧
        (lags.foldl complete sending).tx.staged = false := by
    induction lags generalizing sending with
    | nil => exact ⟨same, empty⟩
    | cons lag lags ih =>
      obtain ⟨same, empty⟩ := step sending lag empty same
      exact ih (sending.complete lag) empty same
  exact all _ (TxEngine.staged_trigger tx engine override) first

end Transmission

/-- The frame as staging lays it out: all of it in the buffer, or its payload in the engine's snapshot. -/
inductive Laid (id : UInt8) (payload : List UInt8) (tx : TxEngine) : Prop where
  | copied (inst : Inst) (rest : List UInt8) (short : payload.length ≤ smallCopyMax)
      (buf : tx.buf = FrameBuf.layout id inst payload ++ 0 :: 0 :: rest)
      (arms : tx.arms = [.buf 1 (3 + payload.length), .buf (4 + payload.length) 2])
      (feeds : tx.feeds = [.buf 0 (4 + payload.length - (4 + payload.length) % 2)])
      (tail : tx.tail = if (4 + payload.length) % 2 = 1 then some (.buf (3 + payload.length)) else none)
      (crcOff : tx.crcOff = 4 + payload.length)
  | streamed (inst : Inst) (rest : List UInt8) (long : smallCopyMax < payload.length)
      (buf : tx.buf = alignByte :: id :: UInt8.ofNat (lenFor payload.length) :: inst :: 0 :: 0 :: rest)
      (arms : tx.arms = [.buf 1 3, .ext payload.length, .buf 4 2])
      (feeds : tx.feeds = [.buf 0 4, .ext (payload.length - payload.length % 2)])
      (tail : tx.tail = if payload.length % 2 = 1 then some (.snap (payload.length - 1)) else none)
      (crcOff : tx.crcOff = 4)

theorem snapshotSpans_take (engine : CrcEngine) (off : Nat) (spans : List (List UInt8))
    (inside : off ≤ engine.snap.length) :
    (TxEngine.snapshotSpans engine off spans).snap.take (off + spans.flatten.length) =
      engine.snap.take off ++ spans.flatten := by
  induction spans generalizing engine off with
  | nil => simp [TxEngine.snapshotSpans]
  | cons span rest ih =>
    rw [TxEngine.snapshotSpans]
    split
    next empty =>
      have nothing : span = [] := List.isEmpty_iff.mp empty
      simpa [nothing] using ih engine off inside
    next =>
      have grown : off + span.length ≤ (engine.snapshot off span).snap.length := by
        simp only [CrcEngine.snapshot, List.length_append, List.length_take]
        omega
      have written : (engine.snapshot off span).snap.take (off + span.length) = engine.snap.take off ++ span := by
        rw [CrcEngine.snapshot, List.take_left']
        simp only [List.length_append, List.length_take]
        omega
      rw [List.flatten_cons, List.length_append, ← Nat.add_assoc, ih _ _ grown, written, List.append_assoc]

theorem overwrite_front (buf bytes : List UInt8) : overwrite buf 0 bytes = bytes ++ buf.drop bytes.length := by
  simp [overwrite]

theorem overwrite_append {front : List UInt8} {off : Nat} (length : front.length = off) (back bytes : List UInt8) :
    overwrite (front ++ back) off bytes = front ++ (bytes ++ back.drop bytes.length) := by
  subst length
  simp [overwrite, List.drop_append]

structure Staging (tx staged : TxEngine) (engine : CrcEngine) (id : UInt8) (result : ResultCode) (alert : Bool)
    (payload : List UInt8) : Prop where
  laid : Laid id payload staged
  wire : staged.wire = tx.wire
  state : staged.state = .staged none
  result : staged.result = result
  alert : staged.alert = alert
  snap : smallCopyMax < payload.length → engine.snap.take payload.length = payload

theorem stageGather_staging (tx : TxEngine) (engine : CrcEngine) (id : UInt8) (result : ResultCode)
    (alert : Bool) (spans : List (List UInt8)) (free : tx.busy = false)
    (fits : spans.flatten.length ≤ maxPayload) :
    ∃ staged later, tx.stageGather engine id result alert spans = (staged, later, .ok ()) ∧
      Staging tx staged later id result alert spans.flatten := by
  have total : (spans.map List.length).sum = spans.flatten.length := by simp [List.length_flatten]
  have low : ¬ maxPayload < spans.flatten.length := by omega
  unfold TxEngine.stageGather
  simp only [free, total, low, Bool.false_eq_true, if_false]
  refine ⟨_, _, rfl, ?_, ?_, ?_, rfl, rfl, ?_⟩
  next =>
    split
    next short =>
      have cov : coveredLen (lenFor spans.flatten.length) = 4 + spans.flatten.length := by
        simp only [coveredLen, lenFor]
        omega
      have front : (FrameBuf.layout id (Inst.status result alert) spans.flatten).length =
          4 + spans.flatten.length := by
        simp only [FrameBuf.layout, List.length_append, List.length_cons, List.length_nil]
      have laid := overwrite_append front (tx.buf.drop (4 + spans.flatten.length)) [0, 0]
      rw [cov]
      refine .copied (Inst.status result alert) ((tx.buf.drop (4 + spans.flatten.length)).drop 2) short ?_ ?_ rfl ?_ rfl
      next =>
        dsimp only
        rw [overwrite_front]
        rw [← front] at laid ⊢
        exact laid
      next => simp only [show 4 + spans.flatten.length - 1 = 3 + spans.flatten.length by omega]
      next => simp only [show 4 + spans.flatten.length - 1 = 3 + spans.flatten.length by omega]
    next long =>
      refine .streamed (Inst.status result alert) ((tx.buf.drop 4).drop 2) (by omega) ?_ rfl rfl rfl rfl
      dsimp only
      rw [overwrite_front]
      exact @overwrite_append [alignByte, id, _, _] 4 rfl _ _
  next => split <;> rfl
  next => split <;> rfl
  next =>
    intro long
    rw [if_neg (by omega)]
    simpa using snapshotSpans_take engine 0 spans (Nat.zero_le _)

structure Sent (tx : TxEngine) (out : Transmission) (frame : List UInt8) : Prop where
  arms : ∃ arms : List (List UInt8), out.tx.wire = tx.wire ++ .startFrame :: arms.map .send ++ [.release] ∧
    alignByte :: arms.flatten = frame ∧ ∀ arm ∈ arms, arm ≠ []
  idle : out.tx.state = .idle
  even : ∀ chunk ∈ out.fed, chunk.length % 2 = 0

def bulkCrc (crc : UInt16) (bytes : List UInt8) : UInt16 :=
  if bytes.length % 2 = 1 then
    oscCrcContinue (oscCrcContinue crc (bytes.take (bytes.length - bytes.length % 2)))
      [bytes.getD (bytes.length - 1) 0]
  else oscCrcContinue crc (bytes.take (bytes.length - bytes.length % 2))

theorem bulkCrc_eq (crc : UInt16) (bytes : List UInt8) : bulkCrc crc bytes = oscCrcContinue crc bytes := by
  rw [bulkCrc]
  split
  next odd =>
    have last : bytes.length - 1 < bytes.length := by omega
    rw [← oscCrcContinue_append, odd, List.getD_eq_getElem?_getD, List.getElem?_eq_getElem last, Option.getD_some,
      List.take_append_getElem last, Nat.sub_add_cancel (by omega), List.take_length]
  next even => rw [show bytes.length % 2 = 0 by omega, Nat.sub_zero, List.take_length]

section Send

variable {tx : TxEngine} {engine : CrcEngine} {id : UInt8} {payload : List UInt8} {key : Option UInt8}
  {sending : Transmission} {wire : List WireOp} {buf : List UInt8} {sum : UInt16} {fed : List (List UInt8)}
  {next : Nat}

structure Sending (tx : TxEngine) (engine : CrcEngine) (sending : Transmission) (wire : List WireOp)
    (buf : List UInt8) (sum : UInt16) (fed : List (List UInt8)) (next : Nat) : Prop where
  tx : sending.tx = { tx with wire := wire, buf := buf, state := .streaming next }
  engine : sending.engine = { engine with acc := sum }
  fed : sending.fed = fed

/-- Where an arm's bytes come from does not move while the sum grows. -/
theorem resolve_acc (arm : Arm) (sum : UInt16) :
    arm.resolve { engine with acc := sum } buf = arm.resolve engine buf := by
  cases arm <;> rfl

theorem sending_start (state : tx.state = .staged key) (override : Option ResultCode) (chunk arm : List UInt8)
    (fired : overwrite tx.buf 3 [Inst.status (override.getD tx.result) tx.alert] = buf)
    (feeds : (tx.feeds.getD 0 (.buf 0 0)).resolve engine buf = chunk)
    (arms : (tx.arms.getD 0 (.buf 0 0)).resolve engine buf = arm) :
    Sending tx engine (Transmission.start tx engine override) (tx.wire ++ [.startFrame, .send arm]) buf (oscCrc chunk)
      [chunk] 1 := by
  subst fired feeds arms
  simp only [Transmission.start, TxEngine.trigger, TxEngine.feeding, state]
  exact ⟨rfl, rfl, rfl⟩

theorem Sending.feeds (under : Sending tx engine sending wire buf sum fed next) (more : next < tx.arms.length)
    (left : next < tx.feeds.length) (chunk arm : List UInt8)
    (feeds : (tx.feeds.getD next (.buf 0 0)).resolve engine buf = chunk)
    (arms : (tx.arms.getD next (.buf 0 0)).resolve engine buf = arm) (lag : Nat) :
    Sending tx engine (sending.complete lag) (wire ++ [.send arm]) buf (oscCrcContinue sum chunk) (fed ++ [chunk])
      (next + 1) := by
  obtain ⟨here, sums, fed⟩ := under
  subst feeds arms fed
  have engines (sum : UInt16) : CrcEngine.feed { engine with acc := sum }
      ((tx.feeds.getD next (.buf 0 0)).resolve engine buf) =
        { engine with acc := oscCrcContinue sum ((tx.feeds.getD next (.buf 0 0)).resolve engine buf) } := rfl
  refine ⟨?_, ?_, ?_⟩ <;>
    simp only [Transmission.complete, TxEngine.onArmComplete, TxEngine.feeding, here, sums, more, left, if_true,
      resolve_acc, engines, and_self]

theorem Sending.patches (under : Sending tx engine sending wire buf sum fed next) (more : next < tx.arms.length)
    (last : ¬ next < tx.feeds.length) {trailer : UInt16} {patched : List UInt8} (arm : List UInt8)
    (folded : (match tx.tail with
      | some b => oscCrcContinue sum [b.read engine buf]
      | none => sum) = trailer)
    (rewrites : overwrite buf tx.crcOff (u16ToLe trailer) = patched)
    (arms : (tx.arms.getD next (.buf 0 0)).resolve engine patched = arm) (lag : Nat) (drains : lag ≤ spinPerByte) :
    Sending tx engine (sending.complete lag) (wire ++ [.send arm]) patched sum fed (next + 1) := by
  obtain ⟨here, sums, fed⟩ := under
  subst arms rewrites folded fed
  have reads (b : TailByte) : b.read { engine with acc := sum } buf = b.read engine buf := by
    cases b <;> rfl
  cases tail : tx.tail <;>
    refine ⟨?_, ?_, ?_⟩ <;>
      simp only [Transmission.complete, TxEngine.onArmComplete, TxEngine.feeding, TxEngine.patchCrc, CrcEngine.await_eq,
        here, sums, more, last, tail, drains, if_true, if_false, and_false, resolve_acc, reads, List.append_nil]

theorem Sending.releases (under : Sending tx engine sending wire buf sum fed next) (last : ¬ next < tx.arms.length)
    (lag : Nat) :
    (sending.complete lag).tx.wire = wire ++ [.release] ∧ (sending.complete lag).tx.state = .idle ∧
      (sending.complete lag).fed = fed := by
  obtain ⟨here, sums, fed⟩ := under
  subst fed
  refine ⟨?_, ?_, ?_⟩ <;>
    simp only [Transmission.complete, TxEngine.onArmComplete, TxEngine.feeding, here, last, if_false, false_and,
      List.append_nil]

theorem streamed_sends {inst final : Inst} {rest : List UInt8} (override : Option ResultCode)
    (state : tx.state = .staged key) (long : smallCopyMax < payload.length)
    (buf : tx.buf = alignByte :: id :: UInt8.ofNat (lenFor payload.length) :: inst :: 0 :: 0 :: rest)
    (arms : tx.arms = [.buf 1 3, .ext payload.length, .buf 4 2])
    (feeds : tx.feeds = [.buf 0 4, .ext (payload.length - payload.length % 2)])
    (tail : tx.tail = if payload.length % 2 = 1 then some (.snap (payload.length - 1)) else none)
    (crcOff : tx.crcOff = 4) (snap : engine.snap.take payload.length = payload)
    (overridden : Inst.status (override.getD tx.result) tx.alert = final) (first second third : Nat)
    (drains : second ≤ spinPerByte) :
    Sent tx (Transmission.run tx engine override [first, second, third])
      (FrameBuf.layout id final payload ++ u16ToLe (oscCrc (FrameBuf.layout id final payload))) := by
  have fired : overwrite tx.buf 3 [Inst.status (override.getD tx.result) tx.alert] =
      alignByte :: id :: UInt8.ofNat (lenFor payload.length) :: final :: 0 :: 0 :: rest := by
    rw [buf, overridden]
    rfl
  have bulk : engine.snap.take (payload.length - payload.length % 2) =
      payload.take (payload.length - payload.length % 2) := by
    rw [← snap, List.take_take, snap, Nat.min_eq_left (Nat.sub_le _ _)]
  have last : engine.snap.getD (payload.length - 1) 0 = payload.getD (payload.length - 1) 0 := by
    have inside : payload.length - 1 < payload.length := by
      simp only [smallCopyMax] at long
      omega
    have same := congrArg (fun bytes => bytes.getD (payload.length - 1) 0) snap
    rw [← same]
    simp [List.getD_eq_getElem?_getD, inside]
  have sum : bulkCrc (oscCrc [alignByte, id, UInt8.ofNat (lenFor payload.length), final]) payload =
      oscCrc (FrameBuf.layout id final payload) := by
    rw [bulkCrc_eq, oscCrc, ← oscCrcContinue_append]
    rfl
  -- One arm a completion: the header, the payload from the snapshot, the trailer patched behind it.
  have one := @sending_start tx engine key _ state override [alignByte, id, UInt8.ofNat (lenFor payload.length), final]
    [id, UInt8.ofNat (lenFor payload.length), final] fired (by rw [feeds]; rfl) (by rw [arms]; rfl)
  have two := one.feeds (by simp [arms]) (by simp [feeds]) (payload.take (payload.length - payload.length % 2)) payload
    (by rw [feeds]; exact bulk) (by rw [arms]; exact snap) first
  have folded : (match tx.tail with
      | some b => oscCrcContinue (oscCrcContinue
          (oscCrc [alignByte, id, UInt8.ofNat (lenFor payload.length), final])
          (payload.take (payload.length - payload.length % 2)))
          [b.read engine (alignByte :: id :: UInt8.ofNat (lenFor payload.length) :: final :: 0 :: 0 :: rest)]
      | none => oscCrcContinue (oscCrc [alignByte, id, UInt8.ofNat (lenFor payload.length), final])
          (payload.take (payload.length - payload.length % 2))) =
      oscCrc (FrameBuf.layout id final payload) := by
    rw [← sum, bulkCrc, tail]
    by_cases odd : payload.length % 2 = 1
    next => simp only [if_pos odd, TailByte.read, last]
    next => simp only [if_neg odd]
  have three := two.patches (by simp [arms]) (by simp [feeds]) (u16ToLe (oscCrc (FrameBuf.layout id final payload)))
    folded rfl (by rw [arms, crcOff]; rfl) second drains
  obtain ⟨wire, idle, fed⟩ := three.releases (by simp [arms]) third
  refine ⟨⟨[[id, UInt8.ofNat (lenFor payload.length), final], payload,
    u16ToLe (oscCrc (FrameBuf.layout id final payload))], ?_, ?_, ?_⟩, idle, ?_⟩
  next =>
    rw [Transmission.run, List.foldl_cons, List.foldl_cons, List.foldl_cons, List.foldl_nil, wire]
    simp
  next => simp [FrameBuf.layout]
  next =>
    have some : payload ≠ [] := by
      intro empty
      simp [empty] at long
    simp [some, u16ToLe]
  next =>
    intro chunk member
    rw [Transmission.run, List.foldl_cons, List.foldl_cons, List.foldl_cons, List.foldl_nil, fed] at member
    rcases List.mem_pair.mp member with rfl | rfl
    next => simp
    next =>
      rw [List.length_take]
      omega

theorem copied_sends {inst final : Inst} {rest : List UInt8} (override : Option ResultCode)
    (state : tx.state = .staged key) (buf : tx.buf = FrameBuf.layout id inst payload ++ 0 :: 0 :: rest)
    (arms : tx.arms = [.buf 1 (3 + payload.length), .buf (4 + payload.length) 2])
    (feeds : tx.feeds = [.buf 0 (4 + payload.length - (4 + payload.length) % 2)])
    (tail : tx.tail = if (4 + payload.length) % 2 = 1 then some (.buf (3 + payload.length)) else none)
    (crcOff : tx.crcOff = 4 + payload.length)
    (overridden : Inst.status (override.getD tx.result) tx.alert = final) (first second : Nat)
    (drains : first ≤ spinPerByte) :
    Sent tx (Transmission.run tx engine override [first, second])
      (FrameBuf.layout id final payload ++ u16ToLe (oscCrc (FrameBuf.layout id final payload))) := by
  have fired : overwrite tx.buf 3 [Inst.status (override.getD tx.result) tx.alert] =
      FrameBuf.layout id final payload ++ 0 :: 0 :: rest := by
    rw [buf, overridden]
    rfl
  have head : alignByte :: (FrameBuf.layout id final payload).drop 1 = FrameBuf.layout id final payload := rfl
  have length : (FrameBuf.layout id final payload).length = 4 + payload.length := by
    simp only [FrameBuf.layout, List.length_append, List.length_cons, List.length_nil]
  -- From here on only the length of the covered span matters.
  generalize FrameBuf.layout id final payload = span at *
  have last : (span ++ 0 :: 0 :: rest).getD (3 + payload.length) 0 = span.getD (span.length - 1) 0 := by
    rw [length, show 4 + payload.length - 1 = 3 + payload.length by omega, List.getD_eq_getElem?_getD,
      List.getElem?_append_left (by omega), List.getD_eq_getElem?_getD]
  have bulk : (Arm.buf 0 (4 + payload.length - (4 + payload.length) % 2)).resolve engine (span ++ 0 :: 0 :: rest) =
      span.take (span.length - span.length % 2) := by
    rw [Arm.resolve, List.extract_eq_take_drop, length, List.drop_zero, Nat.zero_add, Nat.sub_zero,
      List.take_append_of_le_length (by omega)]
  have body : (Arm.buf 1 (3 + payload.length)).resolve engine (span ++ 0 :: 0 :: rest) = span.drop 1 := by
    rw [Arm.resolve, List.extract_eq_take_drop, List.drop_append_of_le_length (by omega), Nat.add_sub_cancel_left]
    exact List.take_left' (by simp [length])
  have folded : (match tx.tail with
      | some b => oscCrcContinue (oscCrc (span.take (span.length - span.length % 2)))
          [b.read engine (span ++ 0 :: 0 :: rest)]
      | none => oscCrc (span.take (span.length - span.length % 2))) = oscCrc span := by
    have whole := bulkCrc_eq 0 span
    rw [bulkCrc, length] at whole
    rw [tail, oscCrc, oscCrc, ← whole, length]
    by_cases odd : (4 + payload.length) % 2 = 1
    next => simp only [if_pos odd, TailByte.read, last, length]
    next => simp only [if_neg odd]
  have trailer : (Arm.buf (4 + payload.length) 2).resolve engine
      (overwrite (span ++ 0 :: 0 :: rest) (4 + payload.length) (u16ToLe (oscCrc span))) = u16ToLe (oscCrc span) := by
    rw [overwrite_append length, Arm.resolve, List.extract_eq_take_drop, List.drop_left' length,
      Nat.add_sub_cancel_left]
    rfl
  have one := @sending_start tx engine key _ state override (span.take (span.length - span.length % 2))
    (span.drop 1) fired (by rw [feeds]; exact bulk) (by rw [arms]; exact body)
  have two := one.patches (by simp [arms]) (by simp [feeds]) (u16ToLe (oscCrc span)) folded rfl
    (by rw [arms, crcOff]; exact trailer) first drains
  obtain ⟨wire, idle, fed⟩ := two.releases (by simp [arms]) second
  refine ⟨⟨[span.drop 1, u16ToLe (oscCrc span)], ?_, ?_, ?_⟩, idle, ?_⟩
  next =>
    rw [Transmission.run, List.foldl_cons, List.foldl_cons, List.foldl_nil, wire]
    simp
  next =>
    rw [List.flatten_cons, List.flatten_cons, List.flatten_nil, List.append_nil, ← List.cons_append, head]
  next =>
    have some : span.drop 1 ≠ [] := by
      intro empty
      have gone := congrArg List.length empty
      simp [length] at gone
    simp only [List.mem_cons, List.not_mem_nil, or_false, forall_eq_or_imp, forall_eq]
    exact ⟨some, by simp [u16ToLe]⟩
  next =>
    intro chunk member
    rw [Transmission.run, List.foldl_cons, List.foldl_cons, List.foldl_nil, fed] at member
    rw [List.mem_singleton.mp member, List.length_take]
    omega

theorem Laid.sends (laid : Laid id payload tx) (state : tx.state = .staged key)
    (snap : smallCopyMax < payload.length → engine.snap.take payload.length = payload) (override : Option ResultCode)
    (lags : List Nat) (count : lags.length = tx.arms.length) (drains : ∀ lag ∈ lags, lag ≤ spinPerByte) :
    Sent tx (Transmission.run tx engine override lags)
      (FrameBuf.layout id (Inst.status (override.getD tx.result) tx.alert) payload ++
        u16ToLe (oscCrc (FrameBuf.layout id (Inst.status (override.getD tx.result) tx.alert) payload))) := by
  cases laid with
  | copied inst rest short buf arms feeds tail crcOff =>
    rw [arms] at count
    obtain ⟨first, second, rfl⟩ := List.length_eq_two.mp count
    exact copied_sends override state buf arms feeds tail crcOff rfl first second (drains first (by simp))
  | streamed inst rest long buf arms feeds tail crcOff =>
    rw [arms] at count
    obtain ⟨first, second, third, rfl⟩ := List.length_eq_three.mp count
    exact streamed_sends override state long buf arms feeds tail crcOff (snap long) rfl first second third
      (drains second (by simp))

end Send

/-- A reply that staging takes goes out as the frame a buffer of any size seals for it; one it refuses leaves both
engines as they were. -/
theorem reply_frame_sealed (tx : TxEngine) (engine : CrcEngine) (id : UInt8) (result : ResultCode) (alert : Bool)
    (spans : List (List UInt8)) (override : Option ResultCode) :
    (tx.busy = true → tx.stageGather engine id result alert spans = (tx, engine, .error .busy)) ∧
      (tx.busy = false → maxPayload < spans.flatten.length →
        tx.stageGather engine id result alert spans = (tx, engine, .error .overflow)) ∧
      (tx.busy = false → spans.flatten.length ≤ maxPayload →
        ∃ staged kept, tx.stageGather engine id result alert spans = (staged, kept, .ok ()) ∧
          ∀ (key : Option UInt8) (later : CrcEngine) (lags : List Nat),
            later.snap.take spans.flatten.length = kept.snap.take spans.flatten.length →
            lags.length = staged.arms.length → (∀ lag ∈ lags, lag ≤ spinPerByte) →
            ∃ body, Sent tx (Transmission.run { staged with state := .staged key } later override lags)
                (alignByte :: (body ++ u16ToLe (oscCrc body))) ∧
              (Transmission.run { staged with state := .staged key } later override lags).engine =
                (Transmission.run { staged with state := .staged key } later override lags).fed.foldl
                  CrcEngine.feed later.reset ∧
              ∀ (n : Nat) (buf : FrameBuf n), spans.flatten.length + 6 ≤ n →
                (((buf.start id (Inst.status (override.getD result) alert)).putPayload spans.flatten).finish
                  spans.flatten.length).sealFrame = alignByte :: (body ++ u16ToLe (oscCrc body))) := by
  have total : (spans.map List.length).sum = spans.flatten.length := by simp [List.length_flatten]
  refine ⟨?_, ?_, ?_⟩
  next =>
    intro busy
    simp only [TxEngine.stageGather, busy, if_true]
  next =>
    intro free long
    simp only [TxEngine.stageGather, free, total, long, Bool.false_eq_true, if_true, if_false]
  next =>
    intro free fits
    obtain ⟨staged, kept, stages, staging⟩ := stageGather_staging tx engine id result alert spans free fits
    refine ⟨staged, kept, stages, ?_⟩
    intro key later lags keeps count drains
    have laid : Laid id spans.flatten { staged with state := .staged key } := by
      cases staging.laid with
      | copied inst rest short buf arms feeds tail crcOff =>
        exact .copied inst rest short buf arms feeds tail crcOff
      | streamed inst rest long buf arms feeds tail crcOff =>
        exact .streamed inst rest long buf arms feeds tail crcOff
    have sent := @Laid.sends { staged with state := .staged key } later id spans.flatten key laid rfl
      (fun long => keeps.trans (staging.snap long)) override lags count drains
    obtain ⟨body, framed⟩ : ∃ body, FrameBuf.layout id (Inst.status (override.getD result) alert) spans.flatten =
        alignByte :: body := ⟨_, rfl⟩
    have trailer : oscCrc (alignByte :: body) = oscCrc body := oscCrc_break_cons body
    refine ⟨body, ?_, (Transmission.run_engine _ later override lags rfl).1, ?_⟩
    next =>
      obtain ⟨⟨arms, wire, whole, filled⟩, idle, even⟩ := sent
      rw [staging.result, staging.alert, framed, trailer, List.cons_append] at whole
      exact ⟨⟨arms, by rw [wire, staging.wire], whole, filled⟩, idle, even⟩
    next =>
      intro n buf room
      rw [FrameBuf.sealFrame_eq buf id _ spans.flatten fits room, framed, trailer, List.cons_append]

theorem reply_frame_sealed_silent :
    ∃ staged kept, ({} : TxEngine).stageGather {} 7 .ok true [[0x11, 0x22], [], [0x33]] = (staged, kept, .ok ()) ∧
      ∃ body, Sent {} (Transmission.run staged kept (some .predecessorSilent) [0, 64, 3])
          (alignByte :: (body ++ u16ToLe (oscCrc body))) ∧
        ((((FrameBuf.new 16).start 7 (Inst.status .predecessorSilent true)).putPayload [0x11, 0x22, 0x33]).finish
          3).sealFrame = alignByte :: (body ++ u16ToLe (oscCrc body)) := by
  obtain ⟨staged, kept, stages, sends⟩ := (reply_frame_sealed {} {} 7 .ok true [[0x11, 0x22], [], [0x33]]
    (some .predecessorSilent)).2.2 rfl (by decide)
  have outcome : staged.state = .staged none ∧ staged.arms.length = 3 := by
    have first := congrArg Prod.fst stages
    simp only at first
    rw [← first]
    decide +kernel
  obtain ⟨body, sent, -, sealed⟩ := sends none kept [0, 64, 3] rfl outcome.2.symm (by decide)
  have same : { staged with state := .staged none } = staged := by
    rw [← outcome.1]
  rw [same] at sent
  exact ⟨staged, kept, stages, body, sent, sealed 16 (FrameBuf.new 16) (by decide)⟩

end OpenServo.Bus
