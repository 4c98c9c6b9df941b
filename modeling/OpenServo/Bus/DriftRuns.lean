import OpenServo.Bus.DriftPairs
import OpenServo.Bus.Sites
import OpenServo.Bus.Unhidden

set_option autoImplicit false

namespace OpenServo.Bus

open OpenServo.Core OpenServo.Protocol OpenServo.Shared

structure Mild (before after : ServoBus) : Prop where
  tally : after.clock.tally = before.clock.tally
  rulings : after.trace.rulings = before.trace.rulings
  anchor : after.framer.anchor = before.framer.anchor

/-- One ruling on a frame, which is recorded for the pairing where it passes. The ladder stays in the ring. -/
def Settles (wake : Wake) (span : FrameSpan) (before after : ServoBus) : Prop :=
  ∃ ruling : Ruling, ruling.view = frameView wake.ring span.anchor span.footprint ∧
    after.trace.rulings = before.trace.rulings ++ [ruling] ∧
    after.clock.tally =
      (if ruling.passed then ServoBus.driftShape before.clock wake.ring span.anchor span.footprint
        else before.clock).tally ∧
    (after.framer.anchor = before.framer.anchor ∨
      after.framer.anchor = ringWrap (span.anchor + 1) wake.ring.length % 65536)

section Mild

variable {wake : Wake} {span : FrameSpan} {first second third : ServoBus}

theorem Mild.refl (bus : ServoBus) : Mild bus bus :=
  ⟨rfl, rfl, rfl⟩

theorem Mild.trans (before : Mild first second) (after : Mild second third) : Mild first third :=
  ⟨after.tally.trans before.tally, after.rulings.trans before.rulings, after.anchor.trans before.anchor⟩

theorem driftShape_congr {clock other : ClockTracker} (same : other.tally = clock.tally) (ring : List UInt8)
    (anchor footprint : Nat) :
    (ServoBus.driftShape other ring anchor footprint).tally =
      (ServoBus.driftShape clock ring anchor footprint).tally := by
  have seen : other.driftSeen = clock.driftSeen := congrArg DriftTally.seen same
  have opened : other.pairOpen = clock.pairOpen := by rw [ClockTracker.pairOpen, seen, ClockTracker.pairOpen]
  unfold ServoBus.driftShape
  rw [opened]
  split
  next => exact ClockTracker.noteVerified_tally same _ _
  next =>
    split
    next => exact same
    next => exact ClockTracker.noteVerified_tally same _ _

theorem Mild.settles (before : Mild first second) (after : Settles wake span second third) :
    Settles wake span first third := by
  obtain ⟨ruling, view, rulings, tally, anchor⟩ := after
  refine ⟨ruling, view, by rw [rulings, before.rulings], tally.trans ?_, before.anchor ▸ anchor⟩
  split
  next => exact driftShape_congr before.tally _ _ _
  next => exact before.tally

theorem Settles.mild (before : Settles wake span first second) (after : Mild second third) :
    Settles wake span first third := by
  obtain ⟨ruling, view, rulings, tally, anchor⟩ := before
  exact ⟨ruling, view, after.rulings.trans rulings, after.tally.trans tally, after.anchor ▸ anchor⟩

theorem mild_routeChain (bus : ServoBus) (out : ChainOut) : Mild bus (bus.routeChain wake out) := by
  refine routeChain_keeps ?_ ?_ ?_ (.refl bus) out
  next => exact fun _ _ mild => mild.trans ⟨rfl, rfl, rfl⟩
  next => exact fun _ _ mild => mild.trans ⟨rfl, rfl, rfl⟩
  next => exact fun _ _ mild => mild.trans ⟨rfl, rfl, rfl⟩

theorem mild_sequence (servo : Servo) (staged : Bool) (slot : UInt8) (packetEnd : UInt32) :
    Mild servo.bus (servo.sequence wake staged slot packetEnd).bus := by
  unfold Servo.sequence
  split
  next =>
    obtain ⟨reads, later, same⟩ := servo.bus.replyDelay_bus wake
    unfold ServoBus.sequenceReply
    dsimp only
    rw [same]
    refine Mild.trans ?_ (mild_routeChain _ _)
    exact ⟨rfl, rfl, rfl⟩
  next => exact .refl _

theorem tally_call (handle : ReplyHandle) (call : Call) :
    (handle.call call).bus.clock.tally = handle.bus.clock.tally := by
  have stage (result : ResultCode) (alert : Bool) (spans : List (List UInt8)) :
      (handle.stage result alert spans).bus.clock = handle.bus.clock := by
    unfold ReplyHandle.stage
    dsimp only
    split <;> rfl
  cases call with
  | sendStatus result alert data => exact congrArg ClockTracker.tally (stage result alert [data])
  | sendStatusGather result alert spans => exact congrArg ClockTracker.tally (stage result alert spans)
  | stageId | setId | stageBaud | setResponseDeadline | stageReboot | beginClockCal | save | wipe => rfl

theorem mild_calls (calls : List Call) (handle : ReplyHandle) :
    Mild handle.bus (calls.foldl ReplyHandle.call handle).bus := by
  have untouched := (ReplyHandle.foldl_call_spec calls handle).1
  refine ⟨?_, by rw [untouched.trace], by rw [untouched.framer]⟩
  clear untouched
  induction calls generalizing handle with
  | nil => rfl
  | cons call calls ih => exact (ih (handle.call call)).trans (tally_call handle call)

theorem mild_settled (servo : Servo) (table staged : Bool) (slot : UInt8) (packetEnd : UInt32) :
    Mild servo.bus ((servo.settleTable table).sequence wake staged slot packetEnd).bus := by
  refine Mild.trans ?_ (mild_sequence _ staged slot packetEnd)
  unfold Servo.settleTable
  split
  next => exact mild_calls (commit servo.session).2 { bus := servo.bus }
  next => exact .refl _

theorem mild_dispatched {servo after : Servo} {anchor footprint : Nat} {staged : Bool} {slot : UInt8}
    {out : Dispatched} {origin : Origin}
    (dispatched : servo.dispatchDecoded wake anchor footprint = some (after, staged, slot, out, origin)) :
    Mild servo.bus after.bus := by
  obtain ⟨req, mayReply, handle, dispatches⟩ := Servo.dispatchDecoded_cases dispatched
  have read : Mild servo.bus { servo.bus with reads := servo.bus.reads + 1 } := ⟨rfl, rfl, rfl⟩
  have called : Mild { servo.bus with reads := servo.bus.reads + 1 } handle.bus := by
    rw [dispatches.called]
    exact mild_calls _ { bus := { servo.bus with reads := servo.bus.reads + 1 }, tolerant := Servo.tolerates req }
  refine (read.trans called).trans ?_
  rw [dispatches.bus]
  split
  next => exact ⟨rfl, rfl, rfl⟩
  next => exact .refl _

theorem mild_execute (servo : Servo) (span : FrameSpan) : Mild servo.bus (servo.execute wake span).bus := by
  unfold Servo.execute
  split
  next => exact .refl _
  next after staged slot out origin dispatched =>
    have noted : Mild after.bus (after.bus.noteFrame (some origin) origin.view) := ⟨rfl, rfl, rfl⟩
    exact ((mild_dispatched dispatched).trans noted).trans
      (mild_settled { after with bus := after.bus.noteFrame (some origin) origin.view } _ staged slot span.packetEnd)

theorem verify_settles (servo : Servo) {p : Pending} (anchor : p.anchor = span.anchor)
    (footprint : p.footprint = span.footprint) : Settles wake span servo.bus (servo.verify wake p).bus := by
  refine ⟨servo.ruling wake p, by rw [← anchor, ← footprint]; rfl, ?_⟩
  have view : (servo.rule wake p).2 = (servo.ruling wake p).passed := rfl
  unfold Servo.verify
  dsimp only
  rw [view, ← anchor, ← footprint]
  split
  next =>
    have settled := @mild_settled wake ((servo.rule wake p).1.accept wake p) p.table p.staged p.slot p.packetEnd
    exact ⟨settled.rulings, settled.tally, .inl settled.anchor⟩
  next => exact ⟨rfl, rfl, .inr rfl⟩

theorem routeSpine_settles (servo : Servo) :
    Settles wake span servo.bus (servo.routeSpine wake span true).bus := by
  have fed : Mild servo.bus (servo.feed wake span).bus := ⟨rfl, rfl, rfl⟩
  unfold Servo.routeSpine
  dsimp only
  split
  next after staged slot out origin dispatched =>
    exact (fed.trans (mild_dispatched dispatched)).settles (verify_settles after rfl rfl)
  next => exact fed.settles (verify_settles (servo.feed wake span) rfl rfl)

theorem routeVerdictFirst_settles (servo : Servo) :
    Settles wake span servo.bus (servo.routeVerdictFirst wake span).bus := by
  refine ⟨⟨none, frameView wake.ring span.anchor span.footprint,
    (crcOk servo.bus.crc (wake.lag servo.bus.reads) wake.ring span.anchor span.footprint).1.acc,
    (crcOk servo.bus.crc (wake.lag servo.bus.reads) wake.ring span.anchor span.footprint).2,
    servo.bus.placeOf span.anchor wake.ring.length, servo.bus.id⟩, rfl, ?_⟩
  rw [routeVerdictFirst_eq]
  dsimp only
  split
  next =>
    have executed := @mild_execute wake ((checked servo wake span).supersede wake span) span
    exact ⟨executed.rulings, executed.tally, .inl executed.anchor⟩
  next => exact ⟨rfl, rfl, .inr rfl⟩

theorem onFrameEnd_settles (servo : Servo) :
    Settles wake span servo.bus (servo.onFrameEnd wake span).bus ∨
      Mild servo.bus (servo.onFrameEnd wake span).bus := by
  have routed (servo : Servo) : Settles wake span servo.bus (servo.routeFrame wake span true).bus ∨
      Mild servo.bus (servo.routeFrame wake span true).bus := by
    unfold Servo.routeFrame
    split
    next =>
      refine .inr (Mild.trans ?_ (mild_routeChain _ _))
      exact ⟨rfl, rfl, rfl⟩
    next =>
      split
      next => exact .inl (routeSpine_settles servo)
      next => exact .inl (routeVerdictFirst_settles servo)
  have taken : Mild servo.bus { servo.bus with pending := none } := ⟨rfl, rfl, rfl⟩
  have dropped : Mild servo.bus { servo.bus with pending := none }.dropStaged := ⟨rfl, rfl, rfl⟩
  unfold Servo.onFrameEnd
  dsimp only
  split
  next p _ =>
    split
    next same => exact .inl (taken.settles (verify_settles ⟨_, servo.session⟩ same.1 same.2))
    next => exact (routed ⟨{ servo.bus with pending := none }.dropStaged, servo.session⟩).imp dropped.settles dropped.trans
  next => exact (routed ⟨{ servo.bus with pending := none }, servo.session⟩).imp taken.settles taken.trans

theorem mild_covered (servo : Servo) : Mild servo.bus (servo.routeFrame wake span false).bus := by
  unfold Servo.routeFrame
  split
  next => exact .refl _
  next =>
    split
    next =>
      have fed : Mild servo.bus (servo.feed wake span).bus := ⟨rfl, rfl, rfl⟩
      unfold Servo.routeSpine
      dsimp only
      split
      next after staged slot out origin dispatched =>
        exact (fed.trans (mild_dispatched dispatched)).trans ⟨rfl, rfl, rfl⟩
      next => exact fed
    next => exact .refl _

end Mild

section Ops

variable (feed : Feed) (wake : Wake)

def Servo.pairOps (servo : Servo) : List PairOp :=
  match (servo.resolve wake).2 with
  | .frame span =>
    let rulings := ((servo.looked wake).onFrameEnd wake span).bus.trace.rulings
    if (rulings.drop servo.bus.trace.rulings.length).any Ruling.passed then
      [.verified
        ⟨feed.pos (servo.bus.reads + 1) -
            dist (wake.cursor (servo.bus.reads + 1)) span.anchor wake.ring.length,
          frameView wake.ring span.anchor span.footprint⟩]
    else []
  | _ => []

def Site.pairOps : Site → List PairOp
  | .look servo => servo.pairOps feed wake
  | .due _ => []

def ServoBus.stampOps (bus : ServoBus) (now : UInt32) : List PairOp :=
  let cursor := wake.cursor bus.reads
  if (bus.framer.onWireFault cursor).2 && ServoBus.newestIsBreakByte wake.ring cursor then
    [.stamp ⟨now, feed.pos bus.reads, feed.pos (bus.reads + 1)⟩ bus.tpb]
  else []

end Ops

inductive DriftEvent where
  | handler (event : BusEvent)
  | poll (onWindow : Int32 → UInt32 → Option Int8)

namespace DriftEvent

def step (servo : Servo) : DriftEvent → Servo
  | .handler event => busStep servo event
  | .poll onWindow => { servo with bus := { servo.bus with clock := (servo.bus.clock.poll onWindow).1 } }

def pairOps (feed : Feed) (servo : Servo) : DriftEvent → List PairOp
  | .handler (.brk wake) =>
    if servo.bus.clock.calActive then
      if servo.bus.clock.pendingCal.isSome then [.restart] else []
    else
      let (now, bus) := servo.bus.readNow wake
      bus.stampOps feed wake now ++ (servo.breakSites wake).flatMap (Site.pairOps feed wake)
  | .handler (.deadline wake) => (servo.drainSites wake deadlineDrainMax).flatMap (Site.pairOps feed wake)
  | .handler (.txComplete wake) =>
    let (_, _, out) := servo.bus.tx.onArmComplete servo.bus.crc (wake.lag servo.bus.reads)
    if out == .released && servo.bus.pendingBaud.isSome then [.restart] else []
  | .handler (.rescueBreak _) => if servo.bus.tx.streaming then [] else [.restart]
  | .poll onWindow =>
    if servo.bus.clock.calReady || (servo.bus.clock.poll onWindow).2.isSome then [.restart] else []

end DriftEvent

def pairRun (feed : Feed) (servo : Servo) : List DriftEvent → List PairOp
  | [] => []
  | event :: events => event.pairOps feed servo ++ pairRun feed (event.step servo) events

section Drive

variable {feed : Feed} {len : Nat} {wake : Wake} {servo : Servo}

def Tallies (len : Nat) (ops : List PairOp) (before after : ServoBus) : Prop :=
  ∀ ledger : PairLedger, ledger.clock.tally = before.clock.tally →
    (run (PairLedger.step len) ledger ops).clock.tally = after.clock.tally

theorem Tallies.append {ops more : List PairOp} {first second third : ServoBus}
    (before : Tallies len ops first second) (after : Tallies len more second third) :
    Tallies len (ops ++ more) first third := by
  intro ledger same
  rw [run_append]
  exact after _ (before ledger same)

theorem Mild.tallies {before after : ServoBus} (mild : Mild before after) : Tallies len [] before after :=
  fun _ same => same.trans mild.tally.symm

theorem Tallies.mild {ops : List PairOp} {first second third : ServoBus} (before : Tallies len ops first second)
    (after : Mild second third) : Tallies len ops first third :=
  fun ledger same => (before ledger same).trans after.tally.symm

/-- What the wake tells of the wire: its ring, and how much of the stream is in. -/
structure Wires (feed : Feed) (len : Nat) (wake : Wake) : Prop where
  ring : wake.ring.length = len
  cursor : ∀ n, wake.cursor n = feed.pos n % len

theorem looked_candidate (shape : RingShape len) (wires : Wires feed len wake)
    (anchored : servo.bus.framer.anchor < len) :
    (servo.looked wake).bus.framer.anchor < len ∧
      ∀ span, (servo.resolve wake).2 = .frame span → Candidate wake.ring span := by
  have ring := wires.ring
  have inside : wake.cursor (servo.bus.reads + 1) < len := by
    rw [wires.cursor]
    exact Nat.mod_lt _ (pow_pos shape.pow)
  have looked := @resolve_candidate wake.ring servo.bus.framer (wake.cursor (servo.bus.reads + 1))
    (wake.now servo.bus.reads) servo.bus.tpb (ring.symm ▸ shape) (ring.symm ▸ anchored) (ring.symm ▸ inside)
  exact ⟨ring ▸ looked.1, looked.2.1⟩

theorem Mild.anchored {before after : ServoBus} (mild : Mild before after) (anchored : before.framer.anchor < len) :
    after.framer.anchor < len :=
  mild.anchor ▸ anchored

theorem ended_tallies (shape : RingShape len) (wires : Wires feed len wake)
    (anchored : servo.bus.framer.anchor < len) {span : FrameSpan} (out : (servo.resolve wake).2 = .frame span) :
    Tallies len (servo.pairOps feed wake) servo.bus ((servo.looked wake).onFrameEnd wake span).bus ∧
      ((servo.looked wake).onFrameEnd wake span).bus.framer.anchor < len := by
  have ring := wires.ring
  obtain ⟨inside, candidates⟩ := looked_candidate shape wires anchored
  have candidate := candidates span out
  have ops : servo.pairOps feed wake =
      if (((servo.looked wake).onFrameEnd wake span).bus.trace.rulings.drop
          servo.bus.trace.rulings.length).any Ruling.passed then
        [.verified
          ⟨feed.pos (servo.bus.reads + 1) -
              dist (wake.cursor (servo.bus.reads + 1)) span.anchor wake.ring.length,
            frameView wake.ring span.anchor span.footprint⟩]
      else [] := by
    unfold Servo.pairOps
    rw [out]
  have looked : (servo.looked wake).bus.trace.rulings = servo.bus.trace.rulings := rfl
  -- The frame is ruled on, and the tally takes the verdict in, or nothing is recorded.
  obtain ⟨ruling, view, rulings, tally, anchor⟩ | mild := @onFrameEnd_settles wake span (servo.looked wake)
  next =>
    refine ⟨?_, ?_⟩
    next =>
      intro ledger same
      rw [ops, rulings, looked, List.drop_left, tally]
      have one : [ruling].any Ruling.passed = ruling.passed := by simp
      rw [one]
      split
      next =>
        have length := frameView_len candidate.inside (show span.footprint ≤ wake.ring.length by
          have high := candidate.high
          have large := shape.large
          omega)
        rw [← FrameBytes.length_bytes] at length
        rw [driftShape_tally (ring.symm ▸ shape) candidate]
        have noted := ClockTracker.noteVerified_tally (same.trans (rfl : _ = (servo.looked wake).bus.clock.tally))
          span.footprint (silentInstruction (frameView wake.ring span.anchor span.footprint))
        simp only [run_cons, run_nil, PairLedger.step, length]
        exact noted
      next => exact same
    next =>
      obtain stays | hunts := anchor
      next => exact stays ▸ inside
      next =>
        rw [hunts, ring, shape.wrap_u16]
        exact shape.wrap_lt _
  next =>
    refine ⟨?_, mild.anchored inside⟩
    intro ledger same
    rw [ops, mild.rulings, looked, List.drop_length]
    exact same.trans mild.tally.symm

structure Pairs (len : Nat) (ops : List PairOp) (before after : ServoBus) : Prop where
  tallies : Tallies len ops before after
  anchored : after.framer.anchor < len

theorem Mild.pairs {before after : ServoBus} (mild : Mild before after) (anchored : before.framer.anchor < len) :
    Pairs len [] before after :=
  ⟨mild.tallies, mild.anchored anchored⟩

theorem Pairs.mild {ops : List PairOp} {first second third : ServoBus} (before : Pairs len ops first second)
    (after : Mild second third) : Pairs len ops first third :=
  ⟨before.tallies.mild after, after.anchored before.anchored⟩

theorem Pairs.append {ops more : List PairOp} {first second third : ServoBus} (before : Pairs len ops first second)
    (after : Pairs len more second third) : Pairs len (ops ++ more) first third :=
  ⟨before.tallies.append after.tallies, after.anchored⟩

theorem Mild.before {ops : List PairOp} {first second third : ServoBus} (before : Mild first second)
    (after : Pairs len ops second third) : Pairs len ops first third :=
  ⟨fun ledger same => after.tallies ledger (same.trans before.tally.symm), after.anchored⟩

theorem driveLoop_pairs (shape : RingShape len) (wires : Wires feed len wake) (fuel : Nat) (servo : Servo)
    (anchored : servo.bus.framer.anchor < len) :
    Pairs len ((servo.driveSites wake fuel).flatMap (Site.pairOps feed wake)) servo.bus
      (Servo.driveLoop wake fuel servo).bus := by
  induction fuel generalizing servo with
  | zero => exact Mild.pairs ⟨rfl, rfl, rfl⟩ anchored
  | succ fuel ih =>
    have inside := (looked_candidate shape wires anchored).1
    have silent (after : ServoBus) (none : ∀ span, (servo.resolve wake).2 ≠ .frame span)
        (mild : Mild (servo.looked wake).bus after) :
        Pairs len ((servo.driveSites wake (fuel + 1)).flatMap (Site.pairOps feed wake)) servo.bus after := by
      have ops : (servo.driveSites wake (fuel + 1)).flatMap (Site.pairOps feed wake) = [] := by
        rw [Servo.driveSites]
        cases out : (servo.resolve wake).2 with
        | frame span => exact absurd out (none span)
        | none | wait | covered => simp [Site.pairOps, Servo.pairOps, out]
      rw [ops]
      exact ⟨fun ledger same => same.trans mild.tally.symm, mild.anchored inside⟩
    rw [Servo.driveLoop]
    simp only [ServoBus.readNow, ServoBus.readCursor]
    split
    next out => exact silent _ (by simp [Servo.resolve, out]) ⟨rfl, rfl, rfl⟩
    next tick out => exact silent _ (by simp [Servo.resolve, out]) ⟨rfl, rfl, rfl⟩
    next span endDue out =>
      have armed : Mild (servo.looked wake).bus { (servo.looked wake).bus with framerAt := some endDue } :=
        ⟨rfl, rfl, rfl⟩
      have covered := armed.trans (@mild_covered wake span
        ⟨{ (servo.looked wake).bus with framerAt := some endDue }, (servo.looked wake).session⟩)
      exact silent _ (by simp [Servo.resolve, out]) covered
    next span out =>
      have seen : (servo.resolve wake).2 = .frame span := out
      obtain ⟨tallies, rests⟩ := ended_tallies shape wires anchored seen
      have ops : (servo.driveSites wake (fuel + 1)).flatMap (Site.pairOps feed wake) =
          servo.pairOps feed wake ++
            ((((servo.looked wake).onFrameEnd wake span).driveSites wake fuel).flatMap (Site.pairOps feed wake)) := by
        rw [Servo.driveSites, List.flatMap_cons, seen]
        rfl
      rw [ops]
      exact Pairs.append ⟨tallies, rests⟩ (ih ((servo.looked wake).onFrameEnd wake span) rests)

theorem wireFault_pairs (wires : Wires feed len wake) (bus : ServoBus) (now : UInt32)
    (anchored : bus.framer.anchor < len) :
    Pairs len (bus.stampOps feed wake now) bus (Servo.wireFault bus wake now).1 := by
  have stays : (Servo.wireFault bus wake now).1.framer.anchor = bus.framer.anchor := by
    rw [(quiet_wireFault bus now).framer]
  refine ⟨?_, stays ▸ anchored⟩
  intro ledger same
  unfold ServoBus.stampOps Servo.wireFault
  dsimp only [ServoBus.readCursor]
  split
  next =>
    have stamped := ClockTracker.onDriftBreak_tally same now (feed.pos (bus.reads + 1) % len) len bus.tpb
    rw [← wires.cursor (bus.reads + 1)] at stamped
    simp only [run_cons, run_nil, PairLedger.step, ← wires.cursor]
    rw [stamped]
    simp only [Servo.driftStamp, ServoBus.readCursor, wires.ring]
  next => exact same

theorem mild_yieldReply (bus : ServoBus) : Mild bus (Servo.yieldReply bus wake) := by
  unfold Servo.yieldReply
  split
  next => dsimp only; split <;> exact ⟨rfl, rfl, rfl⟩
  next => exact .refl bus

theorem mild_recheck (bus : ServoBus) (fresh : Bool) (now : UInt32) : Mild bus (Servo.recheck bus fresh now) := by
  unfold Servo.recheck
  split <;> exact ⟨rfl, rfl, rfl⟩

theorem mild_breakEnd (bus : ServoBus) (fresh : Bool) (now : UInt32) :
    Mild bus (((Servo.yieldReply (Servo.recheck bus fresh now) wake).routeChain wake
      ((Servo.yieldReply (Servo.recheck bus fresh now) wake).chain.onBreakObserved now)).armDeadline wake) :=
  (((mild_recheck bus fresh now).trans (mild_yieldReply _)).trans (mild_routeChain _ _)).trans ⟨rfl, rfl, rfl⟩

theorem mild_chainDue (bus : ServoBus) (now : UInt32) : Mild bus (Servo.chainDue bus wake now) := by
  refine Mild.trans ?_ (mild_routeChain _ _)
  exact ⟨rfl, rfl, rfl⟩

theorem onCalBreak_tally (clock : ClockTracker) (now : UInt32) (cursor : Nat) (ticksPerUs : UInt32) :
    (clock.onCalBreak now cursor ticksPerUs).1.tally =
      if clock.pendingCal.isSome then clock.restart.tally else clock.tally := by
  unfold ClockTracker.onCalBreak
  cases pending : clock.pendingCal with
  | some announced => rfl
  | none =>
    cases live : clock.cal with
    | none => rfl
    | some cal =>
      dsimp only
      split
      next => rfl
      next =>
        split
        next => rfl
        next => split <;> rfl

theorem onBreak_pairs (shape : RingShape len) (wires : Wires feed len wake) (servo : Servo)
    (anchored : servo.bus.framer.anchor < len) :
    Pairs len ((DriftEvent.handler (.brk wake)).pairOps feed servo) servo.bus (servo.onBreak wake).bus := by
  have read : Mild servo.bus (servo.bus.readNow wake).2 := ⟨rfl, rfl, rfl⟩
  unfold DriftEvent.pairOps Servo.onBreak Servo.breakSites
  dsimp only
  have active : (servo.bus.readNow wake).2.clock.calActive = servo.bus.clock.calActive := rfl
  rw [active]
  split
  next =>
    have trains : Pairs len (if servo.bus.clock.pendingCal.isSome then [.restart] else []) servo.bus
        (Servo.calBreak (servo.bus.readNow wake).2 wake (servo.bus.readNow wake).1) := by
      have clock : (Servo.calBreak (servo.bus.readNow wake).2 wake (servo.bus.readNow wake).1).clock =
          (servo.bus.clock.onCalBreak (wake.now servo.bus.reads) (wake.cursor (servo.bus.reads + 1))
            servo.bus.ticksPerUs).1 := by
        unfold Servo.calBreak
        dsimp only
        split <;> rfl
      refine ⟨fun ledger same => ?_, (aside_calBreak _ _).anchor.trans_lt anchored⟩
      rw [clock, onCalBreak_tally]
      split
      next => rfl
      next => exact same
    exact trains
  next =>
    refine (read.before (wireFault_pairs wires (servo.bus.readNow wake).2 (servo.bus.readNow wake).1 anchored)).append ?_
    have faulted := (wireFault_pairs wires (servo.bus.readNow wake).2 (servo.bus.readNow wake).1 anchored).anchored
    generalize (Servo.wireFault (servo.bus.readNow wake).2 wake (servo.bus.readNow wake).1).2 = fresh
    generalize (Servo.wireFault (servo.bus.readNow wake).2 wake (servo.bus.readNow wake).1).1 = bus at *
    have driven := driveLoop_pairs shape wires framesPerWake ⟨bus, servo.session⟩ faulted
    exact driven.mild (mild_breakEnd _ fresh _)

theorem framerSlot_pairs (shape : RingShape len) (wires : Wires feed len wake) (servo : Servo) (now : UInt32)
    (anchored : servo.bus.framer.anchor < len) :
    Pairs len ((servo.framerSites wake now).flatMap (Site.pairOps feed wake)) servo.bus
      (servo.framerSlot wake now).bus := by
  unfold Servo.framerSites Servo.framerSlot
  split
  next =>
    have abandoned : Mild servo.bus
        ({ servo.bus with framerAt := none, clock := servo.bus.clock.abandonCal }.note .calAbandoned) :=
      ⟨rfl, rfl, rfl⟩
    exact abandoned.before (driveLoop_pairs shape wires framesPerWake ⟨_, servo.session⟩
      (abandoned.anchored anchored))
  next => exact (Mild.refl servo.bus).pairs anchored

theorem chainSlot_pairs (servo : Servo) (now : UInt32) (anchored : servo.bus.framer.anchor < len) :
    Pairs len ((servo.chainSites now).flatMap (Site.pairOps feed wake)) servo.bus
      (servo.chainSlot wake now).bus := by
  unfold Servo.chainSites Servo.chainSlot
  split
  next => exact (mild_chainDue servo.bus now).pairs anchored
  next => exact (Mild.refl servo.bus).pairs anchored

theorem drain_pairs (shape : RingShape len) (wires : Wires feed len wake) (fuel : Nat) (servo : Servo)
    (anchored : servo.bus.framer.anchor < len) :
    Pairs len ((servo.drainSites wake fuel).flatMap (Site.pairOps feed wake)) servo.bus
      (Servo.drain wake fuel servo).bus := by
  induction fuel generalizing servo with
  | zero => exact (Mild.refl servo.bus).pairs anchored
  | succ fuel ih =>
    have read : Mild servo.bus (servo.bus.readNow wake).2 := ⟨rfl, rfl, rfl⟩
    have framed := framerSlot_pairs shape wires ⟨(servo.bus.readNow wake).2, servo.session⟩
      (servo.bus.readNow wake).1 (read.anchored anchored)
    have chained := @chainSlot_pairs feed len wake _ (servo.bus.readNow wake).1 framed.anchored
    have once := read.before (framed.append chained)
    unfold Servo.drainSites Servo.drain
    dsimp only
    rw [List.flatMap_append, List.flatMap_append]
    split
    next => exact once.append (ih _ once.anchored)
    next =>
      rw [List.flatMap_nil, List.append_nil]
      exact once

theorem onTxComplete_tally (bus : ServoBus) :
    (bus.onTxComplete wake).clock.tally =
      if (bus.tx.onArmComplete bus.crc (wake.lag bus.reads)).2.2 == .released && bus.pendingBaud.isSome then
        bus.clock.restart.tally
      else bus.clock.tally := by
  unfold ServoBus.onTxComplete
  dsimp only [ServoBus.readLag]
  cases out : (bus.tx.onArmComplete bus.crc (wake.lag bus.reads)).2.2 with
  | armed => rfl
  | released => cases id : bus.pendingId <;> cases baud : bus.pendingBaud <;> rfl

theorem poll_tally (clock : ClockTracker) (onWindow : Int32 → UInt32 → Option Int8) :
    (clock.poll onWindow).1.tally =
      if clock.calReady || (clock.poll onWindow).2.isSome then clock.restart.tally else clock.tally := by
  unfold ClockTracker.poll
  cases clock.calReady with
  | true => rfl
  | false =>
    simp only [Bool.false_eq_true, if_false, Bool.false_or]
    split
    next => rfl
    next =>
      split
      next => rfl
      next =>
        split
        next => rfl
        next => split <;> rfl

theorem event_pairs (shape : RingShape len) (event : DriftEvent)
    (wired : ∀ handler, event = .handler handler → Wires feed len handler.wake) (servo : Servo)
    (anchored : servo.bus.framer.anchor < len) :
    Pairs len (event.pairOps feed servo) servo.bus (event.step servo).bus := by
  cases event with
  | handler handler =>
    have wires := wired handler rfl
    cases handler with
    | brk wake => exact onBreak_pairs shape wires servo anchored
    | deadline wake => exact (drain_pairs shape wires deadlineDrainMax servo anchored).mild ⟨rfl, rfl, rfl⟩
    | txComplete wake =>
      have aside := @aside_onTxComplete wake servo.bus
      refine ⟨fun ledger same => ?_, aside.anchor.trans_lt anchored⟩
      simp only [DriftEvent.pairOps, DriftEvent.step, busStep]
      rw [onTxComplete_tally]
      split
      next => rfl
      next => exact same
    | rescueBreak wake =>
      simp only [DriftEvent.pairOps, DriftEvent.step, busStep, ServoBus.onRescueBreak]
      split
      next => exact (Mild.refl servo.bus).pairs anchored
      next =>
        refine ⟨fun ledger same => rfl, ?_⟩
        have inside := Nat.mod_lt (feed.pos servo.bus.reads) (pow_pos shape.pow)
        rw [← wires.cursor] at inside
        exact inside
  | poll onWindow =>
    refine ⟨fun ledger same => ?_, anchored⟩
    simp only [DriftEvent.pairOps, DriftEvent.step]
    rw [poll_tally]
    split
    next => rfl
    next => exact same

end Drive

section Known

variable {feed : Feed} {wake : Wake}

def VerifiedFrame.Known (rulings : List Ruling) (frame : VerifiedFrame) : Prop :=
  ∃ ruling ∈ rulings, ruling.passed = true ∧ ruling.view = frame.view

theorem VerifiedFrame.Known.mono {first later : List Ruling} {frame : VerifiedFrame} (known : frame.Known first)
    (grows : first ⊆ later) : frame.Known later := by
  obtain ⟨ruling, member, passed, view⟩ := known
  exact ⟨ruling, grows member, passed, view⟩

def Verifies (rulings : List Ruling) (ops : List PairOp) : Prop :=
  ∀ op ∈ ops, ∃ frame : VerifiedFrame, op = .verified frame ∧ frame.Known rulings

theorem Verifies.mono {first later : List Ruling} {ops : List PairOp} (verifies : Verifies first ops)
    (grows : first ⊆ later) : Verifies later ops := by
  intro op member
  obtain ⟨frame, same, known⟩ := verifies op member
  exact ⟨frame, same, known.mono grows⟩

theorem Verifies.append {rulings : List Ruling} {ops more : List PairOp} (first : Verifies rulings ops)
    (later : Verifies rulings more) : Verifies rulings (ops ++ more) := by
  intro op member
  obtain before | after := List.mem_append.mp member
  next => exact first op before
  next => exact later op after

theorem look_verifies (servo : Servo) {span : FrameSpan} (out : (servo.resolve wake).2 = .frame span) :
    Verifies ((servo.looked wake).onFrameEnd wake span).bus.trace.rulings (servo.pairOps feed wake) := by
  intro op member
  unfold Servo.pairOps at member
  rw [out] at member
  dsimp only at member
  split at member
  next passes =>
    refine ⟨_, List.mem_singleton.mp member, ?_⟩
    have looked : (servo.looked wake).bus.trace.rulings = servo.bus.trace.rulings := rfl
    obtain ⟨ruling, view, rulings, -⟩ | mild := @onFrameEnd_settles wake span (servo.looked wake)
    next =>
      rw [rulings, looked, List.drop_left] at passes
      refine ⟨ruling, ?_, by simpa using passes, view⟩
      rw [rulings]
      exact List.mem_append_right _ (List.mem_singleton_self _)
    next =>
      rw [mild.rulings, looked, List.drop_length] at passes
      cases passes
  next => cases member

theorem drive_verifies (fuel : Nat) (servo : Servo) :
    Verifies (Servo.driveLoop wake fuel servo).bus.trace.rulings
      ((servo.driveSites wake fuel).flatMap (Site.pairOps feed wake)) := by
  induction fuel generalizing servo with
  | zero => exact fun op member => by cases member
  | succ fuel ih =>
    rw [Servo.driveSites, List.flatMap_cons]
    cases out : (servo.resolve wake).2 with
    | none | wait | covered =>
      simp only [Site.pairOps, Servo.pairOps, out, List.flatMap_nil, List.append_nil]
      exact fun op member => by cases member
    | frame span =>
      have seen : servo.bus.framer.resolve wake.ring (wake.cursor (servo.bus.reads + 1)) (wake.now servo.bus.reads)
          servo.bus.tpb = ((servo.resolve wake).1, .frame span) := Prod.ext rfl out
      have loop : Servo.driveLoop wake (fuel + 1) servo =
          Servo.driveLoop wake fuel ((servo.looked wake).onFrameEnd wake span) := by
        rw [Servo.driveLoop]
        simp only [ServoBus.readNow, ServoBus.readCursor, seen]
        rfl
      have grows := moves_grows (@driveLoop_moves wake fuel ((servo.looked wake).onFrameEnd wake span))
      rw [loop]
      exact ((look_verifies servo out).mono grows.rulings.subset).append (ih _)

theorem framerSites_verifies (servo : Servo) (now : UInt32) :
    Verifies (servo.framerSlot wake now).bus.trace.rulings
      ((servo.framerSites wake now).flatMap (Site.pairOps feed wake)) := by
  unfold Servo.framerSites Servo.framerSlot
  split
  next => exact drive_verifies framesPerWake _
  next => nofun

theorem drain_verifies (fuel : Nat) (servo : Servo) :
    Verifies (Servo.drain wake fuel servo).bus.trace.rulings
      ((servo.drainSites wake fuel).flatMap (Site.pairOps feed wake)) := by
  induction fuel generalizing servo with
  | zero => nofun
  | succ fuel ih =>
    have framed := @framerSites_verifies feed wake ⟨(servo.bus.readNow wake).2, servo.session⟩ (servo.bus.readNow wake).1
    generalize first : Servo.framerSlot ⟨(servo.bus.readNow wake).2, servo.session⟩ wake (servo.bus.readNow wake).1 =
      slot at framed
    have chained := moves_grows (@chainSlot_moves wake slot (servo.bus.readNow wake).1)
    have none : (slot.chainSites (servo.bus.readNow wake).1).flatMap (Site.pairOps feed wake) = [] := by
      unfold Servo.chainSites
      split <;> rfl
    unfold Servo.drainSites Servo.drain
    dsimp only
    rw [first, List.flatMap_append, List.flatMap_append, none, List.append_nil]
    split
    next =>
      have grows := moves_grows (@drain_moves wake fuel (slot.chainSlot wake (servo.bus.readNow wake).1))
      exact ((framed.mono chained.rulings.subset).mono grows.rulings.subset).append (ih _)
    next =>
      rw [List.flatMap_nil, List.append_nil]
      exact framed.mono chained.rulings.subset

theorem onBreak_reads (servo : Servo) (idle : servo.bus.clock.calActive = false) :
    servo.bus.reads + 2 ≤ (servo.onBreak wake).bus.reads := by
  have fault : (servo.bus.readNow wake).2.reads + 1 ≤
      (Servo.wireFault (servo.bus.readNow wake).2 wake (servo.bus.readNow wake).1).1.reads := by
    unfold Servo.wireFault
    dsimp only [ServoBus.readCursor]
    split
    next => exact Nat.le_succ _
    next => exact Nat.le_refl _
  unfold Servo.onBreak
  dsimp only
  have active : (servo.bus.readNow wake).2.clock.calActive = false := idle
  rw [active, if_neg Bool.false_ne_true]
  generalize (Servo.wireFault (servo.bus.readNow wake).2 wake (servo.bus.readNow wake).1).2 = fresh
  generalize (Servo.wireFault (servo.bus.readNow wake).2 wake (servo.bus.readNow wake).1).1 = bus at *
  have driven := (moves_grows (@driveFramer_moves wake ⟨bus, servo.session⟩)).reads
  have again := (@quiet_recheck (Servo.driveFramer ⟨bus, servo.session⟩ wake).bus fresh (servo.bus.readNow wake).1).reads
  have yields := (@aside_yieldReply wake (Servo.recheck (Servo.driveFramer ⟨bus, servo.session⟩ wake).bus fresh
    (servo.bus.readNow wake).1)).reads
  refine Nat.le_trans (Nat.le_trans fault (Nat.le_trans (Nat.le_trans driven again) yields)) ?_
  exact Nat.le_trans (aside_routeChain _ _).reads (Nat.le_succ _)

theorem onBreak_verifies (servo : Servo) (idle : servo.bus.clock.calActive = false) :
    Verifies (servo.onBreak wake).bus.trace.rulings ((servo.breakSites wake).flatMap (Site.pairOps feed wake)) := by
  have active : (servo.bus.readNow wake).2.clock.calActive = false := idle
  unfold Servo.onBreak Servo.breakSites
  dsimp only
  rw [active, if_neg Bool.false_ne_true, if_neg Bool.false_ne_true]
  generalize (Servo.wireFault (servo.bus.readNow wake).2 wake (servo.bus.readNow wake).1).2 = fresh
  generalize (Servo.wireFault (servo.bus.readNow wake).2 wake (servo.bus.readNow wake).1).1 = bus
  refine (drive_verifies framesPerWake ⟨bus, servo.session⟩).mono ?_
  have behind := @mild_breakEnd wake (Servo.driveFramer ⟨bus, servo.session⟩ wake).bus fresh (servo.bus.readNow wake).1
  exact fun ruling member => behind.rulings.symm ▸ member

theorem event_ops (servo : Servo) (event : DriftEvent) :
    ∃ head rest, event.pairOps feed servo = head ++ rest ∧ Verifies (event.step servo).bus.trace.rulings rest ∧
      (head = [] ∨ head = [.restart] ∨ ∃ now n tpb, servo.bus.reads ≤ n ∧ n + 1 ≤ (event.step servo).bus.reads ∧
        head = [.stamp ⟨now, feed.pos n, feed.pos (n + 1)⟩ tpb]) := by
  have choice (c : Bool) : (if c then [PairOp.restart] else []) = [] ∨ (if c then [PairOp.restart] else []) = [.restart] ∨
      ∃ now n tpb, servo.bus.reads ≤ n ∧ n + 1 ≤ (event.step servo).bus.reads ∧
        (if c then [PairOp.restart] else []) = [.stamp ⟨now, feed.pos n, feed.pos (n + 1)⟩ tpb] := by
    cases c
    next => exact .inl rfl
    next => exact .inr (.inl rfl)
  cases event with
  | poll onWindow => exact ⟨_, [], (List.append_nil _).symm, nofun, choice _⟩
  | handler handler =>
    cases handler with
    | txComplete wake => exact ⟨_, [], (List.append_nil _).symm, nofun, choice _⟩
    | rescueBreak wake =>
      refine ⟨_, [], (List.append_nil _).symm, nofun, ?_⟩
      show (if servo.bus.tx.streaming then [] else [PairOp.restart]) = [] ∨
        (if servo.bus.tx.streaming then [] else [PairOp.restart]) = [.restart] ∨ _
      split
      next => exact .inl rfl
      next => exact .inr (.inl rfl)
    | deadline wake => exact ⟨[], _, rfl, drain_verifies deadlineDrainMax servo, .inl rfl⟩
    | brk wake =>
      unfold DriftEvent.pairOps
      dsimp only
      split
      next => exact ⟨_, [], (List.append_nil _).symm, nofun, choice _⟩
      next idle =>
        have idle : servo.bus.clock.calActive = false := by simpa using idle
        refine ⟨_, _, rfl, ?_, ?_⟩
        next => exact onBreak_verifies servo idle
        next =>
          unfold ServoBus.stampOps
          dsimp only
          split
          next => exact .inr (.inr ⟨_, _, _, Nat.le_succ _, onBreak_reads servo idle, rfl⟩)
          next => exact .inl rfl

end Known

section Run

variable {feed : Feed} {len : Nat} {servo : Servo} {ledger : PairLedger}

structure Shadows (feed : Feed) (len : Nat) (servo : Servo) (ledger : PairLedger) : Prop where
  anchored : servo.bus.framer.anchor < len
  tally : ledger.clock.tally = servo.bus.clock.tally
  bracketed : Bracketed len ledger
  past : ∀ stamp, ledger.stamp = some stamp → stamp.place ≤ feed.pos servo.bus.reads
  seen : ∀ frame ∈ ledger.seen, frame.Known servo.bus.trace.rulings
  pairs : ∀ pair ∈ ledger.pairs, ∀ frame ∈ pair.seen, frame.Known servo.bus.trace.rulings

theorem verifies_keep (shape : RingShape len) {rulings : List Ruling} (ops : List PairOp) (ledger : PairLedger)
    (verifies : Verifies rulings ops) (bracketed : Bracketed len ledger)
    (clear : Meets (PairLedger.step len) (fun ledger op => op.Clear len ledger) ledger ops)
    (seen : ∀ frame ∈ ledger.seen, frame.Known rulings) :
    Bracketed len (run (PairLedger.step len) ledger ops) ∧
      (run (PairLedger.step len) ledger ops).stamp = ledger.stamp ∧
      (run (PairLedger.step len) ledger ops).pairs = ledger.pairs ∧
      ∀ frame ∈ (run (PairLedger.step len) ledger ops).seen, frame.Known rulings := by
  induction ops generalizing ledger with
  | nil => exact ⟨bracketed, rfl, rfl, seen⟩
  | cons op ops ih =>
    obtain ⟨frame, rfl, known⟩ := verifies op List.mem_cons_self
    refine ih (ledger.step len (.verified frame)) (fun op member => verifies op (List.mem_cons_of_mem _ member))
      (bracketed.step shape _ clear.1 trivial) clear.2 ?_
    intro other member
    obtain before | last := List.mem_append.mp member
    next => exact seen other before
    next => exact (List.mem_singleton.mp last) ▸ known

theorem Shadows.step (shape : RingShape len) (shadows : Shadows feed len servo ledger) (event : DriftEvent)
    (wired : ∀ handler, event = .handler handler → Wires feed len handler.wake)
    (clear : Meets (PairLedger.step len) (fun ledger op => op.Clear len ledger) ledger (event.pairOps feed servo)) :
    Shadows feed len (event.step servo) (run (PairLedger.step len) ledger (event.pairOps feed servo)) := by
  have pairs := event_pairs shape event wired servo shadows.anchored
  have grows : Grows servo.bus (event.step servo).bus := by
    cases event with
    | handler handler => exact busStep_grows servo handler
    | poll onWindow =>
      have aside : Aside servo.bus (DriftEvent.step servo (.poll onWindow)).bus :=
        .of_eq rfl rfl rfl (Nat.le_refl _) rfl rfl rfl rfl
      exact aside.toGrows
  have later := feed.advances grows.reads
  have tally := pairs.tallies ledger shadows.tally
  obtain ⟨head, rest, ops, verifies, heads⟩ := @event_ops feed servo event
  rw [ops] at clear tally ⊢
  rw [run_append] at tally ⊢
  rw [meets_append] at clear
  obtain ⟨first, second⟩ := clear
  have seen (frame : VerifiedFrame) (member : frame ∈ ledger.seen) :=
    (shadows.seen frame member).mono grows.rulings.subset
  have before (pair : DriftPair) (member : pair ∈ ledger.pairs) (frame : VerifiedFrame) (inside : frame ∈ pair.seen) :=
    (shadows.pairs pair member frame inside).mono grows.rulings.subset
  -- A handler begins with a restart, with a stamp or with neither; what follows are verdicts.
  obtain ⟨bracketed, past, known, paired⟩ :
      Bracketed len (run (PairLedger.step len) ledger head) ∧
      (∀ stamp, (run (PairLedger.step len) ledger head).stamp = some stamp →
        stamp.place ≤ feed.pos (event.step servo).bus.reads) ∧
      (∀ frame ∈ (run (PairLedger.step len) ledger head).seen, frame.Known (event.step servo).bus.trace.rulings) ∧
      ∀ pair ∈ (run (PairLedger.step len) ledger head).pairs,
        ∀ frame ∈ pair.seen, frame.Known (event.step servo).bus.trace.rulings := by
    obtain rfl | rfl | ⟨now, n, tpb, low, high, rfl⟩ := heads
    next => exact ⟨shadows.bracketed, fun stamp held => Nat.le_trans (shadows.past stamp held) later, seen, before⟩
    next => exact ⟨shadows.bracketed.step shape .restart trivial trivial, nofun, nofun, before⟩
    next =>
      have ordered : (PairOp.stamp ⟨now, feed.pos n, feed.pos (n + 1)⟩ tpb).Ordered ledger := by
        intro stamp held
        exact Nat.le_trans (shadows.past stamp held) (feed.advances (Nat.le_succ_of_le low))
      refine ⟨shadows.bracketed.step shape _ first.1 ordered, ?_, nofun, ?_⟩
      next =>
        rintro _ ⟨rfl⟩
        exact feed.advances high
      next =>
        intro pair member
        obtain old | last := List.mem_append.mp member
        next => exact before pair old
        next =>
          split at last
          next =>
            rw [List.mem_singleton.mp last]
            exact seen
          next => cases last
  obtain ⟨kept, stamp, same, frames⟩ := verifies_keep shape rest _ verifies bracketed second known
  exact ⟨pairs.anchored, tally, kept, stamp ▸ past, frames, same ▸ paired⟩

theorem pairRun_shadows (shape : RingShape len) (events : List DriftEvent) (servo : Servo) (ledger : PairLedger)
    (shadows : Shadows feed len servo ledger)
    (wired : ∀ handler, .handler handler ∈ events → Wires feed len handler.wake)
    (clear : Meets (PairLedger.step len) (fun ledger op => op.Clear len ledger) ledger (pairRun feed servo events)) :
    Shadows feed len (run DriftEvent.step servo events)
      (run (PairLedger.step len) ledger (pairRun feed servo events)) := by
  induction events generalizing servo ledger with
  | nil => exact shadows
  | cons event events ih =>
    rw [pairRun, meets_append] at clear
    rw [pairRun, run_cons, run_append]
    refine ih _ _ (shadows.step shape event ?_ clear.1) ?_ clear.2
    next =>
      rintro handler rfl
      exact wired handler List.mem_cons_self
    next => exact fun handler member => wired handler (List.mem_cons_of_mem _ member)

/-- Where no byte rings inside a stamp, no lap lies between two of them, and a silent frame that passes first
after a stamp is the one whose break was stamped, every pair whose error is added spans one silent frame that
passed its verdict, from its own break byte to the one behind it. -/
theorem drift_pairs_exact (shape : RingShape len) (ticksPerUs : UInt32) (id : UInt8) (rate : BaudRate)
    (responseDeadlineUs : UInt16) (session : Session) (events : List DriftEvent)
    (wired : ∀ handler, .handler handler ∈ events → Wires feed len handler.wake)
    (clear : Meets (PairLedger.step len) (fun ledger op => op.Clear len ledger) {}
      (pairRun feed (servoBoot ticksPerUs id rate responseDeadlineUs session) events)) :
    (run (PairLedger.step len) {}
        (pairRun feed (servoBoot ticksPerUs id rate responseDeadlineUs session) events)).clock.tally =
      (run DriftEvent.step (servoBoot ticksPerUs id rate responseDeadlineUs session) events).bus.clock.tally ∧
    ∀ pair ∈ (run (PairLedger.step len) {}
        (pairRun feed (servoBoot ticksPerUs id rate responseDeadlineUs session) events)).pairs,
      ∃ first frame, pair.Exact first frame ∧
        frame.Known (run DriftEvent.step (servoBoot ticksPerUs id rate responseDeadlineUs session)
          events).bus.trace.rulings := by
  have boot : Shadows feed len (servoBoot ticksPerUs id rate responseDeadlineUs session) {} :=
    ⟨pow_pos shape.pow, rfl, ⟨rfl, rfl, nofun, nofun, nofun⟩, nofun, nofun, nofun⟩
  have shadows := pairRun_shadows shape events _ _ boot wired clear
  refine ⟨shadows.tally, fun pair member => ?_⟩
  obtain ⟨first, frame, exact'⟩ := shadows.bracketed.exact pair member
  refine ⟨first, frame, exact', shadows.pairs pair member frame ?_⟩
  rw [exact'.alone]
  exact List.mem_singleton_self frame

end Run

section Lagging

/-- Two silent WRITEs of 11 33 to register 0x102, the second garbled under way, and the break behind them. -/
def lagBytes : List UInt8 :=
  [0x00, 0x05, 0x07, 0x34, 0x02, 0x01, 0x11, 0x33, 0xF9, 0x4E,
    0x00, 0x05, 0x07, 0x34, 0x02, 0x01, 0x22, 0x33, 0xF9, 0x4E, 0x00]

def lagFeed (late last second : Nat) (ordered : 6 ≤ second ∧ 1 ≤ late ∧ late ≤ last) : Feed where
  stream p := lagBytes.getD p 0x55
  pos n := if n < 6 then 1 else if n < second then late else last
  tick _ := 0
  advances := by
    intro m n le
    dsimp only
    split_ifs <;> omega

def lagWake (feed : Feed) (bytes : Nat) (now : UInt32) : Wake :=
  ⟨lagBytes.take bytes ++ List.replicate (512 - bytes) 0x55, fun n => feed.pos n % 512, fun _ => now, fun _ => 0,
    fun _ => none⟩

/-- The first frame is ruled on in the wake of the second one's break, the second in the wake of the third. -/
def lagRun : List DriftEvent :=
  let feed := lagFeed 11 21 16 (by decide)
  [.handler (.brk (lagWake feed 1 0)), .handler (.brk (lagWake feed 11 1600)),
    .handler (.brk (lagWake feed 21 3200))]

/-- The first frame is ruled on ahead of the second one's break. -/
def timelyRun : List DriftEvent :=
  let feed := lagFeed 10 11 15 (by decide)
  [.handler (.brk (lagWake feed 1 0)), .handler (.deadline (lagWake feed 10 1590)),
    .handler (.brk (lagWake feed 11 1600))]

theorem lagWake_wires (feed : Feed) {bytes : Nat} (within : bytes ≤ lagBytes.length) (now : UInt32) :
    Wires feed 512 (lagWake feed bytes now) := by
  refine ⟨?_, fun _ => rfl⟩
  have short : lagBytes.length = 21 := rfl
  simp only [lagWake, List.length_append, List.length_take, List.length_replicate]
  omega

/-- The pair around the garbled frame is credited to the frame before it. -/
theorem lagging_verdict_pairs :
    (∀ handler, .handler handler ∈ lagRun → Wires (lagFeed 11 21 16 (by decide)) 512 handler.wake) ∧
      (run DriftEvent.step servoFive lagRun).bus.clock.driftBaseN = 1 ∧
      ∃ pair ∈ (run (PairLedger.step 512) {} (pairRun (lagFeed 11 21 16 (by decide)) servoFive lagRun)).pairs,
        ¬ ∃ first frame, pair.Exact first frame := by
  refine ⟨?_, by decide +kernel, ?_⟩
  next =>
    intro handler member
    simp only [lagRun, List.mem_cons, DriftEvent.handler.injEq, List.not_mem_nil, or_false] at member
    obtain rfl | rfl | rfl := member <;> exact lagWake_wires _ (by decide) _
  next =>
    have pairs : (run (PairLedger.step 512) {}
        (pairRun (lagFeed 11 21 16 (by decide)) servoFive lagRun)).pairs =
          [⟨some ⟨1600, 11, 11⟩, ⟨3200, 21, 21⟩, [⟨0, ⟨lagBytes.take 10, []⟩⟩]⟩] := by decide +kernel
    rw [pairs]
    refine ⟨_, List.mem_singleton_self _, ?_⟩
    rintro ⟨first, frame, pair⟩
    cases pair.begun
    cases pair.alone
    exact absurd pair.opens.1 (by decide)

theorem drift_pairs_exact_timely :
    (run (PairLedger.step 512) {} (pairRun (lagFeed 10 11 15 (by decide)) servoFive timelyRun)).clock.tally =
        (run DriftEvent.step servoFive timelyRun).bus.clock.tally ∧
      ∀ pair ∈ (run (PairLedger.step 512) {} (pairRun (lagFeed 10 11 15 (by decide)) servoFive timelyRun)).pairs,
        ∃ first frame, pair.Exact first frame ∧
          frame.Known (run DriftEvent.step servoFive timelyRun).bus.trace.rulings := by
  unfold servoFive
  refine @drift_pairs_exact (lagFeed 10 11 15 (by decide)) 512 ⟨⟨9, rfl⟩, by decide, by decide⟩ 16 5 .b1000000 250
    (boot (zeroStore _) []) timelyRun ?_ ?_
  next =>
    intro handler member
    simp only [timelyRun, List.mem_cons, DriftEvent.handler.injEq, List.not_mem_nil, or_false] at member
    obtain rfl | rfl | rfl := member <;> exact lagWake_wires _ (by decide) _
  next =>
    have ops : pairRun (lagFeed 10 11 15 (by decide)) servoFive timelyRun =
        [.stamp ⟨0, 1, 1⟩ 160, .verified ⟨0, ⟨lagBytes.take 10, []⟩⟩, .stamp ⟨1600, 11, 11⟩ 160] := by
      decide +kernel
    unfold servoFive at ops
    rw [ops]
    refine ⟨⟨rfl, nofun⟩, ?_, ⟨rfl, ?_⟩, trivial⟩
    next =>
      rintro - - _ ⟨rfl⟩
      rfl
    next =>
      rintro _ ⟨rfl⟩
      decide

end Lagging

end OpenServo.Bus
