import OpenServo.Bus.Moves
import OpenServo.Bus.Replies

set_option autoImplicit false

namespace OpenServo.Bus

open OpenServo.Core OpenServo.Protocol

structure Grows (before after : ServoBus) : Prop where
  rulings : before.trace.rulings <+: after.trace.rulings
  effects : before.trace.effects <+: after.trace.effects
  statuses : before.trace.statuses <+: after.trace.statuses
  reads : before.reads ≤ after.reads

/-- Work beside the ladder: it leaves the ladder and its place in the stream alone. -/
structure Aside (before after : ServoBus) : Prop extends Grows before after where
  anchor : after.framer.anchor = before.framer.anchor
  frontier : after.framer.frontier = before.framer.frontier
  spot : after.trace.spot = before.trace.spot
  tpb : after.tpb = before.tpb

structure Rejects (rejected len : Nat) (before after : ServoBus) : Prop extends Grows before after where
  anchor : after.framer.anchor = ringWrap (rejected + 1) len % 65536
  frontier : after.framer.frontier = {}
  spot : after.trace.spot = before.placeOf rejected len + 1
  tpb : after.tpb = before.tpb

section Order

variable {first second third : ServoBus} {anchor len : Nat}

theorem Grows.refl (bus : ServoBus) : Grows bus bus :=
  ⟨List.prefix_refl _, List.prefix_refl _, List.prefix_refl _, Nat.le_refl _⟩

theorem Grows.trans (before : Grows first second) (after : Grows second third) : Grows first third :=
  ⟨before.rulings.trans after.rulings, before.effects.trans after.effects,
    before.statuses.trans after.statuses, Nat.le_trans before.reads after.reads⟩

theorem Aside.of_eq (rulings : second.trace.rulings = first.trace.rulings)
    (effects : second.trace.effects = first.trace.effects)
    (statuses : second.trace.statuses = first.trace.statuses) (reads : first.reads ≤ second.reads)
    (anchor : second.framer.anchor = first.framer.anchor)
    (frontier : second.framer.frontier = first.framer.frontier)
    (spot : second.trace.spot = first.trace.spot) (tpb : second.tpb = first.tpb) : Aside first second :=
  ⟨⟨by rw [rulings], by rw [effects], by rw [statuses], reads⟩, anchor, frontier, spot, tpb⟩

theorem Aside.refl (bus : ServoBus) : Aside bus bus :=
  .of_eq rfl rfl rfl (Nat.le_refl _) rfl rfl rfl rfl

theorem Aside.trans (before : Aside first second) (after : Aside second third) : Aside first third :=
  ⟨before.toGrows.trans after.toGrows, after.anchor.trans before.anchor,
    after.frontier.trans before.frontier, after.spot.trans before.spot, after.tpb.trans before.tpb⟩

theorem Aside.placeOf (aside : Aside first second) : second.placeOf anchor len = first.placeOf anchor len := by
  rw [ServoBus.placeOf, aside.spot, aside.anchor, ServoBus.placeOf]

theorem Aside.rejects (before : Aside first second) (after : Rejects anchor len second third) :
    Rejects anchor len first third :=
  ⟨before.toGrows.trans after.toGrows, after.anchor, after.frontier, after.spot.trans (by rw [before.placeOf]),
    after.tpb.trans before.tpb⟩

end Order

section Aside

variable {wake : Wake}

theorem aside_routeChain (bus : ServoBus) (out : ChainOut) : Aside bus (bus.routeChain wake out) := by
  refine routeChain_keeps ?_ ?_ ?_ (.refl bus) out
  next => exact fun _ _ aside => aside.trans (.of_eq rfl rfl rfl (Nat.le_succ _) rfl rfl rfl rfl)
  next => exact fun _ _ aside => aside.trans (.of_eq rfl rfl rfl (Nat.le_succ _) rfl rfl rfl rfl)
  next => exact fun _ _ aside => aside.trans (.of_eq rfl rfl rfl (Nat.le_refl _) rfl rfl rfl rfl)

theorem aside_sequence (servo : Servo) (staged : Bool) (slot : UInt8) (packetEnd : UInt32) :
    Aside servo.bus (servo.sequence wake staged slot packetEnd).bus := by
  unfold Servo.sequence
  split
  next =>
    obtain ⟨reads, later, same⟩ := servo.bus.replyDelay_bus wake
    unfold ServoBus.sequenceReply
    dsimp only
    rw [same]
    refine Aside.trans ?_ (aside_routeChain _ _)
    exact .of_eq rfl rfl rfl later rfl rfl rfl rfl
  next => exact .refl _

theorem Untouched.aside {before after : ServoBus} (untouched : Untouched before after) : Aside before after := by
  have trace := untouched.trace
  have framer := untouched.framer
  exact .of_eq (by rw [trace]) (by rw [trace]) (by rw [trace]) (by rw [untouched.reads]) (by rw [framer])
    (by rw [framer]) (by rw [trace]) untouched.tpb

theorem aside_settled (servo : Servo) (table staged : Bool) (slot : UInt8) (packetEnd : UInt32) :
    Aside servo.bus ((servo.settleTable table).sequence wake staged slot packetEnd).bus :=
  (servo.settleTable_spec table).1.aside.trans (aside_sequence _ staged slot packetEnd)

theorem aside_dispatched {servo after : Servo} {anchor footprint : Nat} {staged : Bool} {slot : UInt8}
    {out : Dispatched} {origin : Origin}
    (dispatched : servo.dispatchDecoded wake anchor footprint = some (after, staged, slot, out, origin)) :
    Aside servo.bus after.bus := by
  obtain ⟨req, mayReply, handle, dispatches⟩ := Servo.dispatchDecoded_cases dispatched
  have aside := dispatches.untouched.aside
  have read : Aside servo.bus { servo.bus with reads := servo.bus.reads + 1 } :=
    .of_eq rfl rfl rfl (Nat.le_succ _) rfl rfl rfl rfl
  refine (read.trans aside).trans ?_
  have bus := dispatches.bus
  split at bus <;> rw [bus]
  next => exact .of_eq rfl rfl rfl (Nat.le_refl _) rfl rfl rfl rfl
  next => exact .refl _

theorem aside_accept (bus : ServoBus) (ring : List UInt8) (anchor footprint : Nat) :
    Aside bus (bus.accept ring anchor footprint) :=
  .of_eq rfl rfl rfl (Nat.le_refl _) rfl rfl rfl rfl

theorem aside_dropStaged (bus : ServoBus) : Aside bus bus.dropStaged :=
  .of_eq rfl rfl rfl (Nat.le_refl _) rfl rfl rfl rfl

theorem aside_take (bus : ServoBus) : Aside bus { bus with pending := none } :=
  .of_eq rfl rfl rfl (Nat.le_refl _) rfl rfl rfl rfl

theorem aside_feed (servo : Servo) (span : FrameSpan) : Aside servo.bus (servo.feed wake span).bus :=
  .of_eq rfl rfl rfl (Nat.le_refl _) rfl rfl rfl rfl

theorem aside_note (bus : ServoBus) (effect : Effect) : Aside bus (bus.note effect) :=
  ⟨⟨List.prefix_refl _, List.prefix_append _ _, List.prefix_refl _, Nat.le_refl _⟩, rfl, rfl, rfl, rfl⟩

theorem aside_noteFrame (bus : ServoBus) (origin : Option Origin) (view : FrameBytes) :
    Aside bus (bus.noteFrame origin view) :=
  ⟨⟨List.prefix_refl _, List.prefix_append _ _, List.prefix_refl _, Nat.le_refl _⟩, rfl, rfl, rfl, rfl⟩

theorem aside_noteStatus (bus : ServoBus) (place footprint : Nat) :
    Aside bus (bus.noteStatus place footprint) :=
  ⟨⟨List.prefix_refl _, List.prefix_refl _, List.prefix_append _ _, Nat.le_refl _⟩, rfl, rfl, rfl, rfl⟩

theorem aside_rule (servo : Servo) (p : Pending) : Aside servo.bus (servo.rule wake p).1.bus :=
  ⟨⟨List.prefix_append _ _, List.prefix_refl _, List.prefix_refl _, Nat.le_succ _⟩, rfl, rfl, rfl, rfl⟩

theorem rejects_reject (bus : ServoBus) (ring : List UInt8) (anchor : Nat) :
    Rejects anchor ring.length bus (bus.reject ring anchor) :=
  ⟨⟨List.prefix_refl _, List.prefix_refl _, List.prefix_refl _, Nat.le_refl _⟩, rfl, rfl, rfl, rfl⟩

theorem verify_ladder (servo : Servo) (p : Pending) :
    (servo.rule wake p).2 = true ∧ Aside (servo.rule wake p).1.bus (servo.verify wake p).bus ∨
      (servo.rule wake p).2 = false ∧
        Rejects p.anchor wake.ring.length (servo.rule wake p).1.bus (servo.verify wake p).bus := by
  unfold Servo.verify
  dsimp only
  split
  next passed =>
    refine .inl ⟨passed, ?_⟩
    have accepted := (aside_accept (servo.rule wake p).1.bus wake.ring p.anchor p.footprint).trans
      (aside_noteFrame _ p.origin (frameView wake.ring p.anchor p.footprint))
    exact accepted.trans (aside_settled ((servo.rule wake p).1.accept wake p) p.table p.staged p.slot p.packetEnd)
  next failed =>
    refine .inr ⟨by simpa using failed, ?_⟩
    exact (aside_dropStaged _).rejects (rejects_reject _ wake.ring p.anchor)

theorem verify_grows (servo : Servo) (p : Pending) : Grows (servo.rule wake p).1.bus (servo.verify wake p).bus := by
  rcases @verify_ladder wake servo p with ⟨-, aside⟩ | ⟨-, rejects⟩
  next => exact aside.toGrows
  next => exact rejects.toGrows

/-- The bus after the check that comes ahead of everything else, with its ruling. -/
def checked (servo : Servo) (wake : Wake) (span : FrameSpan) : Servo :=
  { servo with
    bus := { servo.bus with
        reads := servo.bus.reads + 1
        crc := (crcOk servo.bus.crc (wake.lag servo.bus.reads) wake.ring span.anchor span.footprint).1 }.noteRuling
      ⟨none, frameView wake.ring span.anchor span.footprint,
        (crcOk servo.bus.crc (wake.lag servo.bus.reads) wake.ring span.anchor span.footprint).1.acc,
        (crcOk servo.bus.crc (wake.lag servo.bus.reads) wake.ring span.anchor span.footprint).2,
        servo.bus.placeOf span.anchor wake.ring.length, servo.bus.id⟩ }

theorem aside_checked (servo : Servo) (span : FrameSpan) : Aside servo.bus (checked servo wake span).bus :=
  ⟨⟨List.prefix_append _ _, List.prefix_refl _, List.prefix_refl _, Nat.le_succ _⟩, rfl, rfl, rfl, rfl⟩

theorem routeVerdictFirst_eq (servo : Servo) (span : FrameSpan) :
    servo.routeVerdictFirst wake span =
      if (crcOk servo.bus.crc (wake.lag servo.bus.reads) wake.ring span.anchor span.footprint).2 then
        ((checked servo wake span).supersede wake span).execute wake span
      else { checked servo wake span with bus := (checked servo wake span).bus.reject wake.ring span.anchor } :=
  rfl

theorem aside_supersede (servo : Servo) (span : FrameSpan) : Aside servo.bus (servo.supersede wake span).bus :=
  (aside_accept servo.bus wake.ring span.anchor span.footprint).trans (aside_dropStaged _)

theorem aside_execute (servo : Servo) (span : FrameSpan) : Aside servo.bus (servo.execute wake span).bus := by
  unfold Servo.execute
  split
  next => exact .refl _
  next after staged slot out origin dispatched =>
    have ran := (aside_dispatched dispatched).trans (aside_noteFrame after.bus (some origin) origin.view)
    exact ran.trans (aside_settled { after with bus := after.bus.noteFrame (some origin) origin.view }
      (out == .pending) staged slot span.packetEnd)

theorem routeVerdictFirst_ladder (servo : Servo) (span : FrameSpan) :
    (crcOk servo.bus.crc (wake.lag servo.bus.reads) wake.ring span.anchor span.footprint).2 = true ∧
        Aside (checked servo wake span).bus (servo.routeVerdictFirst wake span).bus ∨
      (crcOk servo.bus.crc (wake.lag servo.bus.reads) wake.ring span.anchor span.footprint).2 = false ∧
        Rejects span.anchor wake.ring.length (checked servo wake span).bus
          (servo.routeVerdictFirst wake span).bus := by
  rw [routeVerdictFirst_eq]
  split
  next passed =>
    refine .inl ⟨passed, ?_⟩
    exact (aside_supersede (checked servo wake span) span).trans (aside_execute _ span)
  next failed => exact .inr ⟨by simpa using failed, rejects_reject _ wake.ring span.anchor⟩

theorem aside_statusEnd (servo : Servo) (span : FrameSpan) :
    Aside (servo.bus.noteStatus (servo.bus.placeOf span.anchor wake.ring.length) span.footprint)
      ({ servo.bus.noteStatus (servo.bus.placeOf span.anchor wake.ring.length) span.footprint with
          chain := (servo.bus.chain.onStatusEnd span.packetEnd).1 }.routeChain wake
        (servo.bus.chain.onStatusEnd span.packetEnd).2) := by
  refine Aside.trans ?_ (aside_routeChain _ _)
  exact .of_eq rfl rfl rfl (Nat.le_refl _) rfl rfl rfl rfl

theorem aside_covered (servo : Servo) (span : FrameSpan) :
    Aside servo.bus (servo.routeFrame wake span false).bus := by
  have fed := @aside_feed wake servo span
  unfold Servo.routeFrame
  split
  next => exact .refl _
  next =>
    split
    next =>
      unfold Servo.routeSpine
      dsimp only
      split
      next after staged slot out origin dispatched =>
        refine (fed.trans (aside_dispatched dispatched)).trans ?_
        exact .of_eq rfl rfl rfl (Nat.le_refl _) rfl rfl rfl rfl
      next => exact fed
    next => exact .refl _

theorem routeFrame_grows (servo : Servo) (span : FrameSpan) (complete : Bool) :
    Grows servo.bus (servo.routeFrame wake span complete).bus := by
  have fed := (@aside_feed wake servo span).toGrows
  have ruled (servo : Servo) (p : Pending) : Grows servo.bus (servo.verify wake p).bus :=
    (aside_rule servo p).toGrows.trans (verify_grows servo p)
  cases complete with
  | false => exact (aside_covered servo span).toGrows
  | true =>
    unfold Servo.routeFrame
    split
    next => exact ((aside_noteStatus _ _ _).trans (aside_statusEnd servo span)).toGrows
    next =>
      split
      next =>
        unfold Servo.routeSpine
        dsimp only
        split
        next after staged slot out origin dispatched =>
          exact (fed.trans (aside_dispatched dispatched).toGrows).trans (ruled after _)
        next => exact fed.trans (ruled (servo.feed wake span) _)
      next =>
        have checks := (@aside_checked wake servo span).toGrows
        rcases @routeVerdictFirst_ladder wake servo span with ⟨-, aside⟩ | ⟨-, rejects⟩
        next => exact checks.trans aside.toGrows
        next => exact checks.trans rejects.toGrows

theorem onFrameEnd_grows (servo : Servo) (span : FrameSpan) :
    Grows servo.bus (servo.onFrameEnd wake span).bus := by
  have taken := (aside_take servo.bus).toGrows
  unfold Servo.onFrameEnd
  dsimp only
  split
  next =>
    split
    next =>
      exact (taken.trans (aside_rule { servo with bus := { servo.bus with pending := none } } _).toGrows).trans
        (verify_grows _ _)
    next =>
      exact (taken.trans (aside_dropStaged _).toGrows).trans
        (routeFrame_grows ⟨{ servo.bus with pending := none }.dropStaged, servo.session⟩ span true)
  next => exact taken.trans (routeFrame_grows ⟨{ servo.bus with pending := none }, servo.session⟩ span true)

end Aside

section Moves

variable {wake : Wake} {servo after : Servo}

theorem Quiet.aside {before after : ServoBus} (quiet : Quiet before after) : Aside before after := by
  have framer := quiet.framer
  have reads := quiet.reads
  have same : after.trace = before.trace ∧ after.tpb = before.tpb := by
    rw [quiet.rest]
    exact ⟨rfl, rfl⟩
  obtain ⟨trace, tpb⟩ := same
  exact .of_eq (by rw [trace]) (by rw [trace]) (by rw [trace]) reads (by rw [framer]) (by rw [framer])
    (by rw [trace]) tpb

theorem aside_yieldReply (bus : ServoBus) : Aside bus (Servo.yieldReply bus wake) := by
  unfold Servo.yieldReply
  split
  next => dsimp only; split <;> exact .of_eq rfl rfl rfl (Nat.le_succ _) rfl rfl rfl rfl
  next => exact .refl bus

theorem aside_calBreak (bus : ServoBus) (now : UInt32) : Aside bus (Servo.calBreak bus wake now) := by
  have counted (clock : ClockTracker) : Aside bus { bus with reads := bus.reads + 1, clock := clock } :=
    .of_eq rfl rfl rfl (Nat.le_succ _) rfl rfl rfl rfl
  have armed (bus : ServoBus) (tick : UInt32) : Aside bus ({ bus with framerAt := some tick }.armDeadline wake) :=
    .of_eq rfl rfl rfl (Nat.le_succ _) rfl rfl rfl rfl
  unfold Servo.calBreak
  dsimp only
  split
  next => exact ((counted _).trans (aside_note _ .calStarted)).trans (armed _ _)
  next => exact (counted _).trans (aside_note _ .calStarted)

theorem aside_chainDue (bus : ServoBus) (now : UInt32) : Aside bus (Servo.chainDue bus wake now) := by
  refine Aside.trans ?_ (aside_routeChain _ _)
  exact .of_eq rfl rfl rfl (Nat.le_refl _) rfl rfl rfl rfl

theorem aside_abandonCal (bus : ServoBus) :
    Aside bus ({ bus with framerAt := none, clock := bus.clock.abandonCal }.note .calAbandoned) := by
  refine Aside.trans ?_ (aside_note _ .calAbandoned)
  exact .of_eq rfl rfl rfl (Nat.le_refl _) rfl rfl rfl rfl

theorem looked_grows (servo : Servo) : Grows servo.bus (servo.looked wake).bus :=
  ⟨List.prefix_refl _, List.prefix_refl _, List.prefix_refl _, Nat.le_add_right _ 2⟩

theorem move_grows (move : Move wake servo after) : Grows servo.bus after.bus := by
  have looked := @looked_grows wake servo
  have armed (bus : ServoBus) (framerAt : Option UInt32) : Grows bus { bus with framerAt := framerAt } :=
    (Aside.of_eq rfl rfl rfl (Nat.le_refl _) rfl rfl rfl rfl : Aside bus { bus with framerAt := framerAt }).toGrows
  cases move with
  | quiet bus quiet => exact quiet.aside.toGrows
  | look framerAt => exact looked.trans (armed _ framerAt)
  | covered span endDue =>
    exact (looked.trans (armed _ (some endDue))).trans (aside_covered
      ⟨{ (servo.looked wake).bus with framerAt := some endDue }, (servo.looked wake).session⟩ span).toGrows
  | ended span => exact looked.trans (onFrameEnd_grows (servo.looked wake) span)
  | yieldReply => exact (aside_yieldReply servo.bus).toGrows
  | breakObserved => exact (aside_routeChain servo.bus _).toGrows
  | chainDue now => exact (aside_chainDue servo.bus now).toGrows
  | calBreak now => exact (aside_calBreak servo.bus now).toGrows
  | abandonCal => exact (aside_abandonCal servo.bus).toGrows

theorem moves_grows (moves : Moves wake servo after) : Grows servo.bus after.bus :=
  @moves_invariant wake (fun after => Grows servo.bus after.bus)
    (fun _ _ before move => before.trans (move_grows move)) servo after moves (.refl _)

theorem moves_within {Inv : Servo → Prop} {last : Servo}
    (keeps : ∀ servo after, Inv servo → Move wake servo after → Grows after.bus last.bus → Inv after)
    (moves : Moves wake servo last) (inv : Inv servo) : Inv last := by
  induction moves using Relation.ReflTransGen.head_induction_on with
  | refl => exact inv
  | head move rest ih => exact ih (keeps _ _ inv move (moves_grows rest))

theorem onTxComplete_grows (bus : ServoBus) : Grows bus (bus.onTxComplete wake) := by
  unfold ServoBus.onTxComplete
  dsimp only
  split
  next => exact ⟨List.prefix_refl _, List.prefix_refl _, List.prefix_refl _, Nat.le_succ _⟩
  next =>
    split <;> split <;>
      exact ⟨List.prefix_refl _, List.prefix_append _ _, List.prefix_refl _, Nat.le_succ _⟩

theorem aside_onTxComplete (bus : ServoBus) : Aside bus { bus.onTxComplete wake with tpb := bus.tpb } := by
  have grows := @onTxComplete_grows wake bus
  refine ⟨⟨grows.rulings, grows.effects, grows.statuses, grows.reads⟩, ?_, ?_, ?_, rfl⟩ <;>
    unfold ServoBus.onTxComplete <;> dsimp only <;> split
  all_goals first | rfl | (split <;> split <;> rfl)

theorem onRescueBreak_grows (bus : ServoBus) : Grows bus (bus.onRescueBreak wake) := by
  unfold ServoBus.onRescueBreak
  split
  next => exact .refl bus
  next => exact ⟨List.prefix_refl _, List.prefix_append _ _, List.prefix_refl _, Nat.le_add_right _ 2⟩

theorem busStep_grows (servo : Servo) (event : BusEvent) : Grows servo.bus (busStep servo event).bus :=
  @busStep_invariant (fun after => Grows servo.bus after.bus) event
    (fun _ _ before move => before.trans (move_grows move))
    (fun _ before => before.trans (onTxComplete_grows _)) (fun _ before => before.trans (onRescueBreak_grows _))
    servo (.refl _)

end Moves

end OpenServo.Bus
