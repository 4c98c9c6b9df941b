import OpenServo.Bus.Inert

set_option autoImplicit false

namespace OpenServo.Bus

open OpenServo.Core OpenServo.Protocol OpenServo.Shared

/-- What becomes of an instruction frame that has ended: a verdict that is the frame's own, and with it either the
frame's dispatch, if it is addressed to this servo, or the hunt one byte on. -/
structure Passes (ruling : Ruling) (before after : ServoBus) : Prop where
  passed : ruling.passed = true
  good : CrcHolds ruling.view
  aside : Aside before after
  dispatched : ∀ req mayReply slot, decode ruling.view ruling.id = .own req mayReply slot →
    ∃ origin, coveredOf origin.view = coveredOf ruling.view ∧
      Effect.frame origin ruling.view ∈ after.trace.effects

structure Fails (wake : Wake) (span : FrameSpan) (ruling : Ruling) (before after : ServoBus) : Prop where
  failed : ruling.passed = false
  rejects : Rejects span.anchor wake.ring.length before after
  bad : (∀ n, wake.lag n ≤ spinPerByte * (span.footprint - 2)) → ¬ CrcHolds ruling.view

def Ruled (wake : Wake) (span : FrameSpan) (before after : ServoBus) : Prop :=
  ∃ ruling ∈ after.trace.rulings,
    ruling.place = before.placeOf span.anchor wake.ring.length ∧
      ruling.view = frameView wake.ring span.anchor span.footprint ∧
      (Passes ruling before after ∨ Fails wake span ruling before after)

section Ruled

variable {wake : Wake} {span : FrameSpan} {first second third : ServoBus} {len : Nat} {servo : Servo}

theorem Aside.ruled (aside : Aside first second) (ruled : Ruled wake span second third) :
    Ruled wake span first third := by
  obtain ⟨ruling, member, place, view, passes | fails⟩ := ruled
  next =>
    refine ⟨ruling, member, place.trans aside.placeOf, view, .inl ?_⟩
    exact ⟨passes.passed, passes.good, aside.trans passes.aside, passes.dispatched⟩
  next =>
    refine ⟨ruling, member, place.trans aside.placeOf, view, .inr ?_⟩
    exact ⟨fails.failed, aside.rejects fails.rejects, fails.bad⟩

theorem verify_ruled {p : Pending} (anchor : p.anchor = span.anchor) (footprint : p.footprint = span.footprint)
    (readable : Readable len wake p.anchor p.footprint)
    (sum : servo.bus.crc.acc = bulkSum p.anchor (coveredOf (frameView wake.ring p.anchor p.footprint)))
    (dispatched : ∀ req mayReply slot,
      decode (frameView wake.ring p.anchor p.footprint) ((p.origin.map Origin.id).getD servo.bus.id) =
          .own req mayReply slot →
        ∃ origin, p.origin = some origin ∧
          coveredOf origin.view = coveredOf (frameView wake.ring p.anchor p.footprint)) :
    Ruled wake span servo.bus (servo.verify wake p).bus := by
  have verdict := rule_iff readable sum
  have listed : servo.ruling wake p ∈ (servo.verify wake p).bus.trace.rulings := by
    apply (verify_grows servo p).rulings.subset
    rw [rule_rulings]
    exact List.mem_append_right _ (List.mem_singleton_self _)
  have ruled := @aside_rule wake servo p
  refine ⟨servo.ruling wake p, listed, by rw [← anchor]; rfl, by rw [← anchor, ← footprint]; rfl, ?_⟩
  rcases @verify_ladder wake servo p with ⟨passed, aside⟩ | ⟨failed, rejects⟩
  next =>
    refine .inl ⟨passed, (verdict.mp passed).2, ruled.trans aside, ?_⟩
    intro req mayReply slot own
    obtain ⟨origin, recorded, same⟩ := dispatched req mayReply slot own
    refine ⟨origin, same, ?_⟩
    have noted : Effect.frame origin (frameView wake.ring p.anchor p.footprint) ∈
        (((servo.rule wake p).1).accept wake p).bus.trace.effects := by
      rw [accept_effects recorded]
      exact List.mem_append_right _ (List.mem_singleton_self _)
    unfold Servo.verify
    dsimp only
    rw [if_pos passed]
    exact (aside_settled _ p.table p.staged p.slot p.packetEnd).effects.subset noted
  next =>
    refine .inr ⟨failed, ?_, ?_⟩
    next =>
      rw [← anchor]
      exact ruled.rejects rejects
    next =>
      intro drains good
      rw [verdict.mpr ⟨footprint ▸ drains _, good⟩] at failed
      cases failed

theorem routeVerdictFirst_ruled (shape : RingShape len) (length : wake.ring.length = len)
    (candidate : Candidate wake.ring span) : Ruled wake span servo.bus (servo.routeVerdictFirst wake span).bus := by
  have shaped : RingShape wake.ring.length := length.symm ▸ shape
  have verdict := @crcOk_iff wake.ring span.anchor span.footprint shaped candidate.inside candidate.low
    candidate.high servo.bus.crc (wake.lag servo.bus.reads) candidate.brk
  have checks := @aside_checked wake servo span
  have listed : ∀ after, Grows (checked servo wake span).bus after →
      ⟨none, frameView wake.ring span.anchor span.footprint,
        (crcOk servo.bus.crc (wake.lag servo.bus.reads) wake.ring span.anchor span.footprint).1.acc,
        (crcOk servo.bus.crc (wake.lag servo.bus.reads) wake.ring span.anchor span.footprint).2,
        servo.bus.placeOf span.anchor wake.ring.length, servo.bus.id⟩ ∈ after.trace.rulings :=
    fun after grows => grows.rulings.subset (List.mem_append_right _ (List.mem_singleton_self _))
  rcases @routeVerdictFirst_ladder wake servo span with ⟨passed, aside⟩ | ⟨failed, rejects⟩
  next =>
    refine ⟨_, listed _ aside.toGrows, rfl, rfl, .inl ⟨passed, (verdict.mp passed).2, checks.trans aside, ?_⟩⟩
    intro req mayReply slot own
    rw [routeVerdictFirst_eq, if_pos passed]
    unfold Servo.execute
    split
    next skipped =>
      have own : decode (frameView wake.ring span.anchor span.footprint)
          ((checked servo wake span).supersede wake span).bus.id = .own req mayReply slot := own
      simp [Servo.dispatchDecoded, own] at skipped
    next after staged slot out origin dispatched =>
      obtain ⟨req, mayReply, handle, dispatches⟩ := Servo.dispatchDecoded_cases dispatched
      have view : origin.view = frameView wake.ring span.anchor span.footprint := by rw [dispatches.recorded]
      refine ⟨origin, by rw [view], ?_⟩
      apply (aside_settled { after with bus := after.bus.noteFrame (some origin) origin.view } (out == .pending)
        staged slot span.packetEnd).effects.subset
      rw [← view]
      exact List.mem_append_right _ (List.mem_singleton_self _)
  next =>
    refine ⟨_, listed _ rejects.toGrows, rfl, rfl, .inr ⟨failed, checks.rejects rejects, ?_⟩⟩
    intro drains good
    rw [verdict.mpr ⟨drains _, good⟩] at failed
    cases failed

theorem routeSpine_ruled (shape : RingShape len) (length : wake.ring.length = len)
    (candidate : Candidate wake.ring span) : Ruled wake span servo.bus (servo.routeSpine wake span true).bus := by
  have shaped : RingShape wake.ring.length := length.symm ▸ shape
  have readable := candidate.readable shape length
  have sum : (servo.feed wake span).bus.crc.acc =
      bulkSum span.anchor (coveredOf (frameView wake.ring span.anchor span.footprint)) :=
    crcFeed_bulkSum shaped candidate.inside candidate.low candidate.high servo.bus.crc
  refine (@aside_feed wake servo span).ruled ?_
  unfold Servo.routeSpine
  dsimp only
  split
  next after staged slot out origin dispatched =>
    obtain ⟨req, mayReply, handle, dispatches⟩ := Servo.dispatchDecoded_cases dispatched
    have view : origin.view = frameView wake.ring span.anchor span.footprint := by rw [dispatches.recorded]
    have acc : after.bus.crc.acc = (servo.feed wake span).bus.crc.acc := by
      have kept := dispatches.untouched.acc
      have bus := dispatches.bus
      split at bus <;> rw [bus] <;> exact kept
    refine (aside_dispatched dispatched).ruled (verify_ruled rfl rfl readable (acc.trans sum) ?_)
    exact fun _ _ _ _ => ⟨origin, rfl, by rw [view]⟩
  next skipped =>
    refine verify_ruled rfl rfl readable sum ?_
    intro req mayReply slot own
    have own : decode (frameView wake.ring span.anchor span.footprint) (servo.feed wake span).bus.id =
      .own req mayReply slot := own
    simp [Servo.dispatchDecoded, own] at skipped

/-- A status frame is strode over on its header alone. -/
def Strides (wake : Wake) (span : FrameSpan) (before after : ServoBus) : Prop :=
  (ringInst wake.ring span.anchor).isStatus = true ∧ Aside before after ∧
    (before.placeOf span.anchor wake.ring.length, span.footprint) ∈ after.trace.statuses

theorem Aside.strides (aside : Aside first second) (strides : Strides wake span second third) :
    Strides wake span first third := by
  obtain ⟨status, after, noted⟩ := strides
  exact ⟨status, aside.trans after, aside.placeOf ▸ noted⟩

theorem routeFrame_ended (shape : RingShape len) (length : wake.ring.length = len)
    (candidate : Candidate wake.ring span) :
    Ruled wake span servo.bus (servo.routeFrame wake span true).bus ∨
      Strides wake span servo.bus (servo.routeFrame wake span true).bus := by
  unfold Servo.routeFrame
  split
  next status =>
    have noted := aside_noteStatus servo.bus (servo.bus.placeOf span.anchor wake.ring.length) span.footprint
    have ended := @aside_statusEnd wake servo span
    refine .inr ⟨status, noted.trans ended, ended.statuses.subset ?_⟩
    exact List.mem_append_right _ (List.mem_singleton_self _)
  next =>
    split
    next => exact .inl (routeSpine_ruled shape length candidate)
    next => exact .inl (routeVerdictFirst_ruled shape length candidate)

theorem onFrameEnd_ended {uid : List UInt8} {start : Standing} (shape : RingShape len)
    (length : wake.ring.length = len) (candidate : Candidate wake.ring span)
    (attributed : Attributed uid len start servo) (fresh : (servo.onFrameEnd wake span).bus.trace.AllFresh) :
    Ruled wake span servo.bus (servo.onFrameEnd wake span).bus ∨
      Strides wake span servo.bus (servo.onFrameEnd wake span).bus := by
  have taken := aside_take servo.bus
  revert fresh
  unfold Servo.onFrameEnd
  dsimp only
  split
  next p out =>
    split
    next place =>
      intro fresh
      obtain ⟨origin, req, mayReply, slot, speculated⟩ := attributed.awaited p out
      have readable : Readable len wake p.anchor p.footprint := by
        rw [place.1, place.2]
        exact candidate.readable shape length
      obtain ⟨same, sum⟩ := rule_fresh speculated.recorded speculated.sum (fresh.before (verify_grows _ _))
      refine .inl (taken.ruled (verify_ruled place.1 place.2 readable sum ?_))
      exact fun _ _ _ _ => ⟨origin, speculated.recorded, same.symm⟩
    next =>
      intro _
      have dropped := taken.trans (aside_dropStaged _)
      rcases @routeFrame_ended wake span len
        ⟨{ servo.bus with pending := none }.dropStaged, servo.session⟩ shape length candidate with
        ruled | strides
      next => exact .inl (dropped.ruled ruled)
      next => exact .inr (dropped.strides strides)
  next =>
    intro _
    rcases @routeFrame_ended wake span len ⟨{ servo.bus with pending := none }, servo.session⟩ shape length
      candidate with ruled | strides
    next => exact .inl (taken.ruled ruled)
    next => exact .inr (taken.strides strides)

end Ruled

end OpenServo.Bus
