import OpenServo.Bus.Ladder

set_option autoImplicit false

namespace OpenServo.Bus

open OpenServo.Core OpenServo.Protocol OpenServo.Shared

/-- Work of the bus that leaves its id and its rate alone, and what waits to become them; the reply they wait for
leaves the engine only on the record. -/
structure Aloof (before after : ServoBus) : Prop where
  id : after.id = before.id
  rate : after.rate = before.rate
  uart : after.uart = before.uart
  pendingId : after.pendingId = before.pendingId
  pendingBaud : after.pendingBaud = before.pendingBaud
  rates : after.rates = before.rates
  strays : after.strays = [] → before.strays = []
  busy : after.strays = [] → before.deferred = true → before.tx.busy = true → after.tx.busy = true

section Order

variable {first second third : ServoBus}

theorem Aloof.deferred_eq (aloof : Aloof first second) : second.deferred = first.deferred := by
  rw [ServoBus.deferred, aloof.pendingId, aloof.pendingBaud, ServoBus.deferred]

theorem Aloof.of_eq (id : second.id = first.id) (rate : second.rate = first.rate) (uart : second.uart = first.uart)
    (pendingId : second.pendingId = first.pendingId) (pendingBaud : second.pendingBaud = first.pendingBaud)
    (rates : second.rates = first.rates) (strays : second.strays = first.strays)
    (busy : first.tx.busy = true → second.tx.busy = true) : Aloof first second :=
  ⟨id, rate, uart, pendingId, pendingBaud, rates, fun none => strays ▸ none, fun _ _ => busy⟩

theorem Aloof.refl (bus : ServoBus) : Aloof bus bus :=
  .of_eq rfl rfl rfl rfl rfl rfl rfl fun busy => busy

theorem Aloof.trans (early : Aloof first second) (late : Aloof second third) : Aloof first third := by
  refine ⟨late.id.trans early.id, late.rate.trans early.rate, late.uart.trans early.uart,
    late.pendingId.trans early.pendingId, late.pendingBaud.trans early.pendingBaud,
    late.rates.trans early.rates, fun none => early.strays (late.strays none), ?_⟩
  intro none deferred busy
  exact late.busy none (early.deferred_eq.trans deferred) (early.busy (late.strays none) deferred busy)

end Order

section Aloof

variable {wake : Wake}

theorem aloof_trigger (bus : ServoBus) (override : Option ResultCode) : Aloof bus (bus.trigger override) := by
  refine .of_eq rfl rfl rfl rfl rfl rfl rfl fun busy => ?_
  simp only [ServoBus.trigger, TxEngine.trigger]
  split
  next => rfl
  next => exact busy

theorem aloof_noteShot (bus : ServoBus) : Aloof bus (bus.noteShot wake) :=
  .of_eq rfl rfl rfl rfl rfl rfl rfl id

theorem aloof_routeChain (bus : ServoBus) (out : ChainOut) : Aloof bus (bus.routeChain wake out) := by
  refine routeChain_keeps ?_ ?_ ?_ (.refl bus) out
  next => exact fun _ _ aloof => aloof.trans (.of_eq rfl rfl rfl rfl rfl rfl rfl id)
  next => exact fun _ _ aloof => aloof.trans (.of_eq rfl rfl rfl rfl rfl rfl rfl id)
  next => exact fun bus override aloof => aloof.trans ((aloof_noteShot bus).trans (aloof_trigger _ override))

theorem aloof_sequence (servo : Servo) (staged : Bool) (slot : UInt8) (packetEnd : UInt32) :
    Aloof servo.bus (servo.sequence wake staged slot packetEnd).bus := by
  unfold Servo.sequence
  split
  next =>
    obtain ⟨reads, -, same⟩ := servo.bus.replyDelay_bus wake
    unfold ServoBus.sequenceReply
    dsimp only
    rw [same]
    refine Aloof.trans ?_ (aloof_routeChain _ _)
    exact .of_eq rfl rfl rfl rfl rfl rfl rfl id
  next => exact .refl _

theorem aloof_dropped {bus : ServoBus} {tx : TxEngine} {lost : Bool} {chain : Chain} {chainAt : Option UInt32}
    (kept : lost = false → bus.deferred = true → bus.tx.busy = true → tx.busy = true) :
    Aloof bus ({ bus with tx := tx, chain := chain, chainAt := chainAt }.stray lost .dropped) := by
  refine ⟨rfl, rfl, rfl, rfl, rfl, rfl, fun none => (List.append_eq_nil_iff.mp none).1, ?_⟩
  intro none deferred busy
  have unmarked := (List.append_eq_nil_iff.mp none).2
  cases lost with
  | true => cases unmarked
  | false => exact kept rfl deferred busy

theorem aloof_dropStaged (bus : ServoBus) : Aloof bus bus.dropStaged := by
  apply aloof_dropped
  intro unmarked deferred busy
  rw [deferred, Bool.and_true] at unmarked
  rw [unmarked]
  exact busy

theorem aloof_yieldReply (bus : ServoBus) : Aloof bus (Servo.yieldReply bus wake) := by
  unfold Servo.yieldReply
  split
  next =>
    have read : Aloof bus (bus.readCursor wake).2 := .of_eq rfl rfl rfl rfl rfl rfl rfl id
    dsimp only
    split
    next =>
      refine read.trans (aloof_dropped fun unmarked deferred _ => ?_)
      rw [deferred] at unmarked
      cases unmarked
    next => exact read
  next => exact .refl bus

theorem aloof_calBreak (bus : ServoBus) (now : UInt32) : Aloof bus (Servo.calBreak bus wake now) := by
  unfold Servo.calBreak
  dsimp only
  split <;> exact .of_eq rfl rfl rfl rfl rfl rfl rfl id

theorem aloof_chainDue (bus : ServoBus) (now : UInt32) : Aloof bus (Servo.chainDue bus wake now) := by
  refine Aloof.trans ?_ (aloof_routeChain _ _)
  exact .of_eq rfl rfl rfl rfl rfl rfl rfl id

theorem Quiet.aloof {before after : ServoBus} (quiet : Quiet before after) : Aloof before after := by
  rw [quiet.rest]
  exact .of_eq rfl rfl rfl rfl rfl rfl rfl id

theorem aloof_looked (servo : Servo) (framerAt : Option UInt32) :
    Aloof servo.bus { (servo.looked wake).bus with framerAt := framerAt } :=
  .of_eq rfl rfl rfl rfl rfl rfl rfl id

end Aloof

/-- What a property of the servo must survive to survive a move. -/
structure Lawful (wake : Wake) (Inv : Servo → Prop) : Prop where
  aloof : ∀ {servo : Servo} {bus : ServoBus}, Inv servo → Aloof servo.bus bus → Inv { servo with bus := bus }
  reverts : ∀ {servo : Servo}, Inv servo → Inv { servo with session := revert servo.session }
  dispatches : ∀ {servo after : Servo} {anchor footprint : Nat} {staged : Bool} {slot : UInt8} {out : Dispatched}
    {origin : Origin}, Inv servo →
      servo.dispatchDecoded wake anchor footprint = some (after, staged, slot, out, origin) → Inv after
  commits : ∀ {servo : Servo}, Inv servo → Inv servo.commitTable

namespace Lawful

variable {wake : Wake} {Inv : Servo → Prop} {servo after : Servo}

theorem settled (lawful : Lawful wake Inv) (inv : Inv servo) (table staged : Bool) (slot : UInt8)
    (packetEnd : UInt32) : Inv ((servo.settleTable table).sequence wake staged slot packetEnd) := by
  have settles : Inv (servo.settleTable table) := by
    unfold Servo.settleTable
    split
    next => exact lawful.commits inv
    next => exact inv
  have sequenced := lawful.aloof settles (@aloof_sequence wake (servo.settleTable table) staged slot packetEnd)
  unfold Servo.sequence at sequenced ⊢
  split at sequenced
  next both =>
    rw [if_pos both]
    exact sequenced
  next neither =>
    rw [if_neg neither]
    exact sequenced

theorem verify (lawful : Lawful wake Inv) (inv : Inv servo) (p : Pending) : Inv (servo.verify wake p) := by
  have ruled : Inv (servo.rule wake p).1 :=
    lawful.aloof inv (.of_eq rfl rfl rfl rfl rfl rfl rfl id)
  generalize ruling : servo.rule wake p = result at ruled
  unfold Servo.verify
  rw [ruling]
  dsimp only
  split
  next =>
    have accepted : Inv (result.1.accept wake p) :=
      lawful.aloof ruled (.of_eq rfl rfl rfl rfl rfl rfl rfl id)
    exact lawful.settled accepted p.table p.staged p.slot p.packetEnd
  next =>
    have rejected : Aloof result.1.bus (result.1.bus.dropStaged.reject wake.ring p.anchor) :=
      (aloof_dropStaged result.1.bus).trans (.of_eq rfl rfl rfl rfl rfl rfl rfl id)
    have dropped := lawful.aloof ruled rejected
    unfold Servo.verdictFail
    split
    next => exact lawful.reverts dropped
    next => exact dropped

theorem execute (lawful : Lawful wake Inv) (inv : Inv servo) (span : FrameSpan) : Inv (servo.execute wake span) := by
  unfold Servo.execute
  split
  next => exact inv
  next ran staged slot out origin dispatched =>
    have noted : Inv { ran with bus := ran.bus.noteFrame (some origin) origin.view } :=
      lawful.aloof (lawful.dispatches inv dispatched) (.of_eq rfl rfl rfl rfl rfl rfl rfl id)
    exact lawful.settled noted _ staged slot span.packetEnd

theorem routeVerdictFirst (lawful : Lawful wake Inv) (inv : Inv servo) (span : FrameSpan) :
    Inv (servo.routeVerdictFirst wake span) := by
  have ruled : Inv (checked servo wake span) := lawful.aloof inv (.of_eq rfl rfl rfl rfl rfl rfl rfl id)
  rw [routeVerdictFirst_eq]
  split
  next =>
    refine lawful.execute (lawful.aloof ruled (Aloof.trans ?_ (aloof_dropStaged _))) span
    exact .of_eq rfl rfl rfl rfl rfl rfl rfl id
  next => exact lawful.aloof ruled (.of_eq rfl rfl rfl rfl rfl rfl rfl id)

theorem routeSpine (lawful : Lawful wake Inv) (inv : Inv servo) (span : FrameSpan) (complete : Bool) :
    Inv (servo.routeSpine wake span complete) := by
  have fed : Inv (servo.feed wake span) := lawful.aloof inv (.of_eq rfl rfl rfl rfl rfl rfl rfl id)
  unfold Servo.routeSpine
  dsimp only
  split
  next ran staged slot out origin dispatched =>
    have inv := lawful.dispatches fed dispatched
    unfold Servo.await
    split
    next => exact lawful.verify inv _
    next => exact lawful.aloof inv (.of_eq rfl rfl rfl rfl rfl rfl rfl id)
  next =>
    split
    next => exact lawful.verify fed _
    next => exact fed

theorem routeFrame (lawful : Lawful wake Inv) (inv : Inv servo) (span : FrameSpan) (complete : Bool) :
    Inv (servo.routeFrame wake span complete) := by
  unfold Servo.routeFrame
  split
  next =>
    split
    next =>
      refine lawful.aloof inv (Aloof.trans ?_ (aloof_routeChain _ _))
      exact .of_eq rfl rfl rfl rfl rfl rfl rfl id
    next => exact inv
  next =>
    split
    next => exact lawful.routeSpine inv span complete
    next =>
      split
      next => exact inv
      next => exact lawful.routeVerdictFirst inv span

theorem onFrameEnd (lawful : Lawful wake Inv) (inv : Inv servo) (span : FrameSpan) :
    Inv (servo.onFrameEnd wake span) := by
  have taken : Inv { servo with bus := { servo.bus with pending := none } } :=
    lawful.aloof inv (.of_eq rfl rfl rfl rfl rfl rfl rfl id)
  unfold Servo.onFrameEnd
  dsimp only
  split
  next p out =>
    split
    next => exact lawful.verify taken p
    next => exact lawful.routeFrame (lawful.aloof taken (aloof_dropStaged _)) span true
  next => exact lawful.routeFrame taken span true

theorem move (lawful : Lawful wake Inv) (inv : Inv servo) (move : Move wake servo after) : Inv after := by
  have looks (framerAt : Option UInt32) :
      Inv { servo.looked wake with bus := { (servo.looked wake).bus with framerAt := framerAt } } :=
    @aloof wake Inv lawful servo _ inv (aloof_looked servo framerAt)
  cases move with
  | quiet bus quiet => exact lawful.aloof inv quiet.aloof
  | look framerAt silent => exact looks framerAt
  | covered span endDue out => exact lawful.routeFrame (looks (some endDue)) span false
  | ended span out => exact lawful.onFrameEnd (looks _) span
  | yieldReply => exact lawful.aloof inv (aloof_yieldReply servo.bus)
  | breakObserved => exact lawful.aloof inv (aloof_routeChain servo.bus _)
  | chainDue now => exact lawful.aloof inv (aloof_chainDue servo.bus now)
  | calBreak now => exact lawful.aloof inv (aloof_calBreak servo.bus now)
  | abandonCal => exact lawful.aloof inv (.of_eq rfl rfl rfl rfl rfl rfl rfl id)

end Lawful

end OpenServo.Bus
