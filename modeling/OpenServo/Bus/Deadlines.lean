import OpenServo.Bus.Inert
import OpenServo.Bus.Pipeline

set_option autoImplicit false

namespace OpenServo.Bus

open OpenServo.Core OpenServo.Protocol OpenServo.Shared

/-- How far off a deadline is. One already reached is due now, not a wrap away. -/
def ticksLeft (now tick : UInt32) : UInt32 :=
  if tickReached now tick then 0 else tick - now

def ServoBus.slots (bus : ServoBus) : List UInt32 :=
  bus.framerAt.toList ++ bus.chainAt.toList

structure Earliest (now : UInt32) (bus : ServoBus) : Prop where
  cancelled : bus.armed = none ↔ bus.framerAt = none ∧ bus.chainAt = none
  live : ∀ tick, bus.armed = some tick → tick ∈ bus.slots
  first : ∀ tick, bus.armed = some tick → ∀ other ∈ bus.slots, ticksLeft now tick ≤ ticksLeft now other

theorem armDeadline_earliest (bus : ServoBus) (wake : Wake) :
    Earliest (wake.now bus.reads) (bus.armDeadline wake) := by
  obtain ⟨after, made⟩ : ∃ after, bus.armDeadline wake = after := ⟨_, rfl⟩
  have framerAt : after.framerAt = bus.framerAt := by rw [← made]; rfl
  have chainAt : after.chainAt = bus.chainAt := by rw [← made]; rfl
  have armed : (bus.armDeadline wake).armed = after.armed := by rw [made]
  rw [made]
  cases framer : bus.framerAt <;> cases chain : bus.chainAt <;> rw [framer] at framerAt <;> rw [chain] at chainAt <;>
    simp only [ServoBus.armDeadline, show (bus.readNow wake).2.framerAt = _ from framer,
      show (bus.readNow wake).2.chainAt = _ from chain] at armed <;>
    replace armed := armed.symm
  next => constructor <;> simp [armed, framerAt, chainAt]
  next => constructor <;> simp [ServoBus.slots, armed, framerAt, chainAt]
  next => constructor <;> simp [ServoBus.slots, armed, framerAt, chainAt]
  next a b =>
    have slots : after.slots = [a, b] := by simp [ServoBus.slots, framerAt, chainAt]
    change after.armed =
      if ticksLeft (wake.now bus.reads) a ≤ ticksLeft (wake.now bus.reads) b then some a else some b at armed
    split at armed
    next sooner =>
      refine ⟨by simp [armed, framerAt], by simp [armed, slots], ?_⟩
      intro tick here other member
      obtain rfl : a = tick := Option.some.inj (armed.symm.trans here)
      rw [slots, List.mem_pair] at member
      rcases member with rfl | rfl
      next => exact UInt32.le_refl _
      next => exact sooner
    next later =>
      refine ⟨by simp [armed, framerAt], by simp [armed, slots], ?_⟩
      intro tick here other member
      obtain rfl : b = tick := Option.some.inj (armed.symm.trans here)
      rw [slots, List.mem_pair] at member
      rcases member with rfl | rfl
      next => exact UInt32.le_of_lt (UInt32.not_le.mp later)
      next => exact UInt32.le_refl _

/-- A handler arms the compare last of all, or leaves it and both slots alone. -/
structure Rearms (wake : Wake) (before after : ServoBus) : Prop where
  cases : Earliest (wake.now (after.reads - 1)) after ∨
    after.armed = before.armed ∧ after.framerAt = before.framerAt ∧ after.chainAt = before.chainAt

theorem armDeadline_rearms (before bus : ServoBus) (wake : Wake) : Rearms wake before (bus.armDeadline wake) :=
  ⟨.inl (armDeadline_earliest bus wake)⟩

theorem busStep_rearms (servo : Servo) (event : BusEvent) :
    Rearms event.wake servo.bus (busStep servo event).bus := by
  cases event with
  | brk wake =>
    simp only [busStep, Servo.onBreak, BusEvent.wake]
    split
    next =>
      unfold Servo.calBreak
      dsimp only
      split
      next => exact armDeadline_rearms _ _ wake
      next => exact ⟨.inr ⟨rfl, rfl, rfl⟩⟩
    next => exact armDeadline_rearms _ _ wake
  | deadline wake => exact armDeadline_rearms _ _ wake
  | txComplete wake =>
    refine ⟨.inr ?_⟩
    simp only [busStep, ServoBus.onTxComplete]
    split
    next => exact ⟨rfl, rfl, rfl⟩
    next =>
      cases id : servo.bus.pendingId <;> cases baud : servo.bus.pendingBaud <;>
        simp only [ServoBus.readLag, id, baud] <;> exact ⟨rfl, rfl, rfl⟩
  | rescueBreak wake =>
    simp only [busStep, ServoBus.onRescueBreak, BusEvent.wake]
    split
    next => exact ⟨.inr ⟨rfl, rfl, rfl⟩⟩
    next => exact armDeadline_rearms _ _ wake

theorem Earliest.congr {now : UInt32} {before after : ServoBus} (earliest : Earliest now before)
    (armed : after.armed = before.armed) (framerAt : after.framerAt = before.framerAt)
    (chainAt : after.chainAt = before.chainAt) : Earliest now after := by
  have slots : after.slots = before.slots := by rw [ServoBus.slots, framerAt, chainAt, ServoBus.slots]
  exact ⟨by rw [armed, framerAt, chainAt]; exact earliest.cancelled, by rw [armed, slots]; exact earliest.live,
    by rw [armed, slots]; exact earliest.first⟩

theorem run_earliest (ticksPerUs : UInt32) (id : UInt8) (rate : BaudRate) (responseDeadlineUs : UInt16)
    (session : Session) (events : List BusEvent) :
    ∃ now, Earliest now (run busStep (servoBoot ticksPerUs id rate responseDeadlineUs session) events).bus := by
  apply run_invariant busStep (fun _ _ => True) (fun servo => ∃ now, Earliest now servo.bus)
  next =>
    rintro servo event ⟨now, earliest⟩ -
    rcases (busStep_rearms servo event).cases with fresh | ⟨armed, framerAt, chainAt⟩
    next => exact ⟨_, fresh⟩
    next => exact ⟨now, earliest.congr armed framerAt chainAt⟩
  next => exact ⟨0, by constructor <;> simp [servoBoot]⟩
  next => exact meets_trivial _ _ _

namespace Servo

variable {wake : Wake}

def framed (servo : Servo) (wake : Wake) : Servo :=
  { servo with bus := { servo.bus with reads := servo.bus.reads + 1 } }.framerSlot wake (wake.now servo.bus.reads)

def pass (wake : Wake) (servo : Servo) : Servo :=
  (servo.framed wake).chainSlot wake (wake.now servo.bus.reads)

def progresses (wake : Wake) (servo : Servo) : Bool :=
  due (wake.now servo.bus.reads) servo.bus.framerAt || due (wake.now servo.bus.reads) (servo.framed wake).bus.chainAt

theorem drain_succ (fuel : Nat) (servo : Servo) :
    drain wake (fuel + 1) servo =
      if servo.progresses wake then drain wake fuel (servo.pass wake) else servo.pass wake := rfl

theorem drain_passes (fuel : Nat) (servo : Servo) :
    ∃ n ≤ fuel, drain wake fuel servo = (pass wake)^[n] servo ∧
      (∀ k, k + 1 < n → progresses wake ((pass wake)^[k] servo) = true) ∧
      (n = fuel ∨ ∃ last, n = last + 1 ∧ progresses wake ((pass wake)^[last] servo) = false) := by
  induction fuel generalizing servo with
  | zero => exact ⟨0, Nat.le_refl _, rfl, by omega, .inl rfl⟩
  | succ fuel ih =>
    rw [drain_succ]
    split
    next more =>
      obtain ⟨n, bound, passes, every, stop⟩ := ih (servo.pass wake)
      refine ⟨n + 1, by omega, by rw [passes, Function.iterate_succ_apply], ?_, ?_⟩
      next =>
        intro k within
        cases k with
        | zero => exact more
        | succ k =>
          rw [Function.iterate_succ_apply]
          exact every k (by omega)
      next =>
        refine stop.imp (by omega) ?_
        rintro ⟨last, rfl, idle⟩
        exact ⟨last + 1, rfl, by rw [Function.iterate_succ_apply]; exact idle⟩
    next idle =>
      refine ⟨1, by omega, rfl, by omega, .inr ⟨0, rfl, Bool.eq_false_iff.mpr idle⟩⟩

theorem pass_moves (servo : Servo) : Moves wake servo (servo.framed wake) ∧ Moves wake servo (servo.pass wake) := by
  have read : Moves wake servo { servo with bus := { servo.bus with reads := servo.bus.reads + 1 } } :=
    (Move.quiet _ (quiet_read _ _ (Nat.le_succ _))).moves
  have framed := read.trans (framerSlot_moves _ (wake.now servo.bus.reads))
  exact ⟨framed, framed.trans (chainSlot_moves _ _)⟩

end Servo

theorem routeChain_framerAt (bus : ServoBus) (wake : Wake) (out : ChainOut) :
    (bus.routeChain wake out).framerAt = bus.framerAt := by
  have loop (fuel : Nat) (bus : ServoBus) (out : ChainOut) :
      (ServoBus.routeChainLoop wake fuel bus out).framerAt = bus.framerAt := by
    induction fuel generalizing bus out with
    | zero => cases out <;> rfl
    | succ fuel ih =>
      cases out with
      | none => rfl
      | trigger silent => rfl
      | wait tick =>
        unfold ServoBus.routeChainLoop
        dsimp only
        split
        next => rfl
        next => exact ih _ _
  exact loop _ bus out

structure PassServes (wake : Wake) (servo : Servo) : Prop where
  framerServed : due (wake.now servo.bus.reads) servo.bus.framerAt = true →
    servo.framed wake =
      { servo with bus := { servo.bus with reads := servo.bus.reads + 1 } }.framerDue wake
  framerKept : due (wake.now servo.bus.reads) servo.bus.framerAt = false →
    (servo.pass wake).bus.framerAt = servo.bus.framerAt ∧
      (servo.framed wake).bus.chainAt = servo.bus.chainAt
  chainServed : due (wake.now servo.bus.reads) (servo.framed wake).bus.chainAt = true →
    (servo.pass wake).bus = Servo.chainDue (servo.framed wake).bus wake (wake.now servo.bus.reads)
  chainKept : due (wake.now servo.bus.reads) (servo.framed wake).bus.chainAt = false →
    servo.pass wake = servo.framed wake
  awaited : (servo.framed wake).bus.chain.active = true → (servo.framed wake).bus.chainAt.isSome = true

theorem pass_serves {wake : Wake} {servo : Servo} (pipeline : Pipeline servo.bus) : PassServes wake servo := by
  have framed : Pipeline (servo.framed wake).bus :=
    moves_invariant (fun _ _ before move => move_pipeline before move) servo.pass_moves.1 pipeline
  have chained : (servo.pass wake).bus.framerAt = (servo.framed wake).bus.framerAt := by
    unfold Servo.pass Servo.chainSlot
    split
    next => exact routeChain_framerAt _ _ _
    next => rfl
  refine ⟨?_, ?_, ?_, ?_, fun active => (framed.sequenced active).2⟩
  next => exact fun here => if_pos here
  next =>
    intro away
    have same : servo.framed wake = { servo with bus := { servo.bus with reads := servo.bus.reads + 1 } } :=
      if_neg (Bool.eq_false_iff.mp away)
    rw [chained, same]
    exact ⟨rfl, rfl⟩
  next =>
    intro here
    unfold Servo.pass Servo.chainSlot
    rw [if_pos here]
  next => exact fun away => if_neg (Bool.eq_false_iff.mp away)

/-- After every handler the compare stands at the earliest live slot. Where it fires, passes run until one finds
nothing due or eight have run. A pass serves what is due at its tick; the framer's slot, not due, it leaves alone, and
the chain's too unless the framer it serves drops or moves the wait. -/
theorem deadlines_muxed (ticksPerUs : UInt32) (id : UInt8) (rate : BaudRate) (responseDeadlineUs : UInt16)
    (session : Session) (events : List BusEvent) (event : BusEvent) :
    let servo := run busStep (servoBoot ticksPerUs id rate responseDeadlineUs session) events
    let after := busStep servo event
    (∃ now, Earliest now after.bus ∧
      (now = event.wake.now (after.bus.reads - 1) ∨
        after.bus.armed = servo.bus.armed ∧ after.bus.framerAt = servo.bus.framerAt ∧
          after.bus.chainAt = servo.bus.chainAt)) ∧
      ∀ wake, event = .deadline wake →
        (∀ k, PassServes wake ((Servo.pass wake)^[k] servo)) ∧
          ∃ n ≤ deadlineDrainMax,
            after.bus = ((Servo.pass wake)^[n] servo).bus.armDeadline wake ∧
              (∀ k, k + 1 < n → Servo.progresses wake ((Servo.pass wake)^[k] servo) = true) ∧
              (n = deadlineDrainMax ∨
                ∃ last, n = last + 1 ∧ Servo.progresses wake ((Servo.pass wake)^[last] servo) = false) := by
  intro servo after
  constructor
  next =>
    obtain ⟨now, earliest⟩ := run_earliest ticksPerUs id rate responseDeadlineUs session events
    rcases (busStep_rearms servo event).cases with fresh | kept
    next => exact ⟨_, fresh, .inl rfl⟩
    next => exact ⟨now, earliest.congr kept.1 kept.2.1 kept.2.2, .inr kept⟩
  next =>
    rintro wake rfl
    constructor
    next =>
      intro k
      apply pass_serves
      have start : Pipeline servo.bus := run_pipeline ticksPerUs id rate responseDeadlineUs session events
      induction k with
      | zero => exact start
      | succ k ih =>
        rw [Function.iterate_succ_apply']
        exact moves_invariant (fun _ _ before move => move_pipeline before move) (Servo.pass_moves _).2 ih
    next =>
      obtain ⟨n, bound, passes, every, stop⟩ := @Servo.drain_passes wake deadlineDrainMax servo
      refine ⟨n, bound, ?_, every, stop⟩
      rw [← passes]
      rfl

def abandonedRing : List UInt8 :=
  [0x00, 0xFE, 0x09, 0x50, 0x10, 0x00, 0x02, 0x00, 0x09, 0x05, 0x1D, 0x70, 0x00, 0x09, 0x03, 0x10, 0xD1, 0x3E] ++
    List.replicate 494 0x55

/-- The framer's deadline finds the PING whole: it supersedes the reply, and the chain's deadline, far from due, goes
with it. -/
theorem superseded_deadline_dropped :
    let servo := run busStep servoFive [.brk (steady abandonedRing 16 0)]
    let after := busStep servo (.deadline (steady abandonedRing 18 600))
    due 600 servo.bus.framerAt = true ∧ servo.bus.chainAt = some 42560 ∧ due 600 servo.bus.chainAt = false ∧
      after.bus.chainAt = none := by
  decide +kernel

end OpenServo.Bus
