import Mathlib.Logic.Relation
import OpenServo.Bus.ServoBus

set_option autoImplicit false

namespace OpenServo.Bus

/-- Changes no routing depends on: the answers read, the armed compare, the framer's slot and fault cursor, and the
clock, but for an announced train. -/
structure Quiet (before after : ServoBus) : Prop where
  framer : after.framer = { before.framer with faultSeen := after.framer.faultSeen }
  clock : after.clock.pendingCal = before.clock.pendingCal
  rest : after =
    { before with
      framer := after.framer
      clock := after.clock
      framerAt := after.framerAt
      armed := after.armed
      reads := after.reads }
  reads : before.reads ≤ after.reads

def Servo.resolve (servo : Servo) (wake : Wake) : Framer × FramerOut :=
  servo.bus.framer.resolve wake.ring (wake.cursor (servo.bus.reads + 1)) (wake.now servo.bus.reads)
    servo.bus.tpb

def Servo.looked (servo : Servo) (wake : Wake) : Servo :=
  { servo with
    bus := { servo.bus with reads := servo.bus.reads + 1 + 1 }.climb (servo.resolve wake).1 wake.ring.length }

inductive Move (wake : Wake) (servo : Servo) : Servo → Prop where
  | quiet (bus : ServoBus) (quiet : Quiet servo.bus bus) : Move wake servo { servo with bus := bus }
  | look (framerAt : Option UInt32) (silent : ∀ span, (servo.resolve wake).2 ≠ .frame span) :
      Move wake servo
        { servo.looked wake with bus := { (servo.looked wake).bus with framerAt := framerAt } }
  | covered (span : FrameSpan) (endDue : UInt32) (out : (servo.resolve wake).2 = .covered span endDue) :
      Move wake servo
        ({ servo.looked wake with
            bus := { (servo.looked wake).bus with framerAt := some endDue } }.routeFrame wake span false)
  | ended (span : FrameSpan) (out : (servo.resolve wake).2 = .frame span) :
      Move wake servo ((servo.looked wake).onFrameEnd wake span)
  | yieldReply : Move wake servo { servo with bus := Servo.yieldReply servo.bus wake }
  | breakObserved (now : UInt32) :
      Move wake servo
        { servo with bus := servo.bus.routeChain wake (servo.bus.chain.onBreakObserved now) }
  | chainDue (now : UInt32) : Move wake servo { servo with bus := Servo.chainDue servo.bus wake now }
  | calBreak (now : UInt32) (active : servo.bus.clock.calActive = true) :
      Move wake servo { servo with bus := Servo.calBreak servo.bus wake now }
  | abandonCal :
      Move wake servo
        { servo with
          bus := { servo.bus with
            framerAt := none, clock := servo.bus.clock.abandonCal }.note .calAbandoned }

inductive Glance (wake : Wake) (servo : Servo) : Servo → Prop where
  | look (framerAt : Option UInt32) (silent : ∀ span, (servo.resolve wake).2 ≠ .frame span) :
      Glance wake servo
        { servo.looked wake with bus := { (servo.looked wake).bus with framerAt := framerAt } }
  | covered (span : FrameSpan) (endDue : UInt32) (out : (servo.resolve wake).2 = .covered span endDue) :
      Glance wake servo
        ({ servo.looked wake with
            bus := { (servo.looked wake).bus with framerAt := some endDue } }.routeFrame wake span false)
  | ended (span : FrameSpan) (out : (servo.resolve wake).2 = .frame span) :
      Glance wake servo ((servo.looked wake).onFrameEnd wake span)

theorem Glance.move {wake : Wake} {servo after : Servo} (glance : Glance wake servo after) :
    Move wake servo after := by
  cases glance with
  | look framerAt silent => exact .look framerAt silent
  | covered span endDue out => exact .covered span endDue out
  | ended span out => exact .ended span out

abbrev Moves (wake : Wake) : Servo → Servo → Prop :=
  Relation.ReflTransGen (Move wake)

section Handlers

variable {wake : Wake}

/-- What holds through reading the tick, waiting, serving the chain and starting the reply holds through routing an
answer of the chain. -/
theorem routeChain_keeps {P : ServoBus → Prop}
    (waits : ∀ bus tick, P bus → P { bus with reads := bus.reads + 1, chainAt := some tick })
    (serves : ∀ bus now, P bus → P { bus with reads := bus.reads + 1, chain := (bus.chain.onDeadline now).1 })
    (fires : ∀ bus override, P bus → P ((bus.noteShot wake).trigger override)) {bus : ServoBus} (holds : P bus)
    (out : ChainOut) : P (bus.routeChain wake out) := by
  have loop (fuel : Nat) (bus : ServoBus) (out : ChainOut) (holds : P bus) :
      P (ServoBus.routeChainLoop wake fuel bus out) := by
    induction fuel generalizing bus out with
    | zero =>
      cases out with
      | none | wait => exact holds
      | trigger silent => exact fires bus _ holds
    | succ fuel ih =>
      cases out with
      | none => exact holds
      | trigger silent => exact fires bus _ holds
      | wait tick =>
        unfold ServoBus.routeChainLoop
        dsimp only
        split
        next => exact waits bus tick holds
        next => exact ih _ _ (serves bus _ holds)
  exact loop _ bus out holds

theorem Move.moves {servo after : Servo} (move : Move wake servo after) : Moves wake servo after :=
  Relation.ReflTransGen.single move

theorem quiet_read (bus : ServoBus) (reads : Nat) (later : bus.reads ≤ reads) :
    Quiet bus { bus with reads := reads } :=
  ⟨rfl, rfl, rfl, later⟩

theorem quiet_armDeadline (bus : ServoBus) : Quiet bus (bus.armDeadline wake) :=
  ⟨rfl, rfl, rfl, Nat.le_succ _⟩

theorem Quiet.trans {first second third : ServoBus} (before : Quiet first second)
    (after : Quiet second third) : Quiet first third := by
  refine ⟨?_, after.clock.trans before.clock, ?_, Nat.le_trans before.reads after.reads⟩
  next => rw [after.framer, before.framer]
  next => rw [after.rest, before.rest]

theorem quiet_driftStamp (bus : ServoBus) (now : UInt32) : Quiet bus (Servo.driftStamp bus wake now) :=
  ⟨rfl, by simp [Servo.driftStamp, ServoBus.readCursor], rfl, Nat.le_succ _⟩

theorem quiet_onWireFault (bus : ServoBus) (cursor reads : Nat) (later : bus.reads ≤ reads) :
    Quiet bus { bus with framer := (bus.framer.onWireFault cursor).1, reads := reads } := by
  refine ⟨?_, rfl, rfl, later⟩
  simp only [Framer.onWireFault]
  split <;> rfl

theorem quiet_wireFault (bus : ServoBus) (now : UInt32) : Quiet bus (Servo.wireFault bus wake now).1 := by
  have fault := quiet_onWireFault bus (wake.cursor bus.reads) (bus.reads + 1) (Nat.le_succ _)
  unfold Servo.wireFault
  dsimp only
  split
  next => exact fault.trans (quiet_driftStamp _ now)
  next => exact fault

theorem quiet_recheck (bus : ServoBus) (fresh : Bool) (now : UInt32) :
    Quiet bus (Servo.recheck bus fresh now) := by
  simp only [Servo.recheck]
  split <;> exact ⟨rfl, rfl, rfl, Nat.le_refl _⟩

theorem driveLoop_moves (fuel : Nat) (servo : Servo) :
    Moves wake servo (Servo.driveLoop wake fuel servo) := by
  induction fuel generalizing servo with
  | zero =>
    have quiet : Quiet servo.bus
        { servo.bus with reads := servo.bus.reads + 1, framerAt := some (wake.now servo.bus.reads) } :=
      ⟨rfl, rfl, rfl, Nat.le_succ _⟩
    exact (Move.quiet _ quiet).moves
  | succ fuel ih =>
    rw [Servo.driveLoop]
    simp only [ServoBus.readNow, ServoBus.readCursor]
    split
    next out => exact (Move.look none (by simp [Servo.resolve, out])).moves
    next tick out => exact (Move.look (some tick) (by simp [Servo.resolve, out])).moves
    next span endDue out => exact (Move.covered span endDue out).moves
    next span out => exact (Move.ended span out).moves.trans (ih _)

theorem driveFramer_moves (servo : Servo) : Moves wake servo (servo.driveFramer wake) :=
  driveLoop_moves framesPerWake servo

theorem onBreak_moves (servo : Servo) : Moves wake servo (servo.onBreak wake) := by
  obtain ⟨bus, session⟩ := servo
  have read : Moves wake ⟨bus, session⟩ ⟨(bus.readNow wake).2, session⟩ :=
    (Move.quiet _ (quiet_read _ _ (Nat.le_succ _))).moves
  simp only [Servo.onBreak]
  refine read.trans ?_
  generalize (bus.readNow wake).1 = now
  generalize (bus.readNow wake).2 = bus
  split
  next active => exact (@Move.calBreak wake ⟨bus, session⟩ _ active).moves
  next =>
    have fault : Moves wake ⟨bus, session⟩ ⟨(Servo.wireFault bus wake now).1, session⟩ :=
      (Move.quiet _ (quiet_wireFault bus now)).moves
    refine (fault.trans (driveFramer_moves _)).trans ?_
    generalize (Servo.wireFault bus wake now).2 = fresh
    generalize Servo.driveFramer ⟨(Servo.wireFault bus wake now).1, session⟩ wake = servo
    have again : Moves wake servo { servo with bus := Servo.recheck servo.bus fresh now } :=
      (Move.quiet _ (quiet_recheck servo.bus fresh now)).moves
    refine ((again.tail .yieldReply).tail (.breakObserved now)).tail ?_
    exact .quiet _ (quiet_armDeadline _)

theorem framerSlot_moves (servo : Servo) (now : UInt32) : Moves wake servo (servo.framerSlot wake now) := by
  rw [Servo.framerSlot]
  split
  next => exact (Move.abandonCal.moves).trans (driveFramer_moves _)
  next => exact .refl

theorem chainSlot_moves (servo : Servo) (now : UInt32) : Moves wake servo (servo.chainSlot wake now) := by
  rw [Servo.chainSlot]
  split
  next => exact (Move.chainDue now).moves
  next => exact .refl

theorem drain_moves (fuel : Nat) (servo : Servo) : Moves wake servo (Servo.drain wake fuel servo) := by
  induction fuel generalizing servo with
  | zero => exact .refl
  | succ fuel ih =>
    obtain ⟨bus, session⟩ := servo
    have read : Moves wake ⟨bus, session⟩ ⟨(bus.readNow wake).2, session⟩ :=
      (Move.quiet _ (quiet_read _ _ (Nat.le_succ _))).moves
    have once := (read.trans (framerSlot_moves _ (bus.readNow wake).1)).trans
      (chainSlot_moves _ (bus.readNow wake).1)
    unfold Servo.drain
    dsimp only
    split
    next => exact once.trans (ih _)
    next => exact once

theorem onDeadline_moves (servo : Servo) : Moves wake servo (servo.onDeadline wake) :=
  (drain_moves deadlineDrainMax servo).tail (.quiet _ (quiet_armDeadline _))

end Handlers

theorem moves_invariant {wake : Wake} {Inv : Servo → Prop}
    (keeps : ∀ servo after, Inv servo → Move wake servo after → Inv after) {servo after : Servo}
    (moves : Moves wake servo after) (inv : Inv servo) : Inv after := by
  induction moves with
  | refl => exact inv
  | tail _ move ih => exact keeps _ _ ih move

theorem busStep_invariant {Inv : Servo → Prop} (event : BusEvent)
    (keeps : ∀ servo after, Inv servo → Move event.wake servo after → Inv after)
    (completes : ∀ servo, Inv servo → Inv { servo with bus := servo.bus.onTxComplete event.wake })
    (rescues : ∀ servo, Inv servo → Inv { servo with bus := servo.bus.onRescueBreak event.wake })
    (servo : Servo) (inv : Inv servo) : Inv (busStep servo event) := by
  cases event with
  | brk wake => exact moves_invariant keeps (onBreak_moves servo) inv
  | deadline wake => exact moves_invariant keeps (onDeadline_moves servo) inv
  | txComplete wake => exact completes servo inv
  | rescueBreak wake => exact rescues servo inv

end OpenServo.Bus
