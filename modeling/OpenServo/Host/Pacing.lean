import Mathlib.Algebra.Ring.Nat
import OpenServo.Host.Terminals
import OpenServo.Shared.Ticks

set_option autoImplicit false

namespace OpenServo.Host

open OpenServo.Protocol OpenServo.Shared

structure Call where
  io : Io
  time : Nat → Nat
  clock : ∀ k, io.clock k = UInt32.ofNat (time k)

def HostBus.horizon (bus : HostBus) : Nat :=
  (starveHorizonByteTimes * bus.byteTicks).toNat

/-- The runs of an engine, with a bound of the time so far, and when the quiet gap it holds was armed and for
how long. -/
inductive Timed : HostBus → Nat → Option (Nat × Nat) → Prop where
  | boot (ticksPerUs : UInt32) (rate : BaudRate) (fits : ticksPerUs.toNat ≤ 420) (time : Nat) :
      Timed (HostBus.new ticksPerUs rate) time none
  | rests {bus after : HostBus} {time last : Nat} {armed : Option (Nat × Nat)} {answer : Answer}
      (before : Timed bus time armed) (call : Call) (op : Op)
      (ordered : ∀ k, time ≤ call.time k ∧ call.time k ≤ last)
      (stepped : bus.step call.io op = some (after, answer)) (rests : after.paceUntil = bus.paceUntil) :
      Timed after last armed
  | spends {bus after : HostBus} {time last : Nat} {armed : Option (Nat × Nat)} {answer : Answer}
      (before : Timed bus time armed) (call : Call) (op : Op)
      (ordered : ∀ k, time ≤ call.time k ∧ call.time k ≤ last)
      (stepped : bus.step call.io op = some (after, answer)) (spent : after.paceUntil = none) :
      Timed after last none
  | arms {bus after : HostBus} {time last : Nat} {armed : Option (Nat × Nat)} {answer : Answer}
      (before : Timed bus time armed) (call : Call) (op : Op)
      (ordered : ∀ k, time ≤ call.time k ∧ call.time k ≤ last)
      (stepped : bus.step call.io op = some (after, answer)) (k : Nat)
      (arms : after.paceUntil = some (call.io.clock k + starveHorizonByteTimes * after.byteTicks)) :
      Timed after last (some (call.time k, after.horizon))

structure Paces (clock : Nat → UInt32) (bus after : HostBus) : Prop where
  ticks : after.ticksPerUs = bus.ticksPerUs
  quiet : after.paceUntil = bus.paceUntil ∨ after.paceUntil = none ∨
    ∃ k, after.paceUntil = some (clock k + starveHorizonByteTimes * after.byteTicks)

namespace HostBus

variable {bus : HostBus} {clock : Nat → UInt32}

theorem paces_same {after : HostBus} (ticks : after.ticksPerUs = bus.ticksPerUs)
    (same : after.paceUntil = bus.paceUntil) : Paces clock bus after :=
  ⟨ticks, .inl same⟩

theorem paces_finish {during : HostBus} {reads : Nat → UInt32} {outcome : Outcome} (n : Nat)
    (ticks : during.ticksPerUs = bus.ticksPerUs)
    (quiet : during.paceUntil = bus.paceUntil ∨
      ∃ k, during.paceUntil = some (clock k + starveHorizonByteTimes * during.byteTicks))
    (read : reads 0 = clock n) : Paces clock bus (during.finish reads outcome) := by
  refine ⟨ticks, ?_⟩
  simp only [finish, pace, read]
  split
  next => exact .inr (.inr ⟨n, rfl⟩)
  next => exact quiet.imp_right .inr

theorem submit_paces (cmd : Command) (io : Io) : Paces io.clock bus (bus.submit cmd io).1 := by
  unfold submit
  split
  next => exact paces_same rfl rfl
  next =>
    dsimp only
    split
    next us =>
      refine paces_finish 0 ?_ (.inl ?_) rfl
      next => rfl
      next => rfl
    next rate =>
      refine paces_finish 1 ?_ (.inr ⟨0, ?_⟩) rfl
      next => rfl
      next => rfl
    next => exact paces_same rfl rfl
    next id inst payload =>
      split
      next => exact paces_same rfl rfl
      next =>
        split
        next => split <;> exact ⟨rfl, .inr (.inl rfl)⟩
        next => exact ⟨rfl, .inr (.inl rfl)⟩

theorem wireSend_paces (bytes : List UInt8) : Paces clock bus (bus.wireSend bytes).1 := by
  unfold wireSend
  split
  next => exact paces_same rfl rfl
  next =>
    split
    next => exact paces_same rfl rfl
    next => split <;> exact paces_same rfl rfl

theorem wireTrain_paces (announce : List UInt8) (gapUs : UInt16) (breaks : UInt8) :
    Paces clock bus (bus.wireTrain announce gapUs breaks).1 := by
  unfold wireTrain
  split
  next => exact paces_same rfl rfl
  next =>
    split
    next => exact paces_same rfl rfl
    next => split <;> exact paces_same rfl rfl

theorem wireBaud_paces (bps : UInt32) : Paces clock bus (bus.wireBaud bps clock).1 := by
  unfold wireBaud
  split
  next => exact paces_same rfl rfl
  next =>
    split
    next => exact paces_same rfl rfl
    next => exact ⟨rfl, .inr (.inr ⟨0, rfl⟩)⟩

theorem wireBurst_paces (stream : List UInt8) : Paces clock bus (bus.wireBurst stream).1 := by
  unfold wireBurst
  split
  next => exact paces_same rfl rfl
  next =>
    split
    next => exact paces_same rfl rfl
    next => split <;> exact paces_same rfl rfl

theorem wirePulseLow_paces (us : UInt16) : Paces clock bus (bus.wirePulseLow us clock).1 := by
  unfold wirePulseLow
  split
  next => exact paces_same rfl rfl
  next => split <;> exact paces_same rfl rfl

theorem wireAdvance_paces (clock : Nat → UInt32) : Paces clock bus (bus.wireAdvance clock) := by
  unfold wireAdvance
  split
  next => exact paces_same rfl rfl
  next => split <;> exact paces_same rfl rfl

theorem onTxComplete_paces (io : Io) : Paces io.clock bus (bus.onTxComplete io) := by
  unfold onTxComplete
  split
  next => exact wireAdvance_paces io.clock
  next =>
    split
    next => exact paces_same rfl rfl
    next =>
      split
      next =>
        refine paces_finish 0 ?_ (.inl ?_) rfl
        next => rfl
        next => rfl
      next =>
        split
        next => exact paces_same rfl rfl
        next =>
          split
          next =>
            refine paces_finish 0 ?_ (.inl ?_) rfl
            next => rfl
            next => rfl
          next => exact paces_same rfl rfl

theorem onDeadline_paces (io : Io) : Paces io.clock bus (bus.onDeadline io) := by
  unfold onDeadline
  split
  next =>
    split
    next =>
      refine paces_finish 0 ?_ (.inl ?_) rfl
      next => rfl
      next => rfl
    next => exact paces_same rfl rfl
  next => split <;> exact paces_same rfl rfl
  next => exact paces_same rfl rfl

theorem takeDone_paces {after : HostBus} (paces : Paces clock bus after) : Paces clock bus after.takeDone.1 := by
  unfold takeDone
  split
  next => exact ⟨paces.ticks, paces.quiet⟩
  next => exact paces

theorem takeEvent_paces {after : HostBus} (paces : Paces clock bus after) : Paces clock bus after.takeEvent.1 := by
  unfold takeEvent
  split
  next => exact ⟨paces.ticks, paces.quiet⟩
  next => exact takeDone_paces paces

theorem Listened.paces {after : HostBus} (listened : Listened bus after) : Paces clock bus after :=
  paces_same listened.ticks listened.pace

theorem credit_paces (now : UInt32) (expected : Option UInt8) (paceAt : UInt32) (look : Look) (f : Frame) :
    (bus.credit now expected paceAt look f).1.ticksPerUs = bus.ticksPerUs ∧
      (bus.credit now expected paceAt look f).1.rate = bus.rate ∧
      ((bus.credit now expected paceAt look f).1.paceUntil = bus.paceUntil ∨
        (bus.credit now expected paceAt look f).1.paceUntil = some paceAt) := by
  unfold credit
  dsimp only
  split
  next =>
    refine ⟨rfl, rfl, ?_⟩
    dsimp only [complete]
    split
    next => exact .inr rfl
    next => exact .inl rfl
  next => exact ⟨rfl, rfl, .inl rfl⟩

theorem pollAwait_paces {io : Io} {after : HostBus} {event : Option Event}
    (polled : bus.pollAwait (io.clock 0) io = some (after, event)) : Paces io.clock bus after := by
  unfold pollAwait at polled
  split at polled
  next =>
    obtain ⟨rfl, rfl⟩ := Prod.mk.inj (Option.some.inj polled)
    exact paces_same rfl rfl
  next plan _ =>
    dsimp only at polled
    split at polled
    next => cases polled
    next walked emit ran =>
      obtain ⟨rfl, rfl⟩ := Prod.mk.inj (Option.some.inj polled)
      obtain ⟨heard, listened, ⟨-, no⟩ | ⟨look, f, -, rfl, -⟩⟩ := walk_cases ran
      next => cases no
      next =>
        obtain ⟨ticks, rate, same | armed⟩ := heard.credit_paces (io.clock 0) _
          (io.clock 0 + starveHorizonByteTimes * bus.byteTicks) look f
        next => exact paces_same (ticks.trans listened.ticks) (same.trans listened.pace)
        next =>
          have same := ticks.trans listened.ticks
          refine ⟨same, .inr (.inr ⟨0, armed.trans ?_⟩)⟩
          simp only [byteTicks] at same rate ⊢
          rw [same, rate, listened.rate]
    next walked ran =>
      obtain ⟨heard, listened, ⟨rfl, -⟩ | ⟨look, f, -, -, no⟩⟩ := walk_cases ran
      next =>
        obtain ⟨rfl, rfl⟩ := Prod.mk.inj (Option.some.inj polled)
        refine takeDone_paces ?_
        unfold wait
        dsimp only
        split
        next => exact paces_same listened.ticks listened.pace
        next =>
          split
          next =>
            refine paces_finish 1 ?_ (.inl ?_) rfl
            next => exact listened.ticks
            next => exact listened.pace
          next => exact paces_same listened.ticks listened.pace
      next => cases no

theorem poll_paces {io : Io} {after : HostBus} {event : Option Event} (polled : bus.poll io = some (after, event)) :
    Paces io.clock bus after := by
  unfold poll at polled
  split at polled
  next =>
    obtain ⟨rfl, rfl⟩ := Prod.mk.inj (Option.some.inj polled)
    exact paces_same rfl rfl
  next =>
    obtain ⟨rfl, rfl⟩ := Prod.mk.inj (Option.some.inj polled)
    exact paces_same rfl rfl
  next =>
    dsimp only at polled
    split at polled
    next => exact pollAwait_paces polled
    all_goals
      obtain ⟨rfl, -⟩ := Prod.mk.inj (Option.some.inj polled)
      refine takeEvent_paces ?_
    next => split <;> exact paces_same rfl rfl
    next =>
      split
      next =>
        refine paces_finish 2 ?_ (.inr ⟨1, ?_⟩) rfl
        next => rfl
        next => rfl
      next => exact paces_same rfl rfl
    next => split <;> exact paces_same rfl rfl
    all_goals exact paces_same rfl rfl

theorem step_paces {op : Op} {io : Io} {after : HostBus} {answer : Answer}
    (stepped : bus.step io op = some (after, answer)) : Paces io.clock bus after := by
  cases op with
  | submit cmd =>
    obtain ⟨rfl, -⟩ := Prod.mk.inj (Option.some.inj stepped)
    exact submit_paces cmd io
  | wireSend bytes =>
    obtain ⟨rfl, -⟩ := Prod.mk.inj (Option.some.inj stepped)
    exact wireSend_paces bytes
  | wireTrain announce gapUs breaks =>
    obtain ⟨rfl, -⟩ := Prod.mk.inj (Option.some.inj stepped)
    exact wireTrain_paces announce gapUs breaks
  | wireBaud bps =>
    obtain ⟨rfl, -⟩ := Prod.mk.inj (Option.some.inj stepped)
    exact wireBaud_paces bps
  | wireBurst stream =>
    obtain ⟨rfl, -⟩ := Prod.mk.inj (Option.some.inj stepped)
    exact wireBurst_paces stream
  | wirePulseLow us =>
    obtain ⟨rfl, -⟩ := Prod.mk.inj (Option.some.inj stepped)
    exact wirePulseLow_paces us
  | onTxComplete =>
    obtain ⟨rfl, -⟩ := Prod.mk.inj (Option.some.inj stepped)
    exact onTxComplete_paces io
  | onDeadline =>
    obtain ⟨rfl, -⟩ := Prod.mk.inj (Option.some.inj stepped)
    exact onDeadline_paces io
  | poll =>
    obtain ⟨⟨polled, event⟩, ran, made⟩ := Option.map_eq_some_iff.mp stepped
    obtain ⟨rfl, -⟩ := Prod.mk.inj made
    exact poll_paces ran

end HostBus

theorem Timed.goes_on {bus after : HostBus} {time last : Nat} {armed : Option (Nat × Nat)} {answer : Answer}
    (timed : Timed bus time armed) (call : Call) (op : Op)
    (ordered : ∀ k, time ≤ call.time k ∧ call.time k ≤ last)
    (stepped : bus.step call.io op = some (after, answer)) : ∃ armed', Timed after last armed' := by
  obtain same | spent | ⟨k, arms⟩ := (HostBus.step_paces stepped).quiet
  next => exact ⟨_, .rests timed call op ordered stepped same⟩
  next => exact ⟨_, .spends timed call op ordered stepped spent⟩
  next => exact ⟨_, .arms timed call op ordered stepped k arms⟩

/-- What the history says of the tick that is held. -/
structure Holds (bus : HostBus) (time : Nat) (armed : Option (Nat × Nat)) : Prop where
  fits : bus.ticksPerUs.toNat ≤ 420
  past : ∀ t q, armed = some (t, q) → t ≤ time ∧ q ≤ 2 ^ 20
  held : bus.paceUntil = armed.map fun (t, q) => UInt32.ofNat (t + q)

theorem HostBus.horizon_le {bus : HostBus} (fits : bus.ticksPerUs.toNat ≤ 420) : bus.horizon ≤ 2 ^ 20 := by
  have slow : 500000 ≤ bus.rate.asHz.toNat := by cases bus.rate <;> decide
  have product : (bus.ticksPerUs * 10000000).toNat = bus.ticksPerUs.toNat * 10000000 := by
    rw [UInt32.toNat_mul]
    exact Nat.mod_eq_of_lt (by simp only [UInt32.reduceToNat]; omega)
  have byte : bus.byteTicks.toNat ≤ 8400 := by
    rw [HostBus.byteTicks, UInt32.toNat_div, product]
    calc bus.ticksPerUs.toNat * 10000000 / bus.rate.asHz.toNat
        ≤ bus.ticksPerUs.toNat * 10000000 / 500000 := Nat.div_le_div_left slow (by decide)
      _ ≤ 8400 := by omega
  rw [HostBus.horizon, UInt32.toNat_mul, show starveHorizonByteTimes.toNat = 64 from rfl]
  omega

theorem Timed.holds {bus : HostBus} {time : Nat} {armed : Option (Nat × Nat)} (timed : Timed bus time armed) :
    Holds bus time armed := by
  induction timed with
  | boot ticksPerUs rate fits time => exact ⟨fits, fun t q no => (by cases no), rfl⟩
  | rests before call op ordered stepped rests ih =>
    have ticks := (HostBus.step_paces stepped).ticks
    have later := ordered 0
    refine ⟨by rw [ticks]; exact ih.fits, fun t q same => ?_, by rw [rests, ih.held]⟩
    have past := ih.past t q same
    exact ⟨by omega, past.2⟩
  | spends before call op ordered stepped spent ih =>
    have ticks := (HostBus.step_paces stepped).ticks
    exact ⟨by rw [ticks]; exact ih.fits, fun t q no => (by cases no), spent⟩
  | arms before call op ordered stepped k arms ih =>
    have ticks := (HostBus.step_paces stepped).ticks
    have fits : _ ≤ 420 := ticks ▸ ih.fits
    refine ⟨fits, ?_, ?_⟩
    next =>
      rintro t q ⟨rfl, rfl⟩
      exact ⟨(ordered k).2, HostBus.horizon_le fits⟩
    next =>
      rw [arms, Option.map_some, call.clock]
      simp only [HostBus.horizon]
      rw [UInt32.ofNat_add, UInt32.ofNat_toNat]

section Ticks

theorem tickReached_iff {a b : Nat} (past : b ≤ a) :
    tickReached (UInt32.ofNat a) (UInt32.ofNat b) = true ↔ (a - b) % 2 ^ 32 < 2 ^ 31 - 1 := by
  rw [tickReached, decide_eq_true_eq, UInt32.lt_iff_toNat_lt, toNat_sub_ofNat,
    show UInt32.toNat 0x7FFFFFFF = 2 ^ 31 - 1 from rfl]
  omega

theorem tickReached_ahead {a b : Nat} (ahead : a < b) (near : b - a ≤ 2 ^ 20) :
    tickReached (UInt32.ofNat a) (UInt32.ofNat b) = false := by
  rw [tickReached, decide_eq_false_iff_not, UInt32.lt_iff_toNat_lt, toNat_sub_ofNat,
    show UInt32.toNat 0x7FFFFFFF = 2 ^ 31 - 1 from rfl]
  omega

end Ticks

def HostBus.polls (bus : HostBus) : List Call → Option HostBus
  | [] => some bus
  | call :: calls => (bus.poll call.io).bind fun polled => polled.1.polls calls

structure OnWire (before after : HostBus) : Prop where
  state : after.state = .transmitting
  tx : after.tx = before.tx ++ [.claim, .sendBreak, .send (after.buf.frame.drop 1)]

/-- An exchange submitted after the gap ends starts at once; one before waits through every poll until then and
goes out with the first one past it. -/
structure Punctual (bus : HostBus) (cmd : Command) (quiet : Nat) (first : Call) (early : List Call) (wake : Call) :
    Prop where
  prompt : quiet ≤ first.time 0 → OnWire bus (bus.submit cmd first.io).1
  waits : first.time 0 < quiet → ∃ held after, (bus.submit cmd first.io).1.polls early = some held ∧
    held.state = .pacing ∧ held.tx = bus.tx ∧ held.poll wake.io = some (after, none) ∧ OnWire bus after

section Exchange

variable {bus : HostBus} {id : UInt8} {inst : Inst} {payload : List UInt8} {io : Io} {tick : UInt32}

theorem HostBus.submit_held (held : bus.paceUntil = some tick)
    (accepted : (bus.submit (.exchange id inst payload) io).2 = .ok ()) :
    ∃ ready : HostBus, ready.tx = bus.tx ∧ ready.pendingDone = none ∧ ready.pendingWireDone = none ∧
      (bus.submit (.exchange id inst payload) io).1 =
        if tickReached (io.clock 0) tick then ready.startTx
        else ({ ready with state := .pacing } : HostBus).arm tick := by
  unfold submit at accepted ⊢
  cases ready : bus.ready with
  | false =>
    rw [ready] at accepted
    cases accepted
  | true =>
    obtain ⟨-, done, wire⟩ := HostBus.ready_iff.mp ready
    rw [ready] at accepted
    cases derived : Shape.derive id inst payload with
    | error reason =>
      simp only [Bool.not_true, Bool.false_eq_true, if_false, derived] at accepted
      cases accepted
    | ok plan =>
      refine ⟨{ bus with
        evidence := {}
        buf := (((bus.buf.start id inst).putPayload payload).finish payload.length).setCrc
          (oscCrc (((bus.buf.start id inst).putPayload payload).finish payload.length).covered)
        plan := some plan
        framer := bus.framer.resync io.here.cursor
        paceUntil := none }, rfl, done, wire, ?_⟩
      simp only [Bool.not_true, Bool.false_eq_true, if_false, derived, held]
      cases tickReached (io.clock 0) tick with
      | true => rfl
      | false => rfl

theorem HostBus.poll_pacing (state : bus.state = .pacing) (done : bus.pendingDone = none)
    (wire : bus.pendingWireDone = none) (io : Io) :
    bus.poll io = some (if tickReached (io.clock 0) bus.deadlineAt then bus.startTx else bus, none) := by
  unfold poll
  simp only [done, wire, state]
  split
  next => simp only [takeEvent, takeDone, startTx, drive, done, wire]
  next => simp only [takeEvent, takeDone, done, wire]

theorem HostBus.polls_pacing (state : bus.state = .pacing) (done : bus.pendingDone = none)
    (wire : bus.pendingWireDone = none) (early : List Call)
    (before : ∀ call ∈ early, tickReached (call.io.clock 0) bus.deadlineAt = false) :
    bus.polls early = some bus := by
  induction early with
  | nil => rfl
  | cons call early ih =>
    have first := before call List.mem_cons_self
    rw [polls, poll_pacing state done wire, first]
    exact ih fun later member => before later (List.mem_cons_of_mem call member)

end Exchange

/-- An exchange after a quiet gap is punctual exactly when the clock, read past the gap's end, has not gone more
than half its range beyond it; it is never to wait longer than the horizon. -/
theorem pacing_punctual_iff {bus : HostBus} {time t q : Nat} (timed : Timed bus time (some (t, q)))
    (id : UInt8) (inst : Inst) (payload : List UInt8) (first : Call) (later : time ≤ first.time 0)
    (accepted : (bus.submit (.exchange id inst payload) first.io).2 = .ok ()) (early : List Call)
    (between : ∀ call ∈ early, first.time 0 ≤ call.time 0 ∧ call.time 0 < t + q) (wake : Call)
    (due : t + q ≤ wake.time 0) :
    (Punctual bus (.exchange id inst payload) (t + q) first early wake ↔
        ((if t + q ≤ first.time 0 then first.time 0 else wake.time 0) - (t + q)) % 2 ^ 32 < 2 ^ 31 - 1) ∧
      t + q - first.time 0 ≤ q := by
  have holds := timed.holds
  obtain ⟨past, short⟩ := holds.past t q rfl
  obtain ⟨ready, tx, done, wire, out⟩ := HostBus.submit_held holds.held accepted
  rw [first.clock] at out
  refine ⟨?_, by omega⟩
  -- Past the gap at once, or held back to a poll past it: one comparison decides both.
  by_cases elapsed : t + q ≤ first.time 0
  next =>
    rw [if_pos elapsed, ← tickReached_iff elapsed]
    constructor
    next =>
      intro punctual
      by_contra behind
      rw [Bool.not_eq_true] at behind
      have state := (punctual.prompt elapsed).state
      rw [out, behind] at state
      cases state
    next =>
      intro reached
      refine ⟨fun _ => ?_, fun early => absurd elapsed (by omega)⟩
      rw [out, if_pos reached]
      exact ⟨rfl, by rw [← tx]; rfl⟩
  next =>
    have early' : first.time 0 < t + q := by omega
    have ahead (time' : Nat) (after : first.time 0 ≤ time') (before : time' < t + q) :
        tickReached (UInt32.ofNat time') (UInt32.ofNat (t + q)) = false :=
      tickReached_ahead before (by omega)
    rw [ahead _ (Nat.le_refl _) early'] at out
    simp only [Bool.false_eq_true, if_false] at out
    have waits : (bus.submit (.exchange id inst payload) first.io).1.polls early =
        some (({ ready with state := .pacing } : HostBus).arm (UInt32.ofNat (t + q))) := by
      rw [out]
      refine HostBus.polls_pacing ?_ ?_ ?_ early fun call member => ?_
      next => rfl
      next => exact done
      next => exact wire
      next =>
        rw [call.clock]
        exact ahead _ (between call member).1 (between call member).2
    have polled := @HostBus.poll_pacing (({ ready with state := .pacing } : HostBus).arm (UInt32.ofNat (t + q))) rfl
      done wire wake.io
    rw [wake.clock] at polled
    rw [if_neg elapsed, ← tickReached_iff due]
    constructor
    next =>
      intro punctual
      obtain ⟨held, after, stays, -, -, goes, onWire⟩ := punctual.waits early'
      obtain rfl := Option.some.inj (waits.symm.trans stays)
      by_contra behind
      rw [Bool.not_eq_true] at behind
      have goes' := (Prod.mk.inj (Option.some.inj (polled.symm.trans goes))).1
      have state := onWire.state
      rw [← goes', if_neg (by rw [HostBus.arm, behind]; exact Bool.false_ne_true)] at state
      cases state
    next =>
      intro reached
      refine ⟨fun elapsed' => absurd elapsed' elapsed, fun _ => ⟨_, _, waits, rfl, tx, polled, ?_⟩⟩
      rw [if_pos (by rw [HostBus.arm]; exact reached)]
      exact ⟨rfl, by rw [← tx]; rfl⟩

def still (time : Nat) : Call :=
  ⟨⟨fun _ => UInt32.ofNat time, [], ⟨[], 0⟩⟩, fun _ => time, fun _ => rfl⟩

def retuned : HostBus :=
  { HostBus.new 18 .b1000000 with paceUntil := some 11520 }

theorem retuned_timed : Timed retuned 0 (some (0, 11520)) := by
  have submitted : (HostBus.new 18 .b1000000).step (still 0).io (.submit (.hostBaud .b1000000)) =
      some ({ retuned with pendingDone := some ⟨.complete, 0, {}⟩ }, .accepted) := rfl
  have polled : ({ retuned with pendingDone := some ⟨.complete, 0, {}⟩ } : HostBus).step (still 0).io .poll =
      some (retuned, .event (.done ⟨.complete, 0, {}⟩)) := rfl
  have instant (k : Nat) : 0 ≤ (still 0).time k ∧ (still 0).time k ≤ 0 := ⟨Nat.le_refl 0, Nat.le_refl 0⟩
  exact .rests (.arms (.boot 18 .b1000000 (by decide) 0) (still 0) _ instant submitted 0 rfl) (still 0) _ instant
    polled rfl

theorem pacing_punctual_ping :
    Punctual retuned (.exchange 5 0x10 []) 11520 (still 5000) [still 6000, still 11519] (still 11530) :=
  (pacing_punctual_iff retuned_timed 5 0x10 [] (still 5000) (by decide) (by rfl) [still 6000, still 11519]
    (by simp [still]) (still 11530) (by decide)).1.mpr (by decide)

/-- Two minutes after the change a PING is held back once more, for up to two minutes. -/
theorem pacing_wraps :
    (retuned.submit (.exchange 5 0x10 []) (still 2147503648).io).1.state = .pacing ∧
      ((retuned.submit (.exchange 5 0x10 []) (still 2147503648).io).1.polls [still 4294967295]).map HostBus.state =
        some .pacing ∧
      ¬ Punctual retuned (.exchange 5 0x10 []) 11520 (still 2147503648) [] (still 2147503649) := by
  have held : (retuned.submit (.exchange 5 0x10 []) (still 2147503648).io).1.state = .pacing := by decide +kernel
  refine ⟨held, by decide +kernel, fun punctual => ?_⟩
  have state := (punctual.prompt (by decide)).state
  rw [held] at state
  cases state

end OpenServo.Host
