import OpenServo.Host.Slots
import OpenServo.Host.Stale

set_option autoImplicit false

namespace OpenServo.Host

open OpenServo.Shared

def State.wired : State → Bool
  | .wireTx | .wirePulse | .wireTrain _ _ => true
  | .idle | .pacing | .transmitting | .training _ _ | .rescueHold | .awaiting => false

def Op.isWire : Op → Bool
  | .wireSend _ | .wireTrain .. | .wireBaud _ | .wireBurst _ | .wirePulseLow _ => true
  | .submit _ | .onTxComplete | .onDeadline | .poll => false

namespace HostBus

def wired (bus : HostBus) : Bool :=
  bus.state.wired || bus.pendingWireDone.isSome

variable {bus after : HostBus} {commands : List Bool} {io : Io}

theorem ready_free (ready : bus.ready = true) : bus.owes = false ∧ bus.wired = false := by
  obtain ⟨state, done, wire⟩ := ready_iff.mp ready
  simp [owes, wired, state, done, wire, State.commanded, State.wired]

theorem ready_of_free (owes : bus.owes = false) (wired : bus.wired = false) : bus.ready = true := by
  rw [HostBus.owes, Bool.or_eq_false_iff] at owes
  rw [HostBus.wired, Bool.or_eq_false_iff] at wired
  have done := Option.isNone_iff_eq_none.mp (Option.isSome_eq_false_iff.mp owes.2)
  have wire := Option.isNone_iff_eq_none.mp (Option.isSome_eq_false_iff.mp wired.2)
  refine ready_iff.mpr ⟨?_, done, wire⟩
  cases state : bus.state <;> simp_all [State.commanded, State.wired]

theorem Sound.exclusive (sound : bus.Sound commands) (owes : bus.owes = true) : bus.wired = false := by
  by_cases idle : bus.state = .idle
  next =>
    have done : bus.pendingDone.isSome = true := by simpa [HostBus.owes, idle, State.commanded] using owes
    simp [wired, idle, State.wired, (sound.done done).2]
  next =>
    obtain ⟨done, wire⟩ := sound.nothing_waits idle
    rw [HostBus.owes, done] at owes
    rw [wired, wire]
    cases state : bus.state <;> simp_all [State.commanded, State.wired]

theorem Sound.gave {given : Bool} (sound : bus.Sound commands) (toggles : Toggles (commands ++ [false]) given) :
    bus.owes = true := by
  have chain := toggles.isChain
  rw [← List.cons_append] at chain
  have last := (List.isChain_append.mp chain).2.2 _ sound.commands.isChain_last.2 _ rfl
  simpa using last

theorem submit_taken (sound : bus.Sound commands) {cmd : Command}
    (stepped : bus.step io (.submit cmd) = some (after, .accepted)) :
    bus.ready = true ∧ after.owes = true ∧ after.wired = false := by
  have kept := (step_sound sound stepped).1
  have owes : after.owes = true := kept.commands.out_iff.mpr (by simp [commandMark])
  refine ⟨?_, owes, kept.exclusive owes⟩
  by_contra busy
  have closed : bus.ready = false := by simpa using busy
  simp [step, submit, closed, Answer.ofResult] at stepped

theorem wire_ready {op : Op} (wire : op.isWire = true) (stepped : bus.step io op = some (after, .accepted)) :
    bus.ready = true := by
  by_contra busy
  have closed : bus.ready = false := by simpa using busy
  obtain ⟨-, no⟩ | rfl | rfl | rfl := step_busy closed stepped
  next => cases no
  all_goals cases wire

theorem taken_of_accepted {result : HostBus × Except SubmitError Unit}
    (ran : some (result.map id Answer.ofResult) = some (after, .accepted)) : result = (after, .ok ()) := by
  obtain ⟨bus, result⟩ := result
  obtain ⟨rfl, accepted⟩ := Prod.mk.inj (Option.some.inj ran)
  cases result with
  | ok => rfl
  | error => cases accepted

theorem wire_wired {op : Op} (wire : op.isWire = true) (stepped : bus.step io op = some (after, .accepted)) :
    after.wired = true := by
  cases op with
  | submit | onTxComplete | onDeadline | poll => cases wire
  | wireSend bytes =>
    have taken := taken_of_accepted stepped
    unfold wireSend at taken
    repeat' split at taken
    all_goals cases taken
    rfl
  | wireTrain announce gapUs breaks =>
    have taken := taken_of_accepted stepped
    unfold wireTrain at taken
    repeat' split at taken
    all_goals cases taken
    rfl
  | wireBaud bps =>
    have taken := taken_of_accepted stepped
    unfold wireBaud at taken
    repeat' split at taken
    all_goals cases taken
    exact Bool.or_true _
  | wireBurst stream =>
    have taken := taken_of_accepted stepped
    unfold wireBurst at taken
    repeat' split at taken
    all_goals cases taken
    rfl
  | wirePulseLow us =>
    have taken := taken_of_accepted stepped
    unfold wirePulseLow at taken
    repeat' split at taken
    all_goals cases taken
    rfl

theorem wireFinish_wired (clock : Nat → UInt32) : (bus.wireFinish clock).wired = true :=
  Bool.or_true _

theorem wireAdvance_wired (state : bus.state = .wireTx) (clock : Nat → UInt32) :
    (bus.wireAdvance clock).wired = true := by
  unfold wireAdvance
  split
  next => rfl
  next =>
    split
    next =>
      have kept : bus.wireNextFrame.state = bus.state := rfl
      simp [wired, kept, state, State.wired]
    next => exact wireFinish_wired clock

theorem interrupt_wired (sound : bus.Sound commands) {op : Op} {answer : Answer}
    (interrupt : op = .onTxComplete ∨ op = .onDeadline) (stepped : bus.step io op = some (after, answer)) :
    after.owes = bus.owes ∧ after.wired = bus.wired := by
  have kept := (step_sound sound stepped).1
  have mark : commandMark (op, answer) = none := by
    obtain rfl | rfl := interrupt <;> obtain ⟨-, rfl⟩ := Prod.mk.inj (Option.some.inj stepped) <;> rfl
  rw [mark, Option.toList_none, List.append_nil] at kept
  have same := sound.same_owes kept
  refine ⟨same, ?_⟩
  cases owed : bus.owes with
  | true =>
    rw [sound.exclusive owed, kept.exclusive (same.trans owed)]
  | false =>
    obtain rfl | rfl := interrupt
    next =>
      obtain ⟨rfl, -⟩ := Prod.mk.inj (Option.some.inj stepped)
      unfold onTxComplete
      split
      next state => rw [wireAdvance_wired state, wired, state]; rfl
      next =>
        split
        next => rfl
        next transmitting =>
          rw [owes, not_not.mp transmitting] at owed
          cases owed
    next =>
      obtain ⟨rfl, -⟩ := Prod.mk.inj (Option.some.inj stepped)
      unfold onDeadline
      split
      next state =>
        rw [owes, state] at owed
        cases owed
      next state =>
        have before : bus.wired = true := by rw [wired, state]; rfl
        rw [before]
        split
        next => exact wireFinish_wired _
        next => rfl
      next => rfl

/-- What a poll hands out says whose the engine was. -/
inductive Tells (bus after : HostBus) : Option Event → Prop where
  | quiet (owes : after.owes = bus.owes) (wired : after.wired = bus.wired) : Tells bus after none
  | status {slot id : UInt8} {inst : Protocol.Inst} {payload : Protocol.FrameBytes} (before : bus.owes = true)
    (owes : after.owes = true) (wired : after.wired = bus.wired) :
      Tells bus after (some (.status slot id inst payload))
  | done {terminal : Terminal} (before : bus.owes = true) (owes : after.owes = false)
    (wired : after.wired = bus.wired) : Tells bus after (some (.done terminal))
  | wireDone {tick : UInt32} (before : bus.wired = true) (owes : after.owes = bus.owes) (wired : after.wired = false) :
      Tells bus after (some (.wireDone tick))

theorem takeDone_wired : bus.takeDone.1.wired = bus.wired := by
  unfold takeDone
  split <;> rfl

theorem takeDone_not_wireDone (tick : UInt32) : bus.takeDone.2 ≠ some (.wireDone tick) := by
  unfold takeDone
  split <;> simp

def Hands (bus after : HostBus) (event : Option Event) : Prop :=
  (after.wired = bus.wired ∧ ∀ tick, event ≠ some (.wireDone tick)) ∨
    bus.wired = true ∧ after.wired = false ∧ ∃ tick, event = some (.wireDone tick)

theorem takeEvent_hands (idle : bus.pendingWireDone.isSome = true → bus.state = .idle) :
    Hands bus bus.takeEvent.1 bus.takeEvent.2 := by
  unfold takeEvent
  split
  next tick wire =>
    have rests := idle (by rw [wire]; rfl)
    exact .inr ⟨by simp [wired, wire], by simp [wired, rests, State.wired], tick, rfl⟩
  next => exact .inl ⟨takeDone_wired, takeDone_not_wireDone⟩

theorem Hands.of {between : HostBus} {event : Option Event} (same : between.wired = bus.wired)
    (hands : Hands between after event) : Hands bus after event := by
  unfold Hands at *
  rwa [← same]

theorem credit_wired (now : UInt32) (expected : Option UInt8) (paceAt : UInt32) (look : Look) (f : Frame)
    (state : bus.state = .awaiting) : (bus.credit now expected paceAt look f).1.wired = bus.wired := by
  unfold credit
  dsimp only
  split
  next => simp [wired, complete, strand, state, State.wired]
  next => rfl

theorem wait_wired (now : UInt32) (plan : Shape) (clock : Nat → UInt32) (here : Look) (state : bus.state = .awaiting) :
    (bus.wait now plan clock here).wired = bus.wired := by
  unfold wait
  dsimp only
  split
  next => rfl
  next =>
    split
    next => simp [wired, finish, strand, state, State.wired]
    next => rfl

theorem Listened.wired (listened : Listened bus after) : after.wired = bus.wired := by
  rw [HostBus.wired, HostBus.wired, listened.state, listened.wire]

theorem pollAwait_wired {now : UInt32} {event : Option Event} (state : bus.state = .awaiting)
    (polled : bus.pollAwait now io = some (after, event)) :
    after.wired = bus.wired ∧ ∀ tick, event ≠ some (.wireDone tick) := by
  unfold pollAwait at polled
  split at polled
  next =>
    obtain ⟨rfl, rfl⟩ := Prod.mk.inj (Option.some.inj polled)
    exact ⟨rfl, fun _ no => (by cases no)⟩
  next plan _ =>
    dsimp only at polled
    split at polled
    next => cases polled
    next walked emit ran =>
      obtain ⟨rfl, rfl⟩ := Prod.mk.inj (Option.some.inj polled)
      obtain ⟨heard, listened, ⟨-, no⟩ | ⟨look, f, -, rfl, -⟩⟩ := walk_cases ran
      next => cases no
      next =>
        have awaiting := listened.state.trans state
        exact ⟨(credit_wired _ _ _ _ _ awaiting).trans listened.wired, fun _ no => (by cases no)⟩
    next walked ran =>
      obtain ⟨heard, listened, ⟨rfl, -⟩ | ⟨look, f, -, -, no⟩⟩ := walk_cases ran
      next =>
        have awaiting := listened.state.trans state
        have taken := Option.some.inj polled
        have same : after = _ := (congrArg Prod.fst taken).symm
        have made : event = _ := (congrArg Prod.snd taken).symm
        rw [same, takeDone_wired, wait_wired _ _ _ _ awaiting, listened.wired, made]
        exact ⟨rfl, takeDone_not_wireDone⟩
      next => cases no

theorem poll_hands {event : Option Event} (sound : bus.Sound commands) (polled : bus.poll io = some (after, event)) :
    Hands bus after event := by
  unfold poll at polled
  split at polled
  next =>
    obtain ⟨rfl, rfl⟩ := Prod.mk.inj (Option.some.inj polled)
    exact .inl ⟨rfl, fun _ no => (by cases no)⟩
  next tick done wire =>
    obtain ⟨rfl, rfl⟩ := Prod.mk.inj (Option.some.inj polled)
    have idle := sound.wire (by rw [wire]; rfl)
    exact .inr ⟨by simp [wired, wire], by simp [wired, idle, State.wired], tick, rfl⟩
  next done wire =>
    have taken {between : HostBus} (same : between.wired = bus.wired)
        (idle : between.pendingWireDone.isSome = true → between.state = .idle)
        (ran : some between.takeEvent = some (after, event)) : Hands bus after event := by
      have hands := takeEvent_hands idle
      rw [Option.some.inj ran] at hands
      exact hands.of same
    have still : bus.pendingWireDone.isSome = true → bus.state = .idle := of_none wire
    dsimp only at polled
    split at polled
    next state => exact .inl (pollAwait_wired state polled)
    next state =>
      refine taken ?_ ?_ polled
      next => split <;> simp [wired, startTx, drive, state, State.wired]
      next =>
        split
        next => exact of_none wire
        next => exact still
    next state =>
      refine taken ?_ ?_ polled
      next =>
        split
        next => simp [wired, finish, pace, drive, state, State.wired]
        next => rfl
      next =>
        split
        next => exact of_none wire
        next => exact still
    next state =>
      refine taken ?_ ?_ polled
      next =>
        split
        next => rw [wireFinish_wired, wired, state]; rfl
        next => rfl
      next =>
        split
        next => exact fun _ => rfl
        next => exact still
    all_goals exact taken rfl still polled

theorem poll_tells {event : Option Event} (sound : bus.Sound commands) (polled : bus.poll io = some (after, event)) :
    Tells bus after event := by
  have kept := poll_sound sound polled
  have hands := poll_hands sound polled
  cases event with
  | none =>
    rw [show commandMark (.poll, .ofEvent none) = none from rfl, Option.toList_none, List.append_nil] at kept
    obtain ⟨wired, -⟩ | ⟨-, -, tick, no⟩ := hands
    next => exact .quiet (sound.same_owes kept) wired
    next => cases no
  | some event =>
    cases event with
    | status slot id inst payload =>
      rw [show commandMark (.poll, .ofEvent (some (.status slot id inst payload))) = none from rfl,
        Option.toList_none, List.append_nil] at kept
      obtain ⟨-, state⟩ | ⟨-, silent⟩ := poll_cases polled
      next =>
        have owes : bus.owes = true := by rw [HostBus.owes, state]; rfl
        obtain ⟨wired, -⟩ | ⟨-, -, tick, no⟩ := hands
        next => exact .status owes ((sound.same_owes kept).trans owes) wired
        next => cases no
      next => cases silent _ rfl
    | done terminal =>
      rw [show commandMark (.poll, .ofEvent (some (.done terminal))) = some false from rfl, Option.toList_some] at kept
      have owes : after.owes = false := by
        have last := kept.commands.isChain_last.2
        rw [← List.cons_append, List.getLast?_concat] at last
        exact (Option.some.inj last).symm
      obtain ⟨wired, -⟩ | ⟨-, -, tick, no⟩ := hands
      next => exact .done (sound.gave kept.commands) owes wired
      next => cases no
    | wireDone tick =>
      rw [show commandMark (.poll, .ofEvent (some (.wireDone tick))) = none from rfl, Option.toList_none,
        List.append_nil] at kept
      obtain ⟨-, other⟩ | ⟨before, wired, -⟩ := hands
      next => exact absurd rfl (other tick)
      next => exact .wireDone before (sound.same_owes kept) wired

end HostBus

end OpenServo.Host
