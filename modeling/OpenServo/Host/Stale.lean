import OpenServo.Host.Stream

set_option autoImplicit false

namespace OpenServo.Host

open OpenServo.Protocol OpenServo.Shared

variable {stream : Nat → UInt8} {len : Nat}

def HostBus.Emit.Carried (emit : HostBus.Emit) (stream : Nat → UInt8) (len first last : Nat) : Prop :=
  ∃ start size, first ≤ start ∧ start + footprint size ≤ last ∧ footprint size ≤ len ∧
    FrameAt stream start emit.id size emit.inst ∧ emit.pos = (start + 4) % len ∧ emit.len = size.toNat - 3

/-- What an event reports came in from `first` on, byte for byte: a header in one piece, and no byte of the payload
older than its place behind it. -/
def Fresh (stream : Nat → UInt8) (first last : Nat) (id : UInt8) (inst : Inst) (payload : FrameBytes) : Prop :=
  ∃ start size, first ≤ start ∧ start + footprint size ≤ last ∧ FrameAt stream start id size inst ∧
    payload.len = size.toNat - 3 ∧
    ∀ i, i < payload.len → ∃ q, start + 4 + i ≤ q ∧ q < last ∧ payload.bytes[i]? = some (stream q)

def Event.isStatus : Event → Bool
  | .status .. => true
  | .done _ | .wireDone _ => false

namespace HostBus

theorem credit_framer (bus : HostBus) (now : UInt32) (expected : Option UInt8) (paceAt : UInt32) (look : Look)
    (f : Frame) : (bus.credit now expected paceAt look f).1.framer = bus.framer := by
  unfold credit
  dsimp only
  split <;> rfl

theorem walk_within {bus after : HostBus} {now paceAt : UInt32} {expected : Option UInt8} {looks : List Look}
    {emit : Option Emit} {first count last : Nat} (looked : Looked stream len count looks last)
    (within : bus.framer.Within len first count)
    (walked : bus.walk now expected paceAt looks = some (after, emit)) :
    after.framer.Within len first last ∧ ∀ e, emit = some e → e.Carried stream len first last := by
  induction looked generalizing bus with
  | done count => cases walked
  | @look count next last look looks later receives rest ih =>
    obtain ⟨start, low, high, lands⟩ := (within.mono later).lands receives
    have ordered := rest.ordered
    unfold walk at walked
    generalize bus.framer.step look = result at lands walked
    cases lands with
    | idle =>
      obtain ⟨rfl, rfl⟩ := Prod.mk.inj (Option.some.inj walked)
      exact ⟨⟨start, low, by omega, rfl⟩, fun e no => (by cases no)⟩
    | parked =>
      obtain ⟨rfl, rfl⟩ := Prod.mk.inj (Option.some.inj walked)
      exact ⟨⟨start, low, by omega, rfl⟩, fun e no => (by cases no)⟩
    | garble n some inside => exact ih ⟨start + n, by omega, inside, rfl⟩ walked
    | frame id size inst payload here body inside fits =>
      dsimp only at walked
      split at walked
      next =>
        obtain ⟨rfl, rfl⟩ := Prod.mk.inj (Option.some.inj walked)
        refine ⟨⟨start + footprint size, by omega, by omega, by rw [credit_framer]⟩, ?_⟩
        rintro e ⟨⟩
        refine ⟨start, size, low, by omega, fits, here, rfl, ?_⟩
        show payload.len = _
        rw [← payload.length_bytes, body, length_streamBytes]
      next => exact ih ⟨start + footprint size, by omega, inside, rfl⟩ walked

section Framer

variable (bus : HostBus) (clock : Nat → UInt32)

@[simp] theorem finish_framer (outcome : Outcome) : (bus.finish clock outcome).framer = bus.framer := rfl

@[simp] theorem wireFinish_framer : (bus.wireFinish clock).framer = bus.framer := rfl

@[simp] theorem startTx_framer : bus.startTx.framer = bus.framer := rfl

@[simp] theorem wait_framer (now : UInt32) (plan : Shape) (here : Look) :
    (bus.wait now plan clock here).framer = bus.framer := by
  unfold wait
  dsimp only
  split
  next => rfl
  next => split <;> rfl

theorem wireAdvance_framer : (bus.wireAdvance clock).framer = bus.framer := by
  unfold wireAdvance
  split
  next => rfl
  next => split <;> rfl

theorem onTxComplete_framer (io : Io) : (bus.onTxComplete io).framer = bus.framer := by
  unfold onTxComplete
  split
  next => exact bus.wireAdvance_framer io.clock
  next =>
    split
    next => rfl
    next =>
      split
      next => rfl
      next =>
        split
        next => rfl
        next => dsimp only; split <;> rfl

theorem onDeadline_framer (io : Io) : (bus.onDeadline io).framer = bus.framer := by
  unfold onDeadline
  split
  next => split <;> rfl
  next => split <;> rfl
  next => rfl

theorem wireSend_framer (bytes : List UInt8) : (bus.wireSend bytes).1.framer = bus.framer := by
  unfold wireSend
  split
  next => rfl
  next =>
    split
    next => rfl
    next => split <;> rfl

theorem wireTrain_framer (announce : List UInt8) (gapUs : UInt16) (breaks : UInt8) :
    (bus.wireTrain announce gapUs breaks).1.framer = bus.framer := by
  unfold wireTrain
  split
  next => rfl
  next =>
    split
    next => rfl
    next => split <;> rfl

theorem wireBaud_framer (bps : UInt32) : (bus.wireBaud bps clock).1.framer = bus.framer := by
  unfold wireBaud
  split
  next => rfl
  next => split <;> rfl

theorem wireBurst_framer (bytes : List UInt8) : (bus.wireBurst bytes).1.framer = bus.framer := by
  unfold wireBurst
  split
  next => rfl
  next =>
    split
    next => rfl
    next => split <;> rfl

theorem wirePulseLow_framer (us : UInt16) : (bus.wirePulseLow us clock).1.framer = bus.framer := by
  unfold wirePulseLow
  split
  next => rfl
  next => split <;> rfl

end Framer

/-- What the walk pointed at is read again at the end of the call; younger bytes may have come over it. -/
theorem Emit.Carried.fresh {emit : Emit} {first last here : Nat} {look : Look}
    (carried : emit.Carried stream len first last) (before : last ≤ here)
    (receives : Receives stream len here look) :
    Fresh stream first here emit.id emit.inst (payloadView look.ring emit.pos emit.len) := by
  obtain ⟨start, size, low, inside, fits, frame, pos, count⟩ := carried
  have total : footprint size = 3 + size.toNat := rfl
  have atLeast := frame.atLeast
  have bytes : (payloadView look.ring emit.pos emit.len).bytes = around look.ring 0 ((start + 4) % len) emit.len := by
    rw [pos]
    exact payloadView_bytes _ _ _ (by rw [receives.size]; exact Nat.mod_lt _ receives.room)
      (by rw [receives.size]; omega)
  have long : (payloadView look.ring emit.pos emit.len).len = emit.len := by
    rw [← FrameBytes.length_bytes, bytes, around_length]
  refine ⟨start, size, low, by omega, frame, long.trans count, ?_⟩
  intro i within
  rw [long] at within
  obtain ⟨q, younger, come, shown⟩ := receives.latest (show start + 4 + i < here by omega)
  refine ⟨q, younger, come, ?_⟩
  rw [bytes, around, List.getElem?_map, List.getElem?_range within, Option.map_some, receives.size,
    Nat.mod_add_mod, shown]

end HostBus

def resyncs : Op → Answer → Bool
  | .submit (.exchange ..), .accepted => true
  | _, _ => false

def starts (bus after : HostBus) : Bool :=
  bus.state ≠ .transmitting && after.state = .transmitting

namespace HostBus

theorem submit_framer {bus after : HostBus} {cmd : Command} {io : Io} {result : Except SubmitError Unit}
    (submitted : bus.submit cmd io = (after, result)) :
    after.framer = if resyncs (.submit cmd) (.ofResult result) then ⟨io.here.cursor⟩ else bus.framer := by
  unfold submit at submitted
  split at submitted
  next =>
    obtain ⟨rfl, rfl⟩ := Prod.mk.inj submitted
    cases cmd <;> rfl
  next =>
    cases cmd with
    | rescue | hostBaud rate | setResponseDeadline us =>
      obtain ⟨rfl, rfl⟩ := Prod.mk.inj submitted
      rfl
    | exchange id inst payload =>
      dsimp only at submitted
      split at submitted
      next =>
        obtain ⟨rfl, rfl⟩ := Prod.mk.inj submitted
        rfl
      next =>
        split at submitted
        next =>
          split at submitted
          all_goals
            obtain ⟨rfl, rfl⟩ := Prod.mk.inj submitted
            rfl
        next =>
          obtain ⟨rfl, rfl⟩ := Prod.mk.inj submitted
          rfl

theorem takeDone_spec {bus after : HostBus} {event : Option Event} (taken : bus.takeDone = (after, event)) :
    after.framer = bus.framer ∧ ∀ e, event = some e → e.isStatus = false := by
  unfold takeDone at taken
  split at taken
  next =>
    obtain ⟨rfl, rfl⟩ := Prod.mk.inj taken
    exact ⟨rfl, fun e made => (by cases made; rfl)⟩
  next =>
    obtain ⟨rfl, rfl⟩ := Prod.mk.inj taken
    exact ⟨rfl, fun e no => (by cases no)⟩

theorem takeEvent_spec {bus after : HostBus} {event : Option Event} (taken : bus.takeEvent = (after, event)) :
    after.framer = bus.framer ∧ ∀ e, event = some e → e.isStatus = false := by
  unfold takeEvent at taken
  split at taken
  next =>
    obtain ⟨rfl, rfl⟩ := Prod.mk.inj taken
    exact ⟨rfl, fun e made => (by cases made; rfl)⟩
  next => exact takeDone_spec taken

theorem poll_cases {bus after : HostBus} {io : Io} {event : Option Event}
    (polled : bus.poll io = some (after, event)) :
    bus.pollAwait (io.clock 0) io = some (after, event) ∧ bus.state = .awaiting ∨
      after.framer = bus.framer ∧ ∀ e, event = some e → e.isStatus = false := by
  unfold poll at polled
  split at polled
  next =>
    obtain ⟨rfl, rfl⟩ := Prod.mk.inj (Option.some.inj polled)
    exact .inr ⟨rfl, fun e made => (by cases made; rfl)⟩
  next =>
    obtain ⟨rfl, rfl⟩ := Prod.mk.inj (Option.some.inj polled)
    exact .inr ⟨rfl, fun e made => (by cases made; rfl)⟩
  next =>
    dsimp only at polled
    split at polled
    next state => exact .inl ⟨polled, state⟩
    all_goals
      obtain ⟨same, silent⟩ := takeEvent_spec (Option.some.inj polled)
      refine .inr ⟨same.trans ?_, silent⟩
      first | rfl | (split <;> rfl)

theorem pollAwait_within {bus after : HostBus} {now : UInt32} {io : Io} {event : Option Event}
    {first count here : Nat} (within : bus.framer.Within len first count)
    (observes : Observes stream len count io here) (polled : bus.pollAwait now io = some (after, event)) :
    after.framer.Within len first here ∧
      ∀ slot id inst payload, event = some (.status slot id inst payload) →
        Fresh stream first here id inst payload := by
  obtain ⟨⟨last, looked, before⟩, receives⟩ := observes
  have ordered := looked.ordered
  unfold pollAwait at polled
  split at polled
  next =>
    obtain ⟨rfl, rfl⟩ := Prod.mk.inj (Option.some.inj polled)
    exact ⟨within.mono (by omega), fun _ _ _ _ no => (by cases no)⟩
  next plan _ =>
    dsimp only at polled
    split at polled
    next => cases polled
    next walked emit ran =>
      obtain ⟨rfl, rfl⟩ := Prod.mk.inj (Option.some.inj polled)
      obtain ⟨moved, carried⟩ := walk_within looked within ran
      refine ⟨moved.mono before, ?_⟩
      rintro slot id inst payload ⟨⟩
      exact (carried emit rfl).fresh before receives
    next walked ran =>
      obtain ⟨moved, -⟩ := walk_within looked within ran
      obtain ⟨same, silent⟩ := takeDone_spec (Option.some.inj polled)
      refine ⟨?_, fun slot id inst payload made => ?_⟩
      next =>
        rw [same, wait_framer]
        exact moved.mono before
      next => cases silent _ made

theorem step_within {bus after : HostBus} {op : Op} {io : Io} {answer : Answer} {first count here : Nat}
    (within : bus.framer.Within len first count) (observes : Observes stream len count io here)
    (stepped : bus.step io op = some (after, answer)) :
    after.framer.Within len (if resyncs op answer then here else first) here := by
  obtain ⟨⟨last, looked, before⟩, now⟩ := observes
  have ordered := looked.ordered
  have unmoved (same : after.framer = bus.framer) (others : resyncs op answer = false) :
      after.framer.Within len (if resyncs op answer then here else first) here := by
    rw [others, same]
    exact within.mono (by omega)
  -- Only an exchange that is accepted resyncs, and only a poll walks.
  cases op with
  | submit cmd =>
    obtain ⟨⟨taken, result⟩, submitted⟩ : ∃ outcome, bus.submit cmd io = outcome := ⟨_, rfl⟩
    simp only [step, submitted] at stepped
    obtain ⟨rfl, rfl⟩ := Prod.mk.inj (Option.some.inj stepped)
    show taken.framer.Within _ _ _
    rw [submit_framer submitted]
    split
    next => exact ⟨here, Nat.le_refl _, Nat.le_refl _, now.cursor⟩
    next => exact within.mono (by omega)
  | poll =>
    obtain ⟨⟨polled, event⟩, ran, made⟩ := Option.map_eq_some_iff.mp stepped
    obtain ⟨rfl, rfl⟩ := Prod.mk.inj made
    obtain ⟨awaited, -⟩ | ⟨same, -⟩ := poll_cases ran
    next => exact (pollAwait_within within ⟨⟨last, looked, before⟩, now⟩ awaited).1
    next => exact unmoved same rfl
  | onTxComplete =>
    obtain ⟨rfl, rfl⟩ := Prod.mk.inj (Option.some.inj stepped)
    exact unmoved (bus.onTxComplete_framer io) rfl
  | onDeadline =>
    obtain ⟨rfl, rfl⟩ := Prod.mk.inj (Option.some.inj stepped)
    exact unmoved (bus.onDeadline_framer io) rfl
  | wireSend bytes =>
    obtain ⟨rfl, rfl⟩ := Prod.mk.inj (Option.some.inj stepped)
    exact unmoved (bus.wireSend_framer bytes) rfl
  | wireTrain announce gapUs breaks =>
    obtain ⟨rfl, rfl⟩ := Prod.mk.inj (Option.some.inj stepped)
    exact unmoved (bus.wireTrain_framer announce gapUs breaks) rfl
  | wireBaud bps =>
    obtain ⟨rfl, rfl⟩ := Prod.mk.inj (Option.some.inj stepped)
    exact unmoved (bus.wireBaud_framer io.clock bps) rfl
  | wireBurst bytes =>
    obtain ⟨rfl, rfl⟩ := Prod.mk.inj (Option.some.inj stepped)
    exact unmoved (bus.wireBurst_framer bytes) rfl
  | wirePulseLow us =>
    obtain ⟨rfl, rfl⟩ := Prod.mk.inj (Option.some.inj stepped)
    exact unmoved (bus.wirePulseLow_framer io.clock us) rfl

end HostBus

/-- The states a run of the engine can be in while the ring receives the stream: how much of it has come by now, had
come when a command last dropped what there was, and had come when a transmission last started. -/
inductive Heard (stream : Nat → UInt8) (len : Nat) : HostBus → Nat → Nat → Nat → Prop where
  | new (ticksPerUs : UInt32) (rate : BaudRate) : Heard stream len (HostBus.new ticksPerUs rate) 0 0 0
  | step {bus after : HostBus} {count dropped started here next : Nat} {op : Op} {io : Io} {answer : Answer}
    (before : Heard stream len bus count dropped started) (observes : Observes stream len count io here)
    (later : here ≤ next) (stepped : bus.step io op = some (after, answer)) :
      Heard stream len after next (if resyncs op answer then here else dropped)
        (if starts bus after then next else started)

theorem Heard.within {bus : HostBus} {count dropped started : Nat}
    (heard : Heard stream len bus count dropped started) : bus.framer.Within len dropped count := by
  induction heard with
  | new ticksPerUs rate => exact ⟨0, Nat.le_refl _, Nat.le_refl _, (Nat.zero_mod _).symm⟩
  | step before observes later stepped ih => exact (HostBus.step_within ih observes stepped).mono later

/-- In every run, a status of a command whose transmission started with nothing received since the command was taken
comes in, byte for byte, from the start of that transmission on. -/
theorem status_fresh {bus after : HostBus} {count dropped started here : Nat} {io : Io} {slot id : UInt8} {inst : Inst}
    {payload : FrameBytes} (heard : Heard stream len bus count dropped started) (quiet : started = dropped)
    (observes : Observes stream len count io here)
    (polled : bus.step io .poll = some (after, .event (.status slot id inst payload))) :
    Fresh stream started here id inst payload := by
  obtain ⟨⟨taken, event⟩, ran, made⟩ := Option.map_eq_some_iff.mp polled
  obtain ⟨rfl, shown⟩ := Prod.mk.inj made
  obtain rfl : event = some (.status slot id inst payload) := by
    cases event with
    | none => cases shown
    | some e => exact congrArg Option.some (Answer.event.inj shown)
  obtain ⟨awaited, -⟩ | ⟨-, silent⟩ := HostBus.poll_cases ran
  next =>
    rw [quiet]
    exact (HostBus.pollAwait_within heard.within observes awaited).2 slot id inst payload rfl
  next => cases silent _ rfl

def echoes : List UInt8 := [0, 5, 3, 0x80, 17, 81, 0, 5, 3, 0x80, 17, 81]

def held (taken : Nat) : HostBus :=
  let paused := ((HostBus.new 48 .b1000000).submit (.hostBaud .b1000000) (glance echoes 0 0)).1.takeDone.1
  (paused.submit (.exchange 5 0x10 []) (glance echoes 10 taken)).1

def pinged (taken sent : Nat) : HostBus :=
  (held taken).startTx.onTxComplete (glance echoes 40100 sent)

theorem held_heard (taken : Nat) (all : taken ≤ 12) :
    Heard (fun p => echoes.getD p 0) 1024 (held taken) taken taken 0 := by
  have fresh := @Heard.new (fun p => echoes.getD p 0) 1024 48 .b1000000
  have changed := @Heard.step _ _ _ _ _ _ _ _ 0 (.submit (.hostBaud .b1000000)) _ _ fresh
    (glance_observes 0 (Nat.le_refl 0) (Nat.zero_le _) (by decide)) (Nat.le_refl 0) rfl
  have done := @Heard.step _ _ _ _ _ _ _ _ 0 .poll _ _ changed
    (glance_observes 0 (Nat.le_refl 0) (Nat.zero_le _) (by decide)) (Nat.le_refl 0) rfl
  exact @Heard.step _ _ _ _ _ _ _ _ taken (.submit (.exchange 5 0x10 [])) _ _ done
    (glance_observes 10 (Nat.zero_le taken) all (by decide)) (Nat.le_refl taken) rfl

theorem pinged_heard {taken sent : Nat} (ordered : taken ≤ sent) (all : sent ≤ 12) :
    Heard (fun p => echoes.getD p 0) 1024 (pinged taken sent) sent taken sent := by
  have pause : (held taken).deadlineAt = 30720 := rfl
  have elapsed : tickReached 40000 30720 = true := by decide
  have opened : (held taken).step (glance echoes 40000 sent) .poll = some ((held taken).startTx, .quiet) := by
    show (some (if tickReached 40000 (held taken).deadlineAt then (held taken).startTx
      else held taken).takeEvent).map _ = _
    rw [pause, elapsed]
    rfl
  have drained : (held taken).startTx.step (glance echoes 40100 sent) .onTxComplete =
      some (pinged taken sent, .quiet) := rfl
  have started :=
    (held_heard taken (by omega)).step (glance_observes 40000 ordered all (by decide)) (Nat.le_refl sent) opened
  exact started.step (glance_observes 40100 (Nat.le_refl sent) all (by decide)) (Nat.le_refl sent) drained

/-- What comes in during the pause is credited to the ping. -/
theorem straggler_credited :
    ¬ ∀ (stream : Nat → UInt8) (len : Nat) (bus after : HostBus) (count dropped started here : Nat) (io : Io)
      (slot id : UInt8) (inst : Inst) (payload : FrameBytes), Heard stream len bus count dropped started →
        Observes stream len count io here → bus.step io .poll = some (after, .event (.status slot id inst payload)) →
          Fresh stream started here id inst payload := by
  intro claim
  have polled : ((pinged 0 6).poll (glance echoes 40200 6)).map Prod.snd = some (some (.status 0 5 0x80 ⟨[], []⟩)) := by
    decide +kernel
  obtain ⟨⟨after, event⟩, ran, rfl⟩ := Option.map_eq_some_iff.mp polled
  obtain ⟨start, size, low, inside, frame, -⟩ := claim _ _ _ _ _ _ _ _ _ _ _ _ _
    (pinged_heard (by decide : 0 ≤ 6) (by decide)) (glance_observes 40200 (Nat.le_refl 6) (by decide) (by decide))
    (step_poll ran)
  have total : footprint size = 3 + size.toNat := rfl
  have atLeast := frame.atLeast
  omega

theorem status_fresh_ping : ∃ after, (pinged 6 6).step (glance echoes 40200 12) .poll =
      some (after, .event (.status 0 5 0x80 ⟨[], []⟩)) ∧ Fresh (fun p => echoes.getD p 0) 6 12 5 0x80 ⟨[], []⟩ := by
  have polled : ((pinged 6 6).poll (glance echoes 40200 12)).map Prod.snd =
      some (some (.status 0 5 0x80 ⟨[], []⟩)) := by
    decide +kernel
  obtain ⟨⟨after, event⟩, ran, rfl⟩ := Option.map_eq_some_iff.mp polled
  exact ⟨after, step_poll ran, status_fresh (pinged_heard (Nat.le_refl 6) (by decide)) rfl
    (glance_observes 40200 (by decide : 6 ≤ 12) (by decide) (by decide)) (step_poll ran)⟩

end OpenServo.Host
