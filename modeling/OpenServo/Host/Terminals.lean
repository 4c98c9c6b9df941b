import OpenServo.Host.Engine
import OpenServo.Shared.Toggle

set_option autoImplicit false

namespace OpenServo.Host

open OpenServo.Protocol OpenServo.Shared

def State.claimed : State → Bool
  | .transmitting | .training _ _ | .rescueHold | .wireTx | .wirePulse | .wireTrain _ _ => true
  | .idle | .pacing | .awaiting => false

def State.commanded : State → Bool
  | .pacing | .transmitting | .training _ _ | .rescueHold | .awaiting => true
  | .idle | .wireTx | .wirePulse | .wireTrain _ _ => false

def State.planned : State → Bool
  | .pacing | .transmitting | .training _ _ | .awaiting => true
  | .idle | .rescueHold | .wireTx | .wirePulse | .wireTrain _ _ => false

def Drive.mark : Drive → Option Bool
  | .claim => some true
  | .release => some false
  | .sendBreak | .send _ | .holdLow => none

def driveMarks (tx : List Drive) : List Bool :=
  tx.filterMap Drive.mark

def commandMark : Op × Answer → Option Bool
  | (.submit _, .accepted) => some true
  | (_, .event (.done _)) => some false
  | _ => none

@[simp] theorem driveMarks_append (first second : List Drive) :
    driveMarks (first ++ second) = driveMarks first ++ driveMarks second :=
  List.filterMap_append

theorem of_none {A : Type} {x : Option A} {P : Prop} (empty : x = none) (here : x.isSome = true) : P := by
  rw [empty] at here
  cases here

namespace HostBus

def owes (bus : HostBus) : Bool :=
  bus.state.commanded || bus.pendingDone.isSome

structure Sound (bus : HostBus) (commands : List Bool) : Prop where
  drives : Toggles (driveMarks bus.tx) bus.state.claimed
  commands : Toggles commands bus.owes
  plan : bus.state.planned = true → bus.plan.isSome = true
  done : bus.pendingDone.isSome = true → bus.state = .idle ∧ bus.pendingWireDone = none
  wire : bus.pendingWireDone.isSome = true → bus.state = .idle
  clean : bus.state ≠ .awaiting → bus.evidence = {}

variable {bus : HostBus} {commands : List Bool}

theorem ready_iff : bus.ready = true ↔ bus.state = .idle ∧ bus.pendingDone = none ∧ bus.pendingWireDone = none := by
  simp [ready, and_assoc]

theorem Sound.at_rest (sound : bus.Sound commands) (ready : bus.ready = true) :
    Toggles (driveMarks bus.tx) false ∧ Toggles commands false ∧ bus.evidence = {} := by
  obtain ⟨state, done, -⟩ := ready_iff.mp ready
  have drives := sound.drives
  have owed := sound.commands
  rw [state] at drives
  rw [owes, state, done] at owed
  exact ⟨drives, owed, sound.clean (by rw [state]; simp)⟩

theorem finish_sound (clock : Nat → UInt32) (outcome : Outcome) (drives : Toggles (driveMarks bus.tx) false)
    (owed : Toggles commands true) (wire : bus.pendingWireDone = none) :
    (bus.finish clock outcome).Sound commands := by
  exact ⟨drives, owed, fun planned => (by cases planned), fun _ => ⟨rfl, wire⟩, fun _ => rfl, fun _ => rfl⟩

theorem wireFinish_sound (clock : Nat → UInt32) (drives : Toggles (driveMarks bus.tx) true)
    (owed : Toggles commands false) (done : bus.pendingDone = none) (clean : bus.evidence = {}) :
    (bus.wireFinish clock).Sound commands := by
  refine ⟨?_, ?_, fun planned => (by cases planned), of_none done, fun _ => rfl, fun _ => clean⟩
  next =>
    show Toggles (driveMarks (bus.tx ++ [.release])) false
    rw [driveMarks_append]
    exact drives.give
  next =>
    show Toggles commands (false || bus.pendingDone.isSome)
    rw [done]
    exact owed

theorem startTx_sound (drives : Toggles (driveMarks bus.tx) false) (owed : Toggles commands true)
    (done : bus.pendingDone = none) (wire : bus.pendingWireDone = none) (plan : bus.plan.isSome = true)
    (clean : bus.evidence = {}) : bus.startTx.Sound commands := by
  refine ⟨?_, owed, fun _ => plan, of_none done, of_none wire, fun _ => clean⟩
  show Toggles (driveMarks (bus.tx ++ [.claim, .sendBreak, .send (bus.buf.frame.drop 1)])) true
  rw [driveMarks_append]
  exact drives.take

theorem claim_sound {after : HostBus} {calls : List Drive} (sound : bus.Sound commands) (ready : bus.ready = true)
    (tx : after.tx = bus.tx ++ calls) (claims : driveMarks calls = [true]) (state : after.state.claimed = true)
    (outside : after.state.commanded = false) (done : after.pendingDone = bus.pendingDone)
    (wire : after.pendingWireDone = bus.pendingWireDone) (evidence : after.evidence = bus.evidence) :
    after.Sound commands := by
  obtain ⟨drives, owed, clean⟩ := sound.at_rest ready
  obtain ⟨-, nothing, nowire⟩ := ready_iff.mp ready
  refine ⟨?_, ?_, ?_, of_none (done.trans nothing), of_none (wire.trans nowire), fun _ => evidence.trans clean⟩
  next =>
    rw [tx, driveMarks_append, claims, state]
    exact drives.take
  next =>
    rw [owes, outside, done, nothing]
    exact owed
  next =>
    intro planned
    cases kind : after.state <;> simp [kind, State.planned, State.commanded] at planned outside

theorem submit_spec (sound : bus.Sound commands) (cmd : Command) (io : Io) :
    (bus.submit cmd io).1.Sound (commands ++ (commandMark (.submit cmd, .ofResult (bus.submit cmd io).2)).toList) ∧
      ∀ error, (bus.submit cmd io).2 = .error error → (bus.submit cmd io).1 = bus := by
  have refused (error : SubmitError) :
      commands ++ (commandMark (Op.submit cmd, Answer.ofResult (.error error))).toList = commands :=
    List.append_nil commands
  have accepted : commands ++ (commandMark (Op.submit cmd, Answer.ofResult (.ok ()))).toList = commands ++ [true] := rfl
  unfold submit
  split
  next =>
    rw [refused]
    exact ⟨sound, fun _ _ => rfl⟩
  next free =>
    have ready : bus.ready = true := by simpa using free
    obtain ⟨drives, owed, clean⟩ := sound.at_rest ready
    obtain ⟨state, done, wire⟩ := ready_iff.mp ready
    cases cmd with
    | setResponseDeadline us =>
      dsimp only
      rw [accepted]
      exact ⟨finish_sound _ _ drives owed.take wire, fun error no => (by cases no)⟩
    | hostBaud rate =>
      dsimp only
      rw [accepted]
      exact ⟨finish_sound _ _ drives owed.take wire, fun error no => (by cases no)⟩
    | rescue =>
      dsimp only
      rw [accepted]
      refine ⟨⟨?_, owed.take, fun planned => (by cases planned), of_none done, of_none wire, fun _ => rfl⟩,
        fun error no => (by cases no)⟩
      show Toggles (driveMarks (bus.tx ++ [.claim, .holdLow])) true
      rw [driveMarks_append]
      exact drives.take
    | exchange id inst payload =>
      dsimp only
      cases Shape.derive id inst payload with
      | error reason =>
        dsimp only
        rw [refused]
        -- The evidence of the last command has gone with its terminal.
        have same : ({ bus with evidence := {} } : HostBus) = bus := by rw [← clean]
        rw [same]
        exact ⟨sound, fun _ _ => rfl⟩
      | ok plan =>
        dsimp only
        split
        next tick held =>
          split
          next early =>
            rw [accepted]
            refine ⟨⟨?_, owed.take, fun _ => rfl, of_none done, of_none wire, fun _ => rfl⟩,
              fun error no => (by cases no)⟩
            exact drives
          next =>
            rw [accepted]
            exact ⟨startTx_sound drives owed.take done wire rfl rfl, fun error no => (by cases no)⟩
        next =>
          rw [accepted]
          exact ⟨startTx_sound drives owed.take done wire rfl rfl, fun error no => (by cases no)⟩

structure WireOp (bus : HostBus) (commands : List Bool) (result : HostBus × Except SubmitError Unit) : Prop where
  sound : result.1.Sound commands
  unchanged : ∀ error, result.2 = .error error → result.1 = bus
  free : result.2 = .ok () → bus.ready = true

theorem refused_wireOp (sound : bus.Sound commands) (error : SubmitError) :
    WireOp bus commands (bus, .error error) :=
  ⟨sound, fun _ _ => rfl, fun no => (by cases no)⟩

theorem wireSend_spec (sound : bus.Sound commands) (bytes : List UInt8) :
    WireOp bus commands (bus.wireSend bytes) := by
  unfold wireSend
  split
  next => exact refused_wireOp sound _
  next free =>
    have ready : bus.ready = true := by simpa using free
    split
    next => exact refused_wireOp sound _
    next =>
      split
      next => exact refused_wireOp sound _
      next => exact ⟨claim_sound sound ready rfl rfl rfl rfl rfl rfl rfl, fun _ no => (by cases no), fun _ => ready⟩

theorem wireTrain_spec (sound : bus.Sound commands) (announce : List UInt8) (gapUs : UInt16) (breaks : UInt8) :
    WireOp bus commands (bus.wireTrain announce gapUs breaks) := by
  unfold wireTrain
  split
  next => exact refused_wireOp sound _
  next free =>
    have ready : bus.ready = true := by simpa using free
    split
    next => exact refused_wireOp sound _
    next =>
      split
      next => exact refused_wireOp sound _
      next => exact ⟨claim_sound sound ready rfl rfl rfl rfl rfl rfl rfl, fun _ no => (by cases no), fun _ => ready⟩

theorem wireBaud_spec (sound : bus.Sound commands) (bps : UInt32) (clock : Nat → UInt32) :
    WireOp bus commands (bus.wireBaud bps clock) := by
  unfold wireBaud
  split
  next => exact refused_wireOp sound _
  next free =>
    have ready : bus.ready = true := by simpa using free
    split
    next => exact refused_wireOp sound _
    next =>
      obtain ⟨state, done, -⟩ := ready_iff.mp ready
      refine ⟨⟨sound.drives, sound.commands, sound.plan, of_none done, fun _ => state, sound.clean⟩,
        fun _ no => (by cases no), fun _ => ready⟩

theorem wireBurst_spec (sound : bus.Sound commands) (stream : List UInt8) :
    WireOp bus commands (bus.wireBurst stream) := by
  unfold wireBurst
  split
  next => exact refused_wireOp sound _
  next free =>
    have ready : bus.ready = true := by simpa using free
    split
    next => exact refused_wireOp sound _
    next =>
      split
      next => exact refused_wireOp sound _
      next =>
        refine ⟨claim_sound sound ready (List.append_assoc _ _ _) rfl rfl rfl rfl rfl rfl, fun _ no => (by cases no),
          fun _ => ready⟩

theorem wirePulseLow_spec (sound : bus.Sound commands) (us : UInt16) (clock : Nat → UInt32) :
    WireOp bus commands (bus.wirePulseLow us clock) := by
  unfold wirePulseLow
  split
  next => exact refused_wireOp sound _
  next free =>
    have ready : bus.ready = true := by simpa using free
    split
    next => exact refused_wireOp sound _
    next => exact ⟨claim_sound sound ready rfl rfl rfl rfl rfl rfl rfl, fun _ no => (by cases no), fun _ => ready⟩

theorem Sound.nothing_waits (sound : bus.Sound commands) (out : bus.state ≠ .idle) :
    bus.pendingDone = none ∧ bus.pendingWireDone = none := by
  constructor
  next =>
    by_contra some
    exact out (sound.done (Option.isSome_iff_ne_none.mpr some)).1
  next =>
    by_contra some
    exact out (sound.wire (Option.isSome_iff_ne_none.mpr some))

theorem Sound.owes_commanded (sound : bus.Sound commands) (out : bus.state ≠ .idle) :
    Toggles commands bus.state.commanded := by
  have owed := sound.commands
  rw [owes, (sound.nothing_waits out).1] at owed
  simpa using owed

theorem goes_on {after : HostBus} (sound : bus.Sound commands) (out : bus.state ≠ .idle)
    (drives : Toggles (driveMarks after.tx) after.state.claimed) (kind : after.state.commanded = bus.state.commanded)
    (plan : after.state.planned = true → after.plan.isSome = true) (done : after.pendingDone = bus.pendingDone)
    (wire : after.pendingWireDone = bus.pendingWireDone) (clean : after.state ≠ .awaiting → after.evidence = {}) :
    after.Sound commands := by
  obtain ⟨nothing, nowire⟩ := sound.nothing_waits out
  refine ⟨drives, ?_, plan, of_none (done.trans nothing), of_none (wire.trans nowire), clean⟩
  rw [owes, kind, done, nothing]
  simpa using sound.owes_commanded out

theorem wireAdvance_sound (sound : bus.Sound commands) (state : bus.state = .wireTx) (clock : Nat → UInt32) :
    (bus.wireAdvance clock).Sound commands := by
  have out : bus.state ≠ .idle := by rw [state]; simp
  have drives := sound.drives
  have clean := sound.clean (by rw [state]; simp)
  have owed := sound.owes_commanded out
  rw [state] at drives owed
  unfold wireAdvance
  split
  next left gap train =>
    exact goes_on sound out drives (by rw [state]; rfl) (fun planned => (by cases planned)) rfl rfl fun _ => clean
  next =>
    split
    next =>
      refine goes_on sound out ?_ rfl sound.plan rfl rfl fun _ => clean
      show Toggles (driveMarks (bus.tx ++ [.sendBreak, .send _])) bus.state.claimed
      rw [driveMarks_append, state]
      exact (List.append_nil (driveMarks bus.tx)).symm ▸ drives
    next => exact wireFinish_sound clock drives owed (sound.nothing_waits out).1 clean

theorem release_marks (tx : List Drive) : driveMarks (tx ++ [.release]) = driveMarks tx ++ [false] :=
  driveMarks_append tx [.release]

theorem onTxComplete_sound (sound : bus.Sound commands) (io : Io) : (bus.onTxComplete io).Sound commands := by
  unfold onTxComplete
  split
  next state => exact wireAdvance_sound sound state io.clock
  next =>
    split
    next => exact sound
    next transmitting =>
      have state : bus.state = .transmitting := not_not.mp transmitting
      have out : bus.state ≠ .idle := by rw [state]; simp
      have drives := sound.drives
      have clean := sound.clean (by rw [state]; simp)
      have owed := sound.owes_commanded out
      rw [state] at drives owed
      have released : Toggles (driveMarks (bus.tx ++ [.release])) false := by
        rw [release_marks]
        exact drives.give
      have nowire := (sound.nothing_waits out).2
      split
      next => exact finish_sound _ _ released owed nowire
      next plan planned =>
        split
        next =>
          exact goes_on sound out drives (by rw [state]; rfl) (fun _ => sound.plan (by rw [state]; rfl)) rfl rfl
            fun _ => clean
        next =>
          split
          next => exact finish_sound _ _ released owed nowire
          next =>
            exact goes_on sound out released (by rw [state]; rfl) (fun _ => sound.plan (by rw [state]; rfl)) rfl rfl
              fun _ => clean

theorem onDeadline_sound (sound : bus.Sound commands) (io : Io) : (bus.onDeadline io).Sound commands := by
  have broken (calls : List Drive) : driveMarks (bus.tx ++ .sendBreak :: calls) = driveMarks (bus.tx ++ calls) := by
    rw [driveMarks_append, driveMarks_append]
    rfl
  unfold onDeadline
  split
  next left gap state =>
    have out : bus.state ≠ .idle := by rw [state]; simp
    have drives := sound.drives
    have clean := sound.clean (by rw [state]; simp)
    have owed := sound.owes_commanded out
    rw [state] at drives owed
    split
    next =>
      refine finish_sound _ _ ?_ owed (sound.nothing_waits out).2
      show Toggles (driveMarks (bus.tx ++ [.sendBreak, .release])) false
      rw [broken, release_marks]
      exact drives.give
    next =>
      refine goes_on sound out ?_ (by rw [state]; rfl) (fun _ => sound.plan (by rw [state]; rfl)) rfl rfl fun _ => clean
      show Toggles (driveMarks (bus.tx ++ [.sendBreak])) true
      rw [broken, List.append_nil]
      exact drives
  next left gap state =>
    have out : bus.state ≠ .idle := by rw [state]; simp
    have drives := sound.drives
    have clean := sound.clean (by rw [state]; simp)
    have owed := sound.owes_commanded out
    rw [state] at drives owed
    have kept : Toggles (driveMarks (bus.tx ++ [.sendBreak])) true := by
      rw [broken, List.append_nil]
      exact drives
    split
    next => exact wireFinish_sound io.clock kept owed (sound.nothing_waits out).1 clean
    next => exact goes_on sound out kept (by rw [state]; rfl) (fun planned => (by cases planned)) rfl rfl fun _ => clean
  next => exact sound

structure Listened (bus after : HostBus) : Prop where
  tx : after.tx = bus.tx
  state : after.state = bus.state
  plan : after.plan = bus.plan
  got : after.got = bus.got
  done : after.pendingDone = bus.pendingDone
  wire : after.pendingWireDone = bus.pendingWireDone
  ticks : after.ticksPerUs = bus.ticksPerUs
  rate : after.rate = bus.rate
  pace : after.paceUntil = bus.paceUntil
  job : after.wireJob = bus.wireJob

theorem Listened.after {first second third : HostBus} (after : Listened second third)
    (before : Listened first second) : Listened first third :=
  ⟨after.tx.trans before.tx, after.state.trans before.state, after.plan.trans before.plan,
    after.got.trans before.got, after.done.trans before.done, after.wire.trans before.wire,
    after.ticks.trans before.ticks, after.rate.trans before.rate, after.pace.trans before.pace,
    after.job.trans before.job⟩

theorem walk_cases {now paceAt : UInt32} {expected : Option UInt8} {looks : List Look} {after : HostBus}
    {emit : Option Emit} (walked : bus.walk now expected paceAt looks = some (after, emit)) :
    ∃ heard, Listened bus heard ∧
      (after = heard ∧ emit = none ∨
        ∃ look f, f.inst.isStatus = true ∧ after = (heard.credit now expected paceAt look f).1 ∧
          emit = some (heard.credit now expected paceAt look f).2) := by
  induction looks generalizing bus with
  | nil => cases walked
  | cons look looks ih =>
    unfold walk at walked
    dsimp only at walked
    split at walked
    next f stepped =>
      split at walked
      next status =>
        obtain ⟨rfl, rfl⟩ := Prod.mk.inj (Option.some.inj walked)
        exact ⟨{ bus with framer := (bus.framer.step look).1 }, ⟨rfl, rfl, rfl, rfl, rfl, rfl, rfl, rfl, rfl, rfl⟩,
          .inr ⟨look, f, status, rfl, rfl⟩⟩
      next =>
        obtain ⟨heard, listened, ends⟩ := ih walked
        exact ⟨heard, listened.after ⟨rfl, rfl, rfl, rfl, rfl, rfl, rfl, rfl, rfl, rfl⟩, ends⟩
    next =>
      obtain ⟨heard, listened, ends⟩ := ih walked
      exact ⟨heard, listened.after ⟨rfl, rfl, rfl, rfl, rfl, rfl, rfl, rfl, rfl, rfl⟩, ends⟩
    next =>
      obtain ⟨rfl, rfl⟩ := Prod.mk.inj (Option.some.inj walked)
      exact ⟨{ bus with framer := (bus.framer.step look).1 }, ⟨rfl, rfl, rfl, rfl, rfl, rfl, rfl, rfl, rfl, rfl⟩,
        .inl ⟨rfl, rfl⟩⟩
    next =>
      obtain ⟨rfl, rfl⟩ := Prod.mk.inj (Option.some.inj walked)
      exact ⟨{ bus with framer := (bus.framer.step look).1 }, ⟨rfl, rfl, rfl, rfl, rfl, rfl, rfl, rfl, rfl, rfl⟩,
        .inl ⟨rfl, rfl⟩⟩

theorem Listened.sound {after : HostBus} (listened : Listened bus after) (sound : bus.Sound commands)
    (state : bus.state = .awaiting) : after.Sound commands := by
  refine goes_on sound (by rw [state]; simp) ?_ (by rw [listened.state]) ?_ listened.done listened.wire ?_
  next =>
    rw [listened.tx, listened.state]
    exact sound.drives
  next =>
    rw [listened.state, listened.plan]
    exact sound.plan
  next => exact fun away => absurd (listened.state.trans state) away

theorem credit_sound (sound : bus.Sound commands) (state : bus.state = .awaiting) (now : UInt32)
    (expected : Option UInt8) (paceAt : UInt32) (look : Look) (f : Frame) :
    (bus.credit now expected paceAt look f).1.Sound commands := by
  have out : bus.state ≠ .idle := by rw [state]; simp
  have drives := sound.drives
  have owed := sound.owes_commanded out
  have nowire := (sound.nothing_waits out).2
  have planned := sound.plan (by rw [state]; rfl)
  rw [state] at drives owed
  unfold credit
  dsimp only
  split
  next =>
    exact ⟨drives, owed, fun planned => (by cases planned), fun _ => ⟨rfl, nowire⟩, of_none nowire, fun _ => rfl⟩
  next =>
    refine goes_on sound out ?_ rfl (fun _ => planned) rfl rfl fun away => absurd state away
    show Toggles (driveMarks bus.tx) bus.state.claimed
    rw [state]
    exact drives

theorem takeDone_none (done : bus.pendingDone = none) : bus.takeDone = (bus, none) := by
  simp [takeDone, done]

theorem takeEvent_none (done : bus.pendingDone = none) (wire : bus.pendingWireDone = none) :
    bus.takeEvent = (bus, none) := by
  simp [takeEvent, wire, takeDone_none done]

theorem takeDone_sound (sound : bus.Sound commands) :
    bus.takeDone.1.Sound (commands ++ (commandMark (.poll, .ofEvent bus.takeDone.2)).toList) := by
  unfold takeDone
  split
  next terminal done =>
    obtain ⟨state, nowire⟩ := sound.done (by rw [done]; rfl)
    have drives := sound.drives
    have owed := sound.commands
    rw [owes, state, done] at owed
    refine ⟨drives, ?_, sound.plan, fun some => (by cases some), sound.wire, sound.clean⟩
    show Toggles (commands ++ [false]) (bus.state.commanded || false)
    rw [state]
    exact owed.give
  next => exact (List.append_nil commands).symm ▸ sound

theorem takeEvent_sound (sound : bus.Sound commands) :
    bus.takeEvent.1.Sound (commands ++ (commandMark (.poll, .ofEvent bus.takeEvent.2)).toList) := by
  unfold takeEvent
  split
  next tick wire =>
    refine (List.append_nil commands).symm ▸ ⟨sound.drives, sound.commands, sound.plan, ?_, ?_, sound.clean⟩
    next => exact fun some => ⟨(sound.done some).1, rfl⟩
    next => exact fun some => (by cases some)
  next => exact takeDone_sound sound

theorem wait_sound (sound : bus.Sound commands) (state : bus.state = .awaiting) (now : UInt32) (plan : Shape)
    (clock : Nat → UInt32) (here : Look) : (bus.wait now plan clock here).Sound commands := by
  have out : bus.state ≠ .idle := by rw [state]; simp
  have drives := sound.drives
  have owed := sound.owes_commanded out
  have nowire := (sound.nothing_waits out).2
  rw [state] at drives owed
  unfold wait
  dsimp only
  split
  next => exact goes_on sound out sound.drives rfl sound.plan rfl rfl fun away => absurd state away
  next =>
    split
    next => exact finish_sound _ _ drives owed nowire
    next => exact goes_on sound out sound.drives rfl sound.plan rfl rfl fun away => absurd state away

theorem pollAwait_sound (sound : bus.Sound commands) (state : bus.state = .awaiting) {now : UInt32} {io : Io}
    {after : HostBus} {event : Option Event} (polled : bus.pollAwait now io = some (after, event)) :
    after.Sound (commands ++ (commandMark (.poll, .ofEvent event)).toList) := by
  unfold pollAwait at polled
  split at polled
  next missing =>
    obtain ⟨rfl, rfl⟩ := Prod.mk.inj (Option.some.inj polled)
    exact (List.append_nil commands).symm ▸ sound
  next plan _ =>
    dsimp only at polled
    split at polled
    next => cases polled
    next walked emit ran =>
      obtain ⟨rfl, rfl⟩ := Prod.mk.inj (Option.some.inj polled)
      obtain ⟨heard, listened, ⟨-, no⟩ | ⟨look, f, -, rfl, -⟩⟩ := walk_cases ran
      next => cases no
      next =>
        refine (List.append_nil commands).symm ▸ ?_
        exact credit_sound (listened.sound sound state) (listened.state.trans state) _ _ _ _ _
    next walked ran =>
      obtain ⟨heard, listened, ⟨rfl, -⟩ | ⟨look, f, -, -, no⟩⟩ := walk_cases ran
      next =>
        obtain ⟨rfl, rfl⟩ := Prod.mk.inj (Option.some.inj polled)
        exact takeDone_sound (wait_sound (listened.sound sound state) (listened.state.trans state) _ _ _ _)
      next => cases no

theorem poll_sound (sound : bus.Sound commands) {io : Io} {after : HostBus} {event : Option Event}
    (polled : bus.poll io = some (after, event)) :
    after.Sound (commands ++ (commandMark (.poll, .ofEvent event)).toList) := by
  -- A terminal that waits goes first, then the end of a wire operation; only then the phase counts.
  unfold poll at polled
  split at polled
  next terminal done =>
    have taken := takeDone_sound sound
    unfold takeDone at taken
    rw [done] at taken
    obtain ⟨rfl, rfl⟩ := Prod.mk.inj (Option.some.inj polled)
    exact taken
  next tick done wire =>
    have taken := takeEvent_sound sound
    unfold takeEvent at taken
    rw [wire] at taken
    obtain ⟨rfl, rfl⟩ := Prod.mk.inj (Option.some.inj polled)
    exact taken
  next done wire =>
    dsimp only at polled
    split at polled
    next state => exact pollAwait_sound sound state polled
    next state =>
      have out : bus.state ≠ .idle := by rw [state]; simp
      have drives := sound.drives
      have owed := sound.owes_commanded out
      have planned := sound.plan (by rw [state]; rfl)
      have clean := sound.clean (by rw [state]; simp)
      rw [state] at drives owed
      obtain ⟨rfl, rfl⟩ := Prod.mk.inj (Option.some.inj polled)
      apply takeEvent_sound
      split
      next => exact startTx_sound drives owed done wire planned clean
      next => exact sound
    next state =>
      have out : bus.state ≠ .idle := by rw [state]; simp
      have drives := sound.drives
      have owed := sound.owes_commanded out
      rw [state] at drives owed
      obtain ⟨rfl, rfl⟩ := Prod.mk.inj (Option.some.inj polled)
      apply takeEvent_sound
      split
      next =>
        refine finish_sound _ _ ?_ owed wire
        show Toggles (driveMarks (bus.tx ++ [.release])) false
        rw [release_marks]
        exact drives.give
      next => exact sound
    next state =>
      have out : bus.state ≠ .idle := by rw [state]; simp
      have drives := sound.drives
      have owed := sound.owes_commanded out
      have clean := sound.clean (by rw [state]; simp)
      rw [state] at drives owed
      obtain ⟨rfl, rfl⟩ := Prod.mk.inj (Option.some.inj polled)
      apply takeEvent_sound
      split
      next => exact wireFinish_sound _ drives owed done clean
      next => exact sound
    all_goals
      obtain ⟨rfl, rfl⟩ := Prod.mk.inj (Option.some.inj polled)
      exact takeEvent_sound sound

theorem ofResult_refused {result : Except SubmitError Unit} {error : SubmitError}
    (refused : Answer.ofResult result = .refused error) : result = .error error := by
  cases result <;> cases refused
  rfl

theorem commandMark_wireOp {op : Op} (other : ∀ cmd, op ≠ .submit cmd) (result : Except SubmitError Unit) :
    commandMark (op, .ofResult result) = none := by
  cases result <;> cases op <;> first | rfl | exact absurd rfl (other _)

theorem Sound.same_owes {after : HostBus} (sound : bus.Sound commands) (kept : after.Sound commands) :
    after.owes = bus.owes := by
  have left := sound.commands.out_iff
  have right := kept.commands.out_iff
  cases first : bus.owes <;> cases second : after.owes <;> simp_all

theorem step_sound (sound : bus.Sound commands) {op : Op} {io : Io} {after : HostBus} {answer : Answer}
    (stepped : bus.step io op = some (after, answer)) :
    after.Sound (commands ++ (commandMark (op, answer)).toList) ∧
      ∀ error, answer = .refused error → after = bus := by
  have wireOp {result : HostBus × Except SubmitError Unit} (spec : WireOp bus commands result)
      (ran : some (result.map id Answer.ofResult) = some (after, answer)) (other : ∀ cmd, op ≠ .submit cmd) :
      after.Sound (commands ++ (commandMark (op, answer)).toList) ∧ ∀ error, answer = .refused error → after = bus := by
    obtain ⟨rfl, rfl⟩ := Prod.mk.inj (Option.some.inj ran)
    rw [commandMark_wireOp other, Option.toList_none, List.append_nil]
    exact ⟨spec.sound, fun error refused => spec.unchanged error (ofResult_refused refused)⟩
  cases op with
  | submit cmd =>
    obtain ⟨rfl, rfl⟩ := Prod.mk.inj (Option.some.inj stepped)
    obtain ⟨kept, unchanged⟩ := submit_spec sound cmd io
    exact ⟨kept, fun error refused => unchanged error (ofResult_refused refused)⟩
  | wireSend bytes => exact wireOp (wireSend_spec sound bytes) stepped (by simp)
  | wireTrain announce gapUs breaks => exact wireOp (wireTrain_spec sound announce gapUs breaks) stepped (by simp)
  | wireBaud bps => exact wireOp (wireBaud_spec sound bps io.clock) stepped (by simp)
  | wireBurst stream => exact wireOp (wireBurst_spec sound stream) stepped (by simp)
  | wirePulseLow us => exact wireOp (wirePulseLow_spec sound us io.clock) stepped (by simp)
  | onTxComplete =>
    obtain ⟨rfl, rfl⟩ := Prod.mk.inj (Option.some.inj stepped)
    exact ⟨(List.append_nil commands).symm ▸ onTxComplete_sound sound io, fun error no => (by cases no)⟩
  | onDeadline =>
    obtain ⟨rfl, rfl⟩ := Prod.mk.inj (Option.some.inj stepped)
    exact ⟨(List.append_nil commands).symm ▸ onDeadline_sound sound io, fun error no => (by cases no)⟩
  | poll =>
    obtain ⟨⟨polled, event⟩, ran, made⟩ := Option.map_eq_some_iff.mp stepped
    obtain ⟨rfl, rfl⟩ := Prod.mk.inj made
    refine ⟨poll_sound sound ran, fun error no => ?_⟩
    cases event <;> cases no

end HostBus

/-- The states a run of the engine can be in, with what was asked and answered on the way. -/
inductive Reached : HostBus → List (Op × Answer) → Prop where
  | new (ticksPerUs : UInt32) (rate : BaudRate) : Reached (HostBus.new ticksPerUs rate) []
  | step {bus after : HostBus} {log : List (Op × Answer)} {op : Op} {io : Io} {answer : Answer}
    (before : Reached bus log) (stepped : bus.step io op = some (after, answer)) :
      Reached after (log ++ [(op, answer)])

/-- The calls in order, with what they are answered. -/
def HostBus.calls : List (Op × Io) → HostBus → Option (HostBus × List (Op × Answer))
  | [], bus => some (bus, [])
  | (op, io) :: rest, bus =>
    (bus.step io op).bind fun (after, answer) => (calls rest after).map fun (last, log) => (last, (op, answer) :: log)

theorem Reached.calls {bus last : HostBus} {log more : List (Op × Answer)} {asks : List (Op × Io)}
    (reached : Reached bus log) (made : bus.calls asks = some (last, more)) : Reached last (log ++ more) := by
  induction asks generalizing bus log more with
  | nil =>
    obtain ⟨rfl, rfl⟩ := Prod.mk.inj (Option.some.inj made)
    exact (List.append_nil log).symm ▸ reached
  | cons ask rest ih =>
    obtain ⟨⟨after, answer⟩, stepped, others⟩ := Option.bind_eq_some_iff.mp made
    obtain ⟨⟨end_, later⟩, ran, same⟩ := Option.map_eq_some_iff.mp others
    obtain ⟨rfl, rfl⟩ := Prod.mk.inj same
    have whole := ih (.step reached stepped) ran
    rwa [List.append_assoc] at whole

def commandMarks (log : List (Op × Answer)) : List Bool :=
  log.filterMap commandMark

theorem Reached.sound {bus : HostBus} {log : List (Op × Answer)} (reached : Reached bus log) :
    bus.Sound (commandMarks log) := by
  induction reached with
  | new ticksPerUs rate =>
    exact ⟨.nil, .nil, fun planned => (by cases planned), fun done => (by cases done), fun _ => rfl, fun _ => rfl⟩
  | @step bus after log op io answer before stepped ih =>
    have kept := (HostBus.step_sound ih stepped).1
    rw [commandMarks, List.filterMap_append]
    cases mark : commandMark (op, answer) with
    | none =>
      rw [mark] at kept
      simpa [mark, commandMarks] using kept
    | some bit =>
      rw [mark] at kept
      simpa [mark, commandMarks] using kept

end OpenServo.Host
