import OpenServo.Host.Backlog
import OpenServo.Host.Terminals

set_option autoImplicit false

namespace OpenServo.Host

open OpenServo.Protocol OpenServo.Shared

namespace HostBus

/-- The call that the engine waits for: its TX drained, its compare due, or a poll behind its deadline. -/
def serves (bus : HostBus) (op : Op) (io : Io) : Bool :=
  match bus.state, op with
  | .transmitting, .onTxComplete | .training _ _, .onDeadline | .idle, .poll => true
  | .pacing, .poll | .rescueHold, .poll | .awaiting, .poll => tickReached (io.clock 0) bus.deadlineAt
  | _, _ => false

/-- At most so many of these calls are left while the ring stays as it is. -/
def toGo (still : Look) (bus : HostBus) : Nat :=
  match bus.state with
  | .pacing => bus.framer.backlog still + 258
  | .transmitting => bus.framer.backlog still + 257
  | .training left _ => max 1 left.toNat + 1
  | .awaiting => bus.framer.backlog still + (if bus.lastCursor = still.cursor then 0 else 1) + 1
  | .idle | .rescueHold | .wireTx | .wirePulse | .wireTrain _ _ => 1

section Steps

variable {bus after : HostBus} {still : Look} {io : Io} {commands : List Bool}

theorem toGo_le (still : Look) (bus : HostBus) : bus.toGo still ≤ still.ring.length + still.cursor + 258 := by
  have waits : bus.framer.backlog still ≤ still.ring.length + still.cursor := by
    have inside := Nat.mod_le (still.cursor + still.ring.length - bus.framer.anchor % still.ring.length) still.ring.length
    rw [Framer.backlog]
    omega
  cases state : bus.state with
  | training left gap =>
    have word := left.toNat_lt
    simp only [toGo, state]
    omega
  | awaiting =>
    simp only [toGo, state]
    split <;> omega
  | _ => simp only [toGo, state]; omega

theorem onTxComplete_toGo (here : io.here = still) :
    (bus.onTxComplete io).toGo still + (bus.serves .onTxComplete io).toNat ≤ bus.toGo still := by
  cases state : bus.state with
  | transmitting =>
    have before : bus.toGo still = bus.framer.backlog still + 257 := by rw [toGo, state]
    have served : bus.serves .onTxComplete io = true := by simp [serves, state]
    rw [before, served, onTxComplete, if_neg (by rw [state]; simp), if_neg (not_not_intro state)]
    split
    next =>
      show 1 + 1 ≤ _
      omega
    next plan _ =>
      split
      next gapUs gaps _ =>
        have word := (gaps + 1).toNat_lt
        show max 1 (gaps + 1).toNat + 1 + 1 ≤ _
        omega
      next =>
        split
        next =>
          show 1 + 1 ≤ _
          omega
        next =>
          show bus.framer.backlog still + (if io.here.cursor = still.cursor then 0 else 1) + 1 + 1 ≤ _
          rw [here, if_pos rfl]
          omega
  | wireTx =>
    have before : bus.toGo still = 1 := by rw [toGo, state]
    have served : bus.serves .onTxComplete io = false := by simp [serves, state]
    rw [before, served, onTxComplete, if_pos state, wireAdvance]
    split
    next => exact Nat.le_refl 1
    next =>
      split
      next => simp [toGo, wireNextFrame, drive, state]
      next => exact Nat.le_refl 1
  | _ =>
    have same : bus.onTxComplete io = bus := by simp [onTxComplete, state]
    have served : bus.serves .onTxComplete io = false := by simp [serves, state]
    rw [same, served]
    exact Nat.le_refl _

theorem onDeadline_toGo : (bus.onDeadline io).toGo still + (bus.serves .onDeadline io).toNat ≤ bus.toGo still := by
  cases state : bus.state with
  | training left gap =>
    have before : bus.toGo still = max 1 left.toNat + 1 := by rw [toGo, state]
    have served : bus.serves .onDeadline io = true := by simp [serves, state]
    rw [before, served]
    simp only [onDeadline, state]
    split
    next =>
      show 1 + 1 ≤ _
      omega
    next more =>
      have large : 1 < left.toNat := by simpa [UInt8.le_iff_toNat_le] using more
      have less : (left - 1).toNat = left.toNat - 1 := UInt8.toNat_sub_of_le left 1 (UInt8.le_iff_toNat_le.mpr large.le)
      show max 1 (left - 1).toNat + 1 + 1 ≤ _
      omega
  | wireTrain left gap =>
    have before : bus.toGo still = 1 := by rw [toGo, state]
    have served : bus.serves .onDeadline io = false := by simp [serves, state]
    rw [before, served]
    simp only [onDeadline, state]
    split <;> exact Nat.le_refl 1
  | _ =>
    have same : bus.onDeadline io = bus := by simp [onDeadline, state]
    have served : bus.serves .onDeadline io = false := by simp [serves, state]
    rw [same, served]
    exact Nat.le_refl _

inductive Walks (still : Look) (bus : HostBus) : HostBus × Option Emit → Prop where
  | rests {after : HostBus} (state : after.state = bus.state) (cursor : after.lastCursor = bus.lastCursor)
    (moved : after.framer.backlog still < bus.framer.backlog still ∨
      after.framer.backlog still = bus.framer.backlog still ∧ after.deadlineAt = bus.deadlineAt) :
      Walks still bus (after, none)
  | credits {after : HostBus} (emit : Emit) (less : after.framer.backlog still < bus.framer.backlog still)
    (ends : after.state = .idle ∨ after.state = bus.state ∧ after.lastCursor = still.cursor) :
      Walks still bus (after, some emit)

theorem Walks.behind {junked : HostBus} {result : HostBus × Option Emit} (walks : Walks still junked result)
    (state : junked.state = bus.state) (cursor : junked.lastCursor = bus.lastCursor)
    (less : junked.framer.backlog still < bus.framer.backlog still) : Walks still bus result := by
  cases walks with
  | rests later same moved =>
    refine .rests (later.trans state) (same.trans cursor) (.inl ?_)
    obtain more | ⟨equal, -⟩ := moved <;> omega
  | credits emit more ends =>
    refine .credits emit (more.trans less) ?_
    rwa [state] at ends

theorem credit_walks (now : UInt32) (expected : Option UInt8) (paceAt : UInt32) (f : Frame)
    {before : HostBus} (state : bus.state = before.state)
    (less : bus.framer.backlog still < before.framer.backlog still) :
    Walks still before ((bus.credit now expected paceAt still f).1, some (bus.credit now expected paceAt still f).2) := by
  refine .credits _ ?_ ?_
  next =>
    unfold credit complete strand
    dsimp only
    split <;> exact less
  next =>
    unfold credit
    dsimp only
    split
    next => exact .inl rfl
    next => exact .inr ⟨state, rfl⟩

theorem walk_silent {now paceAt : UInt32} {expected : Option UInt8} {looks : List Look}
    {result : HostBus × Option Emit} (silent : ∀ look ∈ looks, look = still)
    (walked : bus.walk now expected paceAt looks = some result) : Walks still bus result := by
  induction looks generalizing bus with
  | nil => cases walked
  | cons look looks ih =>
    obtain ⟨rfl, rest⟩ := List.forall_mem_cons.mp silent
    have spends := step_spends bus.framer look
    unfold walk at walked
    dsimp only at walked
    generalize out : bus.framer.step look = taken at walked spends
    cases spends with
    | rests step quiet =>
      obtain rfl | rfl := quiet
      all_goals
        obtain rfl := Option.some.inj walked
        exact .rests rfl rfl (.inr ⟨rfl, rfl⟩)
    | garble n less =>
      exact (ih rest walked).behind rfl rfl less
    | @frame after f paid =>
      have less : after.backlog look < bus.framer.backlog look := by omega
      dsimp only at walked
      split at walked
      next =>
        obtain rfl := Option.some.inj walked
        exact credit_walks now expected paceAt f rfl less
      next => exact (ih rest walked).behind rfl rfl less

theorem wait_toGo (state : bus.state = .awaiting) (now : UInt32) (plan : Shape) (clock : Nat → UInt32)
    (open_ : (bus.wait now plan clock still).pendingDone = none) :
    (bus.wait now plan clock still).toGo still = bus.framer.backlog still + 1 ∧
      (bus.lastCursor = still.cursor → tickReached now bus.deadlineAt = false) := by
  unfold wait at open_ ⊢
  dsimp only at open_ ⊢
  split at open_
  next progressed =>
    rw [if_pos progressed]
    refine ⟨?_, fun same => absurd same.symm progressed⟩
    simp [toGo, extend, arm, state]
  next quiet =>
    rw [if_neg quiet]
    split at open_
    next => cases open_
    next early =>
      rw [if_neg early]
      refine ⟨?_, fun _ => by simpa using early⟩
      simp [toGo, state]

theorem pollAwait_toGo (state : bus.state = .awaiting) (plan : bus.plan.isSome = true)
    (here : io.here = still) (looks : ∀ look ∈ io.looks, look = still) {event : Option Event}
    (polled : bus.pollAwait (io.clock 0) io = some (after, event)) :
    (∃ terminal, event = some (.done terminal)) ∨
      after.toGo still + (bus.serves .poll io).toNat ≤ bus.toGo still := by
  have before : bus.toGo still =
      bus.framer.backlog still + (if bus.lastCursor = still.cursor then 0 else 1) + 1 := by rw [toGo, state]
  have served : bus.serves .poll io = tickReached (io.clock 0) bus.deadlineAt := by simp [serves, state]
  have most := (tickReached (io.clock 0) bus.deadlineAt).toNat_le
  rw [before, served]
  unfold pollAwait at polled
  split at polled
  next missing =>
    rw [missing] at plan
    cases plan
  next plan _ =>
    dsimp only at polled
    split at polled
    next => cases polled
    next walked emit ran =>
      obtain ⟨rfl, rfl⟩ := Prod.mk.inj (Option.some.inj polled)
      right
      cases walk_silent looks ran with
      | credits _ less ends =>
        obtain idle | ⟨same, cursor⟩ := ends
        next =>
          have rank : walked.toGo still = 1 := by rw [toGo, idle]
          omega
        next =>
          have rank : walked.toGo still = walked.framer.backlog still + 1 := by
            rw [toGo, same, state]
            simp [cursor]
          omega
    next walked ran =>
      cases walk_silent looks ran with
      | rests same cursor moved =>
        have taken : (walked.wait (io.clock 0) plan (later io.clock 1) still).takeDone = (after, event) :=
          here ▸ Option.some.inj polled
        cases done : (walked.wait (io.clock 0) plan (later io.clock 1) still).pendingDone with
        | some terminal =>
          rw [takeDone, done] at taken
          obtain ⟨-, rfl⟩ := Prod.mk.inj taken
          exact .inl ⟨terminal, rfl⟩
        | none =>
          obtain ⟨rank, due⟩ := wait_toGo (same.trans state) _ _ _ done
          rw [takeDone_none done] at taken
          obtain ⟨rfl, rfl⟩ := Prod.mk.inj taken
          rw [rank]
          right
          -- A cursor that is new to the bus moves the window, once over a silent wire.
          by_cases read : bus.lastCursor = still.cursor
          next =>
            have early := due (cursor.trans read)
            rw [if_pos read]
            obtain less | ⟨equal, deadline⟩ := moved
            next => omega
            next =>
              rw [deadline] at early
              rw [early, equal]
              exact Nat.le_refl _
          next =>
            rw [if_neg read]
            obtain less | ⟨equal, -⟩ := moved <;> omega

theorem poll_toGo (sound : bus.Sound commands) (owes : bus.owes = true) (here : io.here = still)
    (looks : ∀ look ∈ io.looks, look = still) {event : Option Event} (polled : bus.poll io = some (after, event)) :
    (∃ terminal, event = some (.done terminal)) ∨
      after.toGo still + (bus.serves .poll io).toNat ≤ bus.toGo still := by
  unfold poll at polled
  split at polled
  next terminal done =>
    obtain ⟨rfl, rfl⟩ := Prod.mk.inj (Option.some.inj polled)
    exact .inl ⟨terminal, rfl⟩
  next tick done wire =>
    have idle := sound.wire (by rw [wire]; rfl)
    rw [HostBus.owes, idle, done] at owes
    cases owes
  next done wire =>
    have closed : bus.takeEvent = (bus, none) := takeEvent_none done wire
    dsimp only at polled
    -- A phase that a poll can end is ended by a due one; the others wait for an interrupt.
    cases state : bus.state with
    | awaiting =>
      rw [state] at polled
      exact pollAwait_toGo state (sound.plan (by rw [state]; rfl)) here looks polled
    | pacing =>
      have before : bus.toGo still = bus.framer.backlog still + 258 := by rw [toGo, state]
      have served : bus.serves .poll io = tickReached (io.clock 0) bus.deadlineAt := by simp [serves, state]
      rw [state] at polled
      rw [before, served]
      dsimp only at polled
      split at polled
      next due =>
        have open_ : bus.startTx.takeEvent = (bus.startTx, none) := takeEvent_none done wire
        rw [open_] at polled
        obtain ⟨rfl, rfl⟩ := Prod.mk.inj (Option.some.inj polled)
        rw [due]
        exact .inr (Nat.le_refl _)
      next early =>
        rw [closed] at polled
        obtain ⟨rfl, rfl⟩ := Prod.mk.inj (Option.some.inj polled)
        rw [Bool.eq_false_iff.mpr early, before]
        exact .inr (Nat.le_refl _)
    | rescueHold =>
      have served : bus.serves .poll io = tickReached (io.clock 0) bus.deadlineAt := by simp [serves, state]
      rw [state] at polled
      rw [served]
      dsimp only at polled
      split at polled
      next due =>
        refine .inl ?_
        simp only [takeEvent, HostBus.finish, HostBus.pace, drive, wire, takeDone] at polled
        obtain ⟨-, rfl⟩ := Prod.mk.inj (Option.some.inj polled)
        exact ⟨_, rfl⟩
      next early =>
        rw [closed] at polled
        obtain ⟨rfl, rfl⟩ := Prod.mk.inj (Option.some.inj polled)
        rw [Bool.eq_false_iff.mpr early]
        exact .inr (Nat.le_refl _)
    | transmitting | training left gap =>
      have served : bus.serves .poll io = false := by simp [serves, state]
      rw [state] at polled
      dsimp only at polled
      rw [closed] at polled
      obtain ⟨rfl, rfl⟩ := Prod.mk.inj (Option.some.inj polled)
      rw [served]
      exact .inr (Nat.le_refl _)
    | idle | wireTx | wirePulse | wireTrain left gap =>
      rw [HostBus.owes, state, done] at owes
      cases owes

theorem step_toGo (sound : bus.Sound commands) (owes : bus.owes = true) (here : io.here = still)
    (looks : ∀ look ∈ io.looks, look = still) {op : Op} {answer : Answer}
    (stepped : bus.step io op = some (after, answer)) :
    (∃ terminal, op = .poll ∧ answer = .event (.done terminal)) ∨
      after.owes = true ∧ after.toGo still + (bus.serves op io).toNat ≤ bus.toGo still := by
  have kept := (step_sound sound stepped).1
  have closed : bus.ready = false := by
    by_contra ready
    obtain ⟨state, done, -⟩ := ready_iff.mp (Bool.not_eq_false _ ▸ ready)
    rw [HostBus.owes, state, done] at owes
    cases owes
  have going (unmarked : commandMark (op, answer) = none) : after.owes = true := by
    rw [unmarked, Option.toList_none, List.append_nil] at kept
    exact (sound.same_owes kept).trans owes
  -- What is asked of a busy engine is refused, and no state waits for it.
  have refused {ask : HostBus × Except SubmitError Unit} (busy : ask = (bus, .error .busy))
      (ran : some (ask.map id Answer.ofResult) = some (after, answer)) (unserved : bus.serves op io = false) :
      (∃ terminal, op = .poll ∧ answer = .event (.done terminal)) ∨
        after.owes = true ∧ after.toGo still + (bus.serves op io).toNat ≤ bus.toGo still := by
    rw [busy] at ran
    obtain ⟨rfl, rfl⟩ := Prod.mk.inj (Option.some.inj ran)
    rw [unserved]
    exact .inr ⟨owes, Nat.le_refl _⟩
  have unasked (other : op ≠ .onTxComplete ∧ op ≠ .onDeadline ∧ op ≠ .poll) : bus.serves op io = false := by
    unfold serves
    split <;> simp_all
  cases op with
  | submit cmd => exact refused (by simp [submit, closed]) stepped (unasked (by simp))
  | wireSend bytes => exact refused (by simp [wireSend, closed]) stepped (unasked (by simp))
  | wireTrain announce gapUs breaks => exact refused (by simp [wireTrain, closed]) stepped (unasked (by simp))
  | wireBaud bps => exact refused (by simp [wireBaud, closed]) stepped (unasked (by simp))
  | wireBurst stream => exact refused (by simp [wireBurst, closed]) stepped (unasked (by simp))
  | wirePulseLow us => exact refused (by simp [wirePulseLow, closed]) stepped (unasked (by simp))
  | onTxComplete =>
    obtain ⟨rfl, rfl⟩ := Prod.mk.inj (Option.some.inj stepped)
    exact .inr ⟨going rfl, onTxComplete_toGo here⟩
  | onDeadline =>
    obtain ⟨rfl, rfl⟩ := Prod.mk.inj (Option.some.inj stepped)
    exact .inr ⟨going rfl, onDeadline_toGo⟩
  | poll =>
    obtain ⟨⟨polled, event⟩, ran, made⟩ := Option.map_eq_some_iff.mp stepped
    obtain ⟨rfl, rfl⟩ := Prod.mk.inj made
    cases event with
    | none =>
      obtain ⟨terminal, no⟩ | nearer := poll_toGo sound owes here looks ran
      next => cases no
      next => exact .inr ⟨going rfl, nearer⟩
    | some event =>
      cases event with
      | done terminal => exact .inl ⟨terminal, rfl, rfl⟩
      | status slot id inst payload =>
        obtain ⟨terminal, no⟩ | nearer := poll_toGo sound owes here looks ran
        next => cases no
        next => exact .inr ⟨going rfl, nearer⟩
      | wireDone tick =>
        obtain ⟨terminal, no⟩ | nearer := poll_toGo sound owes here looks ran
        next => cases no
        next => exact .inr ⟨going rfl, nearer⟩

end Steps

end HostBus

/-- The runs on from `first` over a silent wire: every call reads the same ring. `served` counts the calls that the
engine waited for. -/
inductive Silent (still : Look) (first : HostBus) : HostBus → List (Op × Answer) → Nat → Prop where
  | start : Silent still first first [] 0
  | step {bus after : HostBus} {log : List (Op × Answer)} {served : Nat} {op : Op} {io : Io} {answer : Answer}
    (before : Silent still first bus log served) (here : io.here = still) (looks : ∀ look ∈ io.looks, look = still)
    (stepped : bus.step io op = some (after, answer)) :
      Silent still first after (log ++ [(op, answer)]) (served + (bus.serves op io).toNat)

def HasTerminal (log : List (Op × Answer)) : Prop :=
  ∃ terminal, (Op.poll, Answer.event (.done terminal)) ∈ log

theorem Silent.tells {still : Look} {first bus : HostBus} {log : List (Op × Answer)} {served : Nat}
    {commands : List Bool} (silent : Silent still first bus log served) (sound : first.Sound commands)
    (owes : first.owes = true) :
    HasTerminal log ∨ (∃ later, bus.Sound later) ∧ bus.owes = true ∧ bus.toGo still + served ≤ first.toGo still := by
  induction silent with
  | start => exact .inr ⟨⟨commands, sound⟩, owes, Nat.le_refl _⟩
  | @step bus after log served op io answer _ here looks stepped ih =>
    obtain ⟨terminal, told⟩ | ⟨⟨later, kept⟩, going, nearer⟩ := ih
    next => exact .inl ⟨terminal, List.mem_append_left _ told⟩
    next =>
      obtain ⟨terminal, rfl, rfl⟩ | ⟨owed, less⟩ := HostBus.step_toGo kept going here looks stepped
      next => exact .inl ⟨terminal, List.mem_append_right _ List.mem_cons_self⟩
      next => exact .inr ⟨⟨_, (HostBus.step_sound kept stepped).1⟩, owed, by omega⟩

def InProgress (log : List (Op × Answer)) : Prop :=
  (commandMarks log).getLast? = some true

structure Orderly (bus : HostBus) (log : List (Op × Answer)) : Prop where
  terminals : (false :: commandMarks log).IsChain (· ≠ ·)
  busy : InProgress log → ∀ cmd io, bus.step io (.submit cmd) = some (bus, .refused .busy)
  -- Whatever else is called in between, so many calls that the engine waits for bring the terminal.
  terminal : InProgress log → ∀ still after more served, Silent still bus after more served →
    still.ring.length + still.cursor + 258 ≤ served → HasTerminal more
  refused : ∀ op io after error, bus.step io op = some (after, .refused error) → after = bus
  plan : bus.state.planned = true → bus.plan.isSome = true
  claims : (false :: driveMarks bus.tx).IsChain (· ≠ ·)

/-- In every run commands and terminals take turns, as do claims and releases of the wire; a command comes to its
terminal once the wire is silent; what is refused leaves no trace. -/
theorem run_orderly {bus : HostBus} {log : List (Op × Answer)} (reached : Reached bus log) : Orderly bus log := by
  have sound := reached.sound
  refine ⟨sound.commands.isChain, ?_, ?_, ?_, sound.plan, sound.drives.isChain⟩
  next =>
    intro progress cmd io
    have owed : bus.owes = true := sound.commands.out_iff.mpr progress
    have closed : bus.ready = false := by
      by_contra ready
      obtain ⟨state, done, -⟩ := HostBus.ready_iff.mp (Bool.not_eq_false _ ▸ ready)
      rw [HostBus.owes, state, done] at owed
      cases owed
    simp [HostBus.step, HostBus.submit, closed, Answer.ofResult]
  next =>
    intro progress still after more served silent enough
    obtain told | ⟨-, owed, less⟩ := silent.tells sound (sound.commands.out_iff.mpr progress)
    next => exact told
    next =>
      have most := bus.toGo_le still
      have least : 1 ≤ after.toGo still := by
        cases state : after.state <;> simp only [HostBus.toGo, state] <;> omega
      omega
  next =>
    intro op io after error stepped
    exact (HostBus.step_sound sound stepped).2 error rfl

def pingCalls : List (Op × Io) :=
  let quiet : Look := ⟨List.replicate 64 0xFF, 0⟩
  let heard : Look := ⟨[0, 5, 3, 0x80, 17, 81] ++ List.replicate 58 0xFF, 6⟩
  [(.submit (.exchange 5 0x10 []), ⟨fun _ => 0, [], quiet⟩),
    (.onTxComplete, ⟨fun _ => 0, [], quiet⟩),
    (.poll, ⟨fun _ => 500, [heard], heard⟩),
    (.poll, ⟨fun _ => 600, [], heard⟩),
    (.submit (.exchange 5 0x10 []), ⟨fun _ => 700, [], heard⟩)]

theorem run_orderly_ping : ∃ bus log, Orderly bus log ∧ commandMarks log = [true, false, true] ∧
    driveMarks bus.tx = [true, false, true] ∧
      ∀ still after more served, Silent still bus after more served →
        still.ring.length + still.cursor + 258 ≤ served → HasTerminal more := by
  have made : ((HostBus.new 48 .b1000000).calls pingCalls).map (fun end_ =>
      (commandMarks end_.2, driveMarks end_.1.tx)) = some ([true, false, true], [true, false, true]) := by
    decide +kernel
  obtain ⟨⟨bus, log⟩, ran, marks⟩ := Option.map_eq_some_iff.mp made
  obtain ⟨commands, drives⟩ := Prod.mk.inj marks
  have orderly := run_orderly ((Reached.new 48 .b1000000).calls ran)
  exact ⟨bus, [] ++ log, orderly, commands, drives, orderly.terminal (by rw [InProgress, List.nil_append, commands]; rfl)⟩

end OpenServo.Host
