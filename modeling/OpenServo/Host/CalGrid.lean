import OpenServo.Bus.CalTrain
import OpenServo.Host.Agreement
import OpenServo.Host.Terminals

set_option autoImplicit false

namespace OpenServo.Host

open OpenServo.Protocol OpenServo.Shared OpenServo.Bus

section Servo

variable {ticksPerUs : UInt32} {clock : ClockTracker} {cal : CalRun}

def marked (ticksPerUs : UInt32) (clock : ClockTracker) (marks : List (UInt32 × Nat)) : ClockTracker :=
  run (fun clock mark => (clock.onCalBreak mark.1 mark.2 ticksPerUs).1) clock marks

def Finishes (gapUs : UInt16) (gaps : UInt8) (breaks : Nat) : Prop :=
  ∀ (ticksPerUs : UInt32) (clock : ClockTracker) (marks : List (UInt32 × Nat)),
    clock.pendingCal = some (gapUs, gaps) → marks.length = breaks →
    (marks.map Prod.snd).IsChain (· ≠ ·) →
    (∀ n, 0 < n → n < breaks → (marked ticksPerUs clock (marks.take n)).cal.isSome = true) ∧
      (marked ticksPerUs clock marks).cal = none

theorem marked_live (quiet : clock.pendingCal = none) (live : clock.cal = some cal) (left : 0 < cal.gapsLeft.toNat)
    (marks : List (UInt32 × Nat)) (moving : (cal.cursor :: marks.map Prod.snd).IsChain (· ≠ ·))
    (fits : marks.length ≤ cal.gapsLeft.toNat) :
    (marked ticksPerUs clock marks).cal.isSome = decide (marks.length < cal.gapsLeft.toNat) := by
  induction marks generalizing clock cal with
  | nil => simp [marked, live, left]
  | cons mark marks ih =>
    obtain ⟨now, cursor⟩ := mark
    have apart : cal.cursor ≠ cursor := (List.isChain_cons_cons.mp moving).1
    have counted := ClockTracker.calGap_gapsLeft left now cursor
    have ran : marked ticksPerUs clock ((now, cursor) :: marks) =
        marked ticksPerUs (clock.onCalBreak now cursor ticksPerUs).1 marks := rfl
    rw [List.length_cons] at fits
    rw [ran, List.length_cons]
    obtain ⟨gapUs, gaps, pending, -⟩ | ⟨-, idle, -⟩ | ⟨held, -, same, -, outs⟩ :=
      @ClockTracker.onCalBreak_cases ticksPerUs clock now cursor
    next => rw [quiet] at pending; cases pending
    next => simp [ClockTracker.takes, quiet, live, Ne.symm apart] at idle
    next =>
      obtain rfl := Option.some.inj (live.symm.trans same)
      have ends (last : (ClockTracker.calGap cal now cursor).gapsLeft = 0) :
          marks = [] ∧ ¬ marks.length + 1 < cal.gapsLeft.toNat := by
        rw [last] at counted
        have zero : (0 : UInt8).toNat = 0 := rfl
        exact ⟨List.eq_nil_of_length_eq_zero (by omega), by omega⟩
      obtain ⟨more, out⟩ | ⟨last, -, out⟩ | ⟨last, -, out⟩ := outs
      next =>
        have positive : 0 < (ClockTracker.calGap cal now cursor).gapsLeft.toNat := by
          refine Nat.pos_of_ne_zero fun zero => more ?_
          exact UInt8.toNat_inj.mp zero
        rw [out, @ih { clock with cal := some (ClockTracker.calGap cal now cursor) }
          (ClockTracker.calGap cal now cursor) quiet rfl positive (List.IsChain.of_cons moving) (by omega), counted]
        congr 1
        exact propext (by omega)
      next =>
        obtain ⟨rfl, past⟩ := ends last
        rw [out, decide_eq_false past]
        rfl
      next =>
        obtain ⟨rfl, past⟩ := ends last
        rw [out, decide_eq_false past]
        rfl

theorem marked_opened {gapUs : UInt16} {gaps : UInt8} (some : gaps ≠ 0)
    (pending : clock.pendingCal = .some (gapUs, gaps)) (mark : UInt32 × Nat) (marks : List (UInt32 × Nat))
    (moving : ((mark :: marks).map Prod.snd).IsChain (· ≠ ·)) (fits : marks.length ≤ gaps.toNat) :
    (marked ticksPerUs clock (mark :: marks)).cal.isSome = decide (marks.length < gaps.toNat) := by
  have left : 0 < gaps.toNat := Nat.pos_of_ne_zero fun zero => some (UInt8.toNat_inj.mp zero)
  have live : (clock.onCalBreak mark.1 mark.2 ticksPerUs).1.cal =
      .some ⟨gapUs.toUInt32 * ticksPerUs, gaps, gaps, 0, mark.1, mark.2, 0, 0⟩ := by
    simp only [ClockTracker.onCalBreak, pending]
  have quiet : (clock.onCalBreak mark.1 mark.2 ticksPerUs).1.pendingCal = none := by
    simp only [ClockTracker.onCalBreak, pending]
  exact marked_live quiet live left marks moving fits

theorem finishes (gapUs : UInt16) {gaps : UInt8} (some : gaps ≠ 0) : Finishes gapUs gaps (gaps.toNat + 1) := by
  intro ticksPerUs clock marks pending length moving
  cases marks with
  | nil => simp at length
  | cons mark marks =>
    have length : marks.length = gaps.toNat := by simpa using length
    constructor
    next =>
      intro n positive before
      obtain ⟨n, rfl⟩ := Nat.exists_eq_succ_of_ne_zero (Nat.ne_of_gt positive)
      have taken : (marks.take n).length = n := by rw [List.length_take]; omega
      rw [List.take_succ_cons]
      have prior : ((mark :: marks.take n).map Prod.snd).IsChain (· ≠ ·) := by
        rw [← List.take_succ_cons, List.map_take]
        exact moving.take _
      rw [marked_opened some pending mark (marks.take n) prior (by omega), taken]
      exact decide_eq_true (by omega)
    next =>
      have ended := @marked_opened ticksPerUs clock gapUs gaps some pending mark marks moving (by omega)
      rw [length, decide_eq_false (Nat.lt_irrefl _)] at ended
      exact Option.not_isSome_iff_eq_none.mp (by rw [ended]; exact Bool.false_ne_true)

end Servo

section Host

def Op.matched : Op → Bool
  | .onDeadline => true
  | _ => false

def Answer.terminal : Answer → Option Terminal
  | .event (.done terminal) => some terminal
  | _ => none

structure Seen where
  ended : Option UInt32 := none
  calls : List Drive := []
  aims : List (Option UInt32) := []
  fired : Nat := 0
  terminals : List Terminal := []

def Seen.note (seen : Seen) (bus after : HostBus) (io : Io) (op : Op) (answer : Answer) : Seen :=
  let calls := after.tx.drop bus.tx.length
  { ended := if op.drained && bus.state = .transmitting then some (io.clock 0) else seen.ended
    calls := seen.calls ++ calls
    aims := seen.aims ++ if seen.ended.isSome then (calls.filter (· = .sendBreak)).map fun _ => bus.compare else []
    fired := if seen.ended.isSome && op.matched then seen.fired + 1 else seen.fired
    terminals := seen.terminals ++ answer.terminal.toList }

inductive Rides (bus : HostBus) (id : UInt8) (inst : Inst) (payload : List UInt8) : HostBus → Seen → Prop where
  | accepted {io : Io} {after : HostBus}
      (stepped : bus.step io (.submit (.exchange id inst payload)) = some (after, .accepted)) :
      Rides bus id inst payload after { calls := after.tx.drop bus.tx.length }
  | step {during after : HostBus} {seen : Seen} {io : Io} {op : Op} {answer : Answer}
      (before : Rides bus id inst payload during seen) (stepped : during.step io op = some (after, answer))
      (goes : answer ≠ .accepted) : Rides bus id inst payload after (seen.note during after io op answer)

/-- The targets of `n` breaks, `gap` ticks apart, behind an announce that had drained at `tick`. -/
def grid (tick : UInt32) (gap n : Nat) : List (Option UInt32) :=
  (List.range n).map fun k => some (tick + UInt32.ofNat ((k + 1) * gap))

def announce (bus : HostBus) (id : UInt8) (inst : Inst) (payload : List UInt8) : List Drive :=
  [.claim, .sendBreak, .send ((Shape.txFrame bus.buf id inst payload).drop 1)]

/-- A train of `breaks` breaks so far: one for each match of the compare, each at its place on the grid, then
the release, and the one terminal with the next poll. -/
structure OnGrid (announce : List Drive) (gap breaks : Nat) (bus : HostBus) (seen : Seen) : Prop where
  before : seen.ended = none → (seen.calls = [] ∨ seen.calls = announce) ∧ seen.aims = [] ∧ seen.terminals = []
  sent : ∀ tick, seen.ended = some tick → seen.calls =
    announce ++ List.replicate (min seen.fired breaks) .sendBreak ++ if breaks ≤ seen.fired then [.release] else []
  aimed : ∀ tick, seen.ended = some tick → seen.aims = grid tick gap (min seen.fired breaks)
  reported : seen.terminals ≠ [] →
    breaks ≤ seen.fired ∧ ∃ terminal, terminal.outcome = .sent ∧ seen.terminals = [terminal]
  due : seen.ended.isSome = true → breaks ≤ seen.fired → seen.terminals = [] →
    ∀ io, ∃ after terminal, bus.step io .poll = some (after, .event (.done terminal))

structure Drilled (bus : HostBus) (id : UInt8) (inst : Inst) (payload : List UInt8) (gapUs : UInt16) (gaps : UInt8) :
    Prop where
  grid : ∀ after seen, Rides bus id inst payload after seen →
    OnGrid (announce bus id inst payload) (gapUs.toNat * bus.ticksPerUs.toNat) (gaps.toNat + 1) after seen
  finishes : ∀ after seen, Rides bus id inst payload after seen → .release ∈ seen.calls →
    Finishes gapUs gaps seen.aims.length

inductive Phase (ahead : List Drive) (plan : Shape) (ticks : UInt32) (gap breaks : Nat) : HostBus → Seen → Prop where
  | held {bus : HostBus} (state : bus.state = .pacing) (planned : bus.plan = some plan)
      (frame : [.claim, .sendBreak, .send (bus.buf.frame.drop 1)] = ahead) (rate : bus.ticksPerUs = ticks)
      (done : bus.pendingDone = none) (wire : bus.pendingWireDone = none) : Phase ahead plan ticks gap breaks bus {}
  | sent {bus : HostBus} (state : bus.state = .transmitting) (planned : bus.plan = some plan)
      (rate : bus.ticksPerUs = ticks) (done : bus.pendingDone = none) (wire : bus.pendingWireDone = none) :
      Phase ahead plan ticks gap breaks bus { calls := ahead }
  | training {bus : HostBus} {tick : UInt32} {fired : Nat} {left : UInt8}
      (state : bus.state = .training left (UInt32.ofNat gap)) (count : fired + max 1 left.toNat = breaks)
      (due : bus.deadlineAt = tick + UInt32.ofNat ((fired + 1) * gap)) (set : bus.compare = some bus.deadlineAt)
      (done : bus.pendingDone = none) (wire : bus.pendingWireDone = none) :
      Phase ahead plan ticks gap breaks bus
        ⟨some tick, ahead ++ List.replicate fired .sendBreak, grid tick gap fired, fired, []⟩
  | closed {bus : HostBus} {tick : UInt32} {fired : Nat} {terminal : Terminal} (state : bus.state = .idle)
      (past : breaks ≤ fired) (sent : terminal.outcome = .sent) (done : bus.pendingDone = some terminal)
      (wire : bus.pendingWireDone = none) :
      Phase ahead plan ticks gap breaks bus
        ⟨some tick, ahead ++ List.replicate breaks .sendBreak ++ [.release], grid tick gap breaks, fired, []⟩
  | reported {bus : HostBus} {tick : UInt32} {fired : Nat} {terminal : Terminal} (state : bus.state = .idle)
      (past : breaks ≤ fired) (sent : terminal.outcome = .sent) (done : bus.pendingDone = none)
      (wire : bus.pendingWireDone = none) :
      Phase ahead plan ticks gap breaks bus
        ⟨some tick, ahead ++ List.replicate breaks .sendBreak ++ [.release], grid tick gap breaks, fired, [terminal]⟩

theorem grid_succ (tick : UInt32) (gap n : Nat) :
    grid tick gap (n + 1) = grid tick gap n ++ [some (tick + UInt32.ofNat ((n + 1) * gap))] := by
  rw [grid, List.range_succ, List.map_append]
  rfl

section Steps

variable {ahead : List Drive} {plan : Shape} {ticks : UInt32} {gap breaks : Nat} {bus : HostBus} {seen : Seen} {io : Io}

theorem Phase.onGrid (phase : Phase ahead plan ticks gap breaks bus seen) : OnGrid ahead gap breaks bus seen := by
  cases phase with
  | held =>
    refine ⟨fun _ => ⟨.inl rfl, rfl, rfl⟩, ?_, ?_, fun none => absurd rfl none,
      fun ended => absurd ended Bool.false_ne_true⟩
    next => intro tick ended; cases ended
    next => intro tick ended; cases ended
  | sent =>
    refine ⟨fun _ => ⟨.inr rfl, rfl, rfl⟩, ?_, ?_, fun none => absurd rfl none,
      fun ended => absurd ended Bool.false_ne_true⟩
    next => intro tick ended; cases ended
    next => intro tick ended; cases ended
  | @training tick fired left state count due set done wire =>
    have few : fired < breaks := by omega
    refine ⟨fun unended => (by cases unended), ?_, ?_, fun none => absurd rfl none,
      fun _ past => absurd few (Nat.not_lt.mpr past)⟩
    next =>
      intro tick same
      rw [Nat.min_eq_left (Nat.le_of_lt few), if_neg (Nat.not_le.mpr few), List.append_nil]
    next =>
      rintro tick ⟨rfl⟩
      rw [Nat.min_eq_left (Nat.le_of_lt few)]
  | closed state past sent done wire =>
    refine ⟨fun unended => (by cases unended), ?_, ?_, fun none => absurd rfl none, fun _ _ _ io => ?_⟩
    next =>
      intro tick same
      rw [Nat.min_eq_right past, if_pos past]
    next =>
      rintro tick ⟨rfl⟩
      rw [Nat.min_eq_right past]
    next => simp [HostBus.step, HostBus.poll, done, Answer.ofEvent]
  | reported state past sent done wire =>
    refine ⟨fun unended => (by cases unended), ?_, ?_, fun _ => ⟨past, _, sent, rfl⟩, fun _ _ none => (by cases none)⟩
    next =>
      intro tick same
      rw [Nat.min_eq_right past, if_pos past]
    next =>
      rintro tick ⟨rfl⟩
      rw [Nat.min_eq_right past]

theorem Seen.note_still {after : HostBus} {op : Op} {answer : Answer} (tx : after.tx = bus.tx)
    (other : (op.drained && decide (bus.state = .transmitting)) = false) :
    seen.note bus after io op answer =
      { seen with
        fired := if seen.ended.isSome && op.matched then seen.fired + 1 else seen.fired
        terminals := seen.terminals ++ answer.terminal.toList } := by
  simp [note, tx, other]

theorem Phase.polled (phase : Phase ahead plan ticks gap breaks bus seen) {after : HostBus} {event : Option Event}
    (polled : bus.poll io = some (after, event)) :
    Phase ahead plan ticks gap breaks after (seen.note bus after io .poll (.ofEvent event)) := by
  -- A poll brings the start at the end of the quiet gap, and the terminal; nothing else.
  cases phase with
  | held state planned frame rate done wire =>
    simp only [HostBus.poll, done, wire, state] at polled
    cases reached : tickReached (io.clock 0) bus.deadlineAt with
    | false =>
      simp only [reached, Bool.false_eq_true, if_false, HostBus.takeEvent_none done wire, Option.some.injEq,
        Prod.mk.injEq] at polled
      obtain ⟨rfl, rfl⟩ := polled
      rw [Seen.note_still rfl rfl]
      exact .held state planned frame rate done wire
    | true =>
      have started : bus.startTx.tx.drop bus.tx.length = ahead := by
        rw [← frame]
        exact List.drop_left
      have quiet : bus.startTx.takeEvent = (bus.startTx, none) := HostBus.takeEvent_none done wire
      simp only [reached, if_true, quiet, Option.some.injEq, Prod.mk.injEq] at polled
      obtain ⟨rfl, rfl⟩ := polled
      have noted : Seen.note {} bus bus.startTx io .poll (.ofEvent none) = { calls := ahead } := by
        simp [Seen.note, started, Op.drained, Answer.ofEvent, Answer.terminal]
      exact noted ▸ .sent rfl planned rate done wire
  | sent state planned rate done wire =>
    simp only [HostBus.poll, done, wire, state, HostBus.takeEvent_none done wire, Option.some.injEq,
      Prod.mk.injEq] at polled
    obtain ⟨rfl, rfl⟩ := polled
    rw [Seen.note_still rfl rfl]
    exact .sent state planned rate done wire
  | training state count due set done wire =>
    simp only [HostBus.poll, done, wire, state, HostBus.takeEvent_none done wire, Option.some.injEq,
      Prod.mk.injEq] at polled
    obtain ⟨rfl, rfl⟩ := polled
    rw [Seen.note_still rfl rfl]
    exact .training state count due set done wire
  | closed state past sent done wire =>
    simp only [HostBus.poll, done, Option.some.injEq, Prod.mk.injEq] at polled
    obtain ⟨made, rfl⟩ := polled
    rw [Seen.note_still (by rw [← made]) rfl, ← made]
    exact .reported state past sent rfl wire
  | reported state past sent done wire =>
    simp only [HostBus.poll, done, wire, state, HostBus.takeEvent_none done wire, Option.some.injEq,
      Prod.mk.injEq] at polled
    obtain ⟨rfl, rfl⟩ := polled
    rw [Seen.note_still rfl rfl]
    exact .reported state past sent done wire

theorem Phase.drains {gapUs : UInt16} {gaps : UInt8} (train : plan.train = some (gapUs, gaps))
    (span : gap = gapUs.toNat * ticks.toNat) (all : breaks = max 1 (gaps + 1).toNat)
    (phase : Phase ahead plan ticks gap breaks bus seen) :
    Phase ahead plan ticks gap breaks (bus.onTxComplete io)
      (seen.note bus (bus.onTxComplete io) io .onTxComplete .quiet) := by
  cases phase with
  | held state planned frame rate done wire =>
    rw [show bus.onTxComplete io = bus by simp [HostBus.onTxComplete, state], Seen.note_still rfl (by simp [state])]
    exact .held state planned frame rate done wire
  | sent state planned rate done wire =>
    have ticked : gapUs.toUInt32 * bus.ticksPerUs = UInt32.ofNat gap := by
      rw [span, rate, UInt32.ofNat_mul, UInt32.ofNat_toNat, UInt32.ofNat_uInt16ToNat]
    have out : bus.onTxComplete io =
        ({ bus with state := .training (gaps + 1) (UInt32.ofNat gap) } : HostBus).arm
          (io.clock 0 + UInt32.ofNat gap) := by
      simp only [HostBus.onTxComplete, state, planned, train, ticked]
      rfl
    have noted : Seen.note { calls := ahead } bus (bus.onTxComplete io) io .onTxComplete .quiet =
        ⟨some (io.clock 0), ahead ++ List.replicate 0 .sendBreak, grid (io.clock 0) gap 0, 0, []⟩ := by
      simp [Seen.note, out, HostBus.arm, Op.drained, state, Answer.terminal, grid]
    rw [noted, out]
    refine .training rfl ?_ ?_ rfl done wire
    next => rw [all, Nat.zero_add]
    next => rw [Nat.zero_add, Nat.one_mul]; rfl
  | training state count due set done wire =>
    rw [show bus.onTxComplete io = bus by simp [HostBus.onTxComplete, state], Seen.note_still rfl (by simp [state])]
    exact .training state count due set done wire
  | closed state past sent done wire =>
    rw [show bus.onTxComplete io = bus by simp [HostBus.onTxComplete, state], Seen.note_still rfl (by simp [state])]
    exact .closed state past sent done wire
  | reported state past sent done wire =>
    rw [show bus.onTxComplete io = bus by simp [HostBus.onTxComplete, state], Seen.note_still rfl (by simp [state])]
    exact .reported state past sent done wire

theorem Phase.matches (phase : Phase ahead plan ticks gap breaks bus seen) :
    Phase ahead plan ticks gap breaks (bus.onDeadline io)
      (seen.note bus (bus.onDeadline io) io .onDeadline .quiet) := by
  cases phase with
  | held state planned frame rate done wire =>
    rw [show bus.onDeadline io = bus by simp [HostBus.onDeadline, state], Seen.note_still rfl rfl]
    exact .held state planned frame rate done wire
  | sent state planned rate done wire =>
    rw [show bus.onDeadline io = bus by simp [HostBus.onDeadline, state], Seen.note_still rfl rfl]
    exact .sent state planned rate done wire
  | @training tick fired left state count due set done wire =>
    have aimed : grid tick gap fired ++ [bus.compare] = grid tick gap (fired + 1) := by
      rw [set, due, grid_succ]
    have broken : ahead ++ List.replicate fired .sendBreak ++ [.sendBreak] =
        ahead ++ List.replicate (fired + 1) Drive.sendBreak := by
      rw [List.replicate_succ', List.append_assoc]
    by_cases last : left ≤ 1
    next =>
      have one : left.toNat ≤ 1 := UInt8.le_iff_toNat_le.mp last
      have whole : fired + 1 = breaks := by omega
      have out : bus.onDeadline io = (bus.drive [.sendBreak, .release]).finish io.clock .sent := by
        simp only [HostBus.onDeadline, state, last, if_true]
      have noted : Seen.note ⟨some tick, ahead ++ List.replicate fired .sendBreak, grid tick gap fired, fired, []⟩ bus
          (bus.onDeadline io) io .onDeadline .quiet =
          ⟨some tick, ahead ++ List.replicate breaks .sendBreak ++ [.release], grid tick gap breaks, fired + 1,
            []⟩ := by
        rw [← whole, ← aimed, ← broken]
        simp [Seen.note, out, HostBus.drive, HostBus.finish, Op.drained, Op.matched, Answer.terminal]
      rw [noted, out]
      exact .closed rfl (Nat.le_of_eq whole.symm) rfl rfl wire
    next =>
      have many : 1 < left.toNat := by
        rw [UInt8.le_iff_toNat_le] at last
        exact Nat.not_le.mp last
      have fewer : (left - 1).toNat = left.toNat - 1 :=
        UInt8.toNat_sub_of_le left 1 (UInt8.le_iff_toNat_le.mpr (Nat.le_of_lt many))
      have out : bus.onDeadline io =
          ({ bus.drive [.sendBreak] with state := .training (left - 1) (UInt32.ofNat gap) } : HostBus).arm
            (bus.deadlineAt + UInt32.ofNat gap) := by
        simp only [HostBus.onDeadline, state, last, if_false]
      have noted : Seen.note ⟨some tick, ahead ++ List.replicate fired .sendBreak, grid tick gap fired, fired, []⟩ bus
          (bus.onDeadline io) io .onDeadline .quiet =
          ⟨some tick, ahead ++ List.replicate (fired + 1) .sendBreak, grid tick gap (fired + 1), fired + 1, []⟩ := by
        rw [← aimed, ← broken]
        simp [Seen.note, out, HostBus.drive, HostBus.arm, Op.drained, Op.matched, Answer.terminal]
      rw [noted, out]
      refine .training rfl ?_ ?_ rfl done wire
      next => omega
      next =>
        -- From the target before, not from the tick of this call.
        show bus.deadlineAt + UInt32.ofNat gap = tick + UInt32.ofNat ((fired + 1 + 1) * gap)
        rw [due, Nat.succ_mul (fired + 1), UInt32.ofNat_add, UInt32.add_assoc]
  | closed state past sent done wire =>
    rw [show bus.onDeadline io = bus by simp [HostBus.onDeadline, state], Seen.note_still rfl rfl]
    exact .closed state (Nat.le_succ_of_le past) sent done wire
  | reported state past sent done wire =>
    rw [show bus.onDeadline io = bus by simp [HostBus.onDeadline, state], Seen.note_still rfl rfl]
    exact .reported state (Nat.le_succ_of_le past) sent done wire

theorem Phase.of_calls {calls calls' : List Drive} (same : calls' = calls)
    (phase : Phase ahead plan ticks gap breaks bus { calls }) :
    Phase ahead plan ticks gap breaks bus { calls := calls' } :=
  same ▸ phase

def Op.asks : Op → Bool
  | .onTxComplete | .onDeadline | .poll => false
  | _ => true

theorem ofResult_refused_of {result : Except SubmitError Unit} (goes : Answer.ofResult result ≠ .accepted) :
    ∃ error, Answer.ofResult result = .refused error := by
  cases result with
  | error error => exact ⟨error, rfl⟩
  | ok => exact absurd rfl goes

theorem asks_refused {op : Op} {after : HostBus} {answer : Answer} (asks : op.asks = true)
    (stepped : bus.step io op = some (after, answer)) (goes : answer ≠ .accepted) :
    ∃ error, answer = .refused error := by
  cases op with
  | submit => obtain ⟨-, rfl⟩ := Prod.mk.inj (Option.some.inj stepped); exact ofResult_refused_of goes
  | wireSend => obtain ⟨-, rfl⟩ := Prod.mk.inj (Option.some.inj stepped); exact ofResult_refused_of goes
  | wireTrain => obtain ⟨-, rfl⟩ := Prod.mk.inj (Option.some.inj stepped); exact ofResult_refused_of goes
  | wireBaud => obtain ⟨-, rfl⟩ := Prod.mk.inj (Option.some.inj stepped); exact ofResult_refused_of goes
  | wireBurst => obtain ⟨-, rfl⟩ := Prod.mk.inj (Option.some.inj stepped); exact ofResult_refused_of goes
  | wirePulseLow => obtain ⟨-, rfl⟩ := Prod.mk.inj (Option.some.inj stepped); exact ofResult_refused_of goes
  | onTxComplete | onDeadline | poll => cases asks

theorem Phase.stepped {commands : List Bool} (sound : bus.Sound commands) {gapUs : UInt16} {gaps : UInt8}
    (train : plan.train = some (gapUs, gaps)) (span : gap = gapUs.toNat * ticks.toNat)
    (all : breaks = max 1 (gaps + 1).toNat) (phase : Phase ahead plan ticks gap breaks bus seen) {op : Op}
    {after : HostBus} {answer : Answer} (stepped : bus.step io op = some (after, answer)) (goes : answer ≠ .accepted) :
    Phase ahead plan ticks gap breaks after (seen.note bus after io op answer) := by
  have refused (asks : op.asks = true) :
      Phase ahead plan ticks gap breaks after (seen.note bus after io op answer) := by
    obtain ⟨error, rfl⟩ := asks_refused asks stepped goes
    obtain rfl := (HostBus.step_sound sound stepped).2 error rfl
    have other : op.drained = false ∧ op.matched = false := by
      cases op with
      | onTxComplete | onDeadline | poll => cases asks
      | _ => exact ⟨rfl, rfl⟩
    have same : seen.note after after io op (.refused error) = seen := by
      rw [Seen.note_still rfl (by rw [other.1, Bool.false_and]), other.2, Bool.and_false]
      simp [Answer.terminal]
    rw [same]
    exact phase
  cases op with
  | onTxComplete =>
    obtain ⟨rfl, rfl⟩ := Prod.mk.inj (Option.some.inj stepped)
    exact phase.drains train span all
  | onDeadline =>
    obtain ⟨rfl, rfl⟩ := Prod.mk.inj (Option.some.inj stepped)
    exact phase.matches
  | poll =>
    obtain ⟨⟨polled, event⟩, ran, made⟩ := Option.map_eq_some_iff.mp stepped
    obtain ⟨rfl, rfl⟩ := Prod.mk.inj made
    exact phase.polled ran
  | _ => exact refused rfl

end Steps

section Train

variable {bus : HostBus} {log : List (Op × Answer)} {id : UInt8} {inst : Inst} {payload : List UInt8} {plan : Shape}

theorem submit_exchange (ready : bus.ready = true) (derived : Shape.derive id inst payload = .ok plan) (io : Io) :
    ∃ after, bus.step io (.submit (.exchange id inst payload)) = some (after, .accepted) ∧
      ∀ gap breaks, Phase (announce bus id inst payload) plan bus.ticksPerUs gap breaks after
        { calls := after.tx.drop bus.tx.length } := by
  obtain ⟨-, done, wire⟩ := HostBus.ready_iff.mp ready
  simp only [HostBus.step, HostBus.submit, ready, Bool.not_true, Bool.false_eq_true, if_false, derived]
  have started (tx : List Drive) (span : List UInt8) :
      (tx ++ [Drive.claim, .sendBreak, .send span]).drop tx.length = [.claim, .sendBreak, .send span] :=
    List.drop_left
  split
  next tick held =>
    split
    next early =>
      refine ⟨_, rfl, fun gap breaks => ?_⟩
      exact .of_calls List.drop_length (.held rfl rfl rfl rfl done wire)
    next =>
      refine ⟨_, rfl, fun gap breaks => ?_⟩
      exact .of_calls (started _ _) (.sent rfl rfl rfl done wire)
  next =>
    refine ⟨_, rfl, fun gap breaks => ?_⟩
    exact .of_calls (started _ _) (.sent rfl rfl rfl done wire)

theorem Rides.phase (reached : Reached bus log) (ready : bus.ready = true)
    (derived : Shape.derive id inst payload = .ok plan) {gapUs : UInt16} {gaps : UInt8}
    (train : plan.train = some (gapUs, gaps)) {after : HostBus} {seen : Seen}
    (rides : Rides bus id inst payload after seen) :
    (∃ log, Reached after log) ∧
      Phase (announce bus id inst payload) plan bus.ticksPerUs (gapUs.toNat * bus.ticksPerUs.toNat)
        (max 1 (gaps + 1).toNat) after seen := by
  induction rides with
  | @accepted io after stepped =>
    obtain ⟨made, accepted, phase⟩ := submit_exchange ready derived io
    obtain ⟨rfl, -⟩ := Prod.mk.inj (Option.some.inj (accepted.symm.trans stepped))
    exact ⟨⟨_, .step reached stepped⟩, phase _ _⟩
  | step before stepped goes ih =>
    obtain ⟨⟨log, during⟩, phase⟩ := ih
    exact ⟨⟨_, .step during stepped⟩, phase.stepped during.sound train rfl rfl stepped goes⟩

theorem train_ofOpcode {op : Opcode} {broadcast : Bool} {pay : FrameBytes} {bare : Shape}
    (made : Shape.ofOpcode op inst broadcast pay = .ok bare) {gapUs : UInt16} {gaps : UInt8}
    (train : bare.train = some (gapUs, gaps)) : gaps ≠ 0 := by
  -- Only MGMT CAL plans a train, and its parser refuses a count of none.
  cases op with
  | ping | commit =>
    obtain ⟨-, made⟩ := check_ok.mp made
    obtain rfl := pure_ok.mp made
    cases train
  | read =>
    simp only [Shape.ofOpcode] at made
    split at made
    next =>
      simp only [bind_ok, pure_ok] at made
      obtain ⟨_, -, rfl⟩ := made
      cases train
    next =>
      simp only [bind_ok, pure_ok] at made
      obtain ⟨_, -, rfl⟩ := made
      cases train
  | write =>
    simp only [Shape.ofOpcode, bind_ok, pure_ok] at made
    obtain ⟨_, -, rfl⟩ := made
    cases train
  | gread =>
    obtain ⟨-, -, -, -, none⟩ := planned_gread made
    rw [none] at train
    cases train
  | gwrite =>
    simp only [Shape.ofOpcode] at made
    split at made
    next =>
      simp only [bind_ok, pure_ok] at made
      obtain ⟨_, -, rfl⟩ := made
      cases train
    next =>
      simp only [bind_ok, pure_ok] at made
      obtain ⟨_, -, rfl⟩ := made
      cases train
  | mgmt =>
    simp only [Shape.ofOpcode, mgmt, bind_ok, parsed_ok] at made
    obtain ⟨⟨op, args⟩, -, made⟩ := made
    cases op with
    | cal =>
      simp only [ofMgmtOp, bind_ok, parsed_ok] at made
      obtain ⟨c, parsed, made⟩ := made
      obtain ⟨-, made⟩ := check_ok.mp made
      obtain rfl := pure_ok.mp made
      obtain ⟨rfl, rfl⟩ := Prod.mk.inj (Option.some.inj train)
      exact ((calArgs_reads.parse_iff args trivial (c.gapUs, c.gaps)).mp (by rw [parsed]; rfl)).2.1.2
    | enum | assign =>
      simp only [ofMgmtOp, bind_ok, pure_ok] at made
      obtain ⟨_, -, rfl⟩ := made
      cases train
    | save | factory =>
      obtain ⟨-, made⟩ := check_ok.mp made
      obtain rfl := pure_ok.mp made
      cases train
    | reboot =>
      obtain rfl := pure_ok.mp made
      cases train

theorem gaps_ne_zero (derived : Shape.derive id inst payload = .ok plan) {gapUs : UInt16} {gaps : UInt8}
    (train : plan.train = some (gapUs, gaps)) : gaps ≠ 0 := by
  obtain ⟨op, bare, accepts, rfl⟩ := Shape.derive_cases derived
  rw [noreply_train] at train
  exact train_ofOpcode accepts.shaped train

def blind (tick : UInt32) : Io :=
  ⟨fun _ => tick, [], ⟨[], 0⟩⟩

theorem exists_transmitting (ready : bus.ready = true) (derived : Shape.derive id inst payload = .ok plan) :
    ∃ during seen, Rides bus id inst payload during seen ∧ during.state = .transmitting ∧ seen.ended = none ∧
      seen.fired = 0 := by
  obtain ⟨after, accepted, phase⟩ := submit_exchange ready derived (blind 0)
  have ride : Rides bus id inst payload after { calls := after.tx.drop bus.tx.length } := .accepted accepted
  have phase := phase 0 0
  generalize start : ({ calls := after.tx.drop bus.tx.length } : Seen) = seen at ride phase
  cases phase with
  | held state planned frame rate done wire =>
    have polled : after.step (blind after.deadlineAt) .poll = some (after.startTx, .quiet) := by
      have quiet : after.startTx.takeEvent = (after.startTx, none) := HostBus.takeEvent_none done wire
      simp [HostBus.step, HostBus.poll, blind, done, wire, state, tickReached, quiet, Answer.ofEvent]
    exact ⟨_, _, ride.step polled Answer.noConfusion, rfl, rfl, rfl⟩
  | sent state => exact ⟨after, _, ride, state, rfl, rfl⟩
  | training | closed | reported => cases congrArg Seen.ended start

theorem not_drilled (reached : Reached bus log) (ready : bus.ready = true)
    (derived : Shape.derive id inst payload = .ok plan) {gapUs : UInt16} (train : plan.train = some (gapUs, 255)) :
    ¬ Drilled bus id inst payload gapUs 255 := by
  intro drilled
  obtain ⟨during, seen, ride, state, unended, unfired⟩ := exists_transmitting ready derived
  have drained := @Rides.step _ _ _ _ _ _ _ (blind 0) .onTxComplete _ ride rfl Answer.noConfusion
  have once := @Rides.step _ _ _ _ _ _ _ (blind 0) .onDeadline _ drained rfl Answer.noConfusion
  generalize same : Seen.note _ _ _ _ _ _ = after at once
  have ended : after.ended = some 0 := by
    rw [← same]
    simp [Seen.note, Op.drained, state, blind]
  have fired : after.fired = 1 := by
    rw [← same]
    simp [Seen.note, Op.drained, Op.matched, state, unfired, unended]
  have short := (once.phase reached ready derived train).2.onGrid.sent 0 ended
  have long := (drilled.grid _ _ once).sent 0 ended
  rw [fired] at short long
  have both := short.symm.trans long
  simp at both

/-- A CAL exchange keeps its grid, whatever the latencies, unless its count of breaks wraps. -/
theorem train_on_grid_iff (reached : Reached bus log) (ready : bus.ready = true)
    (derived : Shape.derive id inst payload = .ok plan) {gapUs : UInt16} {gaps : UInt8}
    (train : plan.train = some (gapUs, gaps)) : Drilled bus id inst payload gapUs gaps ↔ gaps ≠ 255 := by
  constructor
  next =>
    rintro drilled rfl
    exact not_drilled reached ready derived train drilled
  next =>
    intro fits
    have some := gaps_ne_zero derived train
    have count : max 1 (gaps + 1).toNat = gaps.toNat + 1 := by
      have small := gaps.toNat_lt
      have last : gaps.toNat ≠ 255 := fun same => fits (UInt8.toNat_inj.mp same)
      rw [UInt8.toNat_add, UInt8.toNat_one, Nat.mod_eq_of_lt (by omega)]
      omega
    have phase {after : HostBus} {seen : Seen} (rides : Rides bus id inst payload after seen) :=
      (rides.phase reached ready derived train).2
    rw [count] at phase
    refine ⟨fun after seen rides => (phase rides).onGrid, fun after seen rides released => ?_⟩
    have onGrid := (phase rides).onGrid
    have unreleased : Drive.release ∉ announce bus id inst payload := by simp [announce]
    cases ended : seen.ended with
    | none =>
      obtain ⟨calls | calls, -, -⟩ := onGrid.before ended
      next => rw [calls] at released; cases released
      next => rw [calls] at released; exact absurd released unreleased
    | some tick =>
      have past : gaps.toNat + 1 ≤ seen.fired := by
        by_contra few
        rw [onGrid.sent tick ended, if_neg few] at released
        simp [unreleased] at released
      have length : seen.aims.length = gaps.toNat + 1 := by
        rw [onGrid.aimed tick ended, Nat.min_eq_right past, grid, List.length_map, List.length_range]
      rw [length]
      exact finishes gapUs some

theorem train_on_grid_three : Drilled (HostBus.new 48 .b1000000) 0xFE 0x70 [6, 144, 1, 3] 400 3 := by
  have derived : Shape.derive 0xFE 0x70 [6, 144, 1, 3] = .ok ⟨.none, 0, some (400, 3), false⟩ := by decide
  exact (train_on_grid_iff (.new 48 .b1000000) rfl derived rfl).mpr (by decide)

theorem train_wraps :
    ((((HostBus.new 48 .b1000000).submit (.exchange 0xFE 0x70 [6, 144, 1, 255]) (blind 0)).1.onTxComplete
        (blind 4000)).onDeadline (blind 23200)).tx.drop 3 = [.sendBreak, .release] ∧
      ¬ Drilled (HostBus.new 48 .b1000000) 0xFE 0x70 [6, 144, 1, 255] 400 255 := by
  have derived : Shape.derive 0xFE 0x70 [6, 144, 1, 255] = .ok ⟨.none, 0, some (400, 255), false⟩ := by decide
  exact ⟨by decide +kernel, not_drilled (.new 48 .b1000000) rfl derived rfl⟩

end Train

end Host

end OpenServo.Host
