import OpenServo.Host.Slots
import Mathlib.Data.List.TakeWhile

set_option autoImplicit false

namespace OpenServo.Host

open OpenServo.Protocol

def Framed (frame : List UInt8) : Prop :=
  1 ≤ frame.length ∧ frame.length ≤ 255

def burstStream (frames : List (List UInt8)) : List UInt8 :=
  frames.flatMap fun frame => UInt8.ofNat frame.length :: frame

/-- The frames of a burst that the raw buffer holds. -/
structure Fits (frames : List (List UInt8)) : Prop where
  some : frames ≠ []
  framed : ∀ frame ∈ frames, Framed frame
  size : (burstStream frames).length ≤ wireCap

section Stream

variable {frame : List UInt8} {frames rest : List (List UInt8)}

theorem burstStream_cons (frame : List UInt8) (rest : List (List UInt8)) :
    burstStream (frame :: rest) = UInt8.ofNat frame.length :: (frame ++ burstStream rest) :=
  rfl

theorem burstStream_append (front back : List (List UInt8)) :
    burstStream (front ++ back) = burstStream front ++ burstStream back :=
  List.flatMap_append

theorem Framed.prefix_toNat (framed : Framed frame) : (UInt8.ofNat frame.length).toNat = frame.length :=
  UInt8.toNat_ofNat_of_lt' (Nat.lt_succ_of_le framed.2)

theorem Framed.prefix_ne_zero (framed : Framed frame) : UInt8.ofNat frame.length ≠ 0 := by
  intro zero
  have length := framed.prefix_toNat
  rw [zero] at length
  have least := framed.1
  rw [← length] at least
  exact absurd least (by decide)

theorem framesFit_iff (fuel : Nat) (stream : List UInt8) (enough : stream.length ≤ fuel) :
    framesFit fuel stream = true ↔ ∃ frames, (∀ frame ∈ frames, Framed frame) ∧ stream = burstStream frames := by
  induction fuel generalizing stream with
  | zero =>
    obtain rfl := List.length_eq_zero_iff.mp (Nat.le_zero.mp enough)
    exact iff_of_true rfl ⟨[], nofun, rfl⟩
  | succ fuel ih =>
    cases stream with
    | nil => exact iff_of_true rfl ⟨[], nofun, rfl⟩
    | cons flen rest =>
      have less : (rest.drop flen.toNat).length ≤ fuel := by
        rw [List.length_drop]
        rw [List.length_cons] at enough
        omega
      simp only [framesFit, Bool.and_eq_true, decide_eq_true_eq, ih _ less]
      constructor
      next =>
        rintro ⟨⟨some, whole⟩, frames, framed, left⟩
        have length : (rest.take flen.toNat).length = flen.toNat := List.length_take_of_le whole
        have first : Framed (rest.take flen.toNat) := by
          have most := flen.toNat_lt
          have least : flen.toNat ≠ 0 := fun zero => some (UInt8.toNat_inj.mp zero)
          rw [Framed, length]
          omega
        refine ⟨rest.take flen.toNat :: frames, List.forall_mem_cons.mpr ⟨first, framed⟩, ?_⟩
        rw [burstStream_cons, length, UInt8.ofNat_toNat, ← left, List.take_append_drop]
      next =>
        rintro ⟨frames, framed, same⟩
        cases frames with
        | nil => cases same
        | cons frame frames =>
          obtain ⟨first, framed⟩ := List.forall_mem_cons.mp framed
          rw [burstStream_cons] at same
          obtain ⟨rfl, rfl⟩ := List.cons.inj same
          rw [first.prefix_toNat, List.drop_left, List.length_append]
          exact ⟨⟨first.prefix_ne_zero, Nat.le_add_right _ _⟩, frames, framed, rfl⟩

theorem burstStream_inj {other : List (List UInt8)} (framed : ∀ frame ∈ frames, Framed frame)
    (others : ∀ frame ∈ other, Framed frame) (same : burstStream frames = burstStream other) : frames = other := by
  induction frames generalizing other with
  | nil =>
    cases other with
    | nil => rfl
    | cons => cases same
  | cons frame frames ih =>
    cases other with
    | nil => cases same
    | cons next other =>
      obtain ⟨first, ours⟩ := List.forall_mem_cons.mp framed
      obtain ⟨second, theirs⟩ := List.forall_mem_cons.mp others
      rw [burstStream_cons, burstStream_cons] at same
      obtain ⟨size, bytes⟩ := List.cons.inj same
      have length : frame.length = next.length := by
        rw [← first.prefix_toNat, size, second.prefix_toNat]
      obtain ⟨rfl, left⟩ := List.append_inj bytes length
      rw [ih ours theirs left]

end Stream

def frameDrives (frame : List UInt8) : List Drive :=
  [.sendBreak, .send frame]

def burstDrives (frames : List (List UInt8)) (drains : Nat) : List Drive :=
  .claim :: (frames.take (drains + 1)).flatMap frameDrives ++ if frames.length ≤ drains then [.release] else []

/-- A break train is staged only behind an announce that is still on the wire. -/
def HostBus.Staged (bus : HostBus) : Prop :=
  bus.state ≠ .wireTx → bus.wireJob.train = none

namespace HostBus

section Train

variable {bus after : HostBus} {io : Io}

theorem submit_job (cmd : Command) (io : Io) :
    (bus.submit cmd io).1.wireJob = bus.wireJob ∧ ((bus.submit cmd io).1 = bus ∨ bus.ready = true) := by
  unfold submit
  split
  next => exact ⟨rfl, .inl rfl⟩
  next free =>
    have ready : bus.ready = true := by simpa using free
    refine ⟨?_, .inr ready⟩
    cases cmd with
    | setResponseDeadline | hostBaud | rescue => rfl
    | exchange id inst payload =>
      dsimp only
      split
      next => rfl
      next =>
        split
        next => split <;> rfl
        next => rfl

theorem credit_job (now : UInt32) (expected : Option UInt8) (paceAt : UInt32) (look : Look) (f : Frame) :
    (bus.credit now expected paceAt look f).1.wireJob = bus.wireJob := by
  unfold credit
  dsimp only
  split <;> rfl

theorem wait_job (now : UInt32) (plan : Shape) (clock : Nat → UInt32) (here : Look) :
    (bus.wait now plan clock here).wireJob = bus.wireJob := by
  unfold wait
  dsimp only
  repeat' split
  all_goals rfl

theorem takeDone_job : bus.takeDone.1.wireJob = bus.wireJob ∧ bus.takeDone.1.state = bus.state := by
  unfold takeDone
  split <;> exact ⟨rfl, rfl⟩

theorem takeEvent_job : bus.takeEvent.1.wireJob = bus.wireJob ∧ bus.takeEvent.1.state = bus.state := by
  unfold takeEvent
  split
  next => exact ⟨rfl, rfl⟩
  next => exact takeDone_job

theorem pollAwait_job {now : UInt32} {event : Option Event} (polled : bus.pollAwait now io = some (after, event)) :
    after.wireJob = bus.wireJob := by
  unfold pollAwait at polled
  split at polled
  next =>
    obtain ⟨rfl, -⟩ := Prod.mk.inj (Option.some.inj polled)
    rfl
  next plan _ =>
    dsimp only at polled
    split at polled
    next => cases polled
    next walked emit ran =>
      obtain ⟨rfl, -⟩ := Prod.mk.inj (Option.some.inj polled)
      obtain ⟨heard, listened, ⟨-, no⟩ | ⟨look, f, -, rfl, -⟩⟩ := walk_cases ran
      next => cases no
      next => exact (credit_job _ _ _ _ _).trans listened.job
    next walked ran =>
      obtain ⟨heard, listened, ⟨rfl, -⟩ | ⟨look, f, -, -, no⟩⟩ := walk_cases ran
      next =>
        have same : after = _ := (congrArg Prod.fst (Option.some.inj polled)).symm
        rw [same, takeDone_job.1, wait_job, listened.job]
      next => cases no

theorem poll_job {event : Option Event} (polled : bus.poll io = some (after, event)) :
    after.wireJob = bus.wireJob ∧ (bus.state = .wireTx → after.state = .wireTx) := by
  unfold poll at polled
  split at polled
  next =>
    obtain ⟨rfl, -⟩ := Prod.mk.inj (Option.some.inj polled)
    exact ⟨rfl, id⟩
  next =>
    obtain ⟨rfl, -⟩ := Prod.mk.inj (Option.some.inj polled)
    exact ⟨rfl, id⟩
  next =>
    have taken {between : HostBus} (job : between.wireJob = bus.wireJob)
        (ran : some between.takeEvent = some (after, event)) : after.wireJob = bus.wireJob := by
      have same : after = _ := (congrArg Prod.fst (Option.some.inj ran)).symm
      rw [same, takeEvent_job.1, job]
    dsimp only at polled
    split at polled
    next state => exact ⟨pollAwait_job polled, fun no => by rw [state] at no; cases no⟩
    next state => exact ⟨taken (by split <;> rfl) polled, fun no => by rw [state] at no; cases no⟩
    next state => exact ⟨taken (by split <;> rfl) polled, fun no => by rw [state] at no; cases no⟩
    next state => exact ⟨taken (by split <;> rfl) polled, fun no => by rw [state] at no; cases no⟩
    all_goals
      have same : after = _ := (congrArg Prod.fst (Option.some.inj polled)).symm
      refine ⟨taken rfl polled, fun state => ?_⟩
      rw [same, takeEvent_job.2, state]

theorem onTxComplete_staged (staged : bus.Staged) (io : Io) : (bus.onTxComplete io).Staged := by
  unfold onTxComplete
  split
  next state =>
    unfold wireAdvance
    split
    next => exact fun _ => rfl
    next none =>
      split <;> exact fun _ => none
  next away =>
    have none := staged away
    repeat' split
    all_goals exact fun _ => none

theorem onDeadline_staged (staged : bus.Staged) (io : Io) : (bus.onDeadline io).Staged := by
  unfold onDeadline
  split
  next state =>
    have none := staged (by rw [state]; nofun)
    split <;> exact fun _ => none
  next state =>
    have none := staged (by rw [state]; nofun)
    split <;> exact fun _ => none
  next => exact staged

theorem Staged.idle (staged : bus.Staged) (free : ¬ (!bus.ready) = true) : bus.wireJob.train = none := by
  have ready : bus.ready = true := by simpa using free
  exact staged (by rw [(ready_iff.mp ready).1]; nofun)

theorem submit_staged (staged : bus.Staged) (cmd : Command) (io : Io) : (bus.submit cmd io).1.Staged := by
  obtain ⟨job, same | ready⟩ := bus.submit_job cmd io
  next =>
    rw [same]
    exact staged
  next => exact fun _ => (congrArg WireJob.train job).trans (staged.idle (by simpa using ready))

theorem wireSend_staged (staged : bus.Staged) (bytes : List UInt8) : (bus.wireSend bytes).1.Staged := by
  unfold wireSend
  repeat' split
  all_goals first | exact staged | exact fun away => absurd rfl away

theorem wireTrain_staged (staged : bus.Staged) (bytes : List UInt8) (gapUs : UInt16) (breaks : UInt8) :
    (bus.wireTrain bytes gapUs breaks).1.Staged := by
  unfold wireTrain
  repeat' split
  all_goals first | exact staged | exact fun away => absurd rfl away

theorem wireBurst_staged (staged : bus.Staged) (stream : List UInt8) : (bus.wireBurst stream).1.Staged := by
  unfold wireBurst
  repeat' split
  all_goals first | exact staged | exact fun away => absurd rfl away

theorem wireBaud_staged (staged : bus.Staged) (bps : UInt32) (clock : Nat → UInt32) :
    (bus.wireBaud bps clock).1.Staged := by
  unfold wireBaud
  split
  next => exact staged
  next free =>
    have none := staged.idle free
    split
    next => exact staged
    next => exact fun _ => none

theorem wirePulseLow_staged (staged : bus.Staged) (us : UInt16) (clock : Nat → UInt32) :
    (bus.wirePulseLow us clock).1.Staged := by
  unfold wirePulseLow
  split
  next => exact staged
  next free =>
    have none := staged.idle free
    split
    next => exact staged
    next => exact fun _ => none

theorem step_staged (staged : bus.Staged) {op : Op} {answer : Answer}
    (stepped : bus.step io op = some (after, answer)) :
    after.Staged := by
  have of {result : HostBus × Answer} (kept : result.1.Staged) (ran : some result = some (after, answer)) :
      after.Staged := by
    rwa [Option.some.inj ran] at kept
  cases op with
  | submit cmd => exact of (submit_staged staged cmd io) stepped
  | wireSend bytes => exact of (wireSend_staged staged bytes) stepped
  | wireTrain announce gapUs breaks => exact of (wireTrain_staged staged announce gapUs breaks) stepped
  | wireBaud bps => exact of (wireBaud_staged staged bps io.clock) stepped
  | wireBurst stream => exact of (wireBurst_staged staged stream) stepped
  | wirePulseLow us => exact of (wirePulseLow_staged staged us io.clock) stepped
  | onTxComplete => exact of (onTxComplete_staged staged io) stepped
  | onDeadline => exact of (onDeadline_staged staged io) stepped
  | poll =>
    obtain ⟨⟨polled, event⟩, ran, made⟩ := Option.map_eq_some_iff.mp stepped
    obtain ⟨rfl, -⟩ := Prod.mk.inj made
    obtain ⟨job, sends⟩ := poll_job ran
    exact fun away => (congrArg WireJob.train job).trans (staged fun state => away (sends state))

end Train

end HostBus

theorem Reached.staged {bus : HostBus} {log : List (Op × Answer)} (reached : Reached bus log) : bus.Staged := by
  induction reached with
  | new => exact fun _ => rfl
  | step before stepped ih => exact HostBus.step_staged ih stepped

inductive Bursting (first : HostBus) : HostBus → List (Op × Answer) → Prop where
  | taken : Bursting first first []
  | step {bus after : HostBus} {log : List (Op × Answer)} {op : Op} {io : Io} {answer : Answer}
    (before : Bursting first bus log) (stepped : bus.step io op = some (after, answer))
    (goes : ∀ tick, answer ≠ .event (.wireDone tick)) : Bursting first after (log ++ [(op, answer)])

def drains (log : List (Op × Answer)) : Nat :=
  log.countP fun mark => mark.1.drained

structure Carried (bus : HostBus) (frames : List (List UInt8)) (after : HostBus) (log : List (Op × Answer)) : Prop where
  drives : after.tx = bus.tx ++ burstDrives frames (drains log)
  alone : ∀ mark ∈ log, mark.2 = .quiet ∨ mark.2 = .refused .busy
  early : drains log < frames.length → ∀ io, after.step io .poll = some (after, .quiet)
  ended : frames.length ≤ drains log → ∀ io, ∃ done tick,
    after.step io .poll = some (done, .event (.wireDone tick)) ∧ done.tx = after.tx ∧ done.ready = true

/-- The engine over a burst: a frame on the wire, or the wire given back and the end waiting for a poll. -/
inductive OnBurst (bus : HostBus) (frames : List (List UInt8)) (drains : Nat) (after : HostBus) : Prop where
  | sending {front rest : List (List UInt8)} {frame : List UInt8} (split : frames = front ++ frame :: rest)
    (count : drains = front.length) (tx : after.tx = bus.tx ++ burstDrives frames drains)
    (state : after.state = .wireTx)
    (job : after.wireJob = ⟨burstStream frames, (burstStream (front ++ [frame])).length, .stream, none⟩)
    (done : after.pendingDone = none) (wire : after.pendingWireDone = none)
  | closed {tick : UInt32} (past : frames.length ≤ drains) (tx : after.tx = bus.tx ++ burstDrives frames drains)
    (state : after.state = .idle) (done : after.pendingDone = none) (wire : after.pendingWireDone = some tick)

section Frames

variable {bus after : HostBus} {frames front rest : List (List UInt8)} {frame : List UInt8} {drains : Nat} {io : Io}

theorem burstDrives_next (split : frames = front ++ frame :: rest) :
    burstDrives frames front.length = .claim :: (front ++ [frame]).flatMap frameDrives := by
  have part : frames.take (front.length + 1) = front ++ [frame] := by
    rw [split, List.take_length_add_append, List.take_succ_cons, List.take_zero]
  have more : ¬ frames.length ≤ front.length := by
    rw [split, List.length_append, List.length_cons]
    omega
  rw [burstDrives, part, if_neg more, List.append_nil]

theorem burstDrives_past (past : frames.length ≤ drains) :
    burstDrives frames drains = .claim :: frames.flatMap frameDrives ++ [.release] := by
  rw [burstDrives, List.take_of_length_le (by omega), if_pos past]

theorem wireNextFrame_burst (bytes : bus.wireJob.bytes = burstStream (front ++ frame :: rest))
    (cursor : bus.wireJob.cursor = (burstStream front).length) (framed : Framed frame) :
    bus.wireNextFrame =
      { bus.drive (frameDrives frame) with
        wireJob := { bus.wireJob with cursor := (burstStream (front ++ [frame])).length } } := by
  have split : bus.wireJob.bytes = burstStream front ++ UInt8.ofNat frame.length :: (frame ++ burstStream rest) := by
    rw [bytes, burstStream_append, burstStream_cons]
  have flen : (bus.wireJob.bytes.getD bus.wireJob.cursor 0).toNat = frame.length := by
    rw [split, cursor, List.getD_append_right _ _ _ _ (Nat.le_refl _), Nat.sub_self, List.getD_cons_zero,
      framed.prefix_toNat]
  have span : bus.wireJob.bytes.extract (bus.wireJob.cursor + 1) (bus.wireJob.cursor + 1 + frame.length) = frame := by
    rw [List.extract_eq_take_drop, Nat.add_sub_cancel_left, split, cursor, List.drop_length_add_append,
      List.drop_succ_cons, List.drop_zero, List.take_left]
  have next : (burstStream (front ++ [frame])).length = bus.wireJob.cursor + 1 + frame.length := by
    rw [burstStream_append, burstStream_cons, List.length_append, List.length_cons, cursor]
    simp [burstStream]
    omega
  rw [HostBus.wireNextFrame, flen, span, next]
  rfl

theorem OnBurst.busy (on : OnBurst bus frames drains after) : after.ready = false := by
  cases on with
  | sending split count tx state => simp [HostBus.ready, state]
  | closed past tx state done wire => simp [HostBus.ready, wire]

theorem OnBurst.tx (on : OnBurst bus frames drains after) : after.tx = bus.tx ++ burstDrives frames drains := by
  cases on with
  | sending split count tx | closed past tx => exact tx

theorem OnBurst.completed (framed : ∀ frame ∈ frames, Framed frame) (on : OnBurst bus frames drains after) (io : Io) :
    OnBurst bus frames (drains + 1) (after.onTxComplete io) := by
  cases on with
  | @sending front rest frame split count tx state job done wire =>
    subst count
    have whole : frames = (front ++ [frame]) ++ rest := by rw [split, List.append_cons]
    have said := burstDrives_next split
    rw [HostBus.onTxComplete, if_pos state]
    cases rest with
    | nil =>
      have last : frames = front ++ [frame] := by rw [whole, List.append_nil]
      have past : frames.length ≤ front.length + 1 := by rw [last, List.length_append, List.length_singleton]
      have closes : after.wireAdvance io.clock = after.wireFinish io.clock := by
        simp [HostBus.wireAdvance, job, last]
      have called : (after.wireFinish io.clock).tx = after.tx ++ [.release] := rfl
      rw [closes]
      refine .closed past ?_ rfl done rfl
      rw [called, tx, said, burstDrives_past past, last, List.append_assoc]
    | cons next rest =>
      have second : Framed next := framed next (by rw [split]; simp)
      have count : front.length + 1 = (front ++ [frame]).length := by rw [List.length_append, List.length_singleton]
      have more : after.wireJob.cursor < after.wireJob.bytes.length := by
        rw [job, whole, burstStream_append (front ++ [frame]), burstStream_cons]
        simp
      have goes : after.wireAdvance io.clock = after.wireNextFrame := by
        have train : after.wireJob.train = none := by rw [job]
        have mode : after.wireJob.mode = .stream := by rw [job]
        rw [HostBus.wireAdvance, train]
        exact if_pos ⟨mode, more⟩
      have bytes : after.wireJob.bytes = burstStream ((front ++ [frame]) ++ next :: rest) := by rw [job, whole]
      rw [goes, wireNextFrame_burst bytes (by rw [job]) second]
      refine .sending whole count ?_ state (by rw [job]) done wire
      rw [count, burstDrives_next whole, List.flatMap_append, ← List.cons_append, ← said, ← List.append_assoc, ← tx]
      rfl
  | closed past tx state done wire =>
    have still : after.onTxComplete io = after := by simp [HostBus.onTxComplete, state]
    rw [still]
    refine .closed (Nat.le_succ_of_le past) ?_ state done wire
    rw [tx, burstDrives_past past, burstDrives_past (Nat.le_succ_of_le past)]

theorem OnBurst.polled (on : OnBurst bus frames drains after) (io : Io) :
    drains < frames.length ∧ after.step io .poll = some (after, .quiet) ∨
      frames.length ≤ drains ∧ ∃ done tick,
        after.step io .poll = some (done, .event (.wireDone tick)) ∧ done.tx = after.tx ∧ done.ready = true := by
  cases on with
  | @sending front rest frame split count tx state job done wire =>
    refine .inl ⟨?_, ?_⟩
    next =>
      rw [count, split, List.length_append, List.length_cons]
      omega
    next => simp [HostBus.step, HostBus.poll, done, wire, state, HostBus.takeEvent_none done wire, Answer.ofEvent]
  | @closed tick past tx state done wire =>
    refine .inr ⟨past, { after with pendingWireDone := none }, tick, ?_, rfl, ?_⟩
    next => simp [HostBus.step, HostBus.poll, done, wire, Answer.ofEvent]
    next => exact HostBus.ready_iff.mpr ⟨state, done, rfl⟩

theorem OnBurst.matched (on : OnBurst bus frames drains after) (io : Io) : after.onDeadline io = after := by
  cases on with
  | sending split count tx state | closed past tx state => simp [HostBus.onDeadline, state]

theorem OnBurst.stepped (framed : ∀ frame ∈ frames, Framed frame) (on : OnBurst bus frames drains after) {op : Op}
    {later : HostBus} {answer : Answer} (stepped : after.step io op = some (later, answer))
    (goes : ∀ tick, answer ≠ .event (.wireDone tick)) :
    OnBurst bus frames (drains + if op.drained then 1 else 0) later ∧ (answer = .quiet ∨ answer = .refused .busy) := by
  obtain ⟨rfl, rfl⟩ | rfl | rfl | rfl := HostBus.step_busy on.busy stepped
  next =>
    have asked : op.drained = false := by
      cases op with
      | onTxComplete => cases (Prod.mk.inj (Option.some.inj stepped)).2
      | _ => rfl
    rw [asked]
    exact ⟨on, .inr rfl⟩
  next =>
    obtain ⟨rfl, rfl⟩ := Prod.mk.inj (Option.some.inj stepped)
    exact ⟨on.completed framed io, .inl rfl⟩
  next =>
    obtain ⟨rfl, rfl⟩ := Prod.mk.inj (Option.some.inj stepped)
    rw [on.matched io]
    exact ⟨on, .inl rfl⟩
  next =>
    obtain ⟨-, quiet⟩ | ⟨-, done, tick, ended, -⟩ := on.polled io
    next =>
      obtain ⟨rfl, rfl⟩ := Prod.mk.inj (Option.some.inj (quiet.symm.trans stepped))
      exact ⟨on, .inl rfl⟩
    next =>
      obtain ⟨-, rfl⟩ := Prod.mk.inj (Option.some.inj (ended.symm.trans stepped))
      exact absurd rfl (goes tick)

end Frames

section Burst

variable {bus first after : HostBus} {log : List (Op × Answer)} {frames : List (List UInt8)} {stream : List UInt8}

theorem wireBurst_iff (ready : bus.ready = true) (stream : List UInt8) :
    (bus.wireBurst stream).2 = .ok () ↔ ∃ frames, Fits frames ∧ stream = burstStream frames := by
  have fit := framesFit_iff stream.length stream (Nat.le_refl _)
  simp only [HostBus.wireBurst, ready, Bool.not_true, Bool.false_eq_true, if_false]
  split
  next long =>
    refine iff_of_false (fun same => by cases same) ?_
    rintro ⟨frames, fits, rfl⟩
    exact absurd fits.size (Nat.not_le_of_lt long)
  next short =>
    split
    next bad =>
      refine iff_of_false (fun same => by cases same) ?_
      rintro ⟨frames, fits, rfl⟩
      have whole := fit.mpr ⟨frames, fits.framed, rfl⟩
      cases frames with
      | nil => exact fits.some rfl
      | cons frame rest =>
        rw [whole] at bad
        simp [burstStream_cons] at bad
    next good =>
      refine iff_of_true rfl ?_
      simp only [Bool.or_eq_true, List.isEmpty_iff, Bool.not_eq_true', not_or, Bool.not_eq_false] at good
      obtain ⟨frames, framed, rfl⟩ := fit.mp good.2
      refine ⟨frames, ⟨?_, framed, Nat.le_of_not_lt short⟩, rfl⟩
      rintro rfl
      exact good.1 rfl

theorem wireBurst_refused (bus : HostBus) (stream : List UInt8) (refused : (bus.wireBurst stream).2 ≠ .ok ()) :
    (bus.wireBurst stream).1 = bus := by
  have either : (bus.wireBurst stream).1 = bus ∨ (bus.wireBurst stream).2 = .ok () := by
    unfold HostBus.wireBurst
    repeat' split
    all_goals first | exact .inl rfl | exact .inr rfl
  exact either.resolve_right refused

theorem wireBurst_sends (staged : bus.Staged) (ready : bus.ready = true) (fits : Fits frames) :
    OnBurst bus frames 0 (bus.wireBurst (burstStream frames)).1 := by
  obtain ⟨frame, rest, split⟩ := List.exists_cons_of_ne_nil fits.some
  obtain ⟨idle, done, wire⟩ := HostBus.ready_iff.mp ready
  have framed : Framed frame := fits.framed frame (by rw [split]; exact List.mem_cons_self)
  have train : bus.wireJob.train = none := staged (by rw [idle]; nofun)
  have some : (burstStream frames).isEmpty = false := by rw [split]; rfl
  have whole := (framesFit_iff _ _ (Nat.le_refl _)).mpr ⟨frames, fits.framed, rfl⟩
  simp only [HostBus.wireBurst, ready, Bool.not_true, Bool.false_eq_true, if_false, if_neg (Nat.not_lt_of_le fits.size),
    some, whole, Bool.or_false]
  have opened : frames = [] ++ frame :: rest := split
  rw [wireNextFrame_burst (show _ = burstStream ([] ++ frame :: rest) by rw [← split]; rfl) rfl framed]
  have said := burstDrives_next opened
  refine .sending opened rfl ?_ rfl ?_ done wire
  next =>
    rw [← List.length_nil, said]
    simp [HostBus.drive, frameDrives]
  next => simp [HostBus.drive, train]

theorem Bursting.onBurst (start : OnBurst bus frames 0 first) (framed : ∀ frame ∈ frames, Framed frame)
    (bursting : Bursting first after log) :
    OnBurst bus frames (drains log) after ∧ ∀ mark ∈ log, mark.2 = .quiet ∨ mark.2 = .refused .busy := by
  induction bursting with
  | taken => exact ⟨start, nofun⟩
  | @step during after log op io answer before stepped goes ih =>
    obtain ⟨on, alone⟩ := ih
    obtain ⟨later, answered⟩ := on.stepped framed stepped goes
    have count : drains (log ++ [(op, answer)]) = drains log + if op.drained then 1 else 0 := by
      rw [drains, List.countP_append, List.countP_singleton]
      rfl
    refine ⟨count ▸ later, fun mark member => ?_⟩
    obtain inside | last := List.mem_append.mp member
    next => exact alone mark inside
    next =>
      rw [List.mem_singleton.mp last]
      exact answered

theorem burst_carried (staged : bus.Staged) (ready : bus.ready = true) (fits : Fits frames)
    (bursting : Bursting (bus.wireBurst (burstStream frames)).1 after log) : Carried bus frames after log := by
  obtain ⟨on, alone⟩ := bursting.onBurst (wireBurst_sends staged ready fits) fits.framed
  refine ⟨on.tx, alone, fun few io => ?_, fun past io => ?_⟩
  next =>
    obtain ⟨-, quiet⟩ | ⟨past, -⟩ := on.polled io
    next => exact quiet
    next => exact absurd past (Nat.not_le_of_lt few)
  next =>
    obtain ⟨few, -⟩ | ⟨-, ended⟩ := on.polled io
    next => exact absurd past (Nat.not_le_of_lt few)
    next => exact ended

end Burst

end OpenServo.Host