import OpenServo.Bus.Unhidden

set_option autoImplicit false

namespace OpenServo.Bus

open OpenServo.Core OpenServo.Protocol OpenServo.Shared

theorem Move.glance_or_aside {wake : Wake} {servo after : Servo} (move : Move wake servo after) :
    Glance wake servo after ∨ Aside servo.bus after.bus := by
  cases move with
  | quiet bus quiet => exact .inr quiet.aside
  | look framerAt silent => exact .inl (.look framerAt silent)
  | covered span endDue out => exact .inl (.covered span endDue out)
  | ended span out => exact .inl (.ended span out)
  | yieldReply => exact .inr (aside_yieldReply servo.bus)
  | breakObserved => exact .inr (aside_routeChain servo.bus _)
  | chainDue now => exact .inr (aside_chainDue servo.bus now)
  | calBreak now => exact .inr (aside_calBreak servo.bus now)
  | abandonCal => exact .inr (aside_abandonCal servo.bus)

/-- A wake that drives the framer: the fault service outside a calibration train, or the framer's slot. -/
def Drives (servo : Servo) : BusEvent → Prop
  | .brk _ => servo.bus.clock.calActive = false
  | .deadline wake => due (wake.now servo.bus.reads) servo.bus.framerAt = true
  | .txComplete _ | .rescueBreak _ => False

instance (servo : Servo) (event : BusEvent) : Decidable (Drives servo event) := by
  cases event <;> unfold Drives <;> infer_instance

section Drive

variable {wake : Wake}

theorem driveFramer_glance (servo : Servo) :
    ∃ after, Glance wake servo after ∧ Moves wake after (servo.driveFramer wake) := by
  rw [Servo.driveFramer, show framesPerWake = 15 + 1 by rfl, Servo.driveLoop]
  simp only [ServoBus.readNow, ServoBus.readCursor]
  split
  next out => exact ⟨_, .look none (by simp [Servo.resolve, out]), .refl⟩
  next tick out => exact ⟨_, .look (some tick) (by simp [Servo.resolve, out]), .refl⟩
  next span endDue out => exact ⟨_, .covered span endDue out, .refl⟩
  next span out => exact ⟨_, .ended span out, driveLoop_moves _ _⟩

structure Opens (wake : Wake) (servo last : Servo) : Prop where
  first : ∃ early after, Moves wake servo early ∧ Aside servo.bus early.bus ∧
    Glance wake early after ∧ Moves wake after last

theorem opens_driveFramer {servo early last : Servo} (moves : Moves wake servo early)
    (aside : Aside servo.bus early.bus) (rest : Moves wake (early.driveFramer wake) last) :
    Opens wake servo last := by
  obtain ⟨after, glance, driven⟩ := @driveFramer_glance wake early
  exact ⟨early, after, moves, aside, glance, driven.trans rest⟩

theorem onBreak_opens {servo : Servo} (idle : servo.bus.clock.calActive = false) :
    Opens wake servo (servo.onBreak wake) := by
  obtain ⟨bus, session⟩ := servo
  have read := quiet_read bus (bus.reads + 1) (Nat.le_succ _)
  have fault := @quiet_wireFault wake { bus with reads := bus.reads + 1 } (wake.now bus.reads)
  refine opens_driveFramer (Move.quiet _ (read.trans fault)).moves (read.trans fault).aside ?_
  change bus.clock.calActive = false at idle
  simp only [Servo.onBreak, ServoBus.readNow, idle, Bool.false_eq_true, if_false]
  generalize (Servo.wireFault { bus with reads := bus.reads + 1 } wake (wake.now bus.reads)).2 = fresh
  generalize Servo.driveFramer _ wake = servo
  have again : Moves wake servo { servo with bus := Servo.recheck servo.bus fresh (wake.now bus.reads) } :=
    (Move.quiet _ (quiet_recheck servo.bus fresh _)).moves
  refine ((again.tail .yieldReply).tail (.breakObserved (wake.now bus.reads))).tail ?_
  exact .quiet _ (quiet_armDeadline _)

theorem onDeadline_opens {servo : Servo} (framer : due (wake.now servo.bus.reads) servo.bus.framerAt = true) :
    Opens wake servo (servo.onDeadline wake) := by
  obtain ⟨bus, session⟩ := servo
  have read := quiet_read bus (bus.reads + 1) (Nat.le_succ _)
  have dropped := aside_abandonCal { bus with reads := bus.reads + 1 }
  refine opens_driveFramer ((Move.quiet _ read).moves.tail .abandonCal) (read.aside.trans dropped) ?_
  refine Relation.ReflTransGen.tail ?_ (.quiet _ (quiet_armDeadline _))
  have chained (servo : Servo) (now : UInt32) : Moves wake servo (servo.chainSlot wake now) := by
    rw [Servo.chainSlot]
    split
    next => exact (Move.chainDue now).moves
    next => exact .refl
  have slot : Servo.framerSlot ⟨{ bus with reads := bus.reads + 1 }, session⟩ wake (wake.now bus.reads) =
      Servo.framerDue ⟨{ bus with reads := bus.reads + 1 }, session⟩ wake := if_pos framer
  rw [show deadlineDrainMax = 7 + 1 by rfl, Servo.drain]
  simp only [ServoBus.readNow, slot]
  change due (wake.now bus.reads) bus.framerAt = true at framer
  rw [framer, Bool.true_or, if_pos rfl]
  exact (chained _ _).trans (drain_moves _ _)

theorem opens_of_drives {servo : Servo} {event : BusEvent} (drives : Drives servo event) :
    Opens event.wake servo (busStep servo event) := by
  cases event with
  | brk wake => exact onBreak_opens drives
  | deadline wake => exact onDeadline_opens drives
  | txComplete | rescueBreak => exact drives.elim

end Drive

def Frontier.stake (frontier : Frontier) (mark : Nat) : Nat :=
  (if frontier.observed = true ∧ frontier.seen = mark then 1 else 0) + (if frontier.covered = true then 1 else 0)

theorem Frontier.stake_le (frontier : Frontier) (mark : Nat) : frontier.stake mark ≤ 2 := by
  simp only [Frontier.stake]
  split <;> split <;> omega

/-- How far a ladder that looks at one cursor has come: each byte it passes counts for three, for it may first be
looked at, and then be covered, before it is given up. -/
def stake (mark : Nat) (bus : ServoBus) : Nat :=
  3 * bus.trace.spot + bus.framer.frontier.stake mark

theorem stake_bounds (mark : Nat) (bus : ServoBus) :
    3 * bus.trace.spot ≤ stake mark bus ∧ stake mark bus ≤ 3 * bus.trace.spot + 2 := by
  have := bus.framer.frontier.stake_le mark
  simp only [stake]
  omega

theorem Aside.stake_eq {mark : Nat} {early late : ServoBus} (aside : Aside early late) :
    stake mark late = stake mark early := by
  simp only [stake, aside.spot, aside.frontier]

theorem stake_lt_of_spot {mark : Nat} {early late : ServoBus} (moved : early.trace.spot < late.trace.spot) :
    stake mark early < stake mark late := by
  have := (stake_bounds mark early).2
  have := (stake_bounds mark late).1
  omega

/-- No byte comes any more, or enough of them have come to end whatever starts at `p` or before. -/
def Calm (feed : Feed) (p since : Nat) : Prop :=
  (∀ n, since ≤ n → feed.pos n = feed.pos since) ∨ p + 258 ≤ feed.pos since

theorem Calm.cursor {feed : Feed} {p since n : Nat} (calm : Calm feed p since) (later : since ≤ n) :
    feed.pos n = feed.pos since ∨ p + 258 ≤ feed.pos n := by
  rcases calm with silent | past
  next => exact .inl (silent n later)
  next => exact .inr (Nat.le_trans past (feed.advances later))

section Stake

variable {stream : Nat → UInt8} {len spot pos p next level : Nat} {now tpb : UInt32} {framer : Framer}
  {result : Framer × FramerOut}

theorem Partial.short (unfinished : Partial stream spot pos) : pos < spot + 258 := by
  have high := footprint_le (stream (spot + 2))
  simp only [Partial, headerSpanBytes, sizeAt] at unfinished
  omega

/-- A look that finds the ladder before `p`, with the frame at `p` whole, moves it on or marks the candidate it stands
on; a starved candidate it has marked before it gives up. -/
theorem Landing.raises (landing : Landing stream len spot pos now tpb framer next result)
    (geometry : Geometry stream p) (before : spot ≤ p) (whole : p + sizeAt stream p ≤ pos)
    (calm : pos = level ∨ p + 258 ≤ pos) :
    spot < next ∨ next = spot ∧
      framer.frontier.stake (level % len) ≤ result.1.frontier.stake (level % len) ∧
      ((framer.frontier.observed = true →
        tickReached now (framer.frontier.progressTick + starveSpan tpb) = true) →
        framer.frontier.stake (level % len) < result.1.frontier.stake (level % len)) := by
  have size := geometry.size_le
  have marked (unfinished : pos < spot + 258) (mark : Bool) :
      pos = level ∧ Frontier.stake { framer.frontier.advance (pos % len) now with covered := mark } (level % len) =
        1 + if mark = true then 1 else 0 := by
    have same : pos = level := by omega
    subst same
    simp only [Frontier.stake, Frontier.advance, true_and]
    split
    next unmoved => simp [unmoved]
    next => simp
  cases landing with
  | idle level => omega
  | exhausted skipped moved => exact .inl moved
  | paused stop skipped moved short => exact .inl moved
  | stayed _ _ short likely settled =>
    cases settled with
    | gaveUp => exact .inl (Nat.lt_succ_self _)
    | frame readable whole => exact .inl (by simp only [sizeAt, footprint]; omega)
    | waits tick unfinished alive =>
      obtain ⟨rfl, after⟩ := marked unfinished.short framer.frontier.covered
      have same : { framer.frontier.advance (pos % len) now with covered := framer.frontier.covered } =
          framer.frontier.advance (pos % len) now := by
        simp only [Frontier.advance]
        split <;> rfl
      rw [same] at after
      refine .inr ⟨rfl, ?_, fun starved => ?_⟩
      next =>
        rw [after, Frontier.stake]
        split <;> omega
      next =>
        -- Had the candidate been marked, the horizon would have been passed.
        have unmarked : ¬ (framer.frontier.observed = true ∧ framer.frontier.seen = pos % len) := by
          intro marks
          rw [alive marks.1 marks.2] at starved
          exact Bool.false_ne_true (starved marks.1)
        rw [after, Frontier.stake, if_neg unmarked]
        omega
    | covered packetEnd fresh readable near unfinished =>
      have part : Partial stream spot pos := .inr unfinished
      obtain ⟨rfl, after⟩ := marked part.short true
      have grown : framer.frontier.stake (pos % len) < 2 := by
        rw [Frontier.stake, fresh]
        split <;> simp
      refine .inr ⟨rfl, ?_, fun _ => ?_⟩ <;> rw [after] <;> simp <;> omega
  | found stop _ _ skipped moved short likely settled =>
    exact .inl (Nat.lt_of_lt_of_le moved (settled.bounds short).1)

end Stake

section Handler

variable {feed : Feed} {len p since floor last stakes : Nat} {wake : Wake} {tpb : UInt32} {servo after : Servo}
  {uid : List UInt8} {start : Standing}

theorem Turn.resume (turn : Turn feed len p wake floor tpb last) {higher : Nat} (above : floor ≤ higher) :
    Turn feed len p wake higher tpb last := by
  obtain ⟨high, near, shows, bound⟩ := turn.shows
  exact ⟨turn.ring, turn.cursor, turn.now, turn.drains, ⟨high, by omega, shows, bound⟩, turn.alive⟩

theorem Tended.climbs (shape : RingShape len) (turn : Turn feed len p wake floor tpb last)
    (frame : WellFormedAt feed.stream p) (instruction : Inst.isStatus (feed.stream (p + 3)) = false)
    (tended : Tended feed len p uid start floor tpb servo) (move : Move wake servo after)
    (within : after.bus.reads ≤ last) (fresh : after.bus.trace.AllFresh)
    (clear : after.bus.trace.Clear feed.stream p) : servo.bus.trace.spot ≤ after.bus.trace.spot := by
  have here : Tended feed len p uid start servo.bus.trace.spot tpb servo :=
    ⟨tended.attributed, tended.follows, Nat.le_refl _, tended.pace, tended.unlost⟩
  exact (here.move shape (turn.resume tended.above) frame instruction move within fresh clear).above

/-- The frame at `p` is whole in the ring, and what can still come does not keep a candidate waiting. -/
structure Whole (feed : Feed) (p since : Nat) : Prop where
  received : p + sizeAt feed.stream p ≤ feed.pos since
  calm : Calm feed p since

theorem Tended.looks_up (shape : RingShape len) (turn : Turn feed len p wake floor tpb last)
    (frame : WellFormedAt feed.stream p) (whole : Whole feed p since)
    (tended : Tended feed len p uid start floor tpb servo) (begun : since ≤ servo.bus.reads)
    (within : servo.bus.reads + 1 < last) (before : servo.bus.trace.spot ≤ p) :
    stake (feed.pos since % len) servo.bus ≤ stake (feed.pos since % len) (servo.looked wake).bus ∧
      ((servo.bus.framer.frontier.observed = true → tickReached (wake.now servo.bus.reads)
          (servo.bus.framer.frontier.progressTick + starveSpan servo.bus.tpb) = true) →
        stake (feed.pos since % len) servo.bus < stake (feed.pos since % len) (servo.looked wake).bus) := by
  have landing := tended.follows.landing shape turn tended.above within
  have later : since ≤ servo.bus.reads + 1 := Nat.le_succ_of_le begun
  have received := Nat.le_trans whole.received (feed.advances later)
  rcases landing.raises ⟨frame.brk, frame.isPlausible⟩ before received (whole.calm.cursor later) with
    moved | ⟨stayed, kept, raised⟩
  next =>
    have more := @stake_lt_of_spot (feed.pos since % len) _ _ moved
    exact ⟨Nat.le_of_lt more, fun _ => more⟩
  next =>
    have frontier : (servo.looked wake).bus.framer.frontier = (servo.resolve wake).1.frontier := rfl
    rw [turn.now]
    simp only [stake, stayed, frontier]
    exact ⟨Nat.add_le_add_left kept _, fun starved => Nat.add_lt_add_left (raised starved) _⟩

theorem Tended.raises (shape : RingShape len) (turn : Turn feed len p wake floor tpb last)
    (frame : WellFormedAt feed.stream p) (instruction : Inst.isStatus (feed.stream (p + 3)) = false)
    (whole : Whole feed p since) (tended : Tended feed len p uid start floor tpb servo)
    (begun : since ≤ servo.bus.reads) (before : servo.bus.trace.spot ≤ p) (glance : Glance wake servo after)
    (within : after.bus.reads ≤ last) (fresh : after.bus.trace.AllFresh)
    (clear : after.bus.trace.Clear feed.stream p) :
    stake (feed.pos since % len) servo.bus ≤ stake (feed.pos since % len) after.bus ∧
      ((servo.bus.framer.frontier.observed = true → tickReached (wake.now servo.bus.reads)
          (servo.bus.framer.frontier.progressTick + starveSpan servo.bus.tpb) = true) →
        stake (feed.pos since % len) servo.bus < stake (feed.pos since % len) after.bus) := by
  cases glance with
  | look framerAt silent => exact tended.looks_up shape turn frame whole begun within before
  | covered span endDue out =>
    have aside := @aside_covered wake
      ⟨{ (servo.looked wake).bus with framerAt := some endDue }, (servo.looked wake).session⟩ span
    have looks : servo.bus.reads + 1 < last := Nat.le_trans aside.reads within
    rw [aside.stake_eq]
    exact tended.looks_up shape turn frame whole begun looks before
  | ended span out =>
    have looks : servo.bus.reads + 1 < last :=
      Nat.le_trans (@onFrameEnd_grows wake (servo.looked wake) span).reads within
    obtain ⟨-, moved, -⟩ := tended.follows.ended shape turn tended.above looks tended.pace frame
      instruction tended.attributed out fresh clear tended.unlost
    have more := @stake_lt_of_spot (feed.pos since % len) _ _ moved
    exact ⟨Nat.le_of_lt more, fun _ => more⟩

def Reached (feed : Feed) (len p since stakes : Nat) (bus : ServoBus) : Prop :=
  p < bus.trace.spot ∨ stakes ≤ stake (feed.pos since % len) bus

theorem Tended.reached (shape : RingShape len) (turn : Turn feed len p wake floor tpb last)
    (frame : WellFormedAt feed.stream p) (instruction : Inst.isStatus (feed.stream (p + 3)) = false)
    (whole : Whole feed p since) (tended : Tended feed len p uid start floor tpb servo)
    (begun : since ≤ servo.bus.reads) (move : Move wake servo after)
    (within : after.bus.reads ≤ last) (fresh : after.bus.trace.AllFresh)
    (clear : after.bus.trace.Clear feed.stream p) (reached : Reached feed len p since stakes servo.bus) :
    Reached feed len p since stakes after.bus := by
  have climbs := tended.climbs shape turn frame instruction move within fresh clear
  by_cases past : p < servo.bus.trace.spot
  next => exact .inl (by omega)
  next =>
    have staked := reached.resolve_left past
    rcases move.glance_or_aside with glance | aside
    next =>
      exact .inr (Nat.le_trans staked (tended.raises shape turn frame instruction whole begun (by omega) glance
        within fresh clear).1)
    next =>
      refine .inr ?_
      rw [aside.stake_eq]
      exact staked

end Handler

/-- A wake that drives the framer a horizon after the last byte it saw come in. -/
structure Stirs (servo : Servo) (event : BusEvent) : Prop where
  drives : Drives servo event
  starved : servo.bus.framer.frontier.observed = true →
    ∀ n < (busStep servo event).bus.reads, servo.bus.reads ≤ n → tickReached (event.wake.now n)
      (servo.bus.framer.frontier.progressTick + starveSpan servo.bus.tpb) = true

instance (servo : Servo) (event : BusEvent) : Decidable (Stirs servo event) :=
  decidable_of_iff (Drives servo event ∧ (servo.bus.framer.frontier.observed = true →
    ∀ n < (busStep servo event).bus.reads, servo.bus.reads ≤ n → tickReached (event.wake.now n)
      (servo.bus.framer.frontier.progressTick + starveSpan servo.bus.tpb) = true))
    ⟨fun both => ⟨both.1, both.2⟩, fun stirs => ⟨stirs.drives, stirs.starved⟩⟩

def stirs : Servo → List BusEvent → Nat
  | _, [] => 0
  | servo, event :: events => (if Stirs servo event then 1 else 0) + stirs (busStep servo event) events

section Run

variable {feed : Feed} {len p since stakes : Nat} {servo : Servo} {uid : List UInt8} {start : Standing}
  {event : BusEvent}

theorem run_grows (servo : Servo) (events : List BusEvent) : Grows servo.bus (run busStep servo events).bus :=
  run_invariant busStep (fun _ _ => True) (fun after => Grows servo.bus after.bus)
    (fun _ event before _ => before.trans (busStep_grows _ event)) servo (.refl _) events
    (meets_trivial busStep servo events)

theorem Glance.reads {wake : Wake} {after : Servo} (glance : Glance wake servo after) :
    servo.bus.reads < after.bus.reads := by
  have two : servo.bus.reads < (servo.looked wake).bus.reads := Nat.lt_succ_of_lt (Nat.lt_succ_self _)
  cases glance with
  | look framerAt silent => exact two
  | covered span endDue out =>
    exact Nat.lt_of_lt_of_le two (@aside_covered wake
      ⟨{ (servo.looked wake).bus with framerAt := some endDue }, (servo.looked wake).session⟩ span).reads
  | ended span out =>
    exact Nat.lt_of_lt_of_le two (@onFrameEnd_grows wake (servo.looked wake) span).reads

theorem Tended.moves {wake : Wake} {mid later : Servo} {floor last : Nat} {tpb : UInt32} (shape : RingShape len)
    (frame : WellFormedAt feed.stream p) (instruction : Inst.isStatus (feed.stream (p + 3)) = false)
    (whole : Whole feed p since) (turn : Turn feed len p wake floor tpb last) (within : later.bus.reads ≤ last)
    (fresh : later.bus.trace.AllFresh) (clear : later.bus.trace.Clear feed.stream p)
    (tended : Tended feed len p uid start floor tpb mid) (begun : since ≤ mid.bus.reads)
    (moves : Moves wake mid later) (reached : Reached feed len p since stakes mid.bus) :
    Tended feed len p uid start floor tpb later ∧ Reached feed len p since stakes later.bus := by
  have all := @moves_within wake mid (fun mid => Tended feed len p uid start floor tpb mid ∧
    since ≤ mid.bus.reads ∧ Reached feed len p since stakes mid.bus) later ?_ moves ⟨tended, begun, reached⟩
  next => exact ⟨all.1, all.2.2⟩
  next =>
    intro mid after inv move grows
    obtain ⟨tended, begun, reached⟩ := inv
    have fresh := fresh.before grows
    have clear := clear.before grows
    have within := Nat.le_trans grows.reads within
    exact ⟨tended.move shape turn frame instruction move within fresh clear,
      Nat.le_trans begun (move_grows move).reads,
      tended.reached shape turn frame instruction whole begun move within fresh clear reached⟩

theorem Served.stirred (shape : RingShape len) (frame : WellFormedAt feed.stream p)
    (instruction : Inst.isStatus (feed.stream (p + 3)) = false) (whole : Whole feed p since)
    (served : Served feed len p uid start servo) (fed : Fed feed len p servo event)
    (fresh : (busStep servo event).bus.trace.AllFresh) (clear : (busStep servo event).bus.trace.Clear feed.stream p)
    (begun : since ≤ servo.bus.reads) (stirs : Stirs servo event)
    (reached : Reached feed len p since stakes servo.bus) :
    Reached feed len p since (stakes + 1) (busStep servo event).bus := by
  obtain ⟨early, after, moves, aside, glance, rest⟩ := (opens_of_drives stirs.drives).first
  have grows := moves_grows rest
  have looks := (move_grows glance.move).trans grows
  have here : Tended feed len p uid start servo.bus.trace.spot servo.bus.tpb servo :=
    ⟨served.attributed, served.follows, Nat.le_refl _, rfl, served.unlost⟩
  obtain ⟨tended, staked⟩ := here.moves shape frame instruction whole fed.turn looks.reads (fresh.before looks)
    (clear.before looks) begun moves reached
  have later : since ≤ early.bus.reads := Nat.le_trans begun aside.reads
  have next := tended.move shape fed.turn frame instruction glance.move grows.reads (fresh.before grows)
    (clear.before grows)
  refine (next.moves shape frame instruction whole fed.turn (Nat.le_refl _) fresh clear
    (Nat.le_trans later (move_grows glance.move).reads) rest ?_).2
  by_cases past : p < early.bus.trace.spot
  next =>
    exact .inl (Nat.lt_of_lt_of_le past (tended.climbs shape fed.turn frame instruction glance.move grows.reads
      (fresh.before grows) (clear.before grows)))
  next =>
    have raised := (tended.raises shape fed.turn frame instruction whole later (by omega) glance grows.reads
      (fresh.before grows) (clear.before grows)).2
    refine .inr (Nat.lt_of_le_of_lt (staked.resolve_left past) (raised ?_))
    rw [aside.frontier, aside.tpb]
    intro observed
    exact stirs.starved observed _ (Nat.lt_of_lt_of_le glance.reads grows.reads) aside.reads

theorem Served.reached (shape : RingShape len) (frame : WellFormedAt feed.stream p)
    (instruction : Inst.isStatus (feed.stream (p + 3)) = false) (whole : Whole feed p since)
    (served : Served feed len p uid start servo) (fed : Fed feed len p servo event)
    (fresh : (busStep servo event).bus.trace.AllFresh) (clear : (busStep servo event).bus.trace.Clear feed.stream p)
    (begun : since ≤ servo.bus.reads) (reached : Reached feed len p since stakes servo.bus) :
    Reached feed len p since stakes (busStep servo event).bus := by
  have here : Tended feed len p uid start servo.bus.trace.spot servo.bus.tpb servo :=
    ⟨served.attributed, served.follows, Nat.le_refl _, rfl, served.unlost⟩
  cases event with
  | brk wake =>
    exact (here.moves shape frame instruction whole fed.turn (Nat.le_refl _) fresh clear begun
      (onBreak_moves servo) reached).2
  | deadline wake =>
    exact (here.moves shape frame instruction whole fed.turn (Nat.le_refl _) fresh clear begun
      (onDeadline_moves servo) reached).2
  | txComplete wake =>
    have aside := @aside_onTxComplete wake servo.bus
    rcases reached with past | staked
    next => exact .inl (Nat.lt_of_lt_of_eq past aside.spot.symm)
    next => exact .inr (Nat.le_trans staked (Nat.le_of_eq aside.stake_eq.symm))
  | rescueBreak wake =>
    -- The frame is in the ring, so a rescue finds it consumed.
    have size := (Geometry.mk frame.brk frame.isPlausible).size_le
    have received := Nat.le_trans whole.received (feed.advances begun)
    have climbs : servo.bus.trace.spot ≤ (servo.bus.onRescueBreak wake).trace.spot := by
      unfold ServoBus.onRescueBreak
      split
      next => exact Nat.le_refl _
      next => exact Nat.le_add_right _ _
    rcases fed.rescued wake rfl with past | early
    next => exact .inl (Nat.lt_of_lt_of_le past climbs)
    next => omega

theorem Served.run (shape : RingShape len) (frame : WellFormedAt feed.stream p)
    (instruction : Inst.isStatus (feed.stream (p + 3)) = false) (served : Served feed len p uid start servo)
    (events : List BusEvent) (fed : Meets busStep (Fed feed len p) servo events)
    (fresh : (run busStep servo events).bus.trace.AllFresh)
    (clear : (run busStep servo events).bus.trace.Clear feed.stream p) :
    Served feed len p uid start (run busStep servo events) := by
  induction events generalizing servo with
  | nil => exact served
  | cons event events ih =>
    have grows := run_grows (busStep servo event) events
    exact ih (served.step shape frame instruction fed.1 (fresh.before grows) (clear.before grows)) fed.2 fresh clear

theorem Served.run_reached (shape : RingShape len) (frame : WellFormedAt feed.stream p)
    (instruction : Inst.isStatus (feed.stream (p + 3)) = false) (whole : Whole feed p since)
    (served : Served feed len p uid start servo) (events : List BusEvent)
    (fed : Meets busStep (Fed feed len p) servo events) (fresh : (Shared.run busStep servo events).bus.trace.AllFresh)
    (clear : (Shared.run busStep servo events).bus.trace.Clear feed.stream p) (begun : since ≤ servo.bus.reads)
    (reached : Reached feed len p since stakes servo.bus) :
    Reached feed len p since (stakes + stirs servo events) (Shared.run busStep servo events).bus := by
  induction events generalizing servo stakes with
  | nil => exact reached
  | cons event events ih =>
    have grows := run_grows (busStep servo event) events
    have early := fresh.before grows
    have bare := clear.before grows
    have next : Reached feed len p since (stakes + if Stirs servo event then 1 else 0) (busStep servo event).bus := by
      split
      next stirs => exact served.stirred shape frame instruction whole fed.1 early bare begun stirs reached
      next => exact served.reached shape frame instruction whole fed.1 early bare begun reached
    rw [stirs, ← Nat.add_assoc]
    exact ih (served.step shape frame instruction fed.1 early bare) fed.2 fresh clear
      (Nat.le_trans begun (busStep_grows servo event).reads) next

end Run

theorem boot_served {len : Nat} (shape : RingShape len) (feed : Feed) (p : Nat) (ticksPerUs : UInt32) (id : UInt8)
    (rate : BaudRate) (responseDeadlineUs : UInt16) (table : ControlTable) (uid : List UInt8) :
    Served feed len p uid (servoBoot ticksPerUs id rate responseDeadlineUs (boot table uid)).standing
      (servoBoot ticksPerUs id rate responseDeadlineUs (boot table uid)) := by
  refine ⟨boot_attributed shape ticksPerUs id rate responseDeadlineUs table uid, ⟨?_, ?_, ?_⟩, ?_⟩
  next => exact (Nat.zero_mod len).symm
  next => exact Nat.zero_le _
  next => exact recalls_idle rfl
  next => exact .inl (Nat.zero_le _)

structure Due (feed : Feed) (p : Nat) (servo : Servo) (events : List BusEvent) : Prop where
  whole : Whole feed p servo.bus.reads
  enough : 3 * (p + 1) ≤ stirs servo events

/-- In every run whose verdicts are fresh, and in which no bad status frame was strode over with `p` inside it, the
instruction frame at `p` is never lost, and once it is due it is answered. -/
theorem instruction_not_hidden {len : Nat} (shape : RingShape len) (feed : Feed) (p : Nat) (ticksPerUs : UInt32)
    (id : UInt8) (rate : BaudRate) (responseDeadlineUs : UInt16) (table : ControlTable) (uid : List UInt8)
    (events : List BusEvent) (frame : WellFormedAt feed.stream p)
    (instruction : Inst.isStatus (feed.stream (p + 3)) = false)
    (fed : Meets busStep (Fed feed len p)
      (servoBoot ticksPerUs id rate responseDeadlineUs (boot table uid)) events)
    (fresh : (run busStep (servoBoot ticksPerUs id rate responseDeadlineUs (boot table uid)) events).bus.trace.AllFresh)
    (clear : (run busStep (servoBoot ticksPerUs id rate responseDeadlineUs (boot table uid)) events).bus.trace.Clear
      feed.stream p) :
    Unlost feed.stream p
        (run busStep (servoBoot ticksPerUs id rate responseDeadlineUs (boot table uid)) events).bus.trace ∧
      ∀ early late, events = early ++ late →
        Due feed p (run busStep (servoBoot ticksPerUs id rate responseDeadlineUs (boot table uid)) early) late →
        Answered feed.stream p
            (run busStep (servoBoot ticksPerUs id rate responseDeadlineUs (boot table uid)) events).bus.trace ∨
          Enclosed feed.stream p := by
  have booted := boot_served shape feed p ticksPerUs id rate responseDeadlineUs table uid
  generalize servoBoot ticksPerUs id rate responseDeadlineUs (boot table uid) = servo at *
  have unlost := (booted.run shape frame instruction events fed fresh clear).unlost
  refine ⟨unlost, ?_⟩
  intro early late split due
  subst split
  rw [meets_append] at fed
  rw [run_append] at fresh clear unlost ⊢
  have grows := run_grows (run busStep servo early) late
  have served := booted.run shape frame instruction early fed.1 (fresh.before grows) (clear.before grows)
  have reached := served.run_reached shape frame instruction due.whole late fed.2 fresh clear (Nat.le_refl _)
    (.inr (Nat.zero_le _))
  refine unlost.resolve_left ?_
  intro behind
  have enough := due.enough
  have bounds := stake_bounds (feed.pos (run busStep servo early).bus.reads % len)
    (run busStep (run busStep servo early) late).bus
  rcases reached with past | staked
  next => omega
  next => omega

def behindHeader (header : List UInt8) : List UInt8 :=
  header ++ [0x00, 0x05, 0x07, 0x34, 0x02, 0x01, 0x11, 0x33, 0xF9, 0x4E] ++ List.replicate (502 - header.length) 0x55

/-- The whole of it is ringed before the first wake, and nothing comes after it. -/
def headerFeed (header : List UInt8) : Feed where
  stream q := (behindHeader header).getD q 0
  pos _ := header.length + 10
  tick _ := 0
  advances _ _ _ := Nat.le_refl _

def headerRun (header : List UInt8) : List BusEvent :=
  List.replicate 21 (.brk (steady (behindHeader header) (header.length + 10) 0))

theorem headerRun_fed {header : List UInt8} (short : header.length ≤ 10)
    (size : sizeAt (headerFeed header).stream header.length = 10) :
    Meets busStep (Fed (headerFeed header) 512 header.length) servoFive (headerRun header) := by
  have length : (behindHeader header).length = 512 := by
    simp only [behindHeader, List.length_append, List.length_replicate, List.length_cons, List.length_nil]
    omega
  have turn (floor last : Nat) (tpb : UInt32) : Turn (headerFeed header) 512 header.length
      (steady (behindHeader header) (header.length + 10) 0) floor tpb last := by
    have inside : header.length + 10 < 512 := by omega
    refine ⟨length, fun _ => (Nat.mod_eq_of_lt inside).symm, fun _ => rfl, fun _ => Nat.zero_le _,
      ⟨header.length + 10, by omega, ?_, fun _ _ => Nat.le_refl _⟩, ?_⟩
    next =>
      intro q _ below
      have wrapped : q % (behindHeader header).length = q := Nat.mod_eq_of_lt (by omega)
      exact congrArg (fun k => (behindHeader header).getD k 0) wrapped
    next =>
      -- The frame is never met in part.
      intro m n _ _ _ inside
      rw [size] at inside
      exact absurd inside (Nat.lt_irrefl _)
  have fed (servo : Servo) : Fed (headerFeed header) 512 header.length servo
      (.brk (steady (behindHeader header) (header.length + 10) 0)) :=
    ⟨turn _ _ _, fun _ rescue => by cases rescue⟩
  have all (count : Nat) (servo : Servo) : Meets busStep (Fed (headerFeed header) 512 header.length) servo
      (List.replicate count (.brk (steady (behindHeader header) (header.length + 10) 0))) := by
    induction count generalizing servo with
    | zero => trivial
    | succ count ih => exact ⟨fed servo, ih _⟩
  exact all 21 servoFive

def shortHeader : List UInt8 := [0x00, 0x09, 0x03, 0x80, 0x55, 0x55]

theorem not_hidden_short :
    Answered (headerFeed shortHeader).stream 6 (run busStep servoFive (headerRun shortHeader)).bus.trace ∨
      Enclosed (headerFeed shortHeader).stream 6 := by
  have outcome : (run busStep servoFive (headerRun shortHeader)).bus.trace.AllFresh ∧
      (run busStep servoFive (headerRun shortHeader)).bus.trace.statuses = [(0, 6)] ∧
      21 ≤ stirs servoFive (headerRun shortHeader) := by
    decide +kernel
  have fed := @headerRun_fed shortHeader (by decide) (by decide +kernel)
  rw [servoFive] at outcome fed ⊢
  refine (@instruction_not_hidden 512 ⟨⟨9, rfl⟩, by decide, by decide⟩ (headerFeed shortHeader) 6 16 5 .b1000000 250
    (zeroStore _) [] (headerRun shortHeader) ⟨rfl, by decide +kernel, by decide +kernel⟩ (by decide +kernel) fed
    outcome.1 ?_).2 [] (headerRun shortHeader) rfl ⟨⟨by decide +kernel, .inl fun _ _ => rfl⟩, outcome.2.2⟩
  intro stride member _ past
  rw [outcome.2.1, List.mem_singleton] at member
  subst member
  exact absurd past (by decide)

def longHeader : List UInt8 := [0x00, 0x09, 0x0B, 0x80]

/-- Under a header with a longer LEN the same WRITE is strode over. -/
theorem long_header_hides :
    WellFormedAt (headerFeed longHeader).stream 4 ∧
      Inst.isStatus ((headerFeed longHeader).stream 7) = false ∧
      Meets busStep (Fed (headerFeed longHeader) 512 4) servoFive (headerRun longHeader) ∧
      (run busStep servoFive (headerRun longHeader)).bus.trace.AllFresh ∧
      Due (headerFeed longHeader) 4 servoFive (headerRun longHeader) ∧
      decode (frameView (behindHeader longHeader) 4 10) 5 = .own (.write 0x102 (.ofList [0x11, 0x33]) false) false 0 ∧
      (run busStep servoFive (headerRun longHeader)).bus.trace.effects = [] ∧
      ¬ Unlost (headerFeed longHeader).stream 4 (run busStep servoFive (headerRun longHeader)).bus.trace := by
  have outcome : (run busStep servoFive (headerRun longHeader)).bus.trace.rulings = [] ∧
      (run busStep servoFive (headerRun longHeader)).bus.trace.effects = [] ∧
      (run busStep servoFive (headerRun longHeader)).bus.trace.spot = 14 ∧
      15 ≤ stirs servoFive (headerRun longHeader) := by
    decide +kernel
  refine ⟨⟨rfl, by decide +kernel, by decide +kernel⟩, by decide +kernel, headerRun_fed (by decide) rfl, ?_,
    ⟨⟨by decide +kernel, .inl fun _ _ => rfl⟩, outcome.2.2.2⟩, by decide +kernel, outcome.2.1, ?_⟩
  next =>
    intro ruling member
    rw [outcome.1] at member
    cases member
  next =>
    rintro (ahead | ⟨ruling, member, -⟩ | ⟨q, low, inside, good⟩)
    next =>
      rw [outcome.2.2.1] at ahead
      omega
    next =>
      rw [outcome.1] at member
      cases member
    next =>
      have bad : ∀ q < 4, (headerFeed longHeader).stream q = 0 → ¬ CrcValid (headerFeed longHeader).stream q := by
        decide +kernel
      exact bad q low good.brk good.crc

end OpenServo.Bus
