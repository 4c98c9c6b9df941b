import OpenServo.Host.Capture

set_option autoImplicit false

namespace OpenServo.Host

open OpenServo.Shared

/-- A ring shows the last entries of what it captured. -/
structure CaptureRing.Shows (ring : CaptureRing) (captured : List UInt16) : Prop where
  length : ring.data.length = capLen
  pos : ring.pos = captured.length % capLen
  kept : Overwritten ring.data 0 captured

structure Side.Counts (side : Side) (tally : Tally) : Prop where
  pos : side.lastPos.toNat = tally.polled % capLen
  written : side.written = .ofNat tally.polled
  drained : side.drained = .ofNat tally.taken
  order : tally.taken ≤ tally.polled
  here : tally.polled ≤ tally.captured.length
  paced : tally.captured.length < tally.polled + capLen

section Ring

variable {ring : CaptureRing} {captured : List UInt16}

theorem CaptureRing.Shows.capture (shows : ring.Shows captured) (tick : UInt16) :
    (ring.capture tick).Shows (captured ++ [tick]) where
  length := by
    rw [CaptureRing.capture, List.length_set]
    exact shows.length
  pos := by
    rw [CaptureRing.capture, shows.pos, List.length_append, List.length_singleton, Nat.mod_add_mod]
  kept := by
    have written := shows.kept.write tick
    rw [shows.length, ← shows.pos] at written
    exact written

theorem CaptureRing.Shows.captures (shows : ring.Shows captured) (ticks : List UInt16) :
    (ticks.foldl CaptureRing.capture ring).Shows (captured ++ ticks) := by
  induction ticks generalizing ring captured with
  | nil => rwa [List.append_nil]
  | cons tick ticks ih =>
    rw [List.append_cons]
    exact ih (shows.capture tick)

theorem CaptureRing.Shows.read (shows : ring.Shows captured) {p : Nat} (there : p < captured.length)
    (recent : captured.length ≤ p + capLen) : ring.data.getD (p % capLen) 0 = captured.getD p 0 := by
  have read := shows.kept.read there (by rwa [shows.length])
  rwa [shows.length] at read

theorem CaptureRing.Shows.remaining (shows : ring.Shows captured) :
    ring.remaining.toNat = capLen - captured.length % capLen := by
  have small : capLen - ring.pos < 2 ^ 16 := Nat.lt_of_le_of_lt (Nat.sub_le _ _) (by decide)
  rw [CaptureRing.remaining, UInt16.toNat_ofNat', Nat.mod_eq_of_lt small, shows.pos]

end Ring

section Counts

variable {side : Side} {tally : Tally} {ring : CaptureRing}

theorem capLen_toNat : (UInt16.ofNat capLen).toNat = capLen :=
  rfl

theorem Side.Counts.accumulate (counts : side.Counts tally) (shows : ring.Shows tally.captured) :
    (side.accumulate ring.remaining).Sat (fun after => after.Counts tally.poll) := by
  have cap : capLen = 1024 := rfl
  have remaining := shows.remaining
  have before := counts.pos
  have here := counts.here
  have paced := counts.paced
  have now := Nat.mod_lt tally.captured.length (show 0 < capLen by decide)
  have last := Nat.mod_lt tally.polled (show 0 < capLen by decide)
  have first : (Checked.minus16 (.ofNat capLen) ring.remaining).Sat
      (fun pos => pos.toNat = tally.captured.length % capLen) := by
    refine (Checked.minus16_sat ?_).mono fun pos same => ?_
    next => rw [capLen_toNat]; omega
    next => rw [same, capLen_toNat]; omega
  refine first.bind fun pos pos_eq => ?_
  have second : (Checked.plus16 pos (.ofNat capLen)).Sat (fun ahead => ahead.toNat = pos.toNat + capLen) :=
    Checked.plus16_sat (by rw [capLen_toNat]; omega)
  refine second.bind fun ahead ahead_eq => ?_
  have third : (Checked.minus16 ahead side.lastPos).Sat (fun moved => moved.toNat = ahead.toNat - side.lastPos.toNat) :=
    Checked.minus16_sat (by omega)
  refine third.bind fun moved moved_eq => Checked.Sat.pure ?_
  -- The distance on the ring is that of the two polls, as less than a lap lies between them.
  have delta : (moved % .ofNat capLen).toNat = tally.captured.length - tally.polled := by
    rw [UInt16.toNat_mod, moved_eq, ahead_eq, pos_eq, before, capLen_toNat]
    exact wrapped_distance here paced
  refine ⟨pos_eq, ?_, counts.drained, ?_, Nat.le_refl _, Nat.lt_add_of_pos_right (by decide)⟩
  next =>
    have wide : (moved % .ofNat capLen).toUInt32 = .ofNat (tally.captured.length - tally.polled) := by
      rw [← delta, UInt32.ofNat_uInt16ToNat]
    show side.written + _ = UInt32.ofNat tally.captured.length
    rw [wide, counts.written, ← UInt32.ofNat_add, Nat.add_sub_cancel' here]
  next => exact counts.order.trans here

theorem Side.Counts.distance (counts : side.Counts tally) :
    (side.written - side.drained).toNat = tally.outstanding % 2 ^ 32 := by
  rw [counts.written, counts.drained, counter_distance counts.order]
  rfl

theorem Side.Counts.lapped (counts : side.Counts tally) :
    side.lapped = decide (capLen < tally.outstanding % 2 ^ 32) := by
  have distance := counts.distance
  rw [Side.lapped]
  apply decide_eq_decide.mpr
  rw [UInt32.lt_iff_toNat_lt, distance]
  rfl

end Counts

/-- The counters show the lap that there was, and where it is seen the written one is not below the ring's length. -/
def Tally.Seen (tally : Tally) : Prop :=
  capLen < tally.outstanding → capLen ≤ tally.outstanding % 2 ^ 32 ∧
    (capLen < tally.outstanding % 2 ^ 32 → capLen ≤ tally.polled % 2 ^ 32)

def Tally.Spares (tally : Tally) (n : Nat) (landing : Nat → List UInt16) : Prop :=
  ∀ k < n, tally.captured.length + ((List.range (k + 1)).flatMap landing).length ≤ tally.first + k + capLen

section Drain

variable {side : Side} {tally : Tally} {ring : CaptureRing}

theorem Tally.first_eq (tally : Tally) (order : tally.taken ≤ tally.polled) :
    tally.first = if capLen < tally.outstanding then tally.polled - capLen else tally.taken := by
  unfold first outstanding
  split <;> omega

theorem Tally.first_le (tally : Tally) (order : tally.taken ≤ tally.polled) : tally.first ≤ tally.polled :=
  Nat.max_le.mpr ⟨order, Nat.sub_le _ _⟩

theorem Side.Counts.realign (counts : side.Counts tally) (seen : tally.Seen) :
    side.realign.Sat (fun after => after.Counts { tally with taken := tally.first }) := by
  have order := tally.first_le counts.order
  have first := tally.first_eq counts.order
  suffices aligned : side.realign.Sat (fun after => after = { side with drained := .ofNat tally.first }) by
    refine aligned.mono fun after same => ?_
    subst same
    exact ⟨counts.pos, counts.written, rfl, order, counts.here, counts.paced⟩
  unfold Side.realign
  split
  next lapped =>
    rw [counts.lapped, decide_eq_true_eq] at lapped
    have past : capLen < tally.outstanding := Nat.lt_of_lt_of_le lapped (Nat.mod_le _ _)
    have enough : capLen ≤ tally.polled := Nat.le_of_lt (Nat.lt_of_lt_of_le past (Nat.sub_le _ _))
    rw [if_pos past] at first
    have low : (UInt32.ofNat capLen).toNat ≤ side.written.toNat := by
      rw [counts.written, UInt32.toNat_ofNat']
      exact (seen past).2 lapped
    refine (Checked.minus32_sat low).bind fun drained same => Checked.Sat.pure ?_
    rw [same, counts.written, first, UInt32.ofNat_sub enough]
  next clear =>
    rw [counts.lapped, decide_eq_true_eq] at clear
    have same : UInt32.ofNat tally.taken = UInt32.ofNat tally.first := by
      by_cases past : capLen < tally.outstanding
      next =>
        -- A whole number of wraps behind the last lap.
        have low := (seen past).1
        rw [if_pos past] at first
        have cap : capLen = 1024 := rfl
        apply UInt32.toNat_inj.mp
        unfold Tally.outstanding at past low clear
        rw [first, UInt32.toNat_ofNat', UInt32.toNat_ofNat']
        have order := counts.order
        omega
      next => rw [first, if_neg past]
    exact Checked.Sat.pure (by rw [← same, ← counts.drained])

theorem CaptureRing.Shows.copy {captured : List UInt16} (shows : ring.Shows captured) (first : Nat)
    (landing : Nat → List UInt16) (n : Nat) (there : first + n ≤ captured.length) (fits : first % 2 ^ 32 + n ≤ 2 ^ 32)
    (spared : ∀ k < n, captured.length + ((List.range (k + 1)).flatMap landing).length ≤ first + k + capLen) :
    (ring.copy (.ofNat first) landing n).Sat (fun copied =>
      copied.1.Shows (captured ++ (List.range n).flatMap landing) ∧ copied.2 = (captured.drop first).take n) := by
  induction n with
  | zero => exact Checked.Sat.pure ⟨by simpa using shows, rfl⟩
  | succ n ih =>
    have before := ih (by omega) (by omega) fun k below => spared k (by omega)
    refine before.bind fun copied same => ?_
    obtain ⟨during, out⟩ := same
    have start : (UInt32.ofNat first).toNat = first % 2 ^ 32 := UInt32.toNat_ofNat'
    have offset : (UInt32.ofNat n).toNat = n := UInt32.toNat_ofNat_of_lt' (by simp only [UInt32.size]; omega)
    refine (Checked.plus32_sat (by rw [start, offset]; omega)).bind fun index index_eq => Checked.Sat.pure ?_
    have landed := during.captures (landing n)
    have grown : (List.range (n + 1)).flatMap landing = (List.range n).flatMap landing ++ landing n := by
      rw [List.range_succ, List.flatMap_append, List.flatMap_singleton]
    rw [List.append_assoc, ← grown] at landed
    refine ⟨landed, ?_⟩
    have place : index.toNat % capLen = (first + n) % capLen := by
      rw [index_eq, start, offset, Nat.add_mod, Nat.mod_mod_of_dvd first (show capLen ∣ 2 ^ 32 by decide),
        ← Nat.add_mod]
    have recent := spared n (Nat.lt_succ_self n)
    have read := landed.read (p := first + n) (by rw [List.length_append]; omega)
      (by rw [List.length_append]; exact recent)
    rw [List.getD_append _ _ _ _ (by omega)] at read
    show copied.2 ++ [_] = _
    rw [place, read, out, List.take_add_one, List.getElem?_drop, List.getD_eq_getElem?_getD,
      List.getElem?_eq_getElem (by omega)]
    rfl

theorem Tally.due_eq (tally : Tally) (size : Nat) :
    tally.due size = (tally.captured.drop tally.first).take (min size (tally.polled - tally.first)) := by
  rw [due, List.drop_take, List.take_take]

theorem Tally.length_due (tally : Tally) (size : Nat) (here : tally.polled ≤ tally.captured.length) :
    (tally.due size).length = min size (tally.polled - tally.first) := by
  rw [due_eq, List.length_take, List.length_drop]
  omega

/-- What a drain needs: it sees the lap, no index of its copy leaves the word, and nothing goes over an entry
that it still has to read. -/
structure Tally.Clear (tally : Tally) (size : Nat) (landing : Nat → List UInt16) : Prop where
  seen : tally.Seen
  fits : tally.first % 2 ^ 32 + (tally.due size).length ≤ 2 ^ 32
  spares : tally.Spares (tally.due size).length landing

theorem Side.Counts.drain (counts : side.Counts tally) (shows : ring.Shows tally.captured) {size : Nat}
    {landing : Nat → List UInt16} (clear : tally.Clear size landing) :
    (side.drain ring size landing).Sat (fun drained =>
      drained.side.Counts (tally.drain size landing) ∧ drained.ring.Shows (tally.drain size landing).captured ∧
        drained.out = tally.due size) := by
  have length := tally.length_due size counts.here
  have first := tally.first_le counts.order
  have here := counts.here
  have paced := counts.paced
  have low : tally.polled - capLen ≤ tally.first := Nat.le_max_right _ _
  -- Realigned to the oldest entry, it copies what is there and moves on by as much.
  refine (counts.realign clear.seen).bind fun aligned after => ?_
  have distance := after.distance
  have short : tally.polled - tally.first < 2 ^ 32 := by
    have cap : capLen = 1024 := rfl
    omega
  have count : min size (aligned.written - aligned.drained).toNat = (tally.due size).length := by
    rw [distance, length]
    exact congrArg (min size) (Nat.mod_eq_of_lt short)
  have copied := shows.copy tally.first landing (tally.due size).length (by omega) clear.fits clear.spares
  rw [count, after.drained]
  refine copied.bind fun copied same => Checked.Sat.pure ⟨⟨after.pos, after.written, ?_, ?_, ?_, ?_⟩, same.1, ?_⟩
  next => exact (UInt32.ofNat_add _ _).symm
  next =>
    show tally.first + _ ≤ tally.polled
    omega
  next =>
    show tally.polled ≤ (tally.captured ++ _).length
    rw [List.length_append]
    omega
  next =>
    show (tally.captured ++ (List.range (tally.due size).length).flatMap landing).length < tally.polled + capLen
    have spares := clear.spares
    rw [List.length_append]
    generalize tally.due size = due at *
    cases taken : due.length with
    | zero => simpa using paced
    | succ n =>
      have last := spares n (by omega)
      omega
  next =>
    rw [tally.due_eq size, ← length]
    exact same.2

end Drain

structure Lane (ring : CaptureRing) (side : Side) (tally : Tally) : Prop where
  shows : ring.Shows tally.captured
  counts : side.Counts tally
  start : tally.start ≤ tally.taken

structure Calm (tally : Tally) (handed : List UInt16) : Prop where
  few : tally.outstanding ≤ capLen
  handed : handed = (tally.captured.drop tally.start).take (tally.taken - tally.start)

structure Ledgered (rig : Rig) (ledger : Ledger) : Prop where
  lane : ∀ polarity, Lane (rig.rings polarity) (rig.state.sides polarity) (ledger.tallies polarity)
  overflow : rig.state.overflow = ledger.lapped
  calm : ledger.lapped = false → ∀ polarity, Calm (ledger.tallies polarity) (rig.handed polarity)
  outs : rig.outs = ledger.dues
  ok : rig.ok = true

section Steps

variable {rig : Rig} {ledger : Ledger}

theorem Side.Counts.lapped_poll {side : Side} {tally : Tally} (counts : side.Counts tally.poll)
    (calm : tally.outstanding ≤ capLen) (paced : tally.captured.length < tally.polled + capLen) :
    side.lapped = decide (capLen < tally.poll.outstanding) := by
  have cap : capLen = 1024 := rfl
  have short : tally.poll.outstanding < 2 ^ 32 := by
    unfold Tally.outstanding at calm
    unfold Tally.outstanding Tally.poll
    dsimp only
    omega
  rw [counts.lapped, Nat.mod_eq_of_lt short]

theorem Ledger.poll_lapped (ledger : Ledger) : ledger.poll.lapped = (ledger.lapped ||
    decide (capLen < (ledger.tallies .falls).poll.outstanding) ||
    decide (capLen < (ledger.tallies .rises).poll.outstanding)) := by
  rw [Ledger.poll]

theorem Ledger.calm_of_poll (clear : ledger.poll.lapped = false) :
    ledger.lapped = false ∧ ∀ polarity, (ledger.tallies polarity).poll.outstanding ≤ capLen := by
  rw [Ledger.poll_lapped, Bool.or_eq_false_iff, Bool.or_eq_false_iff] at clear
  obtain ⟨⟨before, falls⟩, rises⟩ := clear
  refine ⟨before, fun polarity => ?_⟩
  cases polarity with
  | falls => exact Nat.le_of_not_lt (decide_eq_false_iff_not.mp falls)
  | rises => exact Nat.le_of_not_lt (decide_eq_false_iff_not.mp rises)

theorem Ledgered.polled (kept : Ledgered rig ledger) : Ledgered rig.poll ledger.poll := by
  have accumulated (polarity : Polarity) := (kept.lane polarity).counts.accumulate (kept.lane polarity).shows
  have whole : (rig.state.pollAccumulate fun polarity => (rig.rings polarity).remaining).Sat (fun state =>
      (∀ polarity, (state.sides polarity).Counts (ledger.tallies polarity).poll) ∧
        state.overflow = (rig.state.overflow || (state.sides .falls).lapped || (state.sides .rises).lapped)) := by
    refine (accumulated .falls).bind fun falls first => (accumulated .rises).bind fun rises second => ?_
    refine Checked.Sat.pure ⟨fun polarity => ?_, rfl⟩
    cases polarity with
    | falls => exact first
    | rises => exact second
  obtain ⟨ok, counts, overflow⟩ := whole
  refine ⟨fun polarity => ⟨(kept.lane polarity).shows, counts polarity, (kept.lane polarity).start⟩, ?_,
    fun clear polarity => ?_, kept.outs, ?_⟩
  next =>
    rw [Ledger.poll_lapped, ← kept.overflow, Rig.poll]
    dsimp only
    rw [overflow]
    cases lapped : rig.state.overflow with
    | true => simp only [Bool.true_or]
    | false =>
      have calm := kept.calm (kept.overflow.symm.trans lapped)
      rw [(counts .falls).lapped_poll (calm .falls).few (kept.lane .falls).counts.paced,
        (counts .rises).lapped_poll (calm .rises).few (kept.lane .rises).counts.paced]
  next =>
    obtain ⟨before, few⟩ := Ledger.calm_of_poll clear
    exact ⟨few polarity, (kept.calm before polarity).handed⟩
  next =>
    rw [Rig.poll, kept.ok]
    exact ok

theorem Lane.captured {ring : CaptureRing} {side : Side} {tally : Tally} (lane : Lane ring side tally) (tick : UInt16)
    (paced : tally.captured.length + 1 < tally.polled + capLen) :
    Lane (ring.capture tick) side { tally with captured := tally.captured ++ [tick] } := by
  obtain ⟨shows, ⟨pos, written, drained, order, here, -⟩, start⟩ := lane
  refine ⟨shows.capture tick, ⟨pos, written, drained, order, ?_, ?_⟩, start⟩
  next =>
    rw [List.length_append]
    exact Nat.le_add_right_of_le here
  next => rwa [List.length_append]

theorem Calm.grown {tally : Tally} {handed : List UInt16} (calm : Calm tally handed)
    (inside : tally.taken ≤ tally.captured.length) (start : tally.start ≤ tally.taken) (more : List UInt16) :
    Calm { tally with captured := tally.captured ++ more } handed := by
  refine ⟨calm.few, ?_⟩
  have short : tally.taken - tally.start ≤ (tally.captured.drop tally.start).length := by
    rw [List.length_drop]
    omega
  rw [calm.handed, List.drop_append_of_le_length (start.trans inside), List.take_append_of_le_length short]

theorem Ledgered.captured (kept : Ledgered rig ledger) {polarity : Polarity} {tick : UInt16}
    (paced : (ledger.tallies polarity).captured.length + 1 < (ledger.tallies polarity).polled + capLen) :
    Ledgered (rig.step (.capture polarity tick)) (ledger.step (.capture polarity tick)) := by
  refine ⟨fun other => ?_, kept.overflow, fun clear other => ?_, kept.outs, kept.ok⟩
  next =>
    by_cases same : other = polarity
    next =>
      subst same
      simp only [Rig.step, Ledger.step, Function.update_self]
      exact (kept.lane other).captured tick paced
    next =>
      simp only [Rig.step, Ledger.step, Function.update_of_ne same]
      exact kept.lane other
  next =>
    have calm := kept.calm clear other
    by_cases same : other = polarity
    next =>
      subst same
      simp only [Rig.step, Ledger.step, Function.update_self]
      have lane := kept.lane other
      exact calm.grown (lane.counts.order.trans lane.counts.here) lane.start [tick]
    next =>
      simp only [Rig.step, Ledger.step, Function.update_of_ne same]
      exact calm

theorem Ledgered.reset (kept : Ledgered rig ledger) : Ledgered (rig.step .reset) (ledger.step .reset) := by
  have polled := kept.polled
  refine ⟨fun polarity => ?_, rfl, fun _ polarity => ⟨?_, ?_⟩, polled.outs, polled.ok⟩
  next =>
    obtain ⟨shows, counts, -⟩ := polled.lane polarity
    exact ⟨shows, ⟨counts.pos, counts.written, counts.written, Nat.le_refl _, counts.here, counts.paced⟩, Nat.le_refl _⟩
  next =>
    simp only [Ledger.step, Tally.outstanding, Nat.sub_self]
    exact Nat.zero_le _
  next => simp only [Rig.step, Ledger.step, Nat.sub_self, List.take_zero]

theorem Calm.drained {tally : Tally} {handed : List UInt16} (calm : Calm tally handed)
    (order : tally.taken ≤ tally.polled) (here : tally.polled ≤ tally.captured.length) (start : tally.start ≤ tally.taken)
    (size : Nat)
    (landing : Nat → List UInt16) : Calm (tally.drain size landing) (handed ++ tally.due size) := by
  have length := tally.length_due size here
  have first := tally.first_eq order
  rw [if_neg (Nat.not_lt_of_le calm.few)] at first
  have taken : Calm { tally with taken := tally.first + (tally.due size).length } (handed ++ tally.due size) := by
    refine ⟨?_, ?_⟩
    next =>
      have few := calm.few
      unfold Tally.outstanding at few ⊢
      dsimp only
      omega
    next =>
      have sum : tally.first + (tally.due size).length - tally.start =
          (tally.taken - tally.start) + (tally.due size).length := by omega
      have after : tally.start + (tally.taken - tally.start) = tally.first := by omega
      dsimp only
      rw [sum, List.take_add, List.drop_drop, after, calm.handed, length, ← tally.due_eq size]
  exact taken.grown (by dsimp only; omega) (by dsimp only; omega) _

theorem Ledgered.drained (kept : Ledgered rig ledger) {polarity : Polarity} {size : Nat} {landing : Nat → List UInt16}
    (clear : (ledger.poll.tallies polarity).Clear size landing) :
    Ledgered (rig.step (.drain polarity size landing)) (ledger.step (.drain polarity size landing)) := by
  have polled := kept.polled
  have lane := polled.lane polarity
  have first := Nat.le_max_left (ledger.poll.tallies polarity).taken ((ledger.poll.tallies polarity).polled - capLen)
  obtain ⟨ok, counts, shows, out⟩ := lane.counts.drain lane.shows clear
  refine ⟨fun other => ?_, polled.overflow, fun calm other => ?_, ?_, ?_⟩
  next =>
    by_cases same : other = polarity
    next =>
      subst same
      simp only [Rig.step, Rig.drain, Ledger.step, Function.update_self]
      exact ⟨shows, counts, lane.start.trans (first.trans (Nat.le_add_right _ _))⟩
    next =>
      simp only [Rig.step, Rig.drain, Ledger.step, Function.update_of_ne same]
      exact polled.lane other
  next =>
    have before := polled.calm calm other
    by_cases same : other = polarity
    next =>
      subst same
      simp only [Rig.step, Rig.drain, Ledger.step, Function.update_self]
      rw [out]
      exact before.drained lane.counts.order lane.counts.here lane.start size landing
    next =>
      simp only [Rig.step, Rig.drain, Ledger.step, Function.update_of_ne same]
      exact before
  next =>
    simp only [Rig.step, Rig.drain, Ledger.step]
    rw [out, polled.outs]
  next =>
    simp only [Rig.step, Rig.drain]
    rw [polled.ok, ok]
    rfl

theorem new_ledgered : Ledgered {} {} where
  lane _ := {
    shows := ⟨List.length_replicate, rfl, ⟨Nat.lt_of_lt_of_eq (by decide) List.length_replicate.symm, nofun⟩⟩
    counts := ⟨rfl, rfl, rfl, Nat.le_refl _, Nat.le_refl _, Nat.zero_lt_of_lt (show 0 < capLen by decide)⟩
    start := Nat.le_refl _ }
  overflow := rfl
  calm _ _ := ⟨Nat.zero_le _, rfl⟩
  outs := rfl
  ok := rfl

end Steps

def Edge.Paced (ledger : Ledger) : Edge → Prop
  | .capture polarity _ =>
    (ledger.tallies polarity).captured.length + 1 < (ledger.tallies polarity).polled + capLen
  | .drain polarity size landing =>
    ((List.range ((ledger.poll.tallies polarity).due size).length).flatMap landing).length < capLen
  | .poll | .reset => True

def Edge.Clear (ledger : Ledger) : Edge → Prop
  | .drain polarity size landing => (ledger.poll.tallies polarity).Clear size landing
  | .capture _ _ | .poll | .reset => True

/-- What the drains have returned since the last reset is a front of what was captured since, unless the overflow is
up. It is up where a poll has found a lap, every drain returns what it owes, and no counter has left its word. -/
structure Accounted (bench : Bench) : Prop where
  order : bench.rig.state.overflow = false → ∀ polarity,
    bench.rig.handed polarity <+:
      (bench.ledger.tallies polarity).captured.drop (bench.ledger.tallies polarity).start
  flagged : bench.rig.state.overflow = bench.ledger.lapped
  newest : bench.rig.outs = bench.ledger.dues
  counted : bench.rig.ok = true

theorem Ledgered.accounted {bench : Bench} (kept : Ledgered bench.rig bench.ledger) : Accounted bench where
  order clear polarity := by
    rw [(kept.calm (kept.overflow.symm.trans clear) polarity).handed]
    exact List.take_prefix _ _
  flagged := kept.overflow
  newest := kept.outs
  counted := kept.ok

theorem step_ledgered (bench : Bench) (edge : Edge) (kept : Ledgered bench.rig bench.ledger)
    (steady : edge.Paced bench.ledger ∧ edge.Clear bench.ledger) :
    Ledgered (bench.step edge).rig (bench.step edge).ledger := by
  cases edge with
  | capture polarity tick => exact kept.captured steady.1
  | poll => exact kept.polled
  | drain polarity size landing => exact kept.drained steady.2
  | reset => exact kept.reset

section Filling

variable {bench : Bench}

def filling (k : Nat) : List Edge :=
  (List.replicate k [Edge.capture .falls 0, .poll]).flatten

structure Filled (first : Bench) (k : Nat) (bench : Bench) : Prop where
  kept : Ledgered bench.rig bench.ledger
  falls : bench.ledger.tallies .falls =
    { first.ledger.tallies .falls with
      captured := (first.ledger.tallies .falls).captured ++ List.replicate k 0
      polled := (first.ledger.tallies .falls).captured.length + k }
  rises : (bench.ledger.tallies .rises).captured.length ≤ (bench.ledger.tallies .rises).taken + capLen
  lapped : (first.ledger.tallies .falls).captured.length + k ≤ (first.ledger.tallies .falls).taken + capLen →
    bench.ledger.lapped = first.ledger.lapped

theorem fill (kept : Ledgered bench.rig bench.ledger)
    (polled : (bench.ledger.tallies .falls).polled = (bench.ledger.tallies .falls).captured.length)
    (few : (bench.ledger.tallies .rises).captured.length ≤ (bench.ledger.tallies .rises).taken + capLen) (k : Nat) :
    Meets Bench.step (fun bench edge => edge.Paced bench.ledger) bench (filling k) ∧
      Filled bench k (run Bench.step bench (filling k)) := by
  induction k with
  | zero =>
    refine ⟨trivial, kept, ?_, few, fun _ => rfl⟩
    simp [filling, ← polled]
  | succ k ih =>
    obtain ⟨meets, ⟨during, falls, rises, lapped⟩⟩ := ih
    have next : filling (k + 1) = filling k ++ [.capture .falls 0, .poll] := by
      simp [filling, List.replicate_succ']
    have paced : ((run Bench.step bench (filling k)).ledger.tallies .falls).captured.length + 1 <
        ((run Bench.step bench (filling k)).ledger.tallies .falls).polled + capLen := by
      rw [falls, List.length_append, List.length_replicate]
      exact Nat.add_lt_add_left (by decide) _
    rw [next, meets_append, run_append]
    generalize run Bench.step bench (filling k) = middle at *
    refine ⟨⟨meets, paced, trivial, trivial⟩, (during.captured paced).polled, ?_, ?_, fun short => ?_⟩
    next =>
      simp only [run_cons, run_nil, Bench.step, Ledger.step, Ledger.poll, Tally.poll, Function.update_self, falls]
      simp [List.replicate_succ']
    next => exact rises
    next =>
      have one : ((middle.ledger.step (.capture .falls 0)).tallies .falls).poll.outstanding ≤ capLen := by
        simp only [Ledger.step, Function.update_self, falls, Tally.poll, Tally.outstanding, List.length_append,
          List.length_replicate, List.length_singleton]
        omega
      have other : ((middle.ledger.step (.capture .falls 0)).tallies .rises).poll.outstanding ≤ capLen := by
        have same : (middle.ledger.step (.capture .falls 0)).tallies .rises = middle.ledger.tallies .rises := by
          simp only [Ledger.step]
          exact Function.update_of_ne (by decide) _ _
        rw [same]
        simp only [Tally.poll, Tally.outstanding]
        omega
      rw [← lapped (by omega)]
      refine ((middle.ledger.step (.capture .falls 0)).poll_lapped).trans ?_
      rw [decide_eq_false (Nat.not_lt_of_le one), decide_eq_false (Nat.not_lt_of_le other), Bool.or_false,
        Bool.or_false]
      rfl

end Filling

/-- Every run with fewer captures between polls than a ring holds is accounted for throughout, as long as its
drains are clear. -/
theorem edge_accounts (edges : List Edge)
    (steady : Meets Bench.step (fun bench edge => edge.Paced bench.ledger ∧ edge.Clear bench.ledger) {} edges)
    (n : Nat) : Accounted (run Bench.step {} (edges.take n)) := by
  rw [← List.take_append_drop n edges, meets_append] at steady
  exact (run_invariant Bench.step _ (fun bench => Ledgered bench.rig bench.ledger) step_ledgered {} new_ledgered _
    steady.1).accounted

/-- A capture that is drained while another one lands, a reset, and a lap that a drain finds. -/
def lappedEdges : List Edge :=
  [.capture .falls 7, .drain .falls 4 fun _ => [9], .reset] ++ (filling 1030 ++ [.drain .falls 2 fun _ => []])

theorem edge_accounts_lapped :
    Accounted (run Bench.step {} (lappedEdges.take lappedEdges.length)) ∧
      (run Bench.step {} lappedEdges).rig.state.overflow = true := by
  unfold lappedEdges
  generalize same : filling 1030 = middle
  have first : Meets Bench.step (fun bench edge => edge.Paced bench.ledger ∧ edge.Clear bench.ledger) {}
      [.capture .falls 7, .drain .falls 4 fun _ => [9], .reset] := by
    refine ⟨⟨?_, trivial⟩, ⟨?_, ?_⟩, ⟨trivial, trivial⟩, trivial⟩
    next => exact (by decide : 0 + 1 < 0 + capLen)
    next => exact (by decide : 1 < capLen)
    next =>
      refine ⟨fun lap => absurd lap (by decide), by decide, fun k below => ?_⟩
      obtain rfl := Nat.lt_one_iff.mp below
      decide
  have kept := run_invariant Bench.step _ (fun bench => Ledgered bench.rig bench.ledger) step_ledgered {} new_ledgered _ first
  generalize ran : run Bench.step {} [.capture .falls 7, .drain .falls 4 fun _ => [9], .reset] = bench at kept
  have falls : bench.ledger.tallies .falls = ⟨[7, 9], 2, 2, 2⟩ := by rw [← ran]; rfl
  have rises : bench.ledger.tallies .rises = ⟨[], 0, 0, 0⟩ := by rw [← ran]; rfl
  obtain ⟨paced, filled⟩ := fill kept (by rw [falls]; rfl) (by rw [rises]; exact Nat.zero_le _) 1030
  rw [same] at paced filled
  have spared (edge : Edge) (member : edge ∈ middle) (bench : Bench) (paced : edge.Paced bench.ledger) :
      edge.Paced bench.ledger ∧ edge.Clear bench.ledger := by
    refine ⟨paced, ?_⟩
    rw [← same] at member
    simp only [filling, List.mem_flatten, List.mem_replicate] at member
    obtain ⟨_, ⟨-, rfl⟩, member⟩ := member
    simp only [List.mem_cons, List.not_mem_nil, or_false] at member
    rcases member with rfl | rfl
    all_goals trivial
  have late := filled.falls
  rw [falls] at late
  have through : run Bench.step {} ([.capture .falls 7, .drain .falls 4 fun _ => [9], .reset] ++
      (middle ++ [.drain .falls 2 fun _ => []])) =
        (run Bench.step bench middle).step (.drain .falls 2 fun _ => []) := by
    rw [run_append, ran, run_append]
    rfl
  have steady (here : (Edge.drain .falls 2 fun _ => []).Paced (run Bench.step bench middle).ledger ∧
      (Edge.drain .falls 2 fun _ => []).Clear (run Bench.step bench middle).ledger) :
      Meets Bench.step (fun bench edge => edge.Paced bench.ledger ∧ edge.Clear bench.ledger) {}
        ([.capture .falls 7, .drain .falls 4 fun _ => [9], .reset] ++ (middle ++ [.drain .falls 2 fun _ => []])) := by
    rw [meets_append, ran, meets_append]
    exact ⟨first, meets_mono Bench.step spared paced, here, trivial⟩
  generalize run Bench.step bench middle = later at late through steady
  have captured : (later.ledger.tallies .falls).captured.length = 1032 := by
    rw [late, List.length_append, List.length_replicate]
    rfl
  have taken : (later.ledger.tallies .falls).taken = 2 := by rw [late]
  have oldest : (later.ledger.poll.tallies .falls).first = 8 := by
    have polled : later.ledger.poll.tallies .falls = (later.ledger.tallies .falls).poll := rfl
    simp only [polled, Tally.first, Tally.poll, captured, taken]
    decide
  have outstanding : (later.ledger.tallies .falls).poll.outstanding = 1030 := by
    show (later.ledger.tallies .falls).captured.length - (later.ledger.tallies .falls).taken = 1030
    rw [captured, taken]
  have accounted := edge_accounts _ (steady ⟨by simp [Edge.Paced, capLen], fun _ => ?_, ?_, fun k _ => ?_⟩)
  next =>
    refine ⟨accounted _, ?_⟩
    have whole := accounted (middle.length + 4)
    rw [List.take_of_length_le (by simp), through] at whole
    rw [through, whole.flagged]
    refine (Ledger.poll_lapped _).trans ?_
    rw [outstanding]
    simp [capLen]
  next =>
    show capLen ≤ (later.ledger.tallies .falls).poll.outstanding % 2 ^ 32 ∧
      (_ → capLen ≤ (later.ledger.tallies .falls).captured.length % 2 ^ 32)
    rw [captured, outstanding]
    exact ⟨by decide, fun _ => by decide⟩
  next =>
    have two : ((later.ledger.poll.tallies .falls).due 2).length ≤ 2 := List.length_take_le _ _
    rw [oldest]
    exact (Nat.add_le_add_left two _).trans (by decide)
  next =>
    rw [oldest]
    show (later.ledger.tallies .falls).captured.length + _ ≤ _
    rw [captured, List.flatMap_eq_nil_iff.mpr fun _ _ => rfl, List.length_nil]
    have cap : capLen = 1024 := rfl
    omega

section Failing

variable {bench : Bench}

theorem Side.Counts.realign_fails {side : Side} {tally : Tally} (counts : side.Counts tally)
    (lapped : capLen < tally.outstanding % 2 ^ 32) (low : tally.polled % 2 ^ 32 < capLen) :
    side.realign.ok = false := by
  have seen : side.lapped = true := by
    rw [counts.lapped]
    exact decide_eq_true lapped
  have under : ¬ UInt32.ofNat capLen ≤ side.written := by
    rw [UInt32.le_iff_toNat_le, counts.written, UInt32.toNat_ofNat']
    exact Nat.not_le_of_lt low
  rw [Side.realign, if_pos seen]
  show (decide (UInt32.ofNat capLen ≤ side.written) && true) = false
  rw [decide_eq_false under]
  rfl

theorem Side.drain_fails {side : Side} {ring : CaptureRing} {size : Nat} {landing : Nat → List UInt16}
    (failed : side.realign.ok = false) : (side.drain ring size landing).ok = false := by
  show (side.realign.ok && _) = false
  rw [failed]
  rfl

theorem CaptureRing.copy_fails (ring : CaptureRing) {drained : UInt32} (landing : Nat → List UInt16)
    (last : drained.toNat = 2 ^ 32 - 1) : (ring.copy drained landing 2).ok = false := by
  show ((ring.copy drained landing 1).ok && (decide (drained.toNat + (UInt32.ofNat 1).toNat < 2 ^ 32) && true)) = false
  rw [last, Bool.and_eq_false_iff]
  exact .inr rfl

theorem Side.Counts.realign_idle {side : Side} {tally : Tally} (counts : side.Counts tally)
    (few : tally.outstanding ≤ capLen) : side.realign = pure side := by
  have cap : capLen = 1024 := rfl
  have clear : side.lapped = false := by
    rw [counts.lapped, Nat.mod_eq_of_lt (by omega)]
    exact decide_eq_false (Nat.not_lt_of_le few)
  rw [Side.realign, clear, if_neg Bool.false_ne_true]

theorem Side.Counts.copy_drain_fails {side : Side} {tally : Tally} {ring : CaptureRing} (counts : side.Counts tally)
    (two : tally.outstanding = 2) (last : tally.taken % 2 ^ 32 = 2 ^ 32 - 1) :
    (side.drain ring 2 fun _ => []).ok = false := by
  have count : min 2 (side.written - side.drained).toNat = 2 := by
    rw [counts.distance, two]
    rfl
  have failed := ring.copy_fails (fun _ => [])
    (show side.drained.toNat = 2 ^ 32 - 1 by rw [counts.drained, UInt32.toNat_ofNat', last])
  have ran : (side.drain ring 2 fun _ => []).ok =
      (true && ((ring.copy side.drained (fun _ => []) (min 2 (side.written - side.drained).toNat)).ok && true)) := by
    rw [Side.drain, counts.realign_idle (by rw [two]; decide)]
    rfl
  rw [ran, count, failed]
  rfl

/-- What lands ahead of the first read of a full ring is read in the place of the oldest entry. -/
theorem Side.Counts.drain_torn {side : Side} {tally : Tally} {ring : CaptureRing} (counts : side.Counts tally)
    (shows : ring.Shows tally.captured) (full : tally.outstanding = capLen) (all : tally.captured.length = tally.polled)
    (tick : UInt16) : (side.drain ring 1 fun _ => [tick]).val.out = [tick] := by
  have aligned := counts.realign_idle (Nat.le_of_eq full)
  have count : min 1 (side.written - side.drained).toNat = 1 := by
    rw [counts.distance, full]
    rfl
  have place : ring.pos = (side.drained + UInt32.ofNat 0).toNat % capLen := by
    have zero : side.drained + UInt32.ofNat 0 = side.drained := UInt32.add_zero _
    have order := counts.order
    have sum : tally.polled = tally.taken + capLen := by
      unfold Tally.outstanding at full
      omega
    rw [zero, shows.pos, all, sum, Nat.add_mod_right, counts.drained, UInt32.toNat_ofNat',
      Nat.mod_mod_of_dvd _ (show capLen ∣ 2 ^ 32 by decide)]
  have inside : ring.pos < ring.data.length := by
    rw [shows.length, shows.pos]
    exact Nat.mod_lt _ (by decide)
  have read : (ring.capture tick).data.getD ring.pos 0 = tick := by
    rw [CaptureRing.capture, List.getD_eq_getElem?_getD, List.getElem?_set_self inside]
    rfl
  have ran : (side.drain ring 1 fun _ => [tick]).val.out =
      (ring.copy side.drained (fun _ => [tick]) (min 1 (side.written - side.drained).toNat)).val.2 := by
    rw [Side.drain, aligned]
    rfl
  rw [place] at read
  rw [ran, count]
  exact congrArg ([·]) read

theorem refill (before k : Nat) :
    Meets Bench.step (fun bench edge => edge.Paced bench.ledger) {} (filling before ++ .reset :: filling k) ∧
      ∃ bench, run Bench.step {} (filling before ++ .reset :: filling k) = bench ∧
        Ledgered bench.rig bench.ledger ∧
        (bench.ledger.tallies .falls).captured.length = before + k ∧ (bench.ledger.tallies .falls).polled = before + k ∧
        (bench.ledger.tallies .falls).taken = before := by
  obtain ⟨meets, first⟩ := @fill {} new_ledgered rfl (Nat.zero_le _) before
  rw [meets_append, run_append]
  have falls := first.falls
  have rises := first.rises
  have kept := first.kept.reset
  generalize run Bench.step {} (filling before) = bench at *
  have length : (bench.ledger.tallies .falls).captured.length = before := by
    rw [falls]
    simp
  obtain ⟨more, second⟩ := @fill (bench.step .reset) kept rfl (Nat.le_add_right _ _) k
  refine ⟨⟨meets, trivial, more⟩, _, rfl, second.kept, ?_⟩
  rw [run_cons, second.falls]
  have same : ((bench.step .reset).ledger.tallies .falls).captured = (bench.ledger.tallies .falls).captured := rfl
  have taken : ((bench.step .reset).ledger.tallies .falls).taken = (bench.ledger.tallies .falls).captured.length := rfl
  dsimp only
  rw [same, taken, List.length_append, List.length_replicate, length]
  exact ⟨rfl, rfl, rfl⟩

theorem not_accounted {bench : Bench} {landing : Nat → List UInt16} {size : Nat}
    (failed : ((bench.rig.poll.state.sides .falls).drain (bench.rig.poll.rings .falls) size landing).ok = false) :
    ¬ Accounted (bench.step (.drain .falls size landing)) := by
  intro accounted
  have counted : (bench.rig.poll.ok && _) = true := accounted.counted
  rw [failed, Bool.and_false] at counted
  cases counted

theorem Tally.drain_start (tally : Tally) (size : Nat) (landing : Nat → List UInt16) :
    (tally.drain size landing).start = tally.start := rfl

theorem Tally.drain_captured (tally : Tally) (size : Nat) (landing : Nat → List UInt16) :
    (tally.drain size landing).captured =
      tally.captured ++ (List.range (tally.due size).length).flatMap landing := rfl

theorem Rig.poll_handed (rig : Rig) : rig.poll.handed = rig.handed := rfl

theorem Ledger.poll_start (ledger : Ledger) (polarity : Polarity) :
    (ledger.poll.tallies polarity).start = (ledger.tallies polarity).start := rfl

theorem Ledger.poll_captured (ledger : Ledger) (polarity : Polarity) :
    (ledger.poll.tallies polarity).captured = (ledger.tallies polarity).captured := rfl

def Fails (edges : List Edge) : Prop :=
  Meets Bench.step (fun bench edge => edge.Paced bench.ledger) {} edges ∧ ¬ Accounted (run Bench.step {} edges)

theorem fails_of {edges : List Edge} {edge : Edge}
    (meets : Meets Bench.step (fun bench edge => edge.Paced bench.ledger) {} edges)
    (ran : run Bench.step {} edges = bench) (paced : edge.Paced bench.ledger) (not : ¬ Accounted (bench.step edge)) :
    Fails (edges ++ [edge]) := by
  rw [Fails, meets_append, run_append, ran]
  exact ⟨⟨meets, paced, trivial⟩, not⟩

theorem landing_fails : Fails (filling 1024 ++ [.drain .falls 1 fun _ => [7]]) := by
  obtain ⟨meets, ⟨kept, falls, rises, lapped⟩⟩ := @fill {} new_ledgered rfl (Nat.le_add_right _ _) 1024
  have clear := lapped (by decide)
  generalize ran : run Bench.step {} (filling 1024) = bench at *
  have none : bench.ledger.lapped = false := clear
  have taken : (bench.ledger.tallies .falls).taken = 0 := by rw [falls]
  have length : (bench.ledger.tallies .falls).captured.length = 1024 := by
    rw [falls]
    exact List.length_replicate
  have full : (bench.ledger.tallies .falls).poll.outstanding = capLen := by
    show (bench.ledger.tallies .falls).captured.length - (bench.ledger.tallies .falls).taken = capLen
    rw [taken, length]
    rfl
  have quiet : bench.ledger.poll.lapped = false := by
    have few : (bench.ledger.tallies .rises).poll.outstanding ≤ capLen := Nat.sub_le_iff_le_add'.mpr rises
    rw [Ledger.poll_lapped, none, full, decide_eq_false (Nat.not_lt_of_le few), decide_eq_false (Nat.lt_irrefl capLen)]
    rfl
  have lane := kept.polled.lane .falls
  refine fails_of meets ran ?_ fun accounted => ?_
  next =>
    have one : ((bench.ledger.poll.tallies .falls).due 1).length ≤ 1 := List.length_take_le _ _
    have landed (n : Nat) : ((List.range n).flatMap fun _ => [(7 : UInt16)]).length = n := by simp
    exact (landed _).trans_lt (Nat.lt_of_le_of_lt one (by decide))
  next =>
    have front := accounted.order (kept.polled.overflow.trans quiet) .falls
    have torn := lane.counts.drain_torn lane.shows full rfl 7
    have before : bench.rig.handed .falls = [] := by
      rw [(kept.calm none .falls).handed, falls]
      rfl
    simp only [Bench.step, Rig.step, Rig.drain, Ledger.step, Function.update_self, torn] at front
    rw [Rig.poll_handed, Tally.drain_captured, Tally.drain_start, Ledger.poll_start, Ledger.poll_captured] at front
    generalize List.flatMap _ _ = more at front
    have some : List.replicate 1024 (0 : UInt16) = 0 :: List.replicate 1023 0 := List.replicate_succ
    rw [before, falls] at front
    dsimp only at front
    rw [List.nil_append, List.nil_append, List.drop_zero, some, List.cons_append, List.cons_prefix_cons] at front
    exact absurd front.1 (by decide)

theorem lap_fails : Fails ((filling 4294965296 ++ .reset :: filling 2010) ++ [.drain .falls 1 fun _ => []]) := by
  obtain ⟨meets, bench, ran, kept, captured, polled, taken⟩ := refill 4294965296 2010
  have counts := (kept.polled.lane .falls).counts
  refine fails_of meets ran (by simp [Edge.Paced, capLen]) (not_accounted (Side.drain_fails ?_))
  refine counts.realign_fails ?_ ?_
  next =>
    show capLen < ((bench.ledger.tallies .falls).captured.length - (bench.ledger.tallies .falls).taken) % 2 ^ 32
    rw [captured, taken]
    decide
  next =>
    show (bench.ledger.tallies .falls).captured.length % 2 ^ 32 < capLen
    rw [captured]
    decide

theorem index_fails : Fails ((filling 4294967295 ++ .reset :: filling 2) ++ [.drain .falls 2 fun _ => []]) := by
  obtain ⟨meets, bench, ran, kept, captured, polled, taken⟩ := refill 4294967295 2
  have counts := (kept.polled.lane .falls).counts
  refine fails_of meets ran (by simp [Edge.Paced, capLen]) (not_accounted (counts.copy_drain_fails ?_ ?_))
  next =>
    show (bench.ledger.tallies .falls).captured.length - (bench.ledger.tallies .falls).taken = 2
    rw [captured, taken]
  next =>
    show (bench.ledger.tallies .falls).taken % 2 ^ 32 = 2 ^ 32 - 1
    rw [taken]
    rfl

/-- A capture amid a drain, a lap drained just past the wrap of the written counter, and a drain
across the wrap of the drained counter. -/
theorem drains_fail :
    Fails (filling 1024 ++ [.drain .falls 1 fun _ => [7]]) ∧
    Fails ((filling 4294965296 ++ .reset :: filling 2010) ++ [.drain .falls 1 fun _ => []]) ∧
    Fails ((filling 4294967295 ++ .reset :: filling 2) ++ [.drain .falls 2 fun _ => []]) :=
  ⟨landing_fails, lap_fails, index_fails⟩

end Failing

end OpenServo.Host
