import OpenServo.Bus.Clock
import OpenServo.Shared.Run
import Mathlib.Algebra.Ring.Int.Defs
import Mathlib.Algebra.Ring.Nat

set_option autoImplicit false

namespace OpenServo.Bus

open OpenServo.Shared

section Ticks

theorem unsignedAbs_toNat (err : Int32) : (unsignedAbs err).toNat = err.toInt.natAbs := by
  have unsigned : (unsignedAbs err).toNat = err.toBitVec.abs.toNat := rfl
  have signed : err.toInt = err.toBitVec.toInt := rfl
  have bound := err.toBitVec.isLt
  rw [unsigned, signed, BitVec.toNat_abs, BitVec.toInt_eq_msb_cond]
  split
  next => omega
  next => omega

theorem toInt_toInt32 (x : UInt32) : x.toInt32.toInt = (x.toNat : Int).bmod (2 ^ 32) :=
  BitVec.toInt_eq_toNat_bmod x.toBitVec

theorem toInt_sub (delta gap : UInt32) :
    (delta - gap).toInt32.toInt = ((delta.toNat : Int) - gap.toNat).bmod (2 ^ 32) := by
  rw [toInt_toInt32, UInt32.toNat_sub]
  have left := delta.toNat_lt
  have right := gap.toNat_lt
  simp only [Int.bmod_def]
  omega

variable {delta gap : UInt32} (small : gap.toNat < 2 ^ 24)

include small

theorem near_iff :
    unsignedAbs (delta - gap).toInt32 ≤ gap >>> trimGateShift ↔
      16 * ((delta.toNat : Int) - gap.toNat).natAbs ≤ gap.toNat := by
  have left := delta.toNat_lt
  have shifted : (gap >>> trimGateShift).toNat = gap.toNat / 16 := by
    rw [trimGateShift, UInt32.toNat_shiftRight, show UInt32.toNat 4 % 32 = 4 from rfl, Nat.shiftRight_eq_div_pow]
  rw [UInt32.le_iff_toNat_le, unsignedAbs_toNat, toInt_sub, shifted, Int.bmod_def]
  omega

theorem toInt_sub_of_near (near : 16 * ((delta.toNat : Int) - gap.toNat).natAbs ≤ gap.toNat) :
    (delta - gap).toInt32.toInt = (delta.toNat : Int) - gap.toNat := by
  rw [toInt_sub, Int.bmod_def]
  omega

end Ticks

structure Train where
  gapUs : UInt16
  gaps : UInt8
  marks : List UInt32
deriving DecidableEq, Repr

def spacings : List UInt32 → List UInt32
  | last :: earlier :: rest => (last - earlier) :: spacings (earlier :: rest)
  | _ => []

def Train.gap (train : Train) (ticksPerUs : UInt32) : Nat :=
  train.gapUs.toNat * ticksPerUs.toNat

def accepted (gap : Nat) (marks : List UInt32) : List Int :=
  ((spacings marks).map fun delta => (delta.toNat : Int) - gap).filter fun err => 16 * err.natAbs ≤ gap

theorem accepted_cons (gap : Nat) (now last : UInt32) (rest : List UInt32) :
    accepted gap (now :: last :: rest) =
      if 16 * (((now - last).toNat : Int) - gap).natAbs ≤ gap then
        (((now - last).toNat : Int) - gap) :: accepted gap (last :: rest)
      else accepted gap (last :: rest) := by
  simp only [accepted, spacings, List.map_cons, List.filter_cons, decide_eq_true_eq]

theorem natAbs_sum_le {bound : Nat} {errs : List Int} (each : ∀ err ∈ errs, 16 * err.natAbs ≤ bound) :
    16 * errs.sum.natAbs ≤ errs.length * bound := by
  induction errs with
  | nil => simp
  | cons err rest ih =>
    have first := each err List.mem_cons_self
    have later := ih (fun other member => each other (List.mem_cons_of_mem _ member))
    have triangle := Int.natAbs_add_le err rest.sum
    rw [List.sum_cons, List.length_cons, Nat.add_mul, Nat.one_mul]
    omega

theorem accepted_sum_le (gap : Nat) (marks : List UInt32) :
    16 * (accepted gap marks).sum.natAbs ≤ (accepted gap marks).length * gap :=
  natAbs_sum_le (fun _ member => of_decide_eq_true (List.mem_filter.mp member).2)

theorem length_accepted_le (gap : Nat) (marks : List UInt32) :
    (accepted gap marks).length + 1 ≤ max marks.length 1 := by
  have spaced (marks : List UInt32) : (spacings marks).length + 1 ≤ max marks.length 1 := by
    induction marks with
    | nil => simp [spacings]
    | cons last rest ih =>
      cases rest with
      | nil => simp [spacings]
      | cons earlier rest => simp only [spacings, List.length_cons] at ih ⊢; omega
  have kept := List.length_filter_le (fun err : Int => decide (16 * err.natAbs ≤ gap))
    ((spacings marks).map fun delta => (delta.toNat : Int) - gap)
  have bound := spaced marks
  rw [List.length_map] at kept
  rw [accepted]
  omega

/-- What a live train holds of the gaps timed so far. -/
structure Measures (ticksPerUs : UInt32) (train : Train) (cal : CalRun) : Prop where
  gap : cal.gapTicks.toNat = train.gap ticksPerUs
  small : train.gap ticksPerUs < 2 ^ 24
  total : cal.total = train.gaps
  last : train.marks.head? = some cal.lastBreak
  count : train.marks.length + cal.gapsLeft.toNat = train.gaps.toNat + 1
  valid : cal.valid.toNat = (accepted (train.gap ticksPerUs) train.marks).length
  err : cal.err.toInt = (accepted (train.gap ticksPerUs) train.marks).sum
  span : cal.span.toNat = (accepted (train.gap ticksPerUs) train.marks).length * train.gap ticksPerUs

def Train.push (train : Train) (now : UInt32) : Train :=
  { train with marks := now :: train.marks }

@[simp] theorem Train.gap_push (train : Train) (now ticksPerUs : UInt32) :
    (train.push now).gap ticksPerUs = train.gap ticksPerUs := rfl

section Gap

variable {ticksPerUs : UInt32} {train : Train} {cal : CalRun}

theorem int32_add {a b : Int32} (low : -2 ^ 31 ≤ a.toInt + b.toInt) (high : a.toInt + b.toInt < 2 ^ 31) :
    (a + b).toInt = a.toInt + b.toInt := by
  rw [Int32.toInt_add, Int.bmod_def]
  omega

theorem ClockTracker.calGap_gapsLeft (left : 0 < cal.gapsLeft.toNat) (now : UInt32) (cursor : Nat) :
    (calGap cal now cursor).gapsLeft.toNat = cal.gapsLeft.toNat - 1 := by
  have some : cal.gapsLeft ≠ 0 := by
    intro zero
    rw [zero] at left
    exact absurd left (by decide)
  simp only [calGap, some, if_false]
  rw [UInt8.toNat_sub_of_le]
  next => rfl
  next => exact UInt8.le_iff_toNat_le.mpr left

/-- One more counted gap: neither sum wraps, for at most 255 gaps are counted. -/
theorem Measures.calGap (measures : Measures ticksPerUs train cal) (left : 0 < cal.gapsLeft.toNat) (now : UInt32)
    (cursor : Nat) : Measures ticksPerUs (train.push now) (ClockTracker.calGap cal now cursor) := by
  obtain ⟨last, rest, marks⟩ : ∃ last rest, train.marks = last :: rest := by
    have head := measures.last
    cases same : train.marks with
    | nil => rw [same] at head; cases head
    | cons last rest => exact ⟨last, rest, rfl⟩
  have stamped : last = cal.lastBreak := by
    have head := measures.last
    rw [marks] at head
    exact Option.some.inj head
  have gaps := train.gaps.toNat_lt
  have few := length_accepted_le (train.gap ticksPerUs) train.marks
  have count := measures.count
  have sum := accepted_sum_le (train.gap ticksPerUs) train.marks
  have ticks := measures.gap
  have small := measures.small
  -- The gate of the source compares words; a gap is short enough for the integers to compare alike.
  have accepts : unsignedAbs (now - cal.lastBreak - cal.gapTicks).toInt32 ≤ cal.gapTicks >>> trimGateShift ↔
      16 * (((now - last).toNat : Int) - train.gap ticksPerUs).natAbs ≤ train.gap ticksPerUs := by
    rw [near_iff (by omega), stamped, ticks]
  have pushed : accepted (train.gap ticksPerUs) (train.push now).marks =
      if 16 * (((now - last).toNat : Int) - train.gap ticksPerUs).natAbs ≤ train.gap ticksPerUs then
        (((now - last).toNat : Int) - train.gap ticksPerUs) :: accepted (train.gap ticksPerUs) train.marks
      else accepted (train.gap ticksPerUs) train.marks := by
    rw [Train.push, marks, accepted_cons]
  have kept : train.push now = ⟨train.gapUs, train.gaps, now :: train.marks⟩ := rfl
  have room : (accepted (train.gap ticksPerUs) train.marks).length ≤ 254 := by
    have length : train.marks.length = rest.length + 1 := by rw [marks, List.length_cons]
    omega
  have product : (accepted (train.gap ticksPerUs) train.marks).length * train.gap ticksPerUs ≤ 254 * 2 ^ 24 :=
    Nat.mul_le_mul room (Nat.le_of_lt small)
  have valid := measures.valid
  have err := measures.err
  have span := measures.span
  refine ⟨ticks, small, measures.total, rfl, ?_, ?_, ?_, ?_⟩
  next =>
    rw [kept, ClockTracker.calGap_gapsLeft left]
    simp only [List.length_cons]
    omega
  next =>
    rw [Train.gap_push, pushed]
    simp only [ClockTracker.calGap, accepts]
    split
    next =>
      rw [List.length_cons, UInt8.toNat_add, valid]
      exact Nat.mod_eq_of_lt (by simp only [UInt8.toNat_one]; omega)
    next => exact valid
  next =>
    rw [Train.gap_push, pushed]
    simp only [ClockTracker.calGap, accepts]
    split
    next near =>
      have measured : (now - cal.lastBreak - cal.gapTicks).toInt32.toInt =
          ((now - last).toNat : Int) - train.gap ticksPerUs := by
        rw [← stamped, toInt_sub_of_near (by omega) (by rw [ticks]; exact near), ticks]
      rw [int32_add (by omega) (by omega), measured, err, List.sum_cons, Int.add_comm]
    next => exact err
  next =>
    rw [Train.gap_push, pushed]
    simp only [ClockTracker.calGap, accepts]
    split
    next =>
      rw [UInt32.toNat_add, span, ticks, List.length_cons, Nat.add_mul, Nat.one_mul]
      exact Nat.mod_eq_of_lt (by omega)
    next => exact span

end Gap

inductive ClockEvent where
  | announce (gapUs : UInt16) (gaps : UInt8)
  | mark (now : UInt32) (cursor : Nat)
  | drift (now : UInt32) (cursor len : Nat) (tpb : UInt32)
  | verified (footprint : Nat) (silent : Bool)
  | watchdog
  | poll (onWindow : Int32 → UInt32 → Option Int8)
  | restart

/-- No frame is verified while a train is live: the ladder is not driven then. -/
def ClockEvent.act (ticksPerUs : UInt32) (clock : ClockTracker) : ClockEvent → ClockTracker
  | .announce gapUs gaps => { clock with pendingCal := some (gapUs, gaps) }
  | .mark now cursor => (clock.onCalBreak now cursor ticksPerUs).1
  | .drift now cursor len tpb => clock.onDriftBreak now cursor len tpb
  | .verified footprint silent => if clock.cal.isSome then clock else clock.noteVerified footprint silent
  | .watchdog => clock.abandonCal
  | .poll onWindow => (clock.poll onWindow).1
  | .restart => clock.restart

/-- A mark the train takes: the one that opens it, or one the cursor has moved on for. -/
def ClockTracker.takes (clock : ClockTracker) (cursor : Nat) : Bool :=
  clock.pendingCal.isSome || clock.cal.any fun cal => decide (cursor ≠ cal.cursor)

def ClockEvent.counts (clock : ClockTracker) : ClockEvent → Bool
  | .mark _ cursor => clock.takes cursor
  | _ => false

/-- The tracker beside the train it measures, as the wire timed it. -/
structure Watched where
  clock : ClockTracker := {}
  train : Option Train := none

def Watched.timed (w : Watched) : ClockEvent → Option Train
  | .mark now cursor =>
    match w.clock.pendingCal with
    | some (gapUs, gaps) => some ⟨gapUs, gaps, [now]⟩
    | none => if w.clock.takes cursor then w.train.map (·.push now) else w.train
  | _ => w.train

def Watched.step (ticksPerUs : UInt32) (w : Watched) (event : ClockEvent) : Watched :=
  ⟨event.act ticksPerUs w.clock, w.timed event⟩

def ClockEvent.Announces : ClockEvent → Prop
  | .announce _ gaps => 0 < gaps.toNat
  | _ => True

structure Watched.Sound (ticksPerUs : UInt32) (w : Watched) : Prop where
  live : ∀ cal, w.clock.cal = some cal →
    0 < cal.gapsLeft.toNat ∧ ∃ train, w.train = some train ∧ Measures ticksPerUs train cal
  announced : ∀ gapUs gaps, w.clock.pendingCal = some (gapUs, gaps) → 0 < gaps.toNat
  apart : w.clock.calReady = true → w.clock.driftReady = false
  quiet : w.clock.cal.isSome = true → w.clock.driftReady = false ∧ w.clock.driftSeen = .none

section Steps

variable {ticksPerUs : UInt32} {w : Watched}

theorem ClockTracker.onCalBreak_stale {clock : ClockTracker} {cal : CalRun} (quiet : clock.pendingCal = none)
    (live : clock.cal = some cal) (now : UInt32) : clock.onCalBreak now cal.cursor ticksPerUs = (clock, none) := by
  simp [onCalBreak, quiet, live]

theorem ClockTracker.driftPair_flags (clock : ClockTracker) (err : Int32) (span : UInt32) :
    (clock.driftPair err span).cal = clock.cal ∧
      (clock.driftPair err span).calReady = clock.calReady ∧
      (clock.driftPair err span).driftSeen = clock.driftSeen ∧
      ((clock.driftPair err span).driftReady = clock.driftReady ∨ clock.calReady = false) := by
  unfold driftPair
  split
  next => exact ⟨rfl, rfl, rfl, .inl rfl⟩
  next =>
    dsimp only
    split
    next => exact ⟨rfl, rfl, rfl, .inl rfl⟩
    next =>
      split
      next => exact ⟨rfl, rfl, rfl, .inl rfl⟩
      next free =>
        rw [Bool.or_eq_true, not_or, Bool.not_eq_true] at free
        exact ⟨rfl, rfl, rfl, .inr free.1⟩

theorem ClockTracker.onDriftBreak_flags (clock : ClockTracker) (now : UInt32) (cursor len : Nat) (tpb : UInt32) :
    (clock.onDriftBreak now cursor len tpb).cal = clock.cal ∧
      (clock.onDriftBreak now cursor len tpb).calReady = clock.calReady ∧
      (clock.onDriftBreak now cursor len tpb).driftSeen = .none ∧
      ((clock.onDriftBreak now cursor len tpb).driftReady = clock.driftReady ∨
        clock.calReady = false ∧ clock.driftSeen ≠ .none) := by
  unfold onDriftBreak
  split
  next t1 c1 footprint previous seen =>
    dsimp only
    split
    next => exact ⟨rfl, rfl, rfl, .inl rfl⟩
    next =>
      split
      next => exact ⟨rfl, rfl, rfl, .inl rfl⟩
      next =>
        have pair := ClockTracker.driftPair_flags
          { clock with driftPrev := some (now, cursor), driftSeen := .none }
          (now - t1 - UInt32.ofNat footprint * tpb).toInt32 (UInt32.ofNat footprint * tpb)
        obtain ⟨cal, calReady, driftSeen, driftReady⟩ := pair
        refine ⟨cal, calReady, driftSeen, driftReady.imp_right fun free => ⟨free, ?_⟩⟩
        rw [seen]
        exact VerifiedSpan.noConfusion
  next => exact ⟨rfl, rfl, rfl, .inl rfl⟩

theorem ClockTracker.onCalBreak_cases (clock : ClockTracker) (now : UInt32) (cursor : Nat) :
    (∃ gapUs gaps, clock.pendingCal = some (gapUs, gaps) ∧
      (clock.onCalBreak now cursor ticksPerUs).1 =
        { clock.restart with
          pendingCal := none
          cal := some ⟨gapUs.toUInt32 * ticksPerUs, gaps, gaps, 0, now, cursor, 0, 0⟩ }) ∨
    (clock.pendingCal = none ∧ clock.takes cursor = false ∧ (clock.onCalBreak now cursor ticksPerUs).1 = clock) ∨
    (∃ cal, clock.pendingCal = none ∧ clock.cal = some cal ∧ clock.takes cursor = true ∧
      (((calGap cal now cursor).gapsLeft ≠ 0 ∧
          (clock.onCalBreak now cursor ticksPerUs).1 = { clock with cal := some (calGap cal now cursor) }) ∨
        ((calGap cal now cursor).gapsLeft = 0 ∧ cal.total.toNat ≤ (calGap cal now cursor).valid.toNat * 2 ∧
          (clock.onCalBreak now cursor ticksPerUs).1 =
            { clock with
              cal := none
              cadenceErr := (calGap cal now cursor).err
              cadenceSpan := (calGap cal now cursor).span
              calReady := true }) ∨
        ((calGap cal now cursor).gapsLeft = 0 ∧ ¬cal.total.toNat ≤ (calGap cal now cursor).valid.toNat * 2 ∧
          (clock.onCalBreak now cursor ticksPerUs).1 = { clock with cal := none }))) := by
  cases pending : clock.pendingCal with
  | some announced => exact .inl ⟨announced.1, announced.2, rfl, by simp only [onCalBreak, pending]⟩
  | none =>
    cases live : clock.cal with
    | none => exact .inr (.inl ⟨rfl, by simp [takes, pending, live], by simp only [onCalBreak, pending, live]⟩)
    | some cal =>
      by_cases stale : cursor = cal.cursor
      next =>
        subst stale
        exact .inr (.inl ⟨rfl, by simp [takes, pending, live], by rw [onCalBreak_stale pending live]⟩)
      next =>
        refine .inr (.inr ⟨cal, rfl, rfl, by simp [takes, pending, live, stale], ?_⟩)
        have total : (calGap cal now cursor).total = cal.total := rfl
        simp only [onCalBreak, pending, live, stale, if_false]
        split
        next more => exact .inl ⟨more, rfl⟩
        next last =>
          have last := not_not.mp last
          split
          next half => exact .inr (.inl ⟨last, half, rfl⟩)
          next few => exact .inr (.inr ⟨last, few, rfl⟩)

theorem Measures.opened (rate : ticksPerUs.toNat ≤ 256) (gapUs : UInt16) (gaps : UInt8) (now : UInt32)
    (cursor : Nat) :
    Measures ticksPerUs ⟨gapUs, gaps, [now]⟩ ⟨gapUs.toUInt32 * ticksPerUs, gaps, gaps, 0, now, cursor, 0, 0⟩ := by
  have bound : gapUs.toNat * ticksPerUs.toNat ≤ 65535 * 256 :=
    Nat.mul_le_mul (Nat.le_of_lt_succ gapUs.toNat_lt) rate
  have wide : gapUs.toUInt32.toNat = gapUs.toNat := UInt16.toNat_toUInt32 gapUs
  refine ⟨?_, ?_, rfl, rfl, ?_, rfl, rfl, ?_⟩
  next =>
    rw [UInt32.toNat_mul, wide, Nat.mod_eq_of_lt (by omega)]
    rfl
  next => exact Nat.lt_of_le_of_lt bound (by decide)
  next => exact Nat.add_comm 1 gaps.toNat
  next =>
    rw [show accepted (Train.gap ⟨gapUs, gaps, [now]⟩ ticksPerUs) [now] = [] from rfl, List.length_nil, Nat.zero_mul]
    rfl

theorem Watched.Sound.over {clock : ClockTracker} (cal : clock.cal = none) (pending : clock.pendingCal = none)
    (flags : clock.calReady = true → clock.driftReady = false) (train : Option Train) :
    Watched.Sound ticksPerUs ⟨clock, train⟩ where
  live := by rw [cal]; intro _ none; cases none
  announced := by rw [pending]; intro _ _ none; cases none
  apart := flags
  quiet := by rw [cal]; intro none; cases none

theorem Watched.Sound.boot : Watched.Sound ticksPerUs {} :=
  .over rfl rfl (fun ready => by cases ready) none

theorem Watched.Sound.aside {clock : ClockTracker} (sound : w.Sound ticksPerUs) (cal : clock.cal = w.clock.cal)
    (pending : clock.pendingCal = w.clock.pendingCal)
    (flags : clock.calReady = true → clock.driftReady = false)
    (still : clock.cal.isSome = true → clock.driftReady = false ∧ clock.driftSeen = .none) :
    Watched.Sound ticksPerUs ⟨clock, w.train⟩ where
  live := by rw [cal]; exact sound.live
  announced := by rw [pending]; exact sound.announced
  apart := flags
  quiet := still

theorem Watched.Sound.marked (rate : ticksPerUs.toNat ≤ 256) (sound : w.Sound ticksPerUs) (now : UInt32)
    (cursor : Nat) : (w.step ticksPerUs (.mark now cursor)).Sound ticksPerUs := by
  simp only [Watched.step, ClockEvent.act]
  obtain ⟨gapUs, gaps, pending, out⟩ | ⟨quiet, idle, out⟩ | ⟨cal, quiet, live, takes, outs⟩ :=
    @ClockTracker.onCalBreak_cases ticksPerUs w.clock now cursor
  next =>
    rw [out]
    refine ⟨?_, ?_, fun _ => rfl, fun _ => ⟨rfl, rfl⟩⟩
    next =>
      rintro cal ⟨rfl⟩
      exact ⟨sound.announced gapUs gaps pending, ⟨gapUs, gaps, [now]⟩, by simp only [Watched.timed, pending],
        .opened rate gapUs gaps now cursor⟩
    next => intro gapUs gaps none; cases none
  next =>
    have kept : w.timed (.mark now cursor) = w.train := by simp [Watched.timed, quiet, idle]
    rw [out, kept]
    exact sound
  next =>
    obtain ⟨left, train, timing, measures⟩ := sound.live cal live
    have pushed : w.timed (.mark now cursor) = some (train.push now) := by
      simp [Watched.timed, quiet, takes, timing]
    obtain ⟨ready, seen⟩ := sound.quiet (by rw [live]; rfl)
    rw [pushed]
    obtain ⟨more, out⟩ | ⟨last, half, out⟩ | ⟨last, few, out⟩ := outs
    next =>
      rw [out]
      refine ⟨?_, sound.announced, sound.apart, fun _ => ⟨ready, seen⟩⟩
      rintro next ⟨rfl⟩
      refine ⟨Nat.pos_of_ne_zero fun zero => more (UInt8.toNat_inj.mp zero), train.push now, rfl, ?_⟩
      exact measures.calGap left now cursor
    next =>
      rw [out]
      refine .over ?_ ?_ ?_ _
      next => rfl
      next => exact quiet
      next => exact fun _ => ready
    next =>
      rw [out]
      refine .over ?_ ?_ ?_ _
      next => rfl
      next => exact quiet
      next => exact sound.apart

theorem Watched.Sound.drifted (sound : w.Sound ticksPerUs) (now : UInt32) (cursor len : Nat) (tpb : UInt32) :
    (w.step ticksPerUs (.drift now cursor len tpb)).Sound ticksPerUs := by
  obtain ⟨cal, calReady, driftSeen, driftReady⟩ := w.clock.onDriftBreak_flags now cursor len tpb
  refine sound.aside cal (w.clock.pendingCal_onDriftBreak now cursor len tpb) ?_ ?_
  next =>
    simp only [ClockEvent.act, calReady]
    intro ready
    obtain kept | ⟨free, _⟩ := driftReady
    next => rw [kept]; exact sound.apart ready
    next => rw [ready] at free; cases free
  next =>
    simp only [ClockEvent.act, cal]
    intro live
    obtain ⟨ready, seen⟩ := sound.quiet live
    obtain kept | ⟨_, pair⟩ := driftReady
    next => exact ⟨by rw [kept]; exact ready, driftSeen⟩
    next => exact absurd seen pair

theorem Watched.Sound.polled (sound : w.Sound ticksPerUs) (onWindow : Int32 → UInt32 → Option Int8) :
    (w.step ticksPerUs (.poll onWindow)).Sound ticksPerUs := by
  simp only [Watched.step, ClockEvent.act, ClockTracker.poll]
  split
  next => exact sound.aside rfl rfl (fun ready => by cases ready) (fun _ => ⟨rfl, rfl⟩)
  next =>
    split
    next => exact sound
    next fresh pending =>
      have idle : w.clock.cal.isSome = true → w.clock.driftSeen = .none := fun live => (sound.quiet live).2
      split
      next => exact sound.aside rfl rfl (fun _ => rfl) (fun live => ⟨rfl, idle live⟩)
      next =>
        split
        next => exact sound.aside rfl rfl (fun _ => rfl) (fun live => ⟨rfl, idle live⟩)
        next =>
          dsimp only
          split
          next => exact sound.aside rfl rfl (fun _ => rfl) (fun _ => ⟨rfl, rfl⟩)
          next => exact sound.aside rfl rfl (fun _ => rfl) (fun live => ⟨rfl, idle live⟩)

theorem Watched.Sound.kept (rate : ticksPerUs.toNat ≤ 256) (w : Watched) (event : ClockEvent)
    (sound : w.Sound ticksPerUs) (announces : event.Announces) : (w.step ticksPerUs event).Sound ticksPerUs := by
  cases event with
  | announce gapUs gaps =>
    exact ⟨sound.live, by rintro gapUs gaps ⟨rfl, rfl⟩; exact announces, sound.apart, sound.quiet⟩
  | mark now cursor => exact sound.marked rate now cursor
  | drift now cursor len tpb => exact sound.drifted now cursor len tpb
  | verified footprint silent =>
    simp only [Watched.step, ClockEvent.act]
    split
    next => exact sound
    next idle => exact sound.aside rfl rfl sound.apart (fun live => absurd live idle)
  | watchdog =>
    refine .over ?_ ?_ ?_ _
    next => rfl
    next => rfl
    next => exact sound.apart
  | poll onWindow => exact sound.polled onWindow
  | restart => exact sound.aside rfl rfl (fun _ => rfl) (fun _ => ⟨rfl, rfl⟩)

end Steps

section Length

variable {ticksPerUs : UInt32}

def ClockTracker.remaining (clock : ClockTracker) : Nat :=
  match clock.pendingCal, clock.cal with
  | some (_, gaps), _ => gaps.toNat + 1
  | none, some cal => cal.gapsLeft.toNat
  | none, none => 0

theorem Watched.Sound.calActive_iff {w : Watched} (sound : w.Sound ticksPerUs) :
    w.clock.calActive = true ↔ 0 < w.clock.remaining := by
  cases pending : w.clock.pendingCal with
  | some announced => simp [ClockTracker.calActive, ClockTracker.remaining, pending]
  | none =>
    cases live : w.clock.cal with
    | some cal => simp [ClockTracker.calActive, ClockTracker.remaining, pending, live, (sound.live cal live).1]
    | none => simp [ClockTracker.calActive, ClockTracker.remaining, pending, live]

theorem ClockTracker.remaining_aside {clock other : ClockTracker} (pending : other.pendingCal = clock.pendingCal)
    (cal : other.cal = clock.cal) : other.remaining = clock.remaining := by
  simp only [remaining, pending, cal]

theorem ClockTracker.poll_aside (clock : ClockTracker) (onWindow : Int32 → UInt32 → Option Int8) :
    (clock.poll onWindow).1.pendingCal = clock.pendingCal ∧ (clock.poll onWindow).1.cal = clock.cal := by
  unfold poll
  split
  next => exact ⟨rfl, rfl⟩
  next =>
    split
    next => exact ⟨rfl, rfl⟩
    next =>
      dsimp only
      split
      next => exact ⟨rfl, rfl⟩
      next =>
        split
        next => exact ⟨rfl, rfl⟩
        next => split <;> exact ⟨rfl, rfl⟩

def ClockEvent.isAnnounce : ClockEvent → Bool
  | .announce .. => true
  | _ => false

def ClockEvent.isWatchdog : ClockEvent → Bool
  | .watchdog => true
  | _ => false

theorem ClockEvent.announces_of_not {event : ClockEvent} (other : event.isAnnounce = false) : event.Announces := by
  cases event with
  | announce => cases other
  | _ => trivial

theorem ClockTracker.remaining_act {w : Watched} (sound : w.Sound ticksPerUs) (event : ClockEvent)
    (same : event.isAnnounce = false) :
    if event.isWatchdog then (event.act ticksPerUs w.clock).remaining = 0 ∧ event.counts w.clock = false
    else (event.act ticksPerUs w.clock).remaining + (if event.counts w.clock then 1 else 0) = w.clock.remaining := by
  cases event with
  | announce => cases same
  | watchdog => exact ⟨rfl, rfl⟩
  | mark now cursor =>
    simp only [ClockEvent.isWatchdog, Bool.false_eq_true, if_false, ClockEvent.act, ClockEvent.counts]
    obtain ⟨gapUs, gaps, pending, out⟩ | ⟨quiet, idle, out⟩ | ⟨cal, quiet, live, takes, outs⟩ :=
      @ClockTracker.onCalBreak_cases ticksPerUs w.clock now cursor
    next => simp [out, remaining, takes, pending]
    next => simp [out, idle]
    next =>
      have left := (sound.live cal live).1
      have next := calGap_gapsLeft left now cursor
      have before : w.clock.remaining = cal.gapsLeft.toNat := by simp only [remaining, quiet, live]
      have after : (w.clock.onCalBreak now cursor ticksPerUs).1.remaining = cal.gapsLeft.toNat - 1 := by
        rw [← next]
        obtain ⟨more, out⟩ | ⟨last, half, out⟩ | ⟨last, few, out⟩ := outs
        next => simp only [out, remaining, quiet]
        next => simp only [out, remaining, quiet, last]; rfl
        next => simp only [out, remaining, quiet, last]; rfl
      rw [before, after]
      simp only [takes, if_true]
      omega
  | drift now cursor len tpb =>
    have flags := w.clock.onDriftBreak_flags now cursor len tpb
    exact remaining_aside (w.clock.pendingCal_onDriftBreak now cursor len tpb) flags.1
  | verified footprint silent =>
    simp only [ClockEvent.isWatchdog, Bool.false_eq_true, if_false, ClockEvent.act, ClockEvent.counts]
    split <;> rfl
  | poll onWindow =>
    obtain ⟨pending, cal⟩ := w.clock.poll_aside onWindow
    exact remaining_aside pending cal
  | restart => rfl

def counted (ticksPerUs : UInt32) : Watched → List ClockEvent → Nat
  | _, [] => 0
  | w, event :: events =>
    (if event.counts w.clock then 1 else 0) + counted ticksPerUs (w.step ticksPerUs event) events

theorem Watched.remaining_run (rate : ticksPerUs.toNat ≤ 256) (events : List ClockEvent) (w : Watched)
    (sound : w.Sound ticksPerUs) (same : ∀ event ∈ events, event.isAnnounce = false) :
    counted ticksPerUs w events ≤ w.clock.remaining ∧
      (run (Watched.step ticksPerUs) w events).clock.remaining =
        if events.any ClockEvent.isWatchdog then 0 else w.clock.remaining - counted ticksPerUs w events := by
  induction events generalizing w with
  | nil => simp [counted]
  | cons event events ih =>
    have first := same event List.mem_cons_self
    have sound' := sound.kept rate w event (ClockEvent.announces_of_not first)
    obtain ⟨few, rest⟩ := ih (w.step ticksPerUs event) sound'
      (fun later member => same later (List.mem_cons_of_mem event member))
    have step := ClockTracker.remaining_act sound event first
    rw [run_cons, rest, List.any_cons, counted]
    cases dog : event.isWatchdog with
    | true =>
      rw [dog, if_pos rfl] at step
      have none : (w.step ticksPerUs event).clock.remaining = 0 := step.1
      rw [step.2]
      simp only [Bool.true_or, Bool.false_eq_true, if_true, if_false]
      rw [none] at few ⊢
      refine ⟨by omega, ?_⟩
      split <;> omega
    | false =>
      rw [dog, if_neg Bool.false_ne_true] at step
      have step : (w.step ticksPerUs event).clock.remaining + (if event.counts w.clock then 1 else 0) =
        w.clock.remaining := step
      rw [Bool.false_or]
      refine ⟨by omega, ?_⟩
      congr 1
      omega

end Length

def ClockTracker.Finishes (clock : ClockTracker) (ticksPerUs now : UInt32) (cursor : Nat) : Prop :=
  clock.pendingCal = none ∧ clock.cal.isSome = true ∧ (clock.onCalBreak now cursor ticksPerUs).1.cal = none

instance (clock : ClockTracker) (ticksPerUs now : UInt32) (cursor : Nat) :
    Decidable (clock.Finishes ticksPerUs now cursor) :=
  inferInstanceAs (Decidable (_ ∧ _ ∧ _))

/-- The verdict on a finished train: a result only from a majority of good gaps, and then exactly their sums. -/
structure Judged (ticksPerUs : UInt32) (train : Train) (before after : ClockTracker) : Prop where
  complete : train.marks.length = train.gaps.toNat + 1
  ready : train.gaps.toNat ≤ 2 * (accepted (train.gap ticksPerUs) train.marks).length →
    after.calReady = true ∧
    after.cadenceErr.toInt = (accepted (train.gap ticksPerUs) train.marks).sum ∧
    after.cadenceSpan.toNat = (accepted (train.gap ticksPerUs) train.marks).length * train.gap ticksPerUs ∧
    16 * after.cadenceErr.toInt.natAbs ≤ after.cadenceSpan.toNat
  dropped : 2 * (accepted (train.gap ticksPerUs) train.marks).length < train.gaps.toNat →
    after.calReady = before.calReady ∧
    after.cadenceErr = before.cadenceErr ∧
    after.cadenceSpan = before.cadenceSpan

section Verdict

variable {ticksPerUs : UInt32} {w : Watched}

theorem Watched.Sound.judged (sound : w.Sound ticksPerUs) {now : UInt32} {cursor : Nat}
    (finishes : w.clock.Finishes ticksPerUs now cursor) :
    ∃ train, w.timed (.mark now cursor) = some train ∧
      Judged ticksPerUs train w.clock (w.clock.onCalBreak now cursor ticksPerUs).1 := by
  obtain ⟨quiet, live, over'⟩ := finishes
  obtain ⟨gapUs, gaps, pending, out⟩ | ⟨_, idle, out⟩ | ⟨cal, _, live, takes, outs⟩ :=
    @ClockTracker.onCalBreak_cases ticksPerUs w.clock now cursor
  next => rw [quiet] at pending; cases pending
  next => rw [out] at over'; rw [over'] at live; cases live
  next =>
    obtain ⟨left, train, timing, measures⟩ := sound.live cal live
    have after := measures.calGap left now cursor
    have total : cal.total = train.gaps := measures.total
    have count := after.count
    have valid := after.valid
    have sum := accepted_sum_le (train.gap ticksPerUs) (train.push now).marks
    refine ⟨train.push now, by simp [Watched.timed, quiet, takes, timing], ?_⟩
    obtain ⟨more, out⟩ | ⟨last, half, out⟩ | ⟨last, few, out⟩ := outs
    next => rw [out] at over'; cases over'
    next =>
      rw [total, valid] at half
      rw [last] at count
      refine ⟨count, fun _ => ?_, fun few => absurd half (Nat.not_le.mpr (Nat.mul_comm _ 2 ▸ few))⟩
      rw [out]
      refine ⟨rfl, after.err, after.span, ?_⟩
      simp only [after.err, after.span]
      exact sum
    next =>
      rw [total, valid] at few
      rw [last] at count
      refine ⟨count, fun half => absurd (Nat.mul_comm 2 _ ▸ half) few, fun _ => ?_⟩
      rw [out]
      exact ⟨rfl, rfl, rfl⟩

theorem ClockEvent.raises (clock : ClockTracker) (event : ClockEvent) (idle : clock.calReady = false)
    (ready : (event.act ticksPerUs clock).calReady = true) :
    ∃ now cursor, event = .mark now cursor ∧ clock.Finishes ticksPerUs now cursor := by
  -- Only a mark can end a train with a result.
  cases event with
  | announce => rw [ClockEvent.act, idle] at ready; cases ready
  | mark now cursor =>
    refine ⟨now, cursor, rfl, ?_⟩
    simp only [ClockEvent.act] at ready
    obtain ⟨gapUs, gaps, pending, out⟩ | ⟨_, _, out⟩ | ⟨cal, quiet, live, takes, outs⟩ :=
      @ClockTracker.onCalBreak_cases ticksPerUs clock now cursor
    next =>
      rw [out] at ready
      exact absurd (idle.symm.trans ready) Bool.false_ne_true
    next => rw [out, idle] at ready; cases ready
    next =>
      obtain ⟨more, out⟩ | ⟨last, half, out⟩ | ⟨last, few, out⟩ := outs
      next =>
        rw [out] at ready
        exact absurd (idle.symm.trans ready) Bool.false_ne_true
      next => exact ⟨quiet, by rw [live]; rfl, by rw [out]⟩
      next =>
        rw [out] at ready
        exact absurd (idle.symm.trans ready) Bool.false_ne_true
  | drift now cursor len tpb =>
    have flags := clock.onDriftBreak_flags now cursor len tpb
    rw [ClockEvent.act, flags.2.1, idle] at ready
    cases ready
  | verified footprint silent =>
    simp only [ClockEvent.act] at ready
    split at ready
    next => rw [idle] at ready; cases ready
    next => exact absurd (idle.symm.trans ready) Bool.false_ne_true
  | watchdog => exact absurd (idle.symm.trans ready) Bool.false_ne_true
  | poll onWindow =>
    have kept : (clock.poll onWindow).1.calReady = false := by
      unfold ClockTracker.poll
      rw [idle]
      simp only [Bool.false_eq_true, if_false]
      split
      next => exact idle
      next =>
        split
        next => rfl
        next =>
          split
          next => rfl
          next => split <;> rfl
    rw [ClockEvent.act, kept] at ready
    cases ready
  | restart => exact absurd (idle.symm.trans ready) Bool.false_ne_true

end Verdict

/-- CAL trains measure what the wire timed, whatever the order of marks, drift breaks, polls and watchdogs. -/
theorem calTrain_sound (ticksPerUs : UInt32) (rate : ticksPerUs.toNat ≤ 256) (events : List ClockEvent)
    (announces : ∀ event ∈ events, event.Announces) :
    let w := run (Watched.step ticksPerUs) {} events
    (∀ now cursor, w.clock.Finishes ticksPerUs now cursor →
      ∃ train, w.timed (.mark now cursor) = some train ∧
        Judged ticksPerUs train w.clock (w.clock.onCalBreak now cursor ticksPerUs).1) ∧
    (∀ event : ClockEvent, w.clock.calReady = false → (event.act ticksPerUs w.clock).calReady = true →
      ∃ now cursor, event = .mark now cursor ∧ w.clock.Finishes ticksPerUs now cursor) ∧
    (∀ gapUs gaps later, w.clock.pendingCal = some (gapUs, gaps) →
      (∀ event ∈ later, event.isAnnounce = false) →
      counted ticksPerUs w later ≤ gaps.toNat + 1 ∧
      ((run (Watched.step ticksPerUs) w later).clock.calActive = true ↔
        counted ticksPerUs w later < gaps.toNat + 1 ∧ later.any ClockEvent.isWatchdog = false)) ∧
    (∀ cal now, w.clock.pendingCal = none → w.clock.cal = some cal →
      w.clock.onCalBreak now cal.cursor ticksPerUs = (w.clock, none)) ∧
    ¬(w.clock.calReady = true ∧ w.clock.driftReady = true) := by
  intro w
  have sound : w.Sound ticksPerUs :=
    run_invariant (Watched.step ticksPerUs) (fun _ event => event.Announces) (Watched.Sound ticksPerUs)
      (Watched.Sound.kept rate) {} .boot events (meets_forall _ _ _ announces)
  refine ⟨fun now cursor => sound.judged, fun event => event.raises w.clock, ?_,
    fun cal now quiet live => ClockTracker.onCalBreak_stale quiet live now, ?_⟩
  next =>
    intro gapUs gaps later pending same
    obtain ⟨few, left⟩ := Watched.remaining_run rate later w sound same
    have after : (run (Watched.step ticksPerUs) w later).Sound ticksPerUs :=
      run_invariant (Watched.step ticksPerUs) (fun _ event => event.Announces) (Watched.Sound ticksPerUs)
        (Watched.Sound.kept rate) w sound later
        (meets_forall _ _ _ fun event member => ClockEvent.announces_of_not (same event member))
    have all : w.clock.remaining = gaps.toNat + 1 := by simp only [ClockTracker.remaining, pending]
    rw [all] at few left
    refine ⟨few, ?_⟩
    rw [after.calActive_iff, left]
    cases later.any ClockEvent.isWatchdog with
    | true => simp
    | false =>
      rw [if_neg (by simp), Nat.sub_pos_iff_lt]
      exact (and_iff_left rfl).symm
  next =>
    rintro ⟨cal, drift⟩
    rw [sound.apart cal] at drift
    cases drift

theorem calTrain_sound_two :
    ∃ train, (run (Watched.step 48) {} [.announce 1000 2, .mark 0 12, .mark 48100 13]).timed (.mark 96000 14) =
        some train ∧
      Judged 48 train (run (Watched.step 48) {} [.announce 1000 2, .mark 0 12, .mark 48100 13]).clock
        ((run (Watched.step 48) {} [.announce 1000 2, .mark 0 12, .mark 48100 13]).clock.onCalBreak 96000 14 48).1 :=
  (calTrain_sound 48 (by decide) [.announce 1000 2, .mark 0 12, .mark 48100 13]
    (by simp [ClockEvent.Announces])).1 96000 14 (by decide)

end OpenServo.Bus
