import OpenServo.Motion.Faults
import OpenServo.Shared.Run
import OpenServo.Shared.Streak

set_option autoImplicit false

namespace OpenServo.Motion

open OpenServo.Shared

structure Thresholds where
  tripTicks : UInt8
  deltaMax : UInt16
  badCount : UInt8
  posErrTicks : UInt32

inductive Sample where
  | oc (exceeded : Option Bool)
  | sensor (pos : UInt16)
  | posErr (exceeded : Bool)

namespace Sample

@[simp] def current : Sample → Option Bool
  | oc exceeded => exceeded
  | _ => none

@[simp] def position : Sample → Option UInt16
  | sensor pos => some pos
  | _ => none

@[simp] def error : Sample → Option Bool
  | posErr exceeded => some exceeded
  | _ => none

end Sample

def currents (samples : List Sample) : List Bool :=
  samples.filterMap Sample.current

def positions (samples : List Sample) : List UInt16 :=
  samples.filterMap Sample.position

def errors (samples : List Sample) : List Bool :=
  samples.filterMap Sample.error

def leap (deltaMax a b : UInt16) : Bool :=
  deltaMax.toNat < ((b.toNat : Int) - a.toNat).natAbs

/-- Between the positions of this history only: none reaches back across the reset. -/
def leaps (deltaMax : UInt16) (samples : List Sample) : List Bool :=
  adjacent (leap deltaMax) (positions samples)

namespace Detectors

def take (t : Thresholds) (d : Detectors) : Sample → Bool × Detectors
  | .oc exceeded => d.ocSample exceeded t.tripTicks
  | .sensor pos => d.sensorSample pos t.deltaMax t.badCount
  | .posErr exceeded => d.posErrSample exceeded t.posErrTicks.toNat

def taken (t : Thresholds) (d : Detectors) (sample : Sample) : Detectors :=
  (d.take t sample).2

/-- Each counter is the streak at the end of its history, up to its own largest value. -/
structure Counted (deltaMax : UInt16) (d : Detectors) (samples : List Sample) : Prop where
  oc : d.ocTicks = min (trailing (currents samples)) 255
  bad : d.sensorBad = min (trailing (leaps deltaMax samples)) 255
  posErr : d.posErrTicks = min (trailing (errors samples)) (2 ^ 32 - 1)
  seen : (positions samples).getLast? = if d.sensorSeen then some d.sensorLastPos else none

theorem Counted.reset (deltaMax : UInt16) (d : Detectors) : d.reset.Counted deltaMax [] where
  oc := rfl
  bad := rfl
  posErr := rfl
  seen := rfl

section Keeps

variable {t : Thresholds} {d : Detectors} {samples : List Sample}

theorem filterMap_snoc {A B : Type} (f : A → Option B) (xs : List A) (x : A) :
    (xs ++ [x]).filterMap f = xs.filterMap f ++ (f x).toList := by
  rw [List.filterMap_append]
  cases found : f x <;> simp [found]

@[simp] theorem currents_snoc (samples : List Sample) (sample : Sample) :
    currents (samples ++ [sample]) = currents samples ++ sample.current.toList :=
  filterMap_snoc _ _ _

@[simp] theorem errors_snoc (samples : List Sample) (sample : Sample) :
    errors (samples ++ [sample]) = errors samples ++ sample.error.toList :=
  filterMap_snoc _ _ _

@[simp] theorem positions_snoc (samples : List Sample) (sample : Sample) :
    positions (samples ++ [sample]) = positions samples ++ sample.position.toList :=
  filterMap_snoc _ _ _

theorem leaps_snoc (counted : d.Counted t.deltaMax samples) (pos : UInt16) :
    leaps t.deltaMax (samples ++ [.sensor pos]) =
      leaps t.deltaMax samples ++ if d.sensorSeen then [leap t.deltaMax d.sensorLastPos pos] else [] := by
  have last := counted.seen
  rw [leaps, leaps, positions_snoc]
  cases seen : d.sensorSeen with
  | true =>
    rw [seen, if_pos rfl] at last
    exact adjacent_snoc_of_last _ last pos
  | false =>
    rw [seen] at last
    rw [List.getLast?_eq_none_iff.mp last]
    rfl

theorem Counted.ocSample (counted : d.Counted t.deltaMax samples) (exceeded : Option Bool) :
    (d.ocSample exceeded t.tripTicks).2.Counted t.deltaMax (samples ++ [.oc exceeded]) := by
  have others : leaps t.deltaMax (samples ++ [.oc exceeded]) = leaps t.deltaMax samples := by
    simp [leaps]
  have rest : (d.ocSample exceeded t.tripTicks).2 =
      { d with ocTicks := (d.ocSample exceeded t.tripTicks).2.ocTicks } := by
    match exceeded with
    | none => rfl
    | some true => rfl
    | some false => rfl
  rw [rest]
  refine ⟨?_, by rw [others]; exact counted.bad, by simpa using counted.posErr, by simpa using counted.seen⟩
  match exceeded with
  | none => simpa [Detectors.ocSample] using counted.oc
  | some true => simpa [Detectors.ocSample] using counted_snoc counted.oc true
  | some false => simp [Detectors.ocSample]

theorem Counted.posErrSample (counted : d.Counted t.deltaMax samples) (exceeded : Bool) :
    (d.posErrSample exceeded t.posErrTicks.toNat).2.Counted t.deltaMax (samples ++ [.posErr exceeded]) where
  oc := by simpa [Detectors.posErrSample] using counted.oc
  bad := by simpa [Detectors.posErrSample, leaps] using counted.bad
  posErr := by
    rw [errors_snoc]
    exact counted_snoc counted.posErr exceeded
  seen := by simpa [Detectors.posErrSample] using counted.seen

theorem Counted.sensorSample (counted : d.Counted t.deltaMax samples) (pos : UInt16) :
    (d.sensorSample pos t.deltaMax t.badCount).2.Counted t.deltaMax (samples ++ [.sensor pos]) where
  oc := by simpa [Detectors.sensorSample] using counted.oc
  bad := by
    rw [leaps_snoc counted]
    cases seen : d.sensorSeen with
    | true =>
      have bump := counted_snoc counted.bad (leap t.deltaMax d.sensorLastPos pos)
      simpa [Detectors.sensorSample, seen, leap] using bump
    | false =>
      -- Nothing was compared yet, so nothing was counted.
      have last := counted.seen
      rw [seen] at last
      have nothing : leaps t.deltaMax samples = [] := by
        rw [leaps, List.getLast?_eq_none_iff.mp last]
        rfl
      simp [Detectors.sensorSample, seen, nothing]
  posErr := by simpa [Detectors.sensorSample] using counted.posErr
  seen := by
    rw [positions_snoc]
    exact List.getLast?_concat

theorem Counted.taken (counted : d.Counted t.deltaMax samples) (sample : Sample) :
    (d.taken t sample).Counted t.deltaMax (samples ++ [sample]) := by
  cases sample with
  | oc exceeded => exact counted.ocSample exceeded
  | sensor pos => exact counted.sensorSample pos
  | posErr exceeded => exact counted.posErrSample exceeded

end Keeps

theorem counted_run (t : Thresholds) (d : Detectors) (samples : List Sample) :
    (run (taken t) d.reset samples).Counted t.deltaMax samples := by
  induction samples using List.reverseRecOn with
  | nil => exact .reset t.deltaMax d
  | append_singleton samples sample ih =>
    rw [run_append]
    exact ih.taken sample

section Says

variable {t : Thresholds} {d : Detectors} {samples : List Sample}

theorem ocSample_iff (counted : d.Counted t.deltaMax samples) (exceeded : Option Bool) :
    (d.ocSample exceeded t.tripTicks).1 = true ↔
      exceeded = some true ∧ Streak t.tripTicks.toNat (currents (samples ++ [.oc exceeded])) := by
  have after := (counted.ocSample exceeded).oc
  have fits := t.tripTicks.toNat_lt
  rw [streak_iff_counted after (by omega)]
  match exceeded with
  | none => simp [ocSample]
  | some false => simp [ocSample]
  | some true => simp [ocSample]

theorem sensorSample_iff (counted : d.Counted t.deltaMax samples) (one : 1 ≤ t.badCount) (pos : UInt16) :
    (d.sensorSample pos t.deltaMax t.badCount).1 = true ↔
      Streak t.badCount.toNat (leaps t.deltaMax (samples ++ [.sensor pos])) := by
  have after := (counted.sensorSample pos).bad
  have fits := t.badCount.toNat_lt
  have least : 1 ≤ t.badCount.toNat := UInt8.le_iff_toNat_le.mp one
  rw [streak_iff_counted after (by omega)]
  simp only [sensorSample, Bool.and_eq_true, decide_eq_true_eq]
  constructor
  next => exact fun both => both.2
  next =>
    intro reached
    refine ⟨?_, reached⟩
    by_contra calm
    rw [if_neg (by simpa using calm)] at reached
    omega

theorem posErrSample_iff (counted : d.Counted t.deltaMax samples) (one : 1 ≤ t.posErrTicks) (exceeded : Bool) :
    (d.posErrSample exceeded t.posErrTicks.toNat).1 = true ↔
      Streak t.posErrTicks.toNat (errors (samples ++ [.posErr exceeded])) := by
  have after := (counted.posErrSample exceeded).posErr
  have fits := t.posErrTicks.toNat_lt
  have least : 1 ≤ t.posErrTicks.toNat := UInt32.le_iff_toNat_le.mp one
  rw [streak_iff_counted after (by omega)]
  cases exceeded with
  | true => simp [posErrSample]
  | false =>
    have above : ¬ t.posErrTicks.toNat ≤ 0 := by omega
    simpa [posErrSample] using above

end Says

theorem detector_history (t : Thresholds) (bad : 1 ≤ t.badCount) (posErr : 1 ≤ t.posErrTicks) (d : Detectors)
    (past : List Sample) :
    let now := run (taken t) d.reset past
    (∀ exceeded, (now.take t (.oc exceeded)).1 = true ↔
      exceeded = some true ∧ Streak t.tripTicks.toNat (currents (past ++ [.oc exceeded]))) ∧
    (∀ pos, (now.take t (.sensor pos)).1 = true ↔
      Streak t.badCount.toNat (leaps t.deltaMax (past ++ [.sensor pos]))) ∧
    (∀ exceeded, (now.take t (.posErr exceeded)).1 = true ↔
      Streak t.posErrTicks.toNat (errors (past ++ [.posErr exceeded]))) := by
  intro now
  have counted := counted_run t d past
  exact ⟨ocSample_iff counted, sensorSample_iff counted bad, posErrSample_iff counted posErr⟩

theorem detector_history_masked :
    ((run (taken ⟨2, 100, 1, 1⟩) (reset {}) [.oc (some true), .oc none]).take ⟨2, 100, 1, 1⟩
      (.oc (some true))).1 = true := by
  have verdict := (detector_history ⟨2, 100, 1, 1⟩ (by decide) (by decide) {} [.oc (some true), .oc none]).1
  exact (verdict (some true)).mpr ⟨rfl, [], rfl⟩

end Detectors

end OpenServo.Motion
