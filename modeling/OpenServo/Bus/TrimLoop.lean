import OpenServo.Bus.Trim
import OpenServo.Shared.Rounding
import OpenServo.Shared.Run

set_option autoImplicit false

namespace OpenServo.Bus

open OpenServo.Shared
open OpenServo.Shared.Checked

def stepPpmMin : Int := 800

def stepPpmMax : Int := 4000

def stepsMax : Nat := 4

def totalMax : Int := 15

structure TrimLoop where
  total : Int
  stepPpm : Int
  lastPpm : Int
  lastSteps : Int
deriving DecidableEq, Repr

namespace TrimLoop

def new (stepPpmNominal : UInt32) : TrimLoop :=
  ⟨0, wrap32 stepPpmNominal.toNat, 0, 0⟩

def portion (mag : Nat) : Nat → Nat
  | 1 => mag
  | 2 => mag / 2
  | 3 => mag / 3
  | _ => mag / 4

/-- The shift of the error for each step of the last correction. -/
def observed (loop : TrimLoop) (ppm : Int) : Checked Int := do
  let delta ← i32 (loop.lastPpm - ppm)
  let q ← i32 (portion delta.natAbs loop.lastSteps.natAbs)
  if decide (delta < 0) == decide (loop.lastSteps < 0) then pure q else i32 (-q)

def measured (loop : TrimLoop) (ppm : Int) : Checked Int :=
  if loop.lastSteps ≠ 0 then do
    let observed ← loop.observed ppm
    if stepPpmMin ≤ observed ∧ observed ≤ stepPpmMax then pure observed else pure loop.stepPpm
  else pure loop.stepPpm

def thresholds (t d : Nat) : List Nat → Int → Checked Int
  | [], mag => pure mag
  | k :: rest, mag => do
    let odd ← u32 (2 * k + 1)
    let boundary ← u32 (odd * d)
    let mag ← i32 (mag + if boundary ≤ t then 1 else 0)
    thresholds t d rest mag

def requested (ppm stepPpm : Int) : Checked Int := do
  let d ← asU32 stepPpm
  let t ← u32 (2 * ppm.natAbs)
  let mag ← thresholds t d (List.range stepsMax) 0
  if ppm < 0 then i32 (-mag) else pure mag

def onWindow (loop : TrimLoop) (errTicks : Int32) (spanTicks : UInt32) : Checked (TrimLoop × Option Int) :=
  -- Defensive: no span, no reading.
  if spanTicks = 0 then pure (loop, none)
  else do
    let ppm ← ppm errTicks spanTicks
    let stepPpm ← loop.measured ppm
    let steps ← requested ppm stepPpm
    let sum ← i32 (loop.total + steps)
    let total ← within sum (-totalMax) totalMax
    -- What was applied, not what was asked.
    let applied ← i32 (total - loop.total)
    if applied = 0 then pure (⟨loop.total, stepPpm, ppm, applied⟩, none)
    else do
      let total ← i8 total
      pure (⟨total, stepPpm, ppm, applied⟩, some total)

end TrimLoop

def Reading (ppm : Int) : Prop :=
  ppm.natAbs < 2 ^ 20

theorem ppm_reading (err : Int32) {span : UInt32} (nonzero : span ≠ 0) :
    (ppm err span).Sat Reading := by
  apply (ppm_sat err nonzero).mono
  rintro value rfl
  have small := saturated_lt (err.toInt.natAbs * 1000000) span.toNat
  have sign : err.toInt.sign.natAbs ≤ 1 := by
    rw [Int.natAbs_sign]
    split <;> omega
  rw [Reading, Int.natAbs_mul, Int.natAbs_natCast]
  calc err.toInt.sign.natAbs * _
    _ ≤ 1 * saturated (err.toInt.natAbs * 1000000) span.toNat := Nat.mul_le_mul_right _ sign
    _ < 2 ^ 20 := by omega

namespace TrimLoop

/-- What the controller holds, whatever it has been fed. -/
structure Ranged (seed : UInt32) (loop : TrimLoop) : Prop where
  total : loop.total.natAbs ≤ 15
  lastSteps : loop.lastSteps.natAbs ≤ 4
  lastPpm : Reading loop.lastPpm
  stepPpm : loop.stepPpm = seed.toNat ∨ 800 ≤ loop.stepPpm ∧ loop.stepPpm ≤ 4000

def gain (loop : TrimLoop) (ppm : Int) : Int :=
  if loop.lastSteps ≠ 0 ∧ 800 ≤ (loop.lastPpm - ppm).tdiv loop.lastSteps ∧
    (loop.lastPpm - ppm).tdiv loop.lastSteps ≤ 4000 then (loop.lastPpm - ppm).tdiv loop.lastSteps
  else loop.stepPpm

def asked (ppm stepPpm : Int) : Int :=
  clamp (roundAway ppm stepPpm.toNat) (-4) 4

def moved (loop : TrimLoop) (ppm : Int) : Int :=
  clamp (loop.total + asked ppm (loop.gain ppm)) (-15) 15

def after (loop : TrimLoop) (ppm : Int) : TrimLoop :=
  ⟨loop.moved ppm, loop.gain ppm, ppm, loop.moved ppm - loop.total⟩

section Window

variable {seed : UInt32} {loop : TrimLoop} {ppm : Int}

theorem portion_eq (mag : Nat) {count : Nat} (some : 1 ≤ count) (few : count ≤ 4) : portion mag count = mag / count := by
  obtain rfl | rfl | rfl | rfl : count = 1 ∨ count = 2 ∨ count = 3 ∨ count = 4 := by omega
  next => exact (Nat.div_one mag).symm
  next => rfl
  next => rfl
  next => rfl

theorem tdiv_signed (delta steps : Int) :
    delta.tdiv steps = if decide (delta < 0) == decide (steps < 0) then ((delta.natAbs / steps.natAbs : Nat) : Int)
      else -(delta.natAbs / steps.natAbs : Nat) := by
  rcases Int.lt_or_le delta 0 with negative | unsigned <;> rcases Int.lt_or_le steps 0 with back | forth
  next =>
    rw [decide_eq_true negative, decide_eq_true back, if_pos (by decide)]
    obtain ⟨size, rfl⟩ := Int.exists_eq_neg_ofNat (Int.le_of_lt negative)
    obtain ⟨count, rfl⟩ := Int.exists_eq_neg_ofNat (Int.le_of_lt back)
    simp
  next =>
    rw [decide_eq_true negative, decide_eq_false (Int.not_lt.mpr forth), if_neg (by decide)]
    obtain ⟨size, rfl⟩ := Int.exists_eq_neg_ofNat (Int.le_of_lt negative)
    obtain ⟨count, rfl⟩ := Int.eq_ofNat_of_zero_le forth
    simp
  next =>
    rw [decide_eq_false (Int.not_lt.mpr unsigned), decide_eq_true back, if_neg (by decide)]
    obtain ⟨size, rfl⟩ := Int.eq_ofNat_of_zero_le unsigned
    obtain ⟨count, rfl⟩ := Int.exists_eq_neg_ofNat (Int.le_of_lt back)
    simp
  next =>
    rw [decide_eq_false (Int.not_lt.mpr unsigned), decide_eq_false (Int.not_lt.mpr forth), if_pos (by decide)]
    obtain ⟨size, rfl⟩ := Int.eq_ofNat_of_zero_le unsigned
    obtain ⟨count, rfl⟩ := Int.eq_ofNat_of_zero_le forth
    simp

theorem observed_sat (ranged : loop.Ranged seed) (reading : Reading ppm) (corrected : loop.lastSteps ≠ 0) :
    (loop.observed ppm).Sat (· = (loop.lastPpm - ppm).tdiv loop.lastSteps) := by
  have last : loop.lastPpm.natAbs < 2 ^ 20 := ranged.lastPpm
  have here : ppm.natAbs < 2 ^ 20 := reading
  unfold observed
  apply (i32_sat (by omega) (by omega)).bind
  rintro delta rfl
  have size : (loop.lastPpm - ppm).natAbs / loop.lastSteps.natAbs ≤ (loop.lastPpm - ppm).natAbs := Nat.div_le_self _ _
  rw [portion_eq _ (by omega) ranged.lastSteps, tdiv_signed]
  generalize (loop.lastPpm - ppm).natAbs / loop.lastSteps.natAbs = q at size
  apply (i32_sat (by omega) (by omega)).bind
  rintro q rfl
  split
  next => exact Sat.pure rfl
  next => exact i32_sat (by omega) (by omega)

theorem measured_sat (ranged : loop.Ranged seed) (reading : Reading ppm) :
    (loop.measured ppm).Sat (· = loop.gain ppm) := by
  unfold measured
  split
  next corrected =>
    apply (observed_sat ranged reading corrected).bind
    rintro observed rfl
    split
    next inside => exact Sat.pure (if_pos ⟨corrected, inside⟩).symm
    next outside => exact Sat.pure (if_neg (fun all => outside all.2)).symm
  next idle => exact Sat.pure (if_neg (fun all => idle all.1)).symm

theorem thresholds_sat (t d : Nat) (places : List Nat) (mag : Int) (low : 0 ≤ mag)
    (room : mag + places.length < 2 ^ 31) (words : ∀ k ∈ places, 2 * k + 1 < 2 ^ 32 ∧ (2 * k + 1) * d < 2 ^ 32) :
    (thresholds t d places mag).Sat (· = mag + places.countP (fun k => decide ((2 * k + 1) * d ≤ t))) := by
  induction places generalizing mag with
  | nil => exact Sat.pure (by simp)
  | cons k rest ih =>
    obtain ⟨odd, boundary⟩ := words k List.mem_cons_self
    rw [List.length_cons] at room
    rw [thresholds]
    apply (u32_sat odd).bind
    rintro odd rfl
    apply (u32_sat boundary).bind
    rintro boundary rfl
    apply (i32_sat (by split <;> omega) (by split <;> omega)).bind
    rintro next rfl
    apply (ih _ (by split <;> omega) (by split <;> omega) fun k' later =>
      words k' (List.mem_cons_of_mem k later)).mono
    rintro value rfl
    rw [List.countP_cons]
    by_cases reached : (2 * k + 1) * d ≤ t
    next =>
      rw [if_pos reached, if_pos (decide_eq_true reached)]
      omega
    next =>
      rw [if_neg reached, if_neg (by simpa using reached)]
      omega

theorem requested_sat (reading : Reading ppm) {d : Int} (positive : 1 ≤ d) (small : d ≤ 2 ^ 28) :
    (requested ppm d).Sat (· = asked ppm d) := by
  have here : ppm.natAbs < 2 ^ 20 := reading
  obtain ⟨d, rfl⟩ := Int.eq_ofNat_of_zero_le (show 0 ≤ d by omega)
  unfold requested
  apply (asU32_sat (by omega) (by omega)).bind
  intro d' cast
  obtain rfl : d' = d := by omega
  apply (u32_sat (by omega)).bind
  rintro t rfl
  apply (thresholds_sat (2 * ppm.natAbs) d' (List.range stepsMax) 0 (Int.le_refl 0) (by decide) ?_).bind
  next =>
    rintro mag rfl
    rw [countP_thresholds (by omega), Int.zero_add, asked, Int.toNat_natCast, clamp]
    have most : stepsMax = 4 := rfl
    rw [most]
    split
    next negative =>
      apply (i32_sat (by omega) (by omega)).mono
      rintro steps rfl
      rw [roundAway_of_neg negative]
      omega
    next other =>
      apply Sat.pure
      rw [roundAway_of_nonneg (by omega) (by omega)]
      omega
  next =>
    intro k inside
    have below : k < 4 := List.mem_range.mp inside
    have product : (2 * k + 1) * d' ≤ 7 * d' := Nat.mul_le_mul_right _ (by omega)
    omega

theorem asked_range (ppm d : Int) : -4 ≤ asked ppm d ∧ asked ppm d ≤ 4 :=
  ⟨le_clamp _ _ _, clamp_le _ (by decide)⟩

theorem gain_range (ranged : loop.Ranged seed) (ppm : Int) :
    loop.gain ppm = seed.toNat ∨ 800 ≤ loop.gain ppm ∧ loop.gain ppm ≤ 4000 := by
  unfold gain
  split
  next inside => exact .inr inside.2
  next => exact ranged.stepPpm

theorem after_ranged (ranged : loop.Ranged seed) (reading : Reading ppm) : (loop.after ppm).Ranged seed := by
  have before := ranged.total
  have steps := asked_range ppm (loop.gain ppm)
  refine ⟨@natAbs_clamp_le _ 15, ?_, reading, gain_range ranged ppm⟩
  show (clamp (loop.total + asked ppm (loop.gain ppm)) (-15) 15 - loop.total).natAbs ≤ 4
  rw [clamp]
  omega

def told (loop : TrimLoop) (ppm : Int) : Option Int :=
  if loop.moved ppm = loop.total then none else some (loop.moved ppm)

variable (low : 1 ≤ seed.toNat) (high : seed.toNat ≤ 2 ^ 28)

include low high

theorem gain_word (ranged : loop.Ranged seed) (ppm : Int) : 1 ≤ loop.gain ppm ∧ loop.gain ppm ≤ 2 ^ 28 := by
  have range := gain_range ranged ppm
  omega

theorem onWindow_sat (ranged : loop.Ranged seed) {err : Int32} {span : UInt32} (nonzero : span ≠ 0)
    (measured : (Bus.ppm err span).Sat (· = ppm)) (reading : Reading ppm) :
    (loop.onWindow err span).Sat (· = (loop.after ppm, loop.told ppm)) := by
  obtain ⟨positive, small⟩ := gain_word low high ranged ppm
  have before := ranged.total
  have steps := asked_range ppm (loop.gain ppm)
  have rail := @natAbs_clamp_le (loop.total + asked ppm (loop.gain ppm)) 15
  unfold onWindow
  rw [if_neg nonzero]
  apply measured.bind
  rintro ppm rfl
  apply (measured_sat ranged reading).bind
  rintro stepPpm rfl
  apply (requested_sat reading positive small).bind
  rintro steps rfl
  apply (i32_sat (by omega) (by omega)).bind
  rintro sum rfl
  apply (within_eq (by decide)).bind
  intro total same
  have same : total = loop.moved ppm := same
  have rail : total.natAbs ≤ 15 := same ▸ rail
  apply (i32_sat (by omega) (by omega)).bind
  rintro applied rfl
  subst same
  split
  next idle =>
    have kept : loop.moved ppm = loop.total := by omega
    apply Sat.pure
    rw [after, told, if_pos kept, kept]
  next changed =>
    apply (i8_sat (by omega) (by omega)).bind
    rintro value rfl
    apply Sat.pure
    rw [after, told, if_neg (by omega)]

end Window

def step (loop : TrimLoop) (window : Int32 × UInt32) : TrimLoop :=
  (loop.onWindow window.1 window.2).val.1

structure WindowLaw (seed : UInt32) (loop : TrimLoop) (err : Int32) (span : UInt32) : Prop where
  passes : (loop.onWindow err span).ok = true
  ranged : (loop.step (err, span)).Ranged seed
  empty : span = 0 → (loop.onWindow err span).val = (loop, none)
  applied : span ≠ 0 → (loop.step (err, span)).lastSteps = (loop.step (err, span)).total - loop.total
  asked : span ≠ 0 → (requested (ppm err span).val (loop.step (err, span)).stepPpm).Sat
    (· = clamp (roundAway (ppm err span).val (loop.step (err, span)).stepPpm.toNat) (-4) 4)
  taken : span ≠ 0 → (loop.step (err, span)).total =
    clamp (loop.total + (requested (ppm err span).val (loop.step (err, span)).stepPpm).val) (-15) 15
  told : (loop.onWindow err span).val.2 =
    if (loop.step (err, span)).total = loop.total then none else some (loop.step (err, span)).total

theorem new_ranged {seed : UInt32} (high : seed.toNat ≤ 2 ^ 28) : (new seed).Ranged seed := by
  have word : wrap32 seed.toNat = seed.toNat := wrap32_of_mem (by omega) (by omega)
  refine ⟨Nat.zero_le _, Nat.zero_le _, ?_, .inl ?_⟩
  next =>
    show (0 : Int).natAbs < 2 ^ 20
    decide
  next => rw [new, word]

section Run

variable {seed : UInt32} (low : 1 ≤ seed.toNat) (high : seed.toNat ≤ 2 ^ 28)

include low high

theorem window_law {loop : TrimLoop} (ranged : loop.Ranged seed) (err : Int32) (span : UInt32) :
    WindowLaw seed loop err span := by
  by_cases empty : span = 0
  case pos =>
    have nothing : loop.onWindow err span = pure (loop, none) := if_pos empty
    have same : loop.step (err, span) = loop := by rw [step, nothing, val_pure]
    constructor
    case passes => rw [nothing]; rfl
    case ranged => rw [same]; exact ranged
    case empty => exact fun _ => by rw [nothing, val_pure]
    case applied => exact fun some => absurd empty some
    case asked => exact fun some => absurd empty some
    case taken => exact fun some => absurd empty some
    case told => rw [same, nothing, if_pos rfl, val_pure]
  case neg =>
    obtain ⟨measured, reading⟩ := ppm_reading err empty
    obtain ⟨passes, value⟩ := onWindow_sat low high ranged empty ⟨measured, rfl⟩ reading
    have next : loop.step (err, span) = loop.after (ppm err span).val := by rw [step, value]
    obtain ⟨positive, small⟩ := gain_word low high ranged (ppm err span).val
    have steps := requested_sat reading positive small
    constructor
    case passes => exact passes
    case ranged => rw [next]; exact after_ranged ranged reading
    case empty => exact fun none => absurd none empty
    case applied => exact fun _ => by rw [next]; rfl
    case asked => exact fun _ => by rw [next]; exact steps
    case taken => exact fun _ => by rw [next]; exact congrArg (fun n => clamp (loop.total + n) (-15) 15) steps.2.symm
    case told => rw [next, value]; rfl

/-- After any windows, from any seed, and at any further window. -/
theorem trim_loop_law (windows : List (Int32 × UInt32)) (err : Int32) (span : UInt32) :
    (run step (new seed) windows).Ranged seed ∧ WindowLaw seed (run step (new seed) windows) err span := by
  have ranged := run_invariant step (fun _ _ => True) (Ranged seed)
    (fun loop window ranged _ => (window_law low high ranged window.1 window.2).ranged) (new seed)
    (new_ranged high) windows (meets_trivial step _ windows)
  exact ⟨ranged, window_law low high ranged err span⟩

end Run

theorem trim_loop_law_nominal : 1 ≤ (2500 : UInt32).toNat ∧ (2500 : UInt32).toNat ≤ 2 ^ 28 ∧
    WindowLaw 2500 (run step (new 2500) [(5200, 1000000), (-7, 3)]) (-2600) 1000000 :=
  ⟨by decide, by decide, (trim_loop_law (by decide) (by decide) [(5200, 1000000), (-7, 3)] (-2600) 1000000).2⟩

/-- A window without a span leaves the record of the correction before it. -/
theorem stale_steps : ¬ ∀ (windows : List (Int32 × UInt32)) (err : Int32) (span : UInt32),
    ((run step (new 2500) windows).step (err, span)).lastSteps =
      ((run step (new 2500) windows).step (err, span)).total - (run step (new 2500) windows).total := by
  intro all
  have measured : (ppm 5200 1000000).Sat (· = 5200) := by
    apply (ppm_sat 5200 (by decide)).mono
    rintro value rfl
    decide
  have first := onWindow_sat (by decide) (by decide) (@new_ranged 2500 (by decide)) (by decide) measured
    (show (5200 : Int).natAbs < 2 ^ 20 by decide)
  have moved : (new 2500).step (5200, 1000000) = ⟨2, 2500, 5200, 2⟩ := by
    rw [step, first.2]
    decide
  have claimed := all [(5200, 1000000)] 0 0
  rw [run_cons, run_nil, moved] at claimed
  exact absurd claimed (by decide)

end TrimLoop

end OpenServo.Bus
