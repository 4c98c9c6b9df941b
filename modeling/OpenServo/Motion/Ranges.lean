import Mathlib.Tactic.NormNum
import OpenServo.Motion.CheckedLoops
import OpenServo.Motion.DutyCap

set_option autoImplicit false

namespace OpenServo.Motion

open OpenServo.Shared OpenServo.Shared.Checked

theorem gain_le (gain : UInt16) : (gain.toNat : Int).natAbs ≤ 65535 := by
  have word := gain.toNat_lt
  omega

theorem sat32_range (x : Int) : -2 ^ 31 ≤ sat32 x ∧ sat32 x < 2 ^ 31 := by
  rw [sat32, clamp]
  omega

theorem sat32_nonneg {x : Int} (positive : 0 ≤ x) : 0 ≤ sat32 x := by
  rw [sat32, clamp]
  omega

theorem gain_sat (gain : UInt16) {x : Int} {k : Nat} (size most : Nat) (small : x.natAbs ≤ size)
    (product : 65535 * size ≤ most * 2 ^ k) (fits : most < 2 ^ 31) :
    (checkedMul gain.toNat x k).Sat (fun v => v.natAbs ≤ most) :=
  (scaled_sat 65535 size most (gain_le gain) small product fits).mono (fun _ scaled => scaled.1)

theorem filter_sat (initialized : Bool) {state x lo hi : Int} (shift : Nat) (inside : lo ≤ state ∧ state ≤ hi)
    (sample : lo ≤ x ∧ x ≤ hi) (least : -2 ^ 31 ≤ lo) (most : hi < 2 ^ 31) (span : hi - lo < 2 ^ 31) :
    (checkedFilter initialized state x shift).Sat (fun v => lo ≤ v ∧ v ≤ hi) := by
  cases initialized with
  | false => exact .pure sample
  | true => exact ewma_sat shift inside.1 inside.2 sample.1 sample.2 least most span

structure VcalLpf.Ranged (f : VcalLpf) : Prop where
  stateQ6 : 0 ≤ f.stateQ6 ∧ f.stateQ6 ≤ 4095 * 2 ^ 6

theorem VcalLpf.new_ranged : Ranged {} :=
  ⟨by decide⟩

theorem VcalLpf.checkedUpdate_sat {f : VcalLpf} (ranged : f.Ranged) {raw : UInt16} (sample : raw.toNat ≤ 4095) :
    (f.checkedUpdate raw).Sat (fun updated => updated.1.Ranged) := by
  apply (word_sat (by omega) (by omega)).bind
  intro x same
  apply (filter_sat f.initialized 7 ranged.stateQ6 (by omega) (by omega) (by omega) (by omega)).bind
  intro state inside
  exact .pure ⟨inside⟩

namespace FusionObs

structure Ranged (f : FusionObs) : Prop where
  theta : f.theta.natAbs ≤ 2 ^ 29
  omega : f.omega.natAbs ≤ 32767 * 2 ^ 16
  tauD : f.tauD.natAbs ≤ 4095 * 2 ^ 16

theorem new_ranged : Ranged {} :=
  ⟨by decide, by decide, by decide⟩

theorem checkedSeed_sat {posMeas : UInt16} (sample : posMeas.toNat ≤ 4095) : (checkedSeed posMeas).Sat Ranged := by
  apply (i32_sat (by omega) (by omega)).bind
  intro theta same
  exact .pure ⟨by simp only; omega, Nat.zero_le _, Nat.zero_le _⟩

theorem checkedBlend_sat {omega : Int} (inside : omega.natAbs ≤ 32767 * 2 ^ 16) (omegaBemf : Int) (gain : UInt16) :
    (checkedBlend omega omegaBemf gain).Sat (fun v => v.natAbs ≤ 32767 * 2 ^ 16) := by
  unfold checkedBlend
  split
  next =>
    have error := sat32_range (omegaBemf - omega)
    apply (gain_sat gain (2 ^ 31) (65535 * 2 ^ 15) (by omega) (by omega) (by omega)).bind
    intro nudge _
    exact within_abs (32767 * 2 ^ 16) rfl
  next => exact .pure inside

theorem checkedStep_sat (f : FusionObs) (iCounts : Int) {posMeas : UInt16} (sample : posMeas.toNat ≤ 4095)
    (omegaBemf : Int) {dtMedQ32 : Int} (positive : 0 ≤ dtMedQ32)
    (small : dtMedQ32 < 2 ^ 31) (gains : FusionGains) :
    (f.checkedStep iCounts posMeas omegaBemf dtMedQ32 gains).Sat Ranged := by
  apply (within_abs 8192 rfl).bind
  intro accel accelerated
  apply (gain_sat gains.bIQ313 8192 (65535 * 8192) accelerated (by omega) (by omega)).bind
  intro push _
  apply (within_abs (32767 * 2 ^ 16) rfl).bind
  intro omega predicted
  apply (scaled_sat (2 ^ 31) (2 ^ 31) (2 ^ 30) (by omega) (by omega) (by omega) (by omega)).bind
  intro travel _
  apply (within_abs (2 ^ 29) rfl).bind
  intro theta tracked
  apply (i32_sat (by omega) (by omega)).bind
  intro measured same
  apply (i32_sat (by omega) (by omega)).bind
  intro error _
  apply (within_abs (2 ^ 23) rfl).bind
  intro e innovation
  apply (gain_sat gains.l1Q016 (2 ^ 23) (65535 * 2 ^ 7) innovation (by omega) (by omega)).bind
  intro first _
  apply (within_abs (2 ^ 29) rfl).bind
  intro theta corrected
  apply (gain_sat gains.l2Q88 (2 ^ 23) (65535 * 2 ^ 15) innovation (by omega) (by omega)).bind
  intro second _
  apply (within_abs (32767 * 2 ^ 16) rfl).bind
  intro omega turned
  apply (gain_sat gains.l3Q88 (2 ^ 23) (65535 * 2 ^ 15) innovation (by omega) (by omega)).bind
  intro third _
  apply (within_abs (4095 * 2 ^ 16) rfl).bind
  intro tauD disturbed
  apply (checkedBlend_sat turned omegaBemf gains.lBemfQ016).bind
  intro omega blended
  exact .pure ⟨corrected, blended, disturbed⟩

end FusionObs

section Recip

theorem mulU_sat {a b k : Nat} (fits : a * b / 2 ^ k < 2 ^ 32) : (checkedMulU a b k).Sat (· = a * b / 2 ^ k) := by
  have shifted : (a * b) >>> k < 2 ^ 32 := by
    rw [Nat.shiftRight_eq_div_pow]
    exact fits
  refine ⟨decide_eq_true shifted, ?_⟩
  rw [checkedMulU_val, qMulU, Nat.mod_eq_of_lt shifted, Nat.shiftRight_eq_div_pow]

theorem subU_sat {a b : Nat} (small : a < 2 ^ 32) (le : b ≤ a) : (checkedSubU a b).Sat (· = a - b) :=
  ⟨decide_eq_true le, subU_of_le small le⟩

/-- The next step has room again: it starts no further above the reciprocal than this one did. -/
theorem newton_sat {r dn : Nat} (normal : 2 ^ 31 ≤ dn) (room : r * dn ≤ 2 ^ 63) :
    (checkedNewton r dn).Sat (fun v => v < 2 ^ 32 ∧ v * dn ≤ 2 ^ 63) := by
  have below : r * dn / 2 ^ 32 ≤ 2 ^ 31 := by omega
  have step := newton_step_le r dn (2 ^ 30) (2 ^ 32) (by decide) (by omega)
  rw [show 2 * 2 ^ 30 = 2 ^ 31 from rfl] at step
  apply (mulU_sat (by omega)).bind
  intro product same
  subst same
  apply (subU_sat (by decide) below).bind
  intro rest same
  subst same
  generalize quotient : r * (2 ^ 31 - r * dn / 2 ^ 32) / 2 ^ 30 = q at step
  have bound : q * dn ≤ 2 ^ 63 := by omega
  have word : q < 2 ^ 32 := by
    have scaled : q * 2 ^ 31 * (4 * 2 ^ 30) ≤ q * dn * (4 * 2 ^ 30) :=
      Nat.mul_le_mul_right _ (Nat.mul_le_mul_left q normal)
    omega
  apply (mulU_sat (by omega)).mono
  intro value same
  rw [same, quotient]
  exact ⟨word, bound⟩

theorem recipDiv_le (num : Nat) {d : Nat} (small : d < 2 ^ 32) : recipDiv num d ≤ num := by
  by_cases unit : d ≤ 1
  next => rw [recipDiv, if_pos unit]
  next =>
    have divided := recipDiv_mul_le num small
    have twice : recipDiv num d * 2 ≤ recipDiv num d * d := Nat.mul_le_mul_left _ (by omega)
    omega

theorem recipDiv_sat {num d : Nat} (numerator : num < 2 ^ 32) (small : d < 2 ^ 32) :
    (checkedRecipDiv num d).Sat (· ≤ num) := by
  refine ⟨?_, by rw [checkedRecipDiv_val]; exact recipDiv_le num small⟩
  suffices passes : (checkedRecipDiv num d).Sat (fun _ => True) from passes.1
  unfold checkedRecipDiv
  split
  next => exact .pure trivial
  next large =>
    obtain ⟨positive, normal, high⟩ := normalised (by omega) small
    have shift : (checkedShift (31 - d.log2)).Sat (· = 31 - d.log2) := ⟨decide_eq_true (by omega), rfl⟩
    apply shift.bind
    intro n same
    rw [← Nat.shiftLeft_eq, ← same] at normal high
    apply (u32_sat high).bind
    intro dn scaled
    rw [← scaled] at high normal
    have room := seed_room high
    have seeded := recipSeed_le high
    rw [recipSeed_eq high] at seeded
    apply (mulU_sat (Nat.lt_of_le_of_lt room (by decide))).bind
    intro slope same
    subst same
    apply (subU_sat (by decide) room).bind
    intro seed same
    subst same
    -- The seed leaves room for the first step, and that for the second.
    apply (newton_sat normal (by omega)).bind
    intro once first
    apply (newton_sat normal first.2).bind
    intro twice second
    have product : num * twice < 2 ^ 32 * 2 ^ 32 := Nat.mul_lt_mul'' numerator second.1
    have top : (num * twice) >>> 32 < 2 ^ 32 := by
      rw [Nat.shiftRight_eq_div_pow]
      omega
    apply (u32_sat top).bind
    intro top _
    apply (minus_sat (by omega)).bind
    intro left rest
    have amount : (checkedShift left).Sat (fun _ => True) := ⟨decide_eq_true (by omega), trivial⟩
    apply amount.bind
    intro _ _
    exact .pure trivial

/-- Dividing any word by any divisor but 0: nothing is lost on the way, the result is within a part in 65536 and two
of the quotient, and it grows with the number. -/
theorem recipDiv_law (num d : UInt32) (positive : 0 < d.toNat) :
    (checkedRecipDiv num.toNat d.toNat).Sat (· = recipDiv num.toNat d.toNat) ∧
      ((recipDiv num.toNat d.toNat : Int) - (num.toNat / d.toNat : Nat)).natAbs ≤
        num.toNat / d.toNat / 65536 + 2 ∧
      ∀ more : UInt32, num ≤ more → recipDiv num.toNat d.toNat ≤ recipDiv more.toNat d.toNat := by
  have word := num.toNat_lt
  have small := d.toNat_lt
  obtain ⟨passes, _⟩ := recipDiv_sat word small
  obtain ⟨most, least⟩ := recipDiv_near word positive small
  refine ⟨⟨passes, checkedRecipDiv_val _ _⟩, by omega, ?_⟩
  intro more le
  exact recipDiv_mono d.toNat (UInt32.le_iff_toNat_le.mp le)

theorem recipDiv_law_top : 0 < (4294967295 : UInt32).toNat ∧
    (checkedRecipDiv (4294967295 : UInt32).toNat (4294967295 : UInt32).toNat).Sat
      (· = recipDiv (4294967295 : UInt32).toNat (4294967295 : UInt32).toNat) :=
  ⟨by decide, (recipDiv_law 4294967295 4294967295 (by decide)).1⟩

end Recip

namespace VbusEst

structure Ranged (v : VbusEst) : Prop where
  stateQg : 0 ≤ v.stateQg ∧ v.stateQg ≤ 4095 * 2 ^ 3
  recipQ15 : v.recipQ15 ≤ 32767 * 2 ^ 15

theorem new_ranged : Ranged {} :=
  ⟨by decide, by decide⟩

theorem checkedSample_sat {v : VbusEst} (ranged : v.Ranged) {vdrive : Option UInt16}
    (sample : ∀ s, vdrive = some s → s.toNat ≤ 4095) : (v.checkedSample vdrive).Sat Ranged := by
  cases vdrive with
  | none => exact .pure ranged
  | some s =>
    have small := sample s rfl
    apply (word_sat (by omega) (by omega)).bind
    intro x same
    apply (filter_sat v.initialized 3 ranged.stateQg (by omega) (by omega) (by omega) (by omega)).bind
    intro state inside
    exact .pure ⟨inside, ranged.recipQ15⟩

theorem checkedStep_sat {v : VbusEst} (ranged : v.Ranged) {vdrive : Option UInt16}
    (sample : ∀ s, vdrive = some s → s.toNat ≤ 4095) (floor : UInt16) : (v.checkedStep vdrive floor).Sat Ranged := by
  apply (checkedSample_sat ranged sample).bind
  intro v sampled
  have counts := v.vbusCounts_lt
  have word := floor.toNat_lt
  apply (recipDiv_sat (by decide) (by omega)).bind
  intro recip bound
  exact .pure ⟨sampled.stateQg, bound⟩

end VbusEst

namespace BemfObs

structure Ranged (b : BemfObs) : Prop where
  stateQg : -2 ^ 29 ≤ b.stateQg ∧ b.stateQg ≤ 2 ^ 29

theorem new_ranged : Ranged {} :=
  ⟨by decide⟩

theorem checkedStep_sat {b : BemfObs} (ranged : b.Ranged) {vMean iMeas : Option Int}
    (volts : ∀ v, vMean = some v → v.natAbs ≤ 4095) (amps : ∀ i, iMeas = some i → i.natAbs ≤ 65535)
    (rQ12 recipKeQ : UInt16) : (b.checkedStep vMean iMeas rQ12 recipKeQ).Sat Ranged := by
  cases vMean with
  | none => exact .pure ranged
  | some v =>
    cases iMeas with
    | none => exact .pure ranged
    | some i =>
      have mean := volts v rfl
      have current := amps i rfl
      apply (gain_sat rQ12 65535 (2 ^ 20) current (by omega) (by omega)).bind
      intro rDrop drop
      apply (i32_sat (by omega) (by omega)).bind
      intro rest same
      apply (scaled_sat (2 ^ 20 + 4095) 65535 (2 ^ 27 - 1) (by omega) (gain_le recipKeQ) (by decide) (by omega)).bind
      intro omega scaled
      apply (i32_sat (by omega) (by omega)).bind
      intro x shifted
      apply (filter_sat b.initialized 2 ranged.stateQg (by omega) (by omega) (by omega) (by omega)).bind
      intro state inside
      exact .pure ⟨inside⟩

end BemfObs

namespace WindingTherm

structure Ranged (w : WindingTherm) : Prop where
  rQg : 0 ≤ w.rQg ∧ w.rQg ≤ 2 ^ 24
  tCc : -2 ^ 15 ≤ w.tCc ∧ w.tCc ≤ 2 ^ 15 - 1

theorem new_ranged : Ranged {} :=
  ⟨by decide, by decide⟩

theorem Ranged.whole {w : WindingTherm} (ranged : w.Ranged) :
    0 ≤ w.rQg >>> (8 : Nat) ∧ w.rQg >>> (8 : Nat) ≤ 2 ^ 16 := by
  have bounds := ranged.rQg
  rw [Int.shiftRight_eq_div_pow]
  omega

theorem checkedTrack_sat {w : WindingTherm} (ranged : w.Ranged) (vMean : Int) {iMeas : Option Int}
    (amps : ∀ i, iMeas = some i → i.natAbs ≤ 65535) (omegaHatAbsCps : Nat) (gates : ThermGates)
    (anchor : ThermAnchor) : (w.checkedTrack vMean iMeas omegaHatAbsCps gates anchor).Sat Ranged := by
  cases iMeas with
  | none => exact .pure ranged
  | some i =>
    have current := amps i rfl
    have whole := ranged.whole
    have bounds := ranged.rQg
    have mu := anchor.muQ016.toNat_lt
    simp only [checkedTrack]
    split
    next =>
      apply (scaled_sat (2 ^ 16) 65535 (2 ^ 20) (by omega) current (by omega) (by omega)).bind
      intro rDrop _
      apply (within_abs (2 ^ 20) rfl).bind
      intro eV clamped
      apply (word_sat (by split <;> omega) (by split <;> omega)).bind
      intro eSigned signed
      have size : eSigned.natAbs ≤ 2 ^ 20 := by
        rw [signed]
        split <;> omega
      apply (word_sat (by omega) (by omega)).bind
      intro mu same
      apply (scaled_sat (2 ^ 24) (2 ^ 20) (2 ^ 28) (by omega) size (by omega) (by omega)).bind
      intro step small
      apply (i32_sat (by omega) (by omega)).bind
      intro moved _
      apply (within_sat (by decide)).bind
      intro rQg inside
      exact .pure ⟨inside, ranged.tCc⟩
    next => exact .pure ranged

theorem checkedStep_sat {w : WindingTherm} (ranged : w.Ranged) (vMean : Int) {iMeas : Option Int}
    (amps : ∀ i, iMeas = some i → i.natAbs ≤ 65535) (omegaHatAbsCps : Nat) (gates : ThermGates)
    (anchor : ThermAnchor) : (w.checkedStep vMean iMeas omegaHatAbsCps gates anchor).Sat Ranged := by
  have low := anchor.t0Cc.le_toInt
  have high := anchor.t0Cc.toInt_lt
  have word := anchor.r0Q12.toNat_lt
  unfold checkedStep
  split
  next => exact .pure ⟨ranged.rQg, by simp only; omega⟩
  next =>
    apply (checkedTrack_sat ranged vMean amps omegaHatAbsCps gates anchor).bind
    intro w tracked
    have whole := tracked.whole
    apply (i32_sat (by omega) (by omega)).bind
    intro rise same
    apply (scaled_sat (2 ^ 16) 65535 (2 ^ 24) (by omega) (gain_le anchor.kR2tQ88) (by omega) (by omega)).bind
    intro dt scaled
    apply (i32_sat (by omega) (by omega)).bind
    intro t _
    apply (within_sat (by omega)).bind
    intro tCc inside
    exact .pure ⟨tracked.rQg, inside⟩

end WindingTherm

namespace CurrentLoop

structure Ranged (loop : CurrentLoop) : Prop where
  integ : loop.integ.natAbs < 2 ^ 31
  lastDuty : loop.lastDuty.natAbs ≤ 32767

theorem new_ranged : Ranged {} :=
  ⟨by decide, by decide⟩

theorem checkedError_sat (iRef : Int) (iMeas : Option Int) :
    (checkedError iRef iMeas).Sat (fun e => e.natAbs ≤ 8192) := by
  cases iMeas with
  | none => exact .pure (Nat.zero_le _)
  | some i => exact within_abs 8192 rfl

theorem checkedDemand_sat (loop : CurrentLoop) {e omegaHat : Int} (error : e.natAbs ≤ 8192)
    (speed : omegaHat.natAbs ≤ 32767 * 2 ^ 16) (gains : CurrentGains) :
    (loop.checkedDemand e omegaHat gains).Sat (fun _ => True) := by
  apply (gain_sat gains.kpQ88 8192 (2 ^ 21) error (by omega) (by omega)).bind
  intro uP _
  apply (scaled_sat (32767 * 2 ^ 16) 65535 (2 ^ 19) speed (gain_le gains.keQ412) (by omega) (by omega)).bind
  intro uFf _
  exact .pure trivial

theorem checkedCharge_sat {loop : CurrentLoop} (ranged : loop.Ranged) (measured : Bool) {e : Int}
    (error : e.natAbs ≤ 8192) (u uCl : Int) {vMax : Int} (positive : 0 ≤ vMax) (gains : CurrentGains) :
    (loop.checkedCharge measured e u uCl vMax gains).Sat (fun integ => integ.natAbs < 2 ^ 31) := by
  unfold checkedCharge
  split
  next =>
    apply (within_abs 8192 rfl).bind
    intro aw excess
    apply (gain_sat gains.kiQ412 8192 (65535 * 8192) error (by omega) (by omega)).bind
    intro ki _
    apply (gain_sat gains.kawQ412 8192 (65535 * 8192) excess (by omega) (by omega)).bind
    intro kaw _
    have limit := sat32_range (vMax * 2 ^ 16)
    have least : 0 ≤ sat32 (vMax * 2 ^ 16) := sat32_nonneg (by omega)
    apply (within_sat (by omega)).mono
    intro integ inside
    omega
  next => exact .pure ranged.integ

/-- The duty cap of the table is what keeps the last product in its word. -/
theorem checkedStep_sat {loop : CurrentLoop} (ranged : loop.Ranged) (iRef : Int) (iMeas : Option Int) {omegaHat : Int}
    (speed : omegaHat.natAbs ≤ 32767 * 2 ^ 16) {vbusCounts recip : Nat} (supply : vbusCounts < 2 ^ 16)
    (reciprocal : recip ≤ 32767 * 2 ^ 15) {gains : CurrentGains} (cap : gains.dutyMaxQ15.toNat ≤ 32767) :
    (loop.checkedStep iRef iMeas omegaHat vbusCounts recip gains).Sat
      (fun out => out.2.Ranged ∧ out.1.natAbs ≤ 32767) := by
  apply (checkedError_sat iRef iMeas).bind
  intro e error
  apply (checkedDemand_sat loop error speed gains).bind
  intro u _
  apply (scaled_sat 32767 65535 65534 (by omega) (by omega) (by omega) (by omega)).bind
  intro vMax volts
  have positive : 0 ≤ vMax := volts.2 (by omega) (by omega)
  apply (within_sat (by omega)).bind
  intro uCl clamped
  apply (checkedCharge_sat ranged iMeas.isSome error u uCl positive gains).bind
  intro integ charged
  apply (scaled_sat 65534 (32767 * 2 ^ 15) (65534 * 32767) (by omega) (by omega) (by omega) (by omega)).bind
  intro scaled _
  apply (within_abs 32767 rfl).bind
  intro duty capped
  exact .pure ⟨⟨charged, capped⟩, capped⟩

end CurrentLoop

namespace IBand

structure Ranged (band : IBand) : Prop where
  lo : band.lo.natAbs ≤ 65535
  hi : band.hi.natAbs ≤ 65535

theorem zero_ranged : zero.Ranged :=
  ⟨by decide, by decide⟩

theorem checkedClamp_sat {band : IBand} (ranged : band.Ranged) (i : Int) :
    (band.checkedClamp i).Sat (fun v => v.natAbs ≤ 65535) := by
  have lo := ranged.lo
  have hi := ranged.hi
  have order : band.lo ≤ band.hi := Int.le_trans band.lo_le band.le_hi
  apply (within_sat order).mono
  intro v inside
  omega

end IBand

namespace VelocityLoop

structure Ranged (loop : VelocityLoop) : Prop where
  integ : loop.integ.natAbs < 2 ^ 31

theorem new_ranged : Ranged {} :=
  ⟨by decide⟩

theorem checkedStep_sat (loop : VelocityLoop) (omegaRef omegaHat : Int) {alphaStar omegaStar : Int}
    (accel : alphaStar.natAbs ≤ 2 ^ 31) (speed : omegaStar.natAbs ≤ 32767 * 2 ^ 16) {band : IBand}
    (ranged : band.Ranged) (gains : VelocityGains) :
    (loop.checkedStep omegaRef omegaHat alphaStar omegaStar band gains).Sat
      (fun out => out.2.Ranged ∧ out.1.natAbs ≤ 65535) := by
  have lo := ranged.lo
  have hi := ranged.hi
  have friction : (checkedFricFf omegaStar gains).Sat (fun _ => True) := by
    apply (gain_sat gains.fricFvQ016 (32767 * 2 ^ 16) (2 ^ 15) speed (by omega) (by omega)).bind
    intro viscous _
    exact .pure trivial
  apply (within_abs (16384 * 2 ^ 16) rfl).bind
  intro e error
  apply (gain_sat gains.kpQ88 (16384 * 2 ^ 16) (2 ^ 22) error (by omega) (by omega)).bind
  intro iP _
  apply (gain_sat gains.jFfQ88 (2 ^ 31) (2 ^ 23) accel (by omega) (by omega)).bind
  intro inertia _
  apply friction.bind
  intro friction _
  apply (IBand.checkedClamp_sat ranged _).bind
  intro iRef clamped
  apply (within_abs 8192 rfl).bind
  intro aw excess
  apply (gain_sat gains.kiQ412 (16384 * 2 ^ 16) (2 ^ 30) error (by omega) (by omega)).bind
  intro ki _
  apply (gain_sat gains.kawQ412 8192 (65535 * 8192) excess (by omega) (by omega)).bind
  intro kaw _
  apply (word_sat (by omega) (by omega)).bind
  intro side same
  have limit := sat32_range (side * 2 ^ 16)
  have least : 0 ≤ sat32 (side * 2 ^ 16) := sat32_nonneg (by omega)
  apply (within_sat (by omega)).bind
  intro integ inside
  exact .pure ⟨⟨by simp only; omega⟩, clamped⟩

end VelocityLoop

end OpenServo.Motion
