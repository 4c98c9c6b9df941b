import OpenServo.Motion.Gate

set_option autoImplicit false

namespace OpenServo.Motion

open OpenServo.Shared

inductive Level where
  | high
  | low
deriving DecidableEq

/-- The compare values stay in the timer and the level on the pin; the rest is the board's. -/
structure Ch32Motor where
  in1 : UInt16 := 0
  in2 : UInt16 := 0
  drvEn : Level
  drvEnActive : Level
  drvEnInactive : Level
  pwmArr : UInt16
deriving DecidableEq

def staticHigh : UInt16 := 65535

/-- `mag * arr / 32767`, with a shift for the division. -/
def effortToTicks (mag : Nat) (pwmArr : UInt16) : UInt16 :=
  UInt16.ofNat ((min mag 32767 * pwmArr.toNat + 2 ^ 14) >>> 15)

namespace Ch32Motor

def new (drvEnActive : Level) (pwmArr : UInt16) : Ch32Motor :=
  let drvEnInactive :=
    match drvEnActive with
    | .high => .low
    | .low => .high
  { drvEn := drvEnInactive, drvEnActive, drvEnInactive, pwmArr }

def write (m : Ch32Motor) : MotorCmd → Ch32Motor
  | .disabled => { m with drvEn := m.drvEnInactive, in1 := 0, in2 := 0 }
  | .coast => { m with drvEn := m.drvEnActive, in1 := 0, in2 := 0 }
  | .brake => { m with drvEn := m.drvEnActive, in1 := staticHigh, in2 := staticHigh }
  | .drive duty decay =>
    let ticks := effortToTicks duty.natAbs m.pwmArr
    -- Slow decay at zero ticks would lock both legs high.
    if ticks = 0 then { m with drvEn := m.drvEnActive, in1 := 0, in2 := 0 }
    else
      let arrMinus := if ticks ≤ m.pwmArr then m.pwmArr - ticks else 0
      let (in1, in2) :=
        match decay, decide (0 ≤ duty) with
        | .slow, true => (staticHigh, arrMinus)
        | .slow, false => (arrMinus, staticHigh)
        | .fast, true => (ticks, 0)
        | .fast, false => (0, ticks)
      { m with drvEn := m.drvEnActive, in1, in2 }

end Ch32Motor

inductive Bridge where
  | off
  | coast
  | brake
  | forward
  | reverse
deriving DecidableEq

/-- PWM mode 1 at tick `n` of a period: below the compare value on the way up, at most there on the way down. -/
def active (arr ccr : UInt16) (n : Nat) : Bool :=
  if n < arr.toNat then n < ccr.toNat else 2 * arr.toNat - n ≤ ccr.toNat

def Ch32Motor.bridge (m : Ch32Motor) (n : Nat) : Bridge :=
  if m.drvEn ≠ m.drvEnActive then .off
  else
    match active m.pwmArr m.in1 n, active m.pwmArr m.in2 n with
    | true, true => .brake
    | false, false => .coast
    | true, false => .forward
    | false, true => .reverse

def Bridge.driven (duty : Int) : Bridge :=
  if 0 ≤ duty then .forward else .reverse

def InWindow (arr ticks : Nat) (decay : DecayMode) (n : Nat) : Prop :=
  match decay with
  | .slow => arr - ticks ≤ n ∧ n < arr + ticks
  | .fast => n < ticks ∨ 2 * arr - ticks ≤ n

instance (arr ticks : Nat) (decay : DecayMode) (n : Nat) : Decidable (InWindow arr ticks decay n) :=
  match decay with
  | .slow => inferInstanceAs (Decidable (_ ∧ _))
  | .fast => inferInstanceAs (Decidable (_ ∨ _))

section Period

variable {arr : UInt16} {n : Nat}

theorem active_zero (inside : n < 2 * arr.toNat) : active arr 0 n = false := by
  simp only [active, UInt16.toNat_zero]
  split
  next => simp
  next => simp only [decide_eq_false_iff_not]; omega

theorem active_high (inside : n < 2 * arr.toNat) : active arr staticHigh n = true := by
  have word := arr.toNat_lt
  have most : staticHigh.toNat = 65535 := rfl
  simp only [active, most]
  split
  next => simp only [decide_eq_true_eq]; omega
  next => simp only [decide_eq_true_eq]; omega

theorem driveTicks_le (duty : Int) (arr : UInt16) : Window.driveTicks duty arr ≤ arr.toNat := by
  have word := arr.toNat_lt
  have most : min duty.natAbs 32767 * arr.toNat ≤ 32767 * arr.toNat :=
    Nat.mul_le_mul_right _ (Nat.min_le_right _ _)
  simp only [Window.driveTicks]
  omega

theorem effortToTicks_eq (duty : Int) (arr : UInt16) :
    (effortToTicks duty.natAbs arr).toNat = Window.driveTicks duty arr := by
  have few := driveTicks_le duty arr
  have word := arr.toNat_lt
  have same : (min duty.natAbs 32767 * arr.toNat + 2 ^ 14) >>> 15 = Window.driveTicks duty arr := by
    rw [Nat.shiftRight_eq_div_pow]
    rfl
  rw [effortToTicks, same, UInt16.toNat_ofNat']
  exact Nat.mod_eq_of_lt (by omega)

end Period

section Windows

variable {arr ccr : UInt16} {ticks n : Nat}

theorem active_trough (few : ccr.toNat ≤ arr.toNat) (inside : n < 2 * arr.toNat) :
    active arr ccr n = decide (InWindow arr.toNat ccr.toNat .fast n) := by
  simp only [active, InWindow]
  split
  next => exact decide_eq_decide.mpr (by omega)
  next => exact decide_eq_decide.mpr (by omega)

theorem active_peak (rest : ccr.toNat = arr.toNat - ticks) (few : ticks ≤ arr.toNat) (inside : n < 2 * arr.toNat) :
    active arr ccr n = !decide (InWindow arr.toNat ticks .slow n) := by
  rw [← decide_not]
  simp only [active, InWindow]
  split
  next => exact decide_eq_decide.mpr (by omega)
  next => exact decide_eq_decide.mpr (by omega)

end Windows

section Commands

variable (m : Ch32Motor)

theorem bridge_window (duty : Int) (decay : DecayMode) {n : Nat} (inside : n < 2 * m.pwmArr.toNat) :
    (m.write (.drive duty decay)).bridge n =
      if InWindow m.pwmArr.toNat (Window.driveTicks duty m.pwmArr) decay n then .driven duty
      else if Window.driveTicks duty m.pwmArr = 0 then .coast
      else
        match decay with
        | .slow => .brake
        | .fast => .coast := by
  have same := effortToTicks_eq duty m.pwmArr
  have few := driveTicks_le duty m.pwmArr
  by_cases none : effortToTicks duty.natAbs m.pwmArr = 0
  next =>
    have zero : Window.driveTicks duty m.pwmArr = 0 := by rw [← same, none]; rfl
    have outside : ¬ InWindow m.pwmArr.toNat 0 decay n := by
      cases decay <;> simp only [InWindow] <;> omega
    simp only [Ch32Motor.write, none, if_true, Ch32Motor.bridge, active_zero inside, zero, outside, if_false]
    exact if_neg (not_not_intro rfl)
  next =>
    have some : Window.driveTicks duty m.pwmArr ≠ 0 := by
      rw [← same]
      exact fun zero => none (UInt16.toNat_inj.mp zero)
    have fits : effortToTicks duty.natAbs m.pwmArr ≤ m.pwmArr := UInt16.le_iff_toNat_le.mpr (by rw [same]; exact few)
    have rest : (m.pwmArr - effortToTicks duty.natAbs m.pwmArr).toNat =
        m.pwmArr.toNat - Window.driveTicks duty m.pwmArr := by
      rw [UInt16.toNat_sub_of_le _ _ fits, same]
    have high := active_high inside
    have low := active_zero inside
    cases decay with
    | slow =>
      have other := active_peak rest few inside
      by_cases forward : 0 ≤ duty <;>
        by_cases within : InWindow m.pwmArr.toNat (Window.driveTicks duty m.pwmArr) .slow n <;>
        simp [Ch32Motor.write, none, fits, forward, Ch32Motor.bridge, high, other, within, some, Bridge.driven]
    | fast =>
      have other := active_trough (same ▸ few) inside
      rw [same] at other
      by_cases forward : 0 ≤ duty <;>
        by_cases within : InWindow m.pwmArr.toNat (Window.driveTicks duty m.pwmArr) .fast n <;>
        simp [Ch32Motor.write, none, forward, Ch32Motor.bridge, low, other, within, some, Bridge.driven]

theorem write_frame (cmd : MotorCmd) :
    (m.write cmd).drvEnActive = m.drvEnActive ∧ (m.write cmd).drvEnInactive = m.drvEnInactive ∧
      (m.write cmd).pwmArr = m.pwmArr := by
  cases cmd with
  | drive duty decay =>
    simp only [Ch32Motor.write]
    split <;> exact ⟨rfl, rfl, rfl⟩
  | _ => exact ⟨rfl, rfl, rfl⟩

theorem write_write (first second : MotorCmd) : (m.write first).write second = m.write second := by
  obtain ⟨active, inactive, arr⟩ := write_frame m first
  generalize m.write first = between at active inactive arr
  obtain ⟨in1, in2, drvEn, drvEnActive, drvEnInactive, pwmArr⟩ := between
  obtain rfl := arr
  obtain rfl := active
  obtain rfl := inactive
  cases second <;> rfl

end Commands

inductive Half where
  | peak
  | trough
deriving DecidableEq

namespace Half

def of (decay : DecayMode) : Half :=
  match decay with
  | .slow => .peak
  | .fast => .trough

def before (arr : Nat) (half : Half) (d : Nat) : Nat :=
  match half with
  | .peak => arr - d
  | .trough => if d = 0 then 0 else 2 * arr - d

def current (frame : SensorFrame) : Half → UInt16
  | .peak => frame.current
  | .trough => frame.currentTrough

def vmotorA (frame : SensorFrame) : Half → UInt16
  | .peak => frame.vmotorA
  | .trough => frame.vmotorATrough

def vmotorB (frame : SensorFrame) : Half → UInt16
  | .peak => frame.vmotorB
  | .trough => frame.vmotorBTrough

theorem before_inside {arr d : Nat} (decay : DecayMode) (some : 0 < arr) (few : d ≤ arr) :
    (of decay).before arr d < 2 * arr := by
  cases decay with
  | slow => simp only [of, before]; omega
  | fast =>
    simp only [of, before]
    split <;> omega

theorem before_within {arr ticks d : Nat} (decay : DecayMode) (some : 0 < ticks) (few : ticks ≤ arr)
    (late : d ≤ ticks) : InWindow arr ticks decay ((of decay).before arr d) := by
  cases decay with
  | slow => simp only [of, before, InWindow]; omega
  | fast =>
    simp only [of, before, InWindow]
    split <;> omega

end Half

namespace Kernel

variable (k : Kernel) (t : Tick) (scan : Scan) (run : Bool)

theorem slowed_timing : (k.slowed t scan).timing = k.timing := by
  unfold slowed
  split <;> rfl

theorem medium_timing : (k.medium t scan run).timing = k.timing := by
  rw [medium, slowed_timing]
  show ((((k.estimate t scan).profile t run).foldLimits t run).regulate t run).timing = _
  rw [regulate_frame]
  show ((k.estimate t scan).profile t run).timing = _
  rw [profile_frame]
  rfl

theorem decimated_timing : (k.decimated t scan run).timing = k.timing := by
  unfold decimated
  split
  next => exact k.medium_timing t scan run
  next => rfl

theorem onTick_timing : (k.onTick t).1.timing = k.timing := by
  have frame := command_frame ((k.gated t).decimated t (k.scan t) ((k.sampled t).run t)) t (k.scan t)
    ((k.sampled t).run t)
  rw [onTick, frame]
  show ((k.gated t).decimated t (k.scan t) ((k.sampled t).run t)).timing = _
  rw [decimated_timing, gated, gate_frame]
  rfl

theorem closedLoop_decay {duty : Int} {decay : DecayMode} (drives : (k.closedLoop t scan).2.cmd = .drive duty decay) :
    (k.closedLoop t scan).1.decay = decay := by
  cases hold : k.hold with
  | true => simp [closedLoop, hold] at drives
  | false =>
    cases stuck : k.stuck scan with
    | true =>
      simp only [closedLoop, hold, stuck, Bool.false_eq_true, if_true, if_false, MotorCmd.drive.injEq] at drives ⊢
      exact drives.2
    | false =>
      simp only [closedLoop, hold, stuck, Bool.false_eq_true, if_false, MotorCmd.drive.injEq] at drives ⊢
      exact drives.2

theorem command_decay {duty : Int} {decay : DecayMode} (drives : (k.command t scan run).2.cmd = .drive duty decay) :
    (k.command t scan run).1.decay = decay := by
  by_cases gate : run = true ∧ k.faults.mask = 0
  next =>
    simp only [command, gate, decide_true, Bool.and_self, if_true] at drives ⊢
    cases mode : t.life.mode with
    | openLoop =>
      simp only [mode, MotorCmd.drive.injEq] at drives
      exact drives.2
    | current =>
      simp only [mode] at drives
      exact closedLoop_decay _ t scan drives
    | velocity =>
      simp only [mode] at drives
      exact k.closedLoop_decay t scan drives
    | position =>
      simp only [mode] at drives
      exact k.closedLoop_decay t scan drives
  next => simp [command, gate] at drives

theorem onTick_decay {duty : Int} {decay : DecayMode} (drives : (k.onTick t).2.cmd = .drive duty decay) :
    (k.onTick t).1.decay = decay :=
  command_decay _ t _ _ drives

end Kernel

def Bridge.drives : Bridge → Bool
  | .forward | .reverse => true
  | .off | .coast | .brake => false

theorem driveTicks_zero (arr : UInt16) : Window.driveTicks 0 arr = 0 := by
  simp [Window.driveTicks]

section Readings

variable {frame : SensorFrame} {decay : DecayMode} {ticks : Nat} {iFloor vFloor bias : UInt16} {forward : Bool}

end Readings

/-- The kernel, the command that stands at the motor, and what the motor made of it. The samples of a tick are of
the period that this command drove. -/
structure Plant where
  drive : Drive
  motor : Ch32Motor

namespace Plant

def start (timing : KernelTiming) (drvEnActive : Level) : Plant :=
  ⟨.start timing, .new drvEnActive timing.pwmArr⟩

def tick (p : Plant) (t : Tick) : Plant :=
  let drive := p.drive.tick t
  ⟨drive, p.motor.write drive.cmd⟩

def after (timing : KernelTiming) (drvEnActive : Level) (ts : List Tick) : Plant :=
  run tick (start timing drvEnActive) ts

structure Applied (timing : KernelTiming) (drvEnActive : Level) (p : Plant) : Prop where
  kernel : p.drive.kernel.timing = timing
  motor : p.motor = (Ch32Motor.new drvEnActive timing.pwmArr).write p.drive.cmd
  duty : p.drive.kernel.dutyQ15 = p.drive.cmd.duty
  decay : ∀ duty decay, p.drive.cmd = .drive duty decay → p.drive.kernel.decay = decay

section Runs

variable {timing : KernelTiming} {drvEnActive : Level} {p : Plant}

theorem Applied.tick (applied : p.Applied timing drvEnActive) (t : Tick) : (p.tick t).Applied timing drvEnActive where
  kernel := (p.drive.kernel.onTick_timing t).trans applied.kernel
  motor := by
    show p.motor.write _ = _
    rw [applied.motor, write_write]
    rfl
  duty := p.drive.kernel.onTick_duty t
  decay := fun _ _ drives => p.drive.kernel.onTick_decay t drives

theorem Applied.driven (applied : p.Applied timing drvEnActive) {d : Nat}
    (some : Window.driveTicks p.drive.kernel.dutyQ15 timing.pwmArr ≠ 0)
    (late : d ≤ Window.driveTicks p.drive.kernel.dutyQ15 timing.pwmArr) :
    p.motor.bridge ((Half.of p.drive.kernel.decay).before timing.pwmArr.toNat d) =
      .driven p.drive.kernel.dutyQ15 := by
  rw [applied.duty] at some late ⊢
  rw [applied.motor]
  cases stands : p.drive.cmd with
  | drive duty decay =>
    have few := driveTicks_le duty timing.pwmArr
    rw [stands, MotorCmd.duty] at some late
    have inside := @Half.before_inside timing.pwmArr.toNat d decay (by omega) (by omega)
    rw [applied.decay duty decay stands]
    exact (bridge_window (.new drvEnActive timing.pwmArr) duty decay inside).trans
      (if_pos (Half.before_within decay (by omega) few late))
  | disabled | coast | brake =>
    rw [stands] at some
    exact absurd (driveTicks_zero timing.pwmArr) some

end Runs

end Plant

end OpenServo.Motion
