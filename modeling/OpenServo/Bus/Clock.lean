import OpenServo.Bus.Providers

set_option autoImplicit false

namespace OpenServo.Bus

def trimGateShift : UInt32 := 4

def calWatchdogGaps : UInt32 := 2

def driftBaselinePairs : UInt8 := 32

def driftWindowPairs : UInt8 := 128

def driftSanityPpm : Nat := 8000

structure CalRun where
  gapTicks : UInt32
  gapsLeft : UInt8
  total : UInt8
  valid : UInt8
  lastBreak : UInt32
  cursor : Nat
  err : Int32
  span : UInt32
deriving DecidableEq, Repr

inductive VerifiedSpan where
  | none
  | one (footprint : Nat) (silent : Bool)
  | many
deriving DecidableEq, Repr

structure ClockTracker where
  pendingCal : Option (UInt16 × UInt8) := none
  cal : Option CalRun := none
  calReady : Bool := false
  driftPrev : Option (UInt32 × Nat) := none
  driftSeen : VerifiedSpan := .none
  driftBase : Option Int32 := none
  driftBaseErr : Int32 := 0
  driftBaseN : UInt8 := 0
  driftWinErr : Int32 := 0
  driftWinSpan : UInt32 := 0
  driftWinN : UInt8 := 0
  driftReady : Bool := false
  cadenceErr : Int32 := 0
  cadenceSpan : UInt32 := 0
deriving DecidableEq, Repr

def unsignedAbs (err : Int32) : UInt32 :=
  err.abs.toUInt32

def saturatingAdd (a b : UInt32) : UInt32 :=
  if a.toNat + b.toNat < 2 ^ 32 then a + b else 0xFFFFFFFF

def calWatchdogAt (now gapTicks : UInt32) : UInt32 :=
  now + gapTicks * calWatchdogGaps

namespace ClockTracker

def calActive (clock : ClockTracker) : Bool :=
  clock.cal.isSome || clock.pendingCal.isSome

def restart (clock : ClockTracker) : ClockTracker :=
  { clock with
    driftPrev := none
    driftSeen := .none
    driftBase := none
    driftBaseErr := 0
    driftBaseN := 0
    driftWinErr := 0
    driftWinSpan := 0
    driftWinN := 0
    driftReady := false }

def calGap (cal : CalRun) (now : UInt32) (cursor : Nat) : CalRun :=
  let delta := now - cal.lastBreak
  let err := (delta - cal.gapTicks).toInt32
  let accepted := unsignedAbs err ≤ cal.gapTicks >>> trimGateShift
  { cal with
    cursor := cursor
    lastBreak := now
    err := if accepted then cal.err + err else cal.err
    span := if accepted then cal.span + cal.gapTicks else cal.span
    valid := if accepted then cal.valid + 1 else cal.valid
    gapsLeft := if cal.gapsLeft = 0 then 0 else cal.gapsLeft - 1 }

def onCalBreak (clock : ClockTracker) (now : UInt32) (cursor : Nat) (ticksPerUs : UInt32) :
    ClockTracker × Option UInt32 :=
  match clock.pendingCal with
  | some (gapUs, gaps) =>
    let gapTicks := gapUs.toUInt32 * ticksPerUs
    ({ clock.restart with
        pendingCal := none
        cal := some ⟨gapTicks, gaps, gaps, 0, now, cursor, 0, 0⟩ },
      some (calWatchdogAt now gapTicks))
  | none =>
    match clock.cal with
    | none => (clock, none)
    | some cal =>
      if cursor = cal.cursor then (clock, none)
      else
        let cal := calGap cal now cursor
        if cal.gapsLeft ≠ 0 then
          ({ clock with cal := some cal }, some (calWatchdogAt now cal.gapTicks))
        else if cal.total.toNat ≤ cal.valid.toNat * 2 then
          ({ clock with cal := none, cadenceErr := cal.err, cadenceSpan := cal.span, calReady := true },
            some now)
        else ({ clock with cal := none }, some now)

def abandonCal (clock : ClockTracker) : ClockTracker :=
  { clock with cal := none, pendingCal := none }

/-- An accepted pair: into the baseline while it is being captured, then into the window. -/
def driftPair (clock : ClockTracker) (err : Int32) (span : UInt32) : ClockTracker :=
  match clock.driftBase with
  | none =>
    let total := clock.driftBaseErr + err
    let pairs := clock.driftBaseN + 1
    { clock with
      driftBaseErr := total
      driftBaseN := pairs
      driftBase := if driftBaselinePairs ≤ pairs then some (total / driftBaselinePairs.toUInt32.toInt32) else none }
  | some base =>
    let total := clock.driftWinErr + (err - base)
    let window := saturatingAdd clock.driftWinSpan span
    let pairs := clock.driftWinN + 1
    if pairs < driftWindowPairs then
      { clock with driftWinErr := total, driftWinSpan := window, driftWinN := pairs }
    else
      let clock :=
        if clock.calReady || clock.driftReady then clock
        else { clock with cadenceErr := total, cadenceSpan := window, driftReady := true }
      { clock with driftWinErr := 0, driftWinSpan := 0, driftWinN := 0 }

def onDriftBreak (clock : ClockTracker) (now : UInt32) (cursor len : Nat) (tpb : UInt32) : ClockTracker :=
  let next := { clock with driftPrev := some (now, cursor), driftSeen := .none }
  match clock.driftPrev, clock.driftSeen with
  | some (t1, c1), .one footprint true =>
    if len = 0 ∨ ringWrap (cursor + len - c1) len % 65536 ≠ footprint then next
    else
      let span := UInt32.ofNat footprint * tpb
      let err := (now - t1 - span).toInt32
      if span >>> trimGateShift < unsignedAbs err then next else next.driftPair err span
  | _, _ => next

def poll (clock : ClockTracker) (onWindow : Int32 → UInt32 → Option Int8) : ClockTracker × Option Int8 :=
  if clock.calReady then
    ({ clock with calReady := false, cadenceErr := 0, cadenceSpan := 0 }.restart,
      onWindow clock.cadenceErr clock.cadenceSpan)
  else if !clock.driftReady then (clock, none)
  else
    let taken := { clock with driftReady := false, cadenceErr := 0, cadenceSpan := 0 }
    if clock.cadenceSpan = 0 then (taken, none)
    else if (driftSanityPpm + 1) * clock.cadenceSpan.toNat ≤ (unsignedAbs clock.cadenceErr).toNat * 1000000 then
      (taken, none)
    else
      let out := onWindow clock.cadenceErr clock.cadenceSpan
      (if out.isSome then taken.restart else taken, out)

def pairOpen (clock : ClockTracker) : Bool :=
  clock.driftSeen == .none

def noteVerified (clock : ClockTracker) (footprint : Nat) (silent : Bool) : ClockTracker :=
  { clock with
    driftSeen :=
      match clock.driftSeen with
      | .none => .one footprint silent
      | _ => .many }

section Announce

variable (clock : ClockTracker)

@[simp] theorem pendingCal_restart : clock.restart.pendingCal = clock.pendingCal := rfl

@[simp] theorem pendingCal_noteVerified (footprint : Nat) (silent : Bool) :
    (clock.noteVerified footprint silent).pendingCal = clock.pendingCal := rfl

@[simp] theorem pendingCal_driftPair (err : Int32) (span : UInt32) :
    (clock.driftPair err span).pendingCal = clock.pendingCal := by
  simp only [driftPair]
  split
  next => rfl
  next =>
    split
    next => rfl
    next => split <;> rfl

@[simp] theorem pendingCal_onDriftBreak (now : UInt32) (cursor len : Nat) (tpb : UInt32) :
    (clock.onDriftBreak now cursor len tpb).pendingCal = clock.pendingCal := by
  simp only [onDriftBreak]
  split
  next =>
    split
    next => rfl
    next => split <;> simp
  next => rfl

end Announce

end ClockTracker

end OpenServo.Bus
