import OpenServo.Motion.Math

set_option autoImplicit false

namespace OpenServo.Motion

open OpenServo.Shared

inductive StallResponse where
  | fault
  | yield
deriving DecidableEq

structure LimitCfg where
  currentLimitCounts : UInt16
  stallResponse : StallResponse
  drivePolarity : Bool
  stallOmegaMaxCps : UInt16
  stallTimeTicks : Nat
  stallYieldCounts : UInt16
  stallReleaseCounts : UInt16
  stallTauTripCounts : UInt16
  derateStartCc : Int16
  cutoffCc : Int16
  posMinSoftCounts : Int32
  posMaxSoftCounts : Int32

/-- A directional band: zero current is always inside. -/
structure IBand where
  lo : Int
  hi : Int
  lo_le : lo ≤ 0
  le_hi : 0 ≤ hi

def IBand.zero : IBand :=
  ⟨0, 0, Int.le_refl 0, Int.le_refl 0⟩

def IBand.clamp (band : IBand) (i : Int) : Int :=
  Shared.clamp i band.lo band.hi

structure LimitState where
  stallTicks : Nat := 0
  stalled : Bool := false
  faultPending : Bool := false
  derateCache : Nat := 65535
  iLim : Nat := 0

namespace LimitState

def updateDerate (s : LimitState) (tWindingCc : Int) (cfg : LimitCfg) : LimitState :=
  let span := cfg.cutoffCc.toInt - cfg.derateStartCc.toInt
  { s with derateCache :=
      if cfg.cutoffCc.toInt ≤ tWindingCc then 0
      else if tWindingCc < cfg.derateStartCc.toInt ∨ span ≤ 0 then cfg.currentLimitCounts.toNat
      else
        let head := (cfg.cutoffCc.toInt - tWindingCc).toNat
        let num := cfg.currentLimitCounts.toNat * head
        min (recipDiv num span.toNat) cfg.currentLimitCounts.toNat }

def release (s : LimitState) (tauDAbsCounts : Nat) (cfg : LimitCfg) : LimitState :=
  if s.stalled && tauDAbsCounts < cfg.stallReleaseCounts.toNat then { s with stalled := false, stallTicks := 0 }
  else s

def pinnedSlow (iRefPinned : Bool) (omegaHatAbsCps : Nat) (cfg : LimitCfg) : Bool :=
  iRefPinned && omegaHatAbsCps < cfg.stallOmegaMaxCps.toNat

def time (s : LimitState) (iRefPinned : Bool) (omegaHatAbsCps tauDAbsCounts : Nat) (cfg : LimitCfg) :
    Bool × LimitState :=
  let collided : Bool := cfg.stallTauTripCounts.toNat < tauDAbsCounts
  if pinnedSlow iRefPinned omegaHatAbsCps cfg then
    let ticks := min (s.stallTicks + 1) (2 ^ 32 - 1)
    (collided || cfg.stallTimeTicks ≤ ticks, { s with stallTicks := ticks })
  else (collided, { s with stallTicks := 0 })

def respond (s : LimitState) (trip : Bool) (cfg : LimitCfg) : LimitState where
  stallTicks := s.stallTicks
  stalled := s.stalled || trip && cfg.stallResponse = .yield
  faultPending := s.faultPending || trip && cfg.stallResponse = .fault
  derateCache := s.derateCache
  iLim := s.iLim

def compose (s : LimitState) (cfg : LimitCfg) : Nat :=
  let lim := min cfg.currentLimitCounts.toNat s.derateCache
  if s.stalled then min lim cfg.stallYieldCounts.toNat else lim

/-- At a soft limit only the side that drives further out is closed. -/
def band (lim : Nat) (thetaHatCounts : Int) (cfg : LimitCfg) : IBand :=
  let atMax : Bool := cfg.posMaxSoftCounts.toInt ≤ thetaHatCounts
  let atMin : Bool := thetaHatCounts ≤ cfg.posMinSoftCounts.toInt
  let closeHi := if cfg.drivePolarity then atMax else atMin
  let closeLo := if cfg.drivePolarity then atMin else atMax
  ⟨if closeLo then 0 else -lim, if closeHi then 0 else lim, by split <;> omega, by split <;> omega⟩

def fold (s : LimitState) (iRefPinned : Bool) (omegaHatAbsCps tauDAbsCounts : Nat) (thetaHatCounts : Int)
    (cfg : LimitCfg) : IBand × LimitState :=
  let s := s.release tauDAbsCounts cfg
  let (trip, s) := s.time iRefPinned omegaHatAbsCps tauDAbsCounts cfg
  let s := s.respond trip cfg
  let lim := s.compose cfg
  (band lim thetaHatCounts cfg, { s with iLim := lim })

/-- The derate ceiling survives: it is thermal state, not a latch. -/
def ack (s : LimitState) : LimitState :=
  { s with faultPending := false, stalled := false, stallTicks := 0 }

end LimitState

end OpenServo.Motion
