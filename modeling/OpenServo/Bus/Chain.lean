import Mathlib.Data.UInt

set_option autoImplicit false

namespace OpenServo.Bus

inductive ChainOut where
  | none
  | wait (tick : UInt32)
  | trigger (predecessorSilent : Bool)
deriving DecidableEq, Repr

inductive ChainState where
  | idle
  | pending (silent : Bool)
  | waiting (remaining : UInt8) (silent : Bool)
deriving DecidableEq, Repr

structure Chain where
  state : ChainState := .idle
  replyGap : UInt32 := 0
  reclaim : UInt32 := 0
  allowance : UInt32 := 0
deriving DecidableEq, Repr

namespace Chain

def active (chain : Chain) : Bool :=
  match chain.state with
  | .idle => false
  | _ => true

def waiting (chain : Chain) : Bool :=
  match chain.state with
  | .waiting .. => true
  | _ => false

def reset (chain : Chain) : Chain :=
  { chain with state := .idle }

def onReplyStaged (slot : UInt8) (endTick replyGap reclaim allowance : UInt32) : Chain × ChainOut :=
  if slot = 0 then
    (⟨.pending false, replyGap, reclaim, allowance⟩, .wait (endTick + replyGap))
  else
    (⟨.waiting slot false, replyGap, reclaim, allowance⟩, .wait (endTick + replyGap + reclaim))

def onBreakObserved (chain : Chain) (now : UInt32) : ChainOut :=
  match chain.state with
  | .waiting .. => .wait (now + chain.allowance)
  | _ => .none

/-- `saturating_sub(1)` -/
def countDown (remaining : UInt8) : UInt8 :=
  if remaining = 0 then 0 else remaining - 1

def onStatusEnd (chain : Chain) (endTick : UInt32) : Chain × ChainOut :=
  match chain.state with
  | .waiting remaining silent =>
    if countDown remaining = 0 then
      ({ chain with state := .pending silent }, .wait (endTick + chain.replyGap))
    else
      ({ chain with state := .waiting (countDown remaining) silent },
        .wait (endTick + chain.replyGap + chain.reclaim))
  | _ => (chain, .none)

def onDeadline (chain : Chain) (now : UInt32) : Chain × ChainOut :=
  match chain.state with
  | .pending silent => ({ chain with state := .idle }, .trigger silent)
  | .waiting remaining _ =>
    if countDown remaining = 0 then
      ({ chain with state := .idle }, .trigger true)
    else
      ({ chain with state := .waiting (countDown remaining) true }, .wait (now + chain.reclaim))
  | .idle => (chain, .none)

@[simp] theorem active_reset (chain : Chain) : chain.reset.active = false := rfl

theorem countDown_toNat (remaining : UInt8) : (countDown remaining).toNat = remaining.toNat - 1 := by
  simp only [countDown]
  split
  next zero => simp [zero]
  next positive =>
    have one : 1 ≤ remaining.toNat := by
      have := UInt8.toNat_inj.not.mpr positive
      simp at this
      omega
    rw [UInt8.toNat_sub_of_le]
    next => rfl
    next => exact one

theorem countDown_ofNat {n : Nat} (low : 0 < n) (high : n < 256) :
    countDown (UInt8.ofNat n) = UInt8.ofNat (n - 1) := by
  apply UInt8.toNat_inj.mp
  rw [countDown_toNat, UInt8.toNat_ofNat', UInt8.toNat_ofNat', Nat.mod_eq_of_lt high,
    Nat.mod_eq_of_lt (by omega)]

theorem countDown_ofNat_eq_zero {n : Nat} (low : 0 < n) (high : n < 256) :
    countDown (UInt8.ofNat n) = 0 ↔ n = 1 := by
  rw [← UInt8.toNat_inj, countDown_toNat, UInt8.toNat_ofNat', Nat.mod_eq_of_lt high]
  change n - 1 = 0 ↔ n = 1
  omega

def triggers : ChainOut → Option Bool
  | .trigger silent => some silent
  | _ => none

section Waiting

variable {chain : Chain} {n : Nat} {silent : Bool}

theorem onStatusEnd_waiting (state : chain.state = .waiting (UInt8.ofNat n) silent) (low : 0 < n)
    (high : n < 256) (endTick : UInt32) :
    (chain.onStatusEnd endTick).1.state =
      if n = 1 then .pending silent else .waiting (UInt8.ofNat (n - 1)) silent := by
  simp only [onStatusEnd, state, countDown_ofNat_eq_zero low high]
  split
  next => rfl
  next => rw [countDown_ofNat low high]

theorem onDeadline_waiting (state : chain.state = .waiting (UInt8.ofNat n) silent) (low : 0 < n)
    (high : n < 256) (now : UInt32) :
    (chain.onDeadline now).1.state = (if n = 1 then .idle else .waiting (UInt8.ofNat (n - 1)) true) ∧
      triggers (chain.onDeadline now).2 = if n = 1 then some true else none := by
  simp only [onDeadline, state, countDown_ofNat_eq_zero low high]
  split
  next => exact ⟨rfl, rfl⟩
  next => exact ⟨by rw [countDown_ofNat low high], rfl⟩

end Waiting

/-- What is left of a chain that is not triggered yet: its predecessors, and the trigger itself. -/
def remaining (chain : Chain) : Nat :=
  match chain.state with
  | .idle => 0
  | .pending _ => 1
  | .waiting remaining _ => remaining.toNat + 1

end Chain

end OpenServo.Bus
