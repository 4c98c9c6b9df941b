import Mathlib.Data.List.Basic
import Mathlib.Data.Nat.Bits

set_option autoImplicit false

/-!
Stop and wait under a one-bit number. The sender repeats a packet until it learns that it arrived; the receiver takes a
packet whose bit is the one it expects and knows any other for a repetition. Whatever is lost, the receiver has taken
what the sender knows delivered, and at most the packet under way besides.
-/

namespace OpenServo.Shared

variable {P : Type}

structure StopWait (P : Type) where
  -- The bit of the packet under way, or of the next.
  sends : Bool
  -- The bit of the next packet.
  expects : Bool
  delivered : List P
  underWay : Option P
  taken : List P

namespace StopWait

def load (x : StopWait P) (p : P) : StopWait P :=
  { x with underWay := some p }

def arrive (x : StopWait P) : StopWait P :=
  match x.underWay with
  | none => x
  | some p => if x.sends = x.expects then { x with taken := x.taken ++ [p], expects := !x.expects } else x

def learn (x : StopWait P) : StopWait P :=
  match x.underWay with
  | none => x
  | some p => { x with delivered := x.delivered ++ [p], underWay := none, sends := !x.sends }

/-- The bits agree while the packet under way has not arrived. -/
inductive InStep (x : StopWait P) : Prop where
  | ahead (agree : x.sends = x.expects) (same : x.taken = x.delivered)
  | arrived (differ : x.sends = !x.expects) (p : P) (current : x.underWay = some p)
    (more : x.taken = x.delivered ++ [p])

variable {x : StopWait P}

theorem InStep.load (inStep : x.InStep) (idle : x.underWay = none) (p : P) : (x.load p).InStep := by
  cases inStep with
  | ahead agree same => exact .ahead agree same
  | arrived _ q current _ => rw [idle] at current; cases current

theorem InStep.arrive (inStep : x.InStep) : x.arrive.InStep := by
  unfold StopWait.arrive
  split
  next => exact inStep
  next p current =>
    cases inStep with
    | ahead agree same =>
      rw [if_pos agree]
      exact .arrived (by rw [agree, Bool.not_not]) p current (by rw [same])
    | arrived differ q same more =>
      rw [if_neg (by simp [differ])]
      exact .arrived differ q same more

theorem InStep.learn (inStep : x.InStep) (there : x.sends = !x.expects) : x.learn.InStep := by
  unfold StopWait.learn
  cases inStep with
  | ahead agree _ =>
    simp [agree] at there
  | arrived differ p current more =>
    rw [current]
    exact .ahead (by rw [differ, Bool.not_not]) more

theorem InStep.arrive_there (inStep : x.InStep) (p : P) (current : x.underWay = some p) :
    x.arrive.sends = !x.arrive.expects := by
  unfold StopWait.arrive
  rw [current]
  cases inStep with
  | ahead agree _ => simp [agree]
  | arrived differ _ _ _ => simp [differ]

inductive Move (x : StopWait P) : StopWait P → Prop where
  | stay : Move x x
  | load (idle : x.underWay = none) (p : P) : Move x (x.load p)
  | arrive : Move x x.arrive
  | pass : Move x x.arrive.learn

theorem InStep.move {y : StopWait P} (inStep : x.InStep) (move : x.Move y) : y.InStep := by
  cases move with
  | stay => exact inStep
  | load idle p => exact inStep.load idle p
  | arrive => exact inStep.arrive
  | pass =>
    cases current : x.underWay with
    | none => simpa [StopWait.arrive, StopWait.learn, current] using inStep
    | some p => exact inStep.arrive.learn (inStep.arrive_there p current)

/-- The receiver's bit is the parity of the packets that it has taken. -/
def Counts (x : StopWait P) : Prop :=
  x.expects = x.taken.length.bodd

theorem Counts.arrive (counts : x.Counts) : x.arrive.Counts := by
  unfold StopWait.arrive
  split
  next => exact counts
  next p current =>
    split_ifs
    next =>
      show (!x.expects) = (x.taken ++ [p]).length.bodd
      rw [List.length_append, List.length_singleton, Nat.bodd_succ, counts]
    next => exact counts

theorem Counts.learn (counts : x.Counts) : x.learn.Counts := by
  unfold StopWait.learn
  split <;> exact counts

theorem Counts.move {y : StopWait P} (counts : x.Counts) (move : x.Move y) : y.Counts := by
  cases move with
  | stay => exact counts
  | load idle p => exact counts
  | arrive => exact counts.arrive
  | pass => exact counts.arrive.learn

end StopWait

end OpenServo.Shared
