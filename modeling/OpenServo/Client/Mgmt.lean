import OpenServo.Protocol.Build
import Mathlib.Data.Fintype.Basic

set_option autoImplicit false

namespace OpenServo.Client

open OpenServo.Protocol

structure Status where
  id : UInt8
  result : Option ResultCode
  payload : List UInt8

structure Reply where
  statuses : List Status
  garble : UInt16
  trailing : Bool

inductive Error where
  | link
  | servo (code : ResultCode)
  | timeout (slot : UInt8)

structure Bus (S : Type) where
  exchange : S → UInt8 → Inst → List UInt8 → Except Error (Reply × S)
  pause : S → Nat → S

/-- What a call of the client does to the bus. `none` is a call that is not back yet, or panics. -/
abbrev Call (S A : Type) : Type :=
  StateT S (ExceptT Error Option) A

/-- Bit `k` of a UID, in the order the UART shifts it onto the wire. The bytes past the last are not read. -/
def bit (uid : Uid) (k : UInt8) : Bool :=
  ((List.ofFn uid).getD (k / 8).toNat 0 >>> (k % 8)) &&& 1 ≠ 0

def matchesPrefix (uid bits : Uid) (len : UInt8) : Bool :=
  (List.range len.toNat).all fun k => bit uid (UInt8.ofNat k) == bit bits (UInt8.ofNat k)

def withBit (bits : Uid) (k : UInt8) (v : Bool) : Uid :=
  if v then fun i => if i.val = (k / 8).toNat then bits i ||| (1 <<< (k % 8)) else bits i else bits

def uidLe (first second : Uid) : Bool :=
  List.ofFn first ≤ List.ofFn second

structure Found where
  uid : Uid
  id : UInt8
deriving DecidableEq

inductive Verdict where
  | candidate (found : Found)
  | collision
  | empty

def probeSettle : Nat := 5

def emptyRetries : Nat := 2

def walksCap : Nat := 5

def full : UInt8 := UInt8.ofNat (uidLen * 8)

def fullDepthRetries : Nat := 3

def mgmtInst : Inst := 0x70

variable {S : Type}

namespace Bus

variable (bus : Bus S)

def settle : Call S Unit :=
  modify fun s => bus.pause s probeSettle

def verdict (reply : Reply) (len : UInt8) (bits : Uid) : Verdict :=
  match reply.statuses, decide (reply.garble = 0) && !reply.trailing with
  | [], true => .empty
  | [s], true =>
    if s.result = some .ok ∧ s.payload.length = uidLen then
      let uid := Form.uidOf s.payload
      -- A reply outside the probe's own prefix is superposition, not a matcher.
      if matchesPrefix uid bits len then .candidate ⟨uid, s.id⟩ else .collision
    else .collision
  | _, _ => .collision

def probe (len : UInt8) (bits : Uid) : Call S Verdict := do
  match Build.mgmtEnum (List.replicate (2 + uidLen) 0) len bits with
  | none => fun _ => none
  | some (n, p) =>
    let reply ← fun s => some (bus.exchange s broadcast mgmtInst (p.take n))
    let verdict := verdict reply len bits
    if verdict matches .collision then bus.settle
    return verdict

/-- A subtree prunes only when it stays quiet. -/
def reprobe (len : UInt8) (bits : Uid) : Nat → Verdict → Call S Verdict
  | 0, verdict => return verdict
  | retries + 1, verdict => do
    if !(verdict matches .empty) then return verdict
    bus.settle
    reprobe len bits retries (← bus.probe len bits)

def probeSettled (len : UInt8) (bits : Uid) : Call S Verdict := do
  bus.reprobe len bits emptyRetries (← bus.probe len bits)

/-- A leaf that garbles is asked again, and skipped if it goes on. -/
def resolveLeaf (len : UInt8) (bits : Uid) (found : List Found) : Nat → Call S (List Found)
  | 0 => return found
  | retries + 1 => do
    match ← bus.probe len bits with
    | .candidate node => return found ++ [node]
    | _ => resolveLeaf len bits found retries

def children (len : UInt8) (bits : Uid) : List (UInt8 × Uid) :=
  [(len + 1, withBit bits len true), (len + 1, withBit bits len false)]

def visit (len : UInt8) (bits : Uid) (found : List Found) : Call S (List Found × List (UInt8 × Uid)) := do
  match ← bus.probeSettled len bits with
  | .empty => return (found, [])
  | .candidate node =>
    if len = full then return (found ++ [node], [])
    -- The child of the UID must elect it again and the sibling stay empty, or the clean frame was twins.
    let b := bit node.uid len
    let own ← bus.probeSettled (len + 1) (withBit bits len b)
    let sib ← bus.probeSettled (len + 1) (withBit bits len !b)
    match own, sib with
    | .candidate n2, .empty => if n2.uid = node.uid then return (found ++ [n2], []) else return (found, children len bits)
    | _, _ => return (found, children len bits)
  | .collision =>
    if len = full then return (← bus.resolveLeaf len bits found fullDepthRetries, [])
    return (found, children len bits)

/-- The head of the list is the top of the stack. A call that runs out of turns is not back yet. -/
def walkFrom : Nat → List (UInt8 × Uid) → List Found → Call S (List Found)
  | 0, _, _ => fun _ => none
  | _ + 1, [], found => return found.mergeSort fun first second => uidLe first.uid second.uid
  | turns + 1, (len, bits) :: stack, found => do
    let (found, above) ← bus.visit len bits found
    walkFrom turns (above ++ stack) found

def walk (turns : Nat) : Call S (List Found) :=
  bus.walkFrom turns [(0, fun _ => 0)] []

def rewalk (turns : Nat) : Nat → List Found → Call S (List Found)
  | 0, prev => return prev
  | walks + 1, prev => do
    modify fun s => bus.pause s (4 * probeSettle)
    let next ← bus.walk turns
    if next = prev then return next
    rewalk turns walks next

/-- Two walks in a row must agree, or the last of the cap stands. -/
def discover (turns : Nat) : Call S (List Found) := do
  bus.rewalk turns (walksCap - 1) (← bus.walk turns)

end Bus

end OpenServo.Client
