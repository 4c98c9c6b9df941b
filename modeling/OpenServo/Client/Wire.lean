import Mathlib.Data.List.Basic

set_option autoImplicit false

namespace OpenServo.Client

inductive Level where
  | low
  | high
deriving DecidableEq

def Level.other : Level → Level
  | low => high
  | high => low

structure WireEdge where
  tick : UInt32
  level : Level
deriving DecidableEq

structure Rings where
  falls : List Nat
  rises : List Nat

structure Drain where
  max : UInt8
  rises : Nat
  falls : Nat
  now : Nat

structure EdgesRecord where
  now : UInt32
  falls : List UInt16
  rises : List UInt16

def drainMax : Nat := 64

def drainRing (pending : List Nat) (time cap : Nat) : List Nat × List Nat :=
  let popped := (pending.takeWhile (· ≤ time)).take cap
  (popped, pending.drop popped.length)

def edgeDrain (rings : Rings) (d : Drain) : EdgesRecord × Rings :=
  let max := min d.max.toNat drainMax
  -- Rises first: a pair that lands between the two reads tears as fall now, rise later.
  let (rises, risesLeft) := drainRing rings.rises d.rises max
  let (falls, fallsLeft) := drainRing rings.falls d.falls max
  (⟨.ofNat d.now, falls.map .ofNat, rises.map .ofNat⟩, ⟨fallsLeft, risesLeft⟩)

/-- The composed anchor, the polarity the wire produces next, and the falls whose partner rises are not drained. -/
structure EdgeAnchor where
  tick : Option UInt32 := none
  lead : Level := .low
  carry : List UInt16 := []

def anchorGuard : UInt32 := 4096

def compose (now : UInt32) (anchor : Option UInt32) (t : UInt16) : UInt32 :=
  match anchor with
  -- The first edge after a reset seeds at or before `now`.
  | none => now - (now.toUInt16 - t).toUInt32
  | some prev => prev + (t - prev.toUInt16).toUInt32

/-- The loop of `unwrap_drain`: an edge of one ring or the other, by the polarity that is due. -/
def merge (now : UInt32) (anchor : Option UInt32) : Level → List UInt16 → List UInt16 → List WireEdge × EdgeAnchor
  | .low, t :: falls, rises =>
    let tick := compose now anchor t
    let (out, left) := merge now (some tick) .high falls rises
    (⟨tick, .low⟩ :: out, left)
  | _, falls, t :: rises =>
    let tick := compose now anchor t
    let (out, left) := merge now (some tick) .low falls rises
    (⟨tick, .high⟩ :: out, left)
  -- A rise is due but its ring ran dry: the falls left over are behind it on the wire.
  | lead, falls, [] => ([], ⟨anchor, lead, falls⟩)
termination_by _ falls rises => falls.length + rises.length

def unwrapDrain (anchor : EdgeAnchor) (now : UInt32) (falls rises : List UInt16) : List WireEdge × EdgeAnchor :=
  let (out, left) := merge now anchor.tick anchor.lead (anchor.carry ++ falls) rises
  if out.isEmpty && left.carry.isEmpty then
    let floor := now - anchorGuard
    if left.tick.all fun prev => floor - prev < 0xFFFFFFFF / 2 then (out, { left with tick := some floor })
    else (out, left)
  else (out, left)

def drainEdges (rings : Rings) (anchor : EdgeAnchor) : List Drain → List WireEdge × Rings × EdgeAnchor
  | [] => ([], rings, anchor)
  | d :: ds =>
    let (record, rings) := edgeDrain rings d
    let (out, anchor) := unwrapDrain anchor record.now record.falls record.rises
    let (rest, last) := drainEdges rings anchor ds
    (out ++ rest, last)

end OpenServo.Client
