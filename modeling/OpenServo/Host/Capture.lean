import OpenServo.Shared.Counters
import OpenServo.Shared.Run

set_option autoImplicit false

namespace OpenServo.Host

open OpenServo.Shared

def capLen : Nat := 1024

inductive Polarity where
  | falls
  | rises
deriving DecidableEq

structure CaptureRing where
  data : List UInt16 := List.replicate capLen 0
  pos : Nat := 0

namespace CaptureRing

def capture (ring : CaptureRing) (tick : UInt16) : CaptureRing :=
  { data := ring.data.set ring.pos tick, pos := (ring.pos + 1) % capLen }

def remaining (ring : CaptureRing) : UInt16 :=
  UInt16.ofNat (capLen - ring.pos)

end CaptureRing

structure Side where
  lastPos : UInt16 := 0
  written : UInt32 := 0
  drained : UInt32 := 0

namespace Side

def accumulate (side : Side) (remaining : UInt16) : Checked Side := do
  let pos ← .minus16 (.ofNat capLen) remaining
  let ahead ← .plus16 pos (.ofNat capLen)
  let moved ← .minus16 ahead side.lastPos
  let delta := moved % .ofNat capLen
  pure { side with lastPos := pos, written := side.written + delta.toUInt32 }

def lapped (side : Side) : Bool :=
  .ofNat capLen < side.written - side.drained

/-- To the oldest entry that is still there. The difference is a plain one. -/
def realign (side : Side) : Checked Side :=
  if side.lapped then do
    let drained ← .minus32 side.written (.ofNat capLen)
    pure { side with drained }
  else pure side

end Side

/-- The copy of `n` entries out of a ring that goes on being filled: `landing k` is captured between the read before
and the `k`-th. An index has 32 bits on the adapter, and its sum is a plain one. -/
def CaptureRing.copy (ring : CaptureRing) (drained : UInt32) (landing : Nat → List UInt16) :
    Nat → Checked (CaptureRing × List UInt16)
  | 0 => pure (ring, [])
  | n + 1 => do
    let (ring, out) ← ring.copy drained landing n
    let ring := (landing n).foldl CaptureRing.capture ring
    let index ← .plus32 drained (.ofNat n)
    pure (ring, out ++ [ring.data.getD (index.toNat % capLen) 0])

structure Drained where
  side : Side
  ring : CaptureRing
  out : List UInt16

def Side.drain (side : Side) (ring : CaptureRing) (size : Nat) (landing : Nat → List UInt16) : Checked Drained := do
  let side ← side.realign
  let n := min size (side.written - side.drained).toNat
  let (ring, out) ← ring.copy side.drained landing n
  pure { side := { side with drained := side.drained + .ofNat n }, ring, out }

structure EdgeState where
  sides : Polarity → Side := fun _ => {}
  overflow : Bool := false

def EdgeState.pollAccumulate (state : EdgeState) (remaining : Polarity → UInt16) : Checked EdgeState := do
  let falls ← (state.sides .falls).accumulate (remaining .falls)
  let rises ← (state.sides .rises).accumulate (remaining .rises)
  pure {
    sides := fun
      | .falls => falls
      | .rises => rises
    overflow := state.overflow || falls.lapped || rises.lapped }

def EdgeState.reset (state : EdgeState) : EdgeState where
  sides polarity := { state.sides polarity with drained := (state.sides polarity).written }
  overflow := false

/-- What happens to the capture. A drain and a reset begin with a poll of their own. -/
inductive Edge where
  | capture (polarity : Polarity) (tick : UInt16)
  | poll
  | drain (polarity : Polarity) (size : Nat) (landing : Nat → List UInt16)
  | reset

/-- The rings, the counters over them, what the drains have returned and, for each ring, what of it was since the last
reset. `ok` goes down with the first counter operation that leaves its word. -/
structure Rig where
  rings : Polarity → CaptureRing := fun _ => {}
  state : EdgeState := {}
  ok : Bool := true
  outs : List (List UInt16) := []
  handed : Polarity → List UInt16 := fun _ => []

namespace Rig

def poll (rig : Rig) : Rig :=
  let polled := rig.state.pollAccumulate fun polarity => (rig.rings polarity).remaining
  { rig with state := polled.val, ok := rig.ok && polled.ok }

def drain (rig : Rig) (polarity : Polarity) (size : Nat) (landing : Nat → List UInt16) : Rig :=
  let drained := (rig.state.sides polarity).drain (rig.rings polarity) size landing
  { rings := Function.update rig.rings polarity drained.val.ring
    state := { rig.state with sides := Function.update rig.state.sides polarity drained.val.side }
    ok := rig.ok && drained.ok
    outs := rig.outs ++ [drained.val.out]
    handed := Function.update rig.handed polarity (rig.handed polarity ++ drained.val.out) }

def step (rig : Rig) : Edge → Rig
  | .capture polarity tick =>
    { rig with rings := Function.update rig.rings polarity ((rig.rings polarity).capture tick) }
  | .poll => rig.poll
  | .drain polarity size landing => rig.poll.drain polarity size landing
  | .reset => { rig.poll with state := rig.poll.state.reset, handed := fun _ => [] }

end Rig

/-- One ring as its captures say: how many there were at the last poll and at the last reset, and how many of them the
next drain leaves behind. -/
structure Tally where
  captured : List UInt16 := []
  polled : Nat := 0
  start : Nat := 0
  taken : Nat := 0

namespace Tally

def poll (tally : Tally) : Tally :=
  { tally with polled := tally.captured.length }

def outstanding (tally : Tally) : Nat :=
  tally.polled - tally.taken

def first (tally : Tally) : Nat :=
  max tally.taken (tally.polled - capLen)

def due (tally : Tally) (size : Nat) : List UInt16 :=
  ((tally.captured.take tally.polled).drop tally.first).take size

def drain (tally : Tally) (size : Nat) (landing : Nat → List UInt16) : Tally :=
  let n := (tally.due size).length
  { tally with
    captured := tally.captured ++ (List.range n).flatMap landing
    taken := tally.first + n }

end Tally

/-- What the capture is for: its entries, what every drain has to return, and whether a poll since the last reset has
found more outstanding than a ring holds. -/
structure Ledger where
  tallies : Polarity → Tally := fun _ => {}
  lapped : Bool := false
  dues : List (List UInt16) := []

namespace Ledger

def poll (ledger : Ledger) : Ledger :=
  let tallies polarity := (ledger.tallies polarity).poll
  { ledger with
    tallies
    lapped := ledger.lapped || capLen < (tallies .falls).outstanding || capLen < (tallies .rises).outstanding }

def step (ledger : Ledger) : Edge → Ledger
  | .capture polarity tick =>
    let tally := ledger.tallies polarity
    { ledger with
      tallies := Function.update ledger.tallies polarity { tally with captured := tally.captured ++ [tick] } }
  | .poll => ledger.poll
  | .drain polarity size landing =>
    let ledger := ledger.poll
    let tally := ledger.tallies polarity
    { ledger with
      tallies := Function.update ledger.tallies polarity (tally.drain size landing)
      dues := ledger.dues ++ [tally.due size] }
  | .reset =>
    { ledger.poll with
      tallies := fun polarity =>
        let tally := ledger.poll.tallies polarity
        { tally with start := tally.polled, taken := tally.polled }
      lapped := false }

end Ledger

structure Bench where
  rig : Rig := {}
  ledger : Ledger := {}

def Bench.step (bench : Bench) (edge : Edge) : Bench where
  rig := bench.rig.step edge
  ledger := bench.ledger.step edge

end OpenServo.Host
