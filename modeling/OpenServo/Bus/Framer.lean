import OpenServo.Bus.Providers
import OpenServo.Protocol.Wire

set_option autoImplicit false

namespace OpenServo.Bus

open OpenServo.Protocol OpenServo.Shared

structure FrameSpan where
  anchor : Nat
  footprint : Nat
  packetEnd : UInt32
deriving DecidableEq, Repr

inductive FramerOut where
  | none
  | wait (tick : UInt32)
  | covered (span : FrameSpan) (endDue : UInt32)
  | frame (span : FrameSpan)
deriving DecidableEq, Repr

def headerSpanBytes : Nat := 4

def coveredTailBytes : Nat := 2

def huntBytesPerWake : Nat := 64

def wireLead (bytes : Nat) (tpb : UInt32) : UInt32 :=
  let t := UInt32.ofNat bytes * tpb
  t + (t >>> 6)

def starveSpan (tpb : UInt32) : UInt32 :=
  starveHorizonByteTimes * tpb

structure Frontier where
  covered : Bool := false
  observed : Bool := false
  seen : Nat := 0
  progressTick : UInt32 := 0
deriving DecidableEq, Repr

def Frontier.advance (frontier : Frontier) (cursor : Nat) (now : UInt32) : Frontier :=
  if frontier.observed ∧ cursor = frontier.seen then frontier
  else { frontier with observed := true, seen := cursor, progressTick := now }

structure Framer where
  anchor : Nat := 0
  hunting : Bool := false
  frontier : Frontier := {}
  faultSeen : Nat := 0
  drops : UInt32 := 0
deriving DecidableEq, Repr

/-- `cursor + len - anchor` cannot run below zero: the anchor is a ring index. -/
def dist (cursor anchor len : Nat) : Nat :=
  ringWrap (cursor + len - anchor) len % 65536

namespace Framer

def resync (framer : Framer) (cursor : Nat) : Framer :=
  { framer with anchor := cursor, frontier := {}, faultSeen := cursor }

def onWireFault (framer : Framer) (cursor : Nat) : Framer × Bool :=
  if cursor = framer.faultSeen then (framer, false)
  else ({ framer with faultSeen := cursor }, true)

def onFrameRejected (framer : Framer) (anchor len : Nat) : Framer :=
  { framer with hunting := true, anchor := ringWrap (anchor + 1) len % 65536, frontier := {} }

def onFrameVerified (framer : Framer) : Framer :=
  { framer with hunting := false }

def caughtUp (framer : Framer) (cursor : Nat) : Bool :=
  framer.anchor = cursor

def probing (framer : Framer) : Bool :=
  framer.hunting

def giveUp (framer : Framer) (len : Nat) (now : UInt32) : Framer × FramerOut :=
  ({ framer with
      drops := if framer.hunting then framer.drops else framer.drops + 1
      hunting := true
      anchor := ringWrap (framer.anchor + 1) len % 65536
      frontier := {} }, .wait now)

def wait (framer : Framer) (aim now tpb : UInt32) (cursor len : Nat) : Framer × FramerOut :=
  let stalled := framer.frontier.observed && cursor = framer.frontier.seen
  let framer := { framer with frontier := framer.frontier.advance cursor now }
  let horizon := framer.frontier.progressTick + starveSpan tpb
  if stalled && tickReached now horizon then
    framer.giveUp len now
  else
    (framer, .wait (if aim - now ≤ horizon - now then aim else horizon))

def isPlausible (framer : Framer) (ring : List UInt8) (received : Nat) : Bool :=
  ring.getD framer.anchor 0 = 0 &&
    (received < headerSpanBytes || 3 ≤ ring.getD (ringWrap (framer.anchor + 2) ring.length) 0)

/-- The hunt: skip bytes until a plausible candidate, the cursor, or the budget of one call. -/
def hunt (ring : List UInt8) (now : UInt32) :
    (budget : Nat) → Framer → (received : Nat) → Framer × (FramerOut ⊕ Nat)
  | 0, framer, _ => (framer, .inl (.wait now))
  | budget + 1, framer, received =>
    if framer.isPlausible ring received then (framer, .inr received)
    else
      let framer :=
        { framer with
          hunting := true
          anchor := ringWrap (framer.anchor + 1) ring.length % 65536
          frontier := {} }
      if received - 1 = 0 then (framer, .inl .none)
      else hunt ring now budget framer (received - 1)

def settle (framer : Framer) (ring : List UInt8) (cursor : Nat) (now tpb : UInt32) (received : Nat) :
    Framer × FramerOut :=
  let len := ring.length
  if received < headerSpanBytes then
    framer.wait (now + wireLead (headerSpanBytes - received) tpb + tpb / 2) now tpb cursor len
  else
    let footprint := footprint (ring.getD (ringWrap (framer.anchor + 2) len) 0)
    if footprint ≤ received then
      ({ framer with anchor := ringWrap (framer.anchor + footprint) len % 65536, frontier := {} },
        .frame ⟨framer.anchor, footprint, now⟩)
    else
      let missing := footprint - received
      if !framer.frontier.covered && missing ≤ coveredTailBytes then
        let packetEnd := now + wireLead missing tpb
        ({ framer with frontier := { framer.frontier.advance cursor now with covered := true } },
          .covered ⟨framer.anchor, footprint, packetEnd⟩ packetEnd)
      else
        let toTarget := if framer.frontier.covered then missing else missing - coveredTailBytes
        framer.wait (now + wireLead toTarget tpb) now tpb cursor len

def resolve (framer : Framer) (ring : List UInt8) (cursor : Nat) (now tpb : UInt32) :
    Framer × FramerOut :=
  if ring.length = 0 then (framer, .none)
  else
    let received := dist cursor framer.anchor ring.length
    if received = 0 then ({ framer with frontier := {} }, .none)
    else
      match hunt ring now huntBytesPerWake framer received with
      | (framer, .inl out) => (framer, out)
      | (framer, .inr received) => framer.settle ring cursor now tpb received

end Framer

end OpenServo.Bus
