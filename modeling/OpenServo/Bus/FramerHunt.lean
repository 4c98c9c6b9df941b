import OpenServo.Bus.FramerContinuity
import OpenServo.Protocol.Bytes
import OpenServo.Shared.Run

set_option autoImplicit false

namespace OpenServo.Bus

open OpenServo.Protocol OpenServo.Shared

def bytesAt (stream : Nat → UInt8) (q count : Nat) : List UInt8 :=
  (List.range count).map (fun i => stream (q + i))

def CrcValid (stream : Nat → UInt8) (q : Nat) : Prop :=
  oscCrc (bytesAt stream (q + 1) (sizeAt stream q - 3)) =
    u16FromLe (stream (q + sizeAt stream q - 2)) (stream (q + sizeAt stream q - 1))

instance (stream : Nat → UInt8) (q : Nat) : Decidable (CrcValid stream q) :=
  inferInstanceAs (Decidable (_ = _))

structure WellFormedAt (stream : Nat → UInt8) (q : Nat) : Prop where
  brk : stream q = 0
  isPlausible : 3 ≤ stream (q + 2)
  crc : CrcValid stream q

/-- A framer driven by hand: `spot` is the stream position of its anchor, `awaiting` the emitted span
that has not been answered yet, with its position. -/
structure Hunt where
  framer : Framer
  spot : Nat
  awaiting : Option (FrameSpan × Nat) := none
  emitted : List Nat := []
  verified : List Nat := []
  calls : List ResolveCall := []

inductive HuntEvent where
  | resolve (call : ResolveCall)
  | answer

def Hunt.resolve (hunt : Hunt) (call : ResolveCall) : Hunt :=
  let result := call.resolve hunt.framer
  let spot := hunt.spot + dist result.1.anchor hunt.framer.anchor call.ring.length
  let next := { hunt with framer := result.1, spot := spot, calls := hunt.calls ++ [call] }
  match result.2 with
  | .frame span =>
    { next with
      awaiting := some (span, spot - span.footprint)
      emitted := hunt.emitted ++ [spot - span.footprint] }
  | _ => next

def Hunt.answer (stream : Nat → UInt8) (len : Nat) (hunt : Hunt) : Hunt :=
  match hunt.awaiting with
  | none => hunt
  | some (span, q) =>
    if CrcValid stream q then
      { hunt with
        framer := hunt.framer.onFrameVerified
        awaiting := none
        verified := hunt.verified ++ [q] }
    else
      { hunt with
        framer := hunt.framer.onFrameRejected span.anchor len
        spot := q + 1
        awaiting := none }

def huntStep (stream : Nat → UInt8) (len : Nat) (hunt : Hunt) : HuntEvent → Hunt
  | .resolve call => hunt.resolve call
  | .answer => hunt.answer stream len

/-- What the wire, the ring and the composite promise of an event: every frame is answered before the
next look, and the bytes of the frame at `p` arrive without a pause that reaches the horizon. -/
def HuntPromise (stream : Nat → UInt8) (len start p : Nat) (hunt : Hunt) : HuntEvent → Prop
  | .answer => True
  | .resolve call =>
    hunt.awaiting = none ∧
      call.ring.length = len ∧
      start ≤ call.pos ∧
      (∀ earlier ∈ hunt.calls, earlier.pos ≤ call.pos) ∧
      call.pos < hunt.spot + len ∧
      Shows call.ring 0 stream (call.pos - len) call.pos ∧
      (p < call.pos → call.pos < p + sizeAt stream p → ∀ earlier ∈ hunt.calls,
        earlier.pos = call.pos → tickReached call.now (earlier.now + starveSpan call.tpb) = false)

/-- The frame at `p` is not lost: it is ahead of the ladder, or it was emitted, or a verified frame
contains it, or the frame that contains it is still unanswered. -/
def Kept (stream : Nat → UInt8) (p : Nat) (hunt : Hunt) : Prop :=
  hunt.spot ≤ p ∨ p ∈ hunt.emitted ∨
    (∃ q ∈ hunt.verified, q ≤ p ∧ p < q + sizeAt stream q) ∨
    ∃ span q, hunt.awaiting = some (span, q) ∧ q ≤ p ∧ p < q + sizeAt stream q

structure HuntInv (stream : Nat → UInt8) (len start p : Nat) (hunt : Hunt) : Prop where
  anchor : hunt.framer.anchor = hunt.spot % len
  reached : hunt.spot = start ∨ ∃ earlier ∈ hunt.calls, hunt.spot ≤ earlier.pos
  recalls : Recalls len hunt.framer hunt.spot (hunt.calls.map (fun call => (call.pos, call.now)))
  awaited : ∀ span q, hunt.awaiting = some (span, q) →
    span.anchor = q % len ∧ hunt.spot = q + sizeAt stream q ∧ q ∈ hunt.emitted ∧
      ∃ earlier ∈ hunt.calls, hunt.spot ≤ earlier.pos
  kept : Kept stream p hunt

section Step

variable {stream : Nat → UInt8} {len start p : Nat} {hunt : Hunt}

theorem HuntInv.sees (shape : RingShape len) (inv : HuntInv stream len start p hunt) {call : ResolveCall}
    (promise : HuntPromise stream len start p hunt (.resolve call)) :
    Sees call.ring stream hunt.framer hunt.spot call.pos := by
  obtain ⟨-, ring, first, advances, unconsumed, shows, -⟩ := promise
  refine ⟨ring ▸ shape, ring ▸ inv.anchor, ?_, ring ▸ unconsumed, shows.mono (by omega)⟩
  rcases inv.reached with initial | ⟨earlier, member, reached⟩
  next => exact initial ▸ first
  next => exact Nat.le_trans reached (advances earlier member)

theorem HuntInv.alive (inv : HuntInv stream len start p hunt) {call : ResolveCall}
    (promise : HuntPromise stream len start p hunt (.resolve call)) (some : p < call.pos)
    (part : call.pos < p + sizeAt stream p) (observed : hunt.framer.frontier.observed = true)
    (seen : hunt.framer.frontier.seen = call.pos % len) :
    tickReached call.now (hunt.framer.frontier.progressTick + starveSpan call.tpb) = false := by
  obtain ⟨-, -, -, advances, unconsumed, -, alive⟩ := promise
  obtain ⟨look, member, level, tick⟩ := inv.recalls.level observed seen
    (by simpa using advances) unconsumed
  obtain ⟨earlier, before, rfl⟩ := List.mem_map.mp member
  rw [← tick]
  exact alive some part earlier before level

theorem HuntInv.resolve (shape : RingShape len) (geometry : Geometry stream p)
    (inv : HuntInv stream len start p hunt) {call : ResolveCall}
    (promise : HuntPromise stream len start p hunt (.resolve call)) :
    HuntInv stream len start p (hunt.resolve call) := by
  have sees := inv.sees shape promise
  obtain ⟨next, landing⟩ := resolve_spec sees call.now call.tpb
  change Landing stream _ _ _ _ _ _ next (call.resolve hunt.framer) at landing
  have spot := landing.spot_eq sees
  have bounds := landing.bounds sees.ordered
  have alive := inv.alive promise
  rw [← promise.2.1] at alive
  have anchor : (call.resolve hunt.framer).1.anchor = next % len := by
    rw [landing.anchor_eq sees.anchor, promise.2.1]
  have recalls := landing.recalls (promise.2.1 ▸ inv.recalls)
  rw [promise.2.1] at recalls
  have spared (before : hunt.spot ≤ p) := landing.spares geometry before (fun _ => alive)
  have idle := promise.1
  -- The frame at `p` stays ahead, or it lies inside the span that this look emits.
  simp only [Hunt.resolve, spot]
  split
  next span emits =>
    obtain ⟨q, -, rfl, after, -, -⟩ := landing.frame_inv emits
    have back : next - sizeAt stream q = q := by omega
    simp only [back]
    refine ⟨anchor, .inr ⟨call, by simp, bounds.2⟩, by simpa using recalls, ?_, ?_⟩
    next =>
      rintro _ _ same
      obtain ⟨rfl, rfl⟩ := Prod.mk.inj (Option.some.inj same)
      exact ⟨by rw [promise.2.1], after, by simp, call, by simp, bounds.2⟩
    next =>
      rcases inv.kept with before | emitted | strided | ⟨span, r, awaiting, -⟩
      next =>
        rcases spared before with ahead | ⟨r, same, there, low, high⟩
        next => exact .inl ahead
        next =>
          rw [emits] at same
          have size : sizeAt stream q = sizeAt stream r := by
            simpa using congrArg (fun out => match out with | .frame span => span.footprint | _ => 0) same
          have equal : q = r := by omega
          exact .inr (.inr (.inr ⟨_, q, rfl, equal ▸ low, by omega⟩))
      next => exact .inr (.inl (List.mem_append_left _ emitted))
      next => exact .inr (.inr (.inl strided))
      next => rw [idle] at awaiting; cases awaiting
  next silent =>
    refine ⟨anchor, .inr ⟨call, by simp, bounds.2⟩, by simpa using recalls, by simp [idle], ?_⟩
    rcases inv.kept with before | emitted | strided | ⟨span, r, awaiting, -⟩
    next =>
      rcases spared before with ahead | ⟨r, emits, -⟩
      next => exact .inl ahead
      next => exact absurd emits (silent _)
    next => exact .inr (.inl emitted)
    next => exact .inr (.inr (.inl strided))
    next => rw [idle] at awaiting; cases awaiting

theorem HuntInv.answer (shape : RingShape len) (inv : HuntInv stream len start p hunt) :
    HuntInv stream len start p (hunt.answer stream len) := by
  simp only [Hunt.answer]
  split
  next => exact inv
  next span q awaiting =>
    obtain ⟨anchor, spot, emitted, earlier, member, reached⟩ := inv.awaited span q awaiting
    have positive : 0 < sizeAt stream q := by simp only [sizeAt, footprint]; omega
    have kept := inv.kept
    split
    next valid =>
      refine ⟨inv.anchor, inv.reached, inv.recalls, by simp, ?_⟩
      rcases kept with before | listed | ⟨r, strided, low, high⟩ | ⟨_, r, same, low, high⟩
      next => exact .inl before
      next => exact .inr (.inl listed)
      next => exact .inr (.inr (.inl ⟨r, List.mem_append_left _ strided, low, high⟩))
      next =>
        rw [awaiting] at same
        obtain ⟨-, rfl⟩ := Prod.mk.inj (Option.some.inj same)
        exact .inr (.inr (.inl ⟨q, by simp, low, high⟩))
    next =>
      refine ⟨?_, .inr ⟨earlier, member, by simp only; omega⟩, recalls_idle rfl, by simp, ?_⟩
      next =>
        simp only [Framer.onFrameRejected]
        rw [shape.wrap_u16, shape.wrap_eq, anchor, Nat.mod_add_mod]
      next =>
        rcases kept with before | listed | strided | ⟨_, r, same, low, high⟩
        next => exact .inl (by simp only; omega)
        next => exact .inr (.inl listed)
        next => exact .inr (.inr (.inl strided))
        next =>
          rw [awaiting] at same
          obtain ⟨-, rfl⟩ := Prod.mk.inj (Option.some.inj same)
          by_cases here : q = p
          next => exact .inr (.inl (here ▸ emitted))
          next => exact .inl (by simp only; omega)

end Step

def huntFrom (start len : Nat) (hunting : Bool) : Hunt where
  framer := { anchor := start % len, hunting := hunting }
  spot := start

theorem hunt_keeps_frame (stream : Nat → UInt8) (len start p : Nat) (hunting : Bool)
    (events : List HuntEvent) (shape : RingShape len) (ahead : start ≤ p)
    (frame : WellFormedAt stream p)
    (promised : Meets (huntStep stream len) (HuntPromise stream len start p)
      (huntFrom start len hunting) events) :
    Kept stream p (run (huntStep stream len) (huntFrom start len hunting) events) := by
  have inv := run_invariant (huntStep stream len) (HuntPromise stream len start p)
    (HuntInv stream len start p)
    (by
      intro hunt event inv promise
      cases event with
      | resolve call => exact inv.resolve shape ⟨frame.brk, frame.isPlausible⟩ promise
      | answer => exact inv.answer shape)
    (huntFrom start len hunting)
    ⟨rfl, .inl rfl, recalls_idle rfl, by simp [huntFrom], .inl ahead⟩ events promised
  exact inv.kept

/-- Junk that claims thirteen bytes, with a whole ping inside them. -/
def trappedStream (p : Nat) : UInt8 :=
  ([0x00, 0x01, 0x0A, 0x10] ++ pingFrame ++ [0x55, 0x55, 0x55]).getD p 0x55

def trappedCall : ResolveCall :=
  ⟨(List.range 512).map trappedStream, 13, 0, 160⟩

theorem trapped_promise (p : Nat) :
    HuntPromise trappedStream 512 0 p (huntFrom 0 512 false) (.resolve trappedCall) := by
  have shows : ∀ q < 13, trappedCall.ring.getD (q % trappedCall.ring.length) 0 = trappedStream q := by
    decide +kernel
  exact ⟨rfl, by decide +kernel, by decide, by simp [huntFrom], by decide, fun q _ below => shows q below,
    by simp [huntFrom]⟩

theorem trapped_ping : WellFormedAt trappedStream 4 :=
  ⟨rfl, by decide, by decide +kernel⟩

theorem hunt_keeps_trapped_ping :
    Kept trappedStream 4
      (run (huntStep trappedStream 512) (huntFrom 0 512 false) [.resolve trappedCall, .answer]) :=
  hunt_keeps_frame trappedStream 512 0 4 false [.resolve trappedCall, .answer]
    ⟨⟨9, rfl⟩, by decide, by decide⟩ (by decide) trapped_ping
    ⟨trapped_promise 4, trivial, trivial⟩

/-- Right after the look that emits the junk candidate the ladder stands past the ping, which is neither emitted nor
inside a verified frame: only the answer takes the ladder back. -/
theorem hunt_passes_trapped_ping :
    ¬ ∀ (stream : Nat → UInt8) (len start p : Nat) (hunting : Bool) (events : List HuntEvent),
      RingShape len → start ≤ p → WellFormedAt stream p →
      Meets (huntStep stream len) (HuntPromise stream len start p) (huntFrom start len hunting) events →
      (run (huntStep stream len) (huntFrom start len hunting) events).spot ≤ p ∨
        p ∈ (run (huntStep stream len) (huntFrom start len hunting) events).emitted ∨
        ∃ q ∈ (run (huntStep stream len) (huntFrom start len hunting) events).verified,
          q ≤ p ∧ p < q + sizeAt stream q := by
  intro claim
  have kept := claim trappedStream 512 0 4 false [.resolve trappedCall]
    ⟨⟨9, rfl⟩, by decide, by decide⟩ (by decide) trapped_ping ⟨trapped_promise 4, trivial⟩
  have spot : (run (huntStep trappedStream 512) (huntFrom 0 512 false) [.resolve trappedCall]).spot = 13 := by
    decide +kernel
  have emitted :
      (run (huntStep trappedStream 512) (huntFrom 0 512 false) [.resolve trappedCall]).emitted = [0] := by
    decide +kernel
  have verified :
      (run (huntStep trappedStream 512) (huntFrom 0 512 false) [.resolve trappedCall]).verified = [] := by
    decide +kernel
  rw [spot, emitted, verified] at kept
  simp at kept

end OpenServo.Bus
