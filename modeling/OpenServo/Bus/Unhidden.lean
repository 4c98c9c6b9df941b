import OpenServo.Bus.FramerHunt
import OpenServo.Bus.Rulings

set_option autoImplicit false

namespace OpenServo.Bus

open OpenServo.Core OpenServo.Protocol OpenServo.Shared

section View

variable {ring : List UInt8} {stream : Nat → UInt8} {q : Nat}

theorem around_shows (shows : Shows ring 0 stream q (q + sizeAt stream q)) (count : Nat)
    (inside : count ≤ sizeAt stream q) :
    around ring 0 (q % ring.length) count = bytesAt stream q count := by
  simp only [around, bytesAt]
  apply List.map_congr_left
  intro i member
  have below := List.mem_range.mp member
  rw [Nat.mod_add_mod]
  exact shows (q + i) (by omega) (by omega)

theorem frameView_shows (shape : RingShape ring.length) (geometry : Geometry stream q)
    (shows : Shows ring 0 stream q (q + sizeAt stream q)) :
    (frameView ring (q % ring.length) (sizeAt stream q)).bytes = bytesAt stream q (sizeAt stream q) := by
  have large := shape.large
  have size := geometry.size_le
  rw [frameView_bytes (Nat.mod_lt _ (by omega)) (by omega), around_shows shows _ (Nat.le_refl _)]

theorem crcHolds_shows (shape : RingShape ring.length) (geometry : Geometry stream q)
    (shows : Shows ring 0 stream q (q + sizeAt stream q)) :
    CrcHolds (frameView ring (q % ring.length) (sizeAt stream q)) ↔ CrcValid stream q := by
  have large := shape.large
  have size := geometry.size_le
  have inside : q % ring.length < ring.length := Nat.mod_lt _ (by omega)
  have tail (i : Nat) (below : i < sizeAt stream q) :
      (bytesAt stream q (sizeAt stream q)).getD i 0 = stream (q + i) := by
    simp [bytesAt, List.getD_eq_getElem?_getD, List.getElem?_map, List.getElem?_range below]
  have body : (bytesAt stream q (sizeAt stream q - 2)).drop 1 = bytesAt stream (q + 1) (sizeAt stream q - 3) := by
    rw [show sizeAt stream q - 2 = sizeAt stream q - 3 + 1 by omega]
    simp only [bytesAt, List.range_succ_eq_map, List.map_cons, List.drop_one, List.tail_cons, List.map_map]
    apply List.map_congr_left
    intro i _
    simp only [Function.comp_apply]
    congr 1
    omega
  rw [CrcHolds, CrcValid, coveredOf_frameView shape inside size.1 size.2, around_shows shows _ (by omega), body,
    frameView_shows shape geometry shows, frameView_len inside (by omega), tail _ (by omega), tail _ (by omega),
    show q + (sizeAt stream q - 2) = q + sizeAt stream q - 2 by omega,
    show q + (sizeAt stream q - 1) = q + sizeAt stream q - 1 by omega]

theorem ringInst_shows (shows : Shows ring 0 stream q (q + sizeAt stream q)) (low : 6 ≤ sizeAt stream q) :
    ringInst ring (q % ring.length) = stream (q + 3) := by
  rw [ringInst, Nat.mod_add_mod]
  exact shows (q + 3) (by omega) (by omega)

end View

structure Feed where
  stream : Nat → UInt8
  pos : Nat → Nat
  tick : Nat → UInt32
  advances : Monotone pos

/-- The looks at the ring before read `reads`: the tick is read, then the cursor. -/
def Feed.looks (feed : Feed) (reads : Nat) : List (Nat × UInt32) :=
  (List.range (reads - 1)).map (fun m => (feed.pos (m + 1), feed.tick m))

/-- What the wire, the ring and the CRC engine promise a handler that finds the ladder at `floor` and makes no read
from `last` on: no more than a ring of bytes is left to consume, the engine drains in time, and the frame at `p` comes
without a pause that reaches the horizon. -/
structure Turn (feed : Feed) (len p : Nat) (wake : Wake) (floor : Nat) (tpb : UInt32) (last : Nat) : Prop where
  ring : wake.ring.length = len
  cursor : ∀ n, wake.cursor n = feed.pos n % len
  now : ∀ n, wake.now n = feed.tick n
  drains : ∀ n, wake.lag n ≤ spinPerByte * (sizeAt feed.stream p - 2)
  shows : ∃ high < floor + len, Shows wake.ring 0 feed.stream (high - len) high ∧
    ∀ n < last, feed.pos n ≤ high
  alive : ∀ m n, m < n → n + 1 < last → p < feed.pos (n + 1) →
    feed.pos (n + 1) < p + sizeAt feed.stream p → feed.pos (m + 1) = feed.pos (n + 1) →
      tickReached (feed.tick n) (feed.tick m + starveSpan tpb) = false

/-- A rescue comes before the frame at `p` does, or after it was consumed. -/
structure Fed (feed : Feed) (len p : Nat) (servo : Servo) (event : BusEvent) : Prop where
  turn : Turn feed len p event.wake servo.bus.trace.spot servo.bus.tpb (busStep servo event).bus.reads
  rescued : ∀ wake, event = .rescueBreak wake → p < servo.bus.trace.spot ∨ feed.pos servo.bus.reads ≤ p

def Answered (stream : Nat → UInt8) (p : Nat) (trace : Trace) : Prop :=
  ∃ ruling ∈ trace.rulings, ruling.place = p ∧ ruling.passed = true ∧
    ruling.view.bytes = bytesAt stream p (sizeAt stream p) ∧
    ∀ req mayReply slot, decode ruling.view ruling.id = .own req mayReply slot →
      ∃ origin, coveredOf origin.view = coveredOf ruling.view ∧
        Effect.frame origin ruling.view ∈ trace.effects

def Enclosed (stream : Nat → UInt8) (p : Nat) : Prop :=
  ∃ q < p, p < q + sizeAt stream q ∧ WellFormedAt stream q

/-- No status frame that fails its checksum was strode over with `p` inside it. -/
def Trace.Clear (stream : Nat → UInt8) (p : Nat) (trace : Trace) : Prop :=
  ∀ stride ∈ trace.statuses, stride.1 < p → p < stride.1 + stride.2 → CrcValid stream stride.1

structure Follows (feed : Feed) (len : Nat) (bus : ServoBus) : Prop where
  anchor : bus.framer.anchor = bus.trace.spot % len
  ordered : bus.trace.spot ≤ feed.pos bus.reads
  recalls : Recalls len bus.framer bus.trace.spot (feed.looks bus.reads)

/-- The frame at `p` is not lost: it is ahead of the ladder, or answered, or inside a good frame. -/
def Unlost (stream : Nat → UInt8) (p : Nat) (trace : Trace) : Prop :=
  trace.spot ≤ p ∨ Answered stream p trace ∨ Enclosed stream p

section Kept

variable {stream : Nat → UInt8} {p : Nat} {early late : ServoBus}

theorem Answered.grows (answered : Answered stream p early.trace) (grows : Grows early late) :
    Answered stream p late.trace := by
  obtain ⟨ruling, member, place, passed, bytes, dispatched⟩ := answered
  refine ⟨ruling, grows.rulings.subset member, place, passed, bytes, ?_⟩
  intro req mayReply slot own
  obtain ⟨origin, same, effect⟩ := dispatched req mayReply slot own
  exact ⟨origin, same, grows.effects.subset effect⟩

theorem Trace.Clear.before (clear : late.trace.Clear stream p) (grows : Grows early late) :
    early.trace.Clear stream p :=
  fun stride member => clear stride (grows.statuses.subset member)

theorem kept_of_grows (kept : Unlost stream p early.trace) (grows : Grows early late)
    (ahead : early.trace.spot ≤ p → Unlost stream p late.trace) : Unlost stream p late.trace := by
  rcases kept with before | answered | enclosed
  next => exact ahead before
  next => exact .inr (.inl (answered.grows grows))
  next => exact .inr (.inr enclosed)

theorem Recalls.aside {len spot : Nat} {framer next : Framer} {looks more : List (Nat × UInt32)}
    (recalls : Recalls len framer spot looks) (frontier : next.frontier = framer.frontier)
    (subset : looks ⊆ more) : Recalls len next spot more := by
  intro observed
  rw [frontier] at observed ⊢
  obtain ⟨look, member, recorded⟩ := recalls observed
  exact ⟨look, subset member, recorded⟩

theorem Feed.looks_mono (feed : Feed) {reads more : Nat} (later : reads ≤ more) :
    feed.looks reads ⊆ feed.looks more := by
  intro look member
  obtain ⟨m, below, rfl⟩ := List.mem_map.mp member
  refine List.mem_map.mpr ⟨m, ?_, rfl⟩
  rw [List.mem_range] at below ⊢
  omega

theorem Feed.looks_step (feed : Feed) (reads : Nat) :
    feed.looks reads ++ [(feed.pos (reads + 1), feed.tick reads)] ⊆ feed.looks (reads + 1 + 1) := by
  refine List.append_subset.mpr ⟨feed.looks_mono (by omega), ?_⟩
  intro look member
  rw [List.mem_singleton.mp member]
  exact List.mem_map.mpr ⟨reads, by simp, rfl⟩

end Kept

section Look

variable {feed : Feed} {len p floor last : Nat} {wake : Wake} {tpb : UInt32} {servo : Servo}

theorem Follows.aside {early late : ServoBus} (follows : Follows feed len early) (aside : Aside early late) :
    Follows feed len late := by
  refine ⟨?_, ?_, ?_⟩
  next => rw [aside.anchor, aside.spot, follows.anchor]
  next =>
    rw [aside.spot]
    exact Nat.le_trans follows.ordered (feed.advances aside.reads)
  next =>
    rw [aside.spot]
    exact follows.recalls.aside aside.frontier (feed.looks_mono aside.reads)

theorem Follows.sees (shape : RingShape len) (turn : Turn feed len p wake floor tpb last)
    (follows : Follows feed len servo.bus) (above : floor ≤ servo.bus.trace.spot)
    (within : servo.bus.reads + 1 < last) :
    Sees wake.ring feed.stream servo.bus.framer servo.bus.trace.spot (feed.pos (servo.bus.reads + 1)) := by
  obtain ⟨high, near, shows, bound⟩ := turn.shows
  have ring := turn.ring
  have top := bound _ within
  refine ⟨ring ▸ shape, ring ▸ follows.anchor, ?_, by omega, ?_⟩
  next => exact Nat.le_trans follows.ordered (feed.advances (Nat.le_succ _))
  next => exact fun q low below => shows q (by omega) (by omega)

theorem Follows.landing (shape : RingShape len) (turn : Turn feed len p wake floor tpb last)
    (follows : Follows feed len servo.bus) (above : floor ≤ servo.bus.trace.spot)
    (within : servo.bus.reads + 1 < last) :
    Landing feed.stream len servo.bus.trace.spot (feed.pos (servo.bus.reads + 1)) (feed.tick servo.bus.reads)
      servo.bus.tpb servo.bus.framer (servo.looked wake).bus.trace.spot (servo.resolve wake) := by
  have sees := follows.sees shape turn above within
  obtain ⟨next, landing⟩ := resolve_spec sees (feed.tick servo.bus.reads) servo.bus.tpb
  have seen : servo.resolve wake = servo.bus.framer.resolve wake.ring
      (feed.pos (servo.bus.reads + 1) % wake.ring.length) (feed.tick servo.bus.reads) servo.bus.tpb := by
    rw [Servo.resolve, turn.cursor, turn.now, turn.ring]
  rw [← seen] at landing
  have spot : (servo.looked wake).bus.trace.spot = next := landing.spot_eq sees
  rw [spot, ← turn.ring]
  exact landing

theorem Follows.looked (shape : RingShape len) (turn : Turn feed len p wake floor tpb last)
    (follows : Follows feed len servo.bus) (above : floor ≤ servo.bus.trace.spot)
    (within : servo.bus.reads + 1 < last) : Follows feed len (servo.looked wake).bus := by
  have landing := follows.landing shape turn above within
  have bounds := landing.bounds (follows.sees shape turn above within).ordered
  refine ⟨landing.anchor_eq follows.anchor, ?_, ?_⟩
  next => exact Nat.le_trans bounds.2 (feed.advances (Nat.le_succ _))
  next => exact (landing.recalls follows.recalls).aside rfl (feed.looks_step servo.bus.reads)

theorem Follows.alive (turn : Turn feed len p wake floor tpb last) (follows : Follows feed len servo.bus)
    (above : floor ≤ servo.bus.trace.spot) (within : servo.bus.reads + 1 < last)
    (some : p < feed.pos (servo.bus.reads + 1))
    (part : feed.pos (servo.bus.reads + 1) < p + sizeAt feed.stream p)
    (observed : servo.bus.framer.frontier.observed = true)
    (seen : servo.bus.framer.frontier.seen = feed.pos (servo.bus.reads + 1) % len) :
    tickReached (feed.tick servo.bus.reads) (servo.bus.framer.frontier.progressTick + starveSpan tpb) =
      false := by
  obtain ⟨high, near, -, bound⟩ := turn.shows
  have top := bound _ within
  have earlier : ∀ look ∈ feed.looks servo.bus.reads, look.1 ≤ feed.pos (servo.bus.reads + 1) := by
    intro look member
    obtain ⟨m, below, rfl⟩ := List.mem_map.mp member
    rw [List.mem_range] at below
    exact feed.advances (by omega)
  obtain ⟨look, member, level, tick⟩ := follows.recalls.level observed seen earlier (by omega)
  obtain ⟨m, below, rfl⟩ := List.mem_map.mp member
  rw [List.mem_range] at below
  rw [← tick]
  exact turn.alive m servo.bus.reads (by omega) within some part level

theorem Follows.spares (shape : RingShape len) (turn : Turn feed len p wake floor tpb last)
    (follows : Follows feed len servo.bus) (above : floor ≤ servo.bus.trace.spot)
    (within : servo.bus.reads + 1 < last) (pace : servo.bus.tpb = tpb) (geometry : Geometry feed.stream p)
    (before : servo.bus.trace.spot ≤ p) :
    (servo.looked wake).bus.trace.spot ≤ p ∨
      ∃ q, (servo.resolve wake).2 = .frame ⟨q % len, sizeAt feed.stream q, feed.tick servo.bus.reads⟩ ∧
        (servo.looked wake).bus.trace.spot = q + sizeAt feed.stream q ∧ q ≤ p ∧
        p < (servo.looked wake).bus.trace.spot := by
  refine (follows.landing shape turn above within).spares geometry before ?_
  intro _ some part observed seen
  rw [pace]
  exact follows.alive turn above within some part observed seen

end Look

section Ended

variable {feed : Feed} {len p floor last : Nat} {wake : Wake} {tpb : UInt32} {servo : Servo}
  {uid : List UInt8} {start : Standing} {span : FrameSpan} {q : Nat}

theorem Turn.ringed (shape : RingShape len) (turn : Turn feed len p wake floor tpb last) : Ringed len wake :=
  ⟨turn.ring, fun n => by rw [turn.cursor]; exact Nat.mod_lt _ (pow_pos shape.pow)⟩

structure Emitted (feed : Feed) (len : Nat) (wake : Wake) (servo : Servo) (span : FrameSpan) (q : Nat) : Prop where
  ahead : servo.bus.trace.spot ≤ q
  anchor : span.anchor = q % len
  footprint : span.footprint = sizeAt feed.stream q
  spot : (servo.looked wake).bus.trace.spot = q + sizeAt feed.stream q
  place : (servo.looked wake).bus.placeOf span.anchor wake.ring.length = q
  received : q + sizeAt feed.stream q ≤ feed.pos (servo.bus.reads + 1)
  geometry : Geometry feed.stream q
  shows : Shows wake.ring 0 feed.stream q (q + sizeAt feed.stream q)

theorem Follows.emitted (shape : RingShape len) (turn : Turn feed len p wake floor tpb last)
    (follows : Follows feed len servo.bus) (above : floor ≤ servo.bus.trace.spot)
    (within : servo.bus.reads + 1 < last) (out : (servo.resolve wake).2 = .frame span) :
    ∃ q, Emitted feed len wake servo span q := by
  have landing := follows.landing shape turn above within
  have stands := follows.looked shape turn above within
  obtain ⟨high, near, shows, bound⟩ := turn.shows
  have top := bound _ within
  obtain ⟨q, ahead, rfl, spot, received, geometry⟩ := landing.frame_inv out
  have size := geometry.size_le
  have large := shape.large
  refine ⟨q, ahead, rfl, rfl, spot, ?_, by omega, geometry, fun r low below => shows r (by omega) (by omega)⟩
  rw [ServoBus.placeOf, dist, turn.ring, shape.wrap_u16, shape.wrap_eq, stands.anchor, spot,
    wrapped_distance (Nat.le_add_right q _) (by omega)]
  omega

theorem Emitted.le_of_spares (emitted : Emitted feed len wake servo span q)
    (out : (servo.resolve wake).2 = .frame span)
    (spared : (servo.looked wake).bus.trace.spot ≤ p ∨
      ∃ q, (servo.resolve wake).2 = .frame ⟨q % len, sizeAt feed.stream q, feed.tick servo.bus.reads⟩ ∧
        (servo.looked wake).bus.trace.spot = q + sizeAt feed.stream q ∧ q ≤ p ∧
        p < (servo.looked wake).bus.trace.spot) : q ≤ p := by
  have spot := emitted.spot
  rcases spared with behind | ⟨r, same, there, low, -⟩
  next => omega
  next =>
    rw [out] at same
    have size : span.footprint = sizeAt feed.stream r := by cases same; rfl
    have footprint := emitted.footprint
    omega

theorem Emitted.candidate (shape : RingShape len) (turn : Turn feed len p wake floor tpb last)
    (emitted : Emitted feed len wake servo span q) : Candidate wake.ring span := by
  have size := emitted.geometry.size_le
  have positive := pow_pos shape.pow
  have ring := turn.ring
  have shows := emitted.shows
  have footprint := emitted.footprint
  refine ⟨?_, ?_, ?_, by omega, by omega⟩
  next =>
    rw [emitted.anchor, ring]
    exact Nat.mod_lt _ positive
  next =>
    rw [emitted.anchor, ← ring, shows q (Nat.le_refl _) (by omega)]
    exact emitted.geometry.brk
  next => rw [emitted.anchor, footprint, ← ring, Nat.mod_add_mod, shows (q + 2) (by omega) (by omega), sizeAt]

theorem Passes.unlost {ruling : Ruling} {bus : ServoBus} (shape : RingShape len)
    (turn : Turn feed len p wake floor tpb last) (emitted : Emitted feed len wake servo span q)
    (passes : Passes ruling (servo.looked wake).bus bus) (member : ruling ∈ bus.trace.rulings)
    (place : ruling.place = q) (view : ruling.view = frameView wake.ring span.anchor span.footprint)
    (low : q ≤ p) : Unlost feed.stream p bus.trace := by
  have shaped : RingShape wake.ring.length := turn.ring.symm ▸ shape
  have spot := passes.aside.spot.trans emitted.spot
  rw [emitted.anchor, emitted.footprint, ← turn.ring] at view
  by_cases here : q = p
  next =>
    subst here
    refine .inr (.inl ⟨ruling, member, place, passes.passed, ?_, passes.dispatched⟩)
    rw [view, frameView_shows shaped emitted.geometry emitted.shows]
  next =>
    by_cases past : p < q + sizeAt feed.stream q
    next =>
      have good := passes.good
      rw [view, crcHolds_shows shaped emitted.geometry emitted.shows] at good
      exact .inr (.inr ⟨q, by omega, past, emitted.geometry.brk, emitted.geometry.len, good⟩)
    next => exact .inl (by omega)

theorem Strides.unlost {bus : ServoBus} (turn : Turn feed len p wake floor tpb last)
    (emitted : Emitted feed len wake servo span q) (strides : Strides wake span (servo.looked wake).bus bus)
    (instruction : Inst.isStatus (feed.stream (p + 3)) = false) (clear : bus.trace.Clear feed.stream p)
    (low : q ≤ p) : Unlost feed.stream p bus.trace := by
  obtain ⟨status, aside, noted⟩ := strides
  have size := emitted.geometry.size_le
  have spot := aside.spot.trans emitted.spot
  rw [emitted.place, emitted.footprint] at noted
  rw [emitted.anchor, ← turn.ring, ringInst_shows emitted.shows size.1] at status
  by_cases here : q = p
  next =>
    subst here
    rw [instruction] at status
    cases status
  next =>
    by_cases past : p < q + sizeAt feed.stream q
    next =>
      have good := clear _ noted (by simp only; omega) past
      exact .inr (.inr ⟨q, by omega, past, emitted.geometry.brk, emitted.geometry.len, good⟩)
    next => exact .inl (by omega)

theorem Rejects.follows {bus : ServoBus} (shape : RingShape len) (turn : Turn feed len p wake floor tpb last)
    (emitted : Emitted feed len wake servo span q)
    (rejects : Rejects span.anchor wake.ring.length (servo.looked wake).bus bus) :
    Follows feed len bus ∧ bus.trace.spot = q + 1 := by
  have size := emitted.geometry.size_le
  have received := emitted.received
  have spot : bus.trace.spot = q + 1 := by rw [rejects.spot, emitted.place]
  have later : feed.pos (servo.bus.reads + 1) ≤ feed.pos bus.reads := by
    apply feed.advances
    exact Nat.le_trans (Nat.le_succ _) rejects.reads
  refine ⟨⟨?_, by omega, recalls_idle rejects.frontier⟩, spot⟩
  rw [rejects.anchor, spot, emitted.anchor, turn.ring, shape.wrap_u16, shape.wrap_eq, Nat.mod_add_mod]

theorem Follows.ended (shape : RingShape len) (turn : Turn feed len p wake floor tpb last)
    (follows : Follows feed len servo.bus) (above : floor ≤ servo.bus.trace.spot)
    (within : servo.bus.reads + 1 < last) (pace : servo.bus.tpb = tpb) (frame : WellFormedAt feed.stream p)
    (instruction : Inst.isStatus (feed.stream (p + 3)) = false)
    (attributed : Attributed uid len start servo) (out : (servo.resolve wake).2 = .frame span)
    (fresh : ((servo.looked wake).onFrameEnd wake span).bus.trace.AllFresh)
    (clear : ((servo.looked wake).onFrameEnd wake span).bus.trace.Clear feed.stream p)
    (unlost : Unlost feed.stream p servo.bus.trace) :
    Follows feed len ((servo.looked wake).onFrameEnd wake span).bus ∧
      servo.bus.trace.spot < ((servo.looked wake).onFrameEnd wake span).bus.trace.spot ∧
      ((servo.looked wake).onFrameEnd wake span).bus.tpb = servo.bus.tpb ∧
      Unlost feed.stream p ((servo.looked wake).onFrameEnd wake span).bus.trace := by
  have geometry : Geometry feed.stream p := ⟨frame.brk, frame.isPlausible⟩
  obtain ⟨q, emitted⟩ := follows.emitted shape turn above within out
  have size := emitted.geometry.size_le
  have ahead := emitted.ahead
  have stands := follows.looked shape turn above within
  have grows := (@looked_grows wake servo).trans (@onFrameEnd_grows wake (servo.looked wake) span)
  have low (before : servo.bus.trace.spot ≤ p) : q ≤ p :=
    emitted.le_of_spares out (follows.spares shape turn above within pace geometry before)
  have looked : Attributed uid len start (servo.looked wake) :=
    looked_attributed shape (turn.ringed shape) attributed _
  -- It passes its verdict, it fails it, or it is a status frame and strode over.
  rcases onFrameEnd_ended shape turn.ring (emitted.candidate shape turn) looked fresh with
    ⟨ruling, member, place, view, passes | fails⟩ | strides
  next =>
    refine ⟨stands.aside passes.aside, ?_, passes.aside.tpb, kept_of_grows unlost grows fun before => ?_⟩
    next => rw [passes.aside.spot, emitted.spot]; omega
    next => exact passes.unlost shape turn emitted member (place.trans emitted.place) view (low before)
  next =>
    obtain ⟨hunts, spot⟩ := fails.rejects.follows shape turn emitted
    refine ⟨hunts, by omega, fails.rejects.tpb, kept_of_grows unlost grows fun before => ?_⟩
    by_cases here : q = p
    next =>
      subst here
      have shaped : RingShape wake.ring.length := turn.ring.symm ▸ shape
      have bad := fails.bad (emitted.footprint ▸ turn.drains)
      rw [view, emitted.anchor, emitted.footprint, ← turn.ring,
        crcHolds_shows shaped emitted.geometry emitted.shows] at bad
      exact absurd frame.crc bad
    next =>
      have := low before
      exact .inl (by omega)
  next =>
    refine ⟨stands.aside strides.2.1, ?_, strides.2.1.tpb, kept_of_grows unlost grows fun before => ?_⟩
    next => rw [strides.2.1.spot, emitted.spot]; omega
    next => exact strides.unlost turn emitted instruction clear (low before)

end Ended

section Moves

variable {feed : Feed} {len p floor last : Nat} {wake : Wake} {tpb : UInt32} {servo after : Servo}
  {uid : List UInt8} {start : Standing}

/-- What holds between the moves of one handler. -/
structure Tended (feed : Feed) (len p : Nat) (uid : List UInt8) (start : Standing) (floor : Nat) (tpb : UInt32)
    (servo : Servo) : Prop where
  attributed : Attributed uid len start servo
  follows : Follows feed len servo.bus
  above : floor ≤ servo.bus.trace.spot
  pace : servo.bus.tpb = tpb
  unlost : Unlost feed.stream p servo.bus.trace

theorem Tended.aside (tended : Tended feed len p uid start floor tpb servo) (aside : Aside servo.bus after.bus)
    (attributed : Attributed uid len start after) : Tended feed len p uid start floor tpb after := by
  refine ⟨attributed, tended.follows.aside aside, ?_, aside.tpb.trans tended.pace, ?_⟩
  next =>
    rw [aside.spot]
    exact tended.above
  next =>
    refine kept_of_grows tended.unlost aside.toGrows fun before => .inl ?_
    rw [aside.spot]
    exact before

theorem Tended.looked (shape : RingShape len) (turn : Turn feed len p wake floor tpb last)
    (frame : WellFormedAt feed.stream p) (tended : Tended feed len p uid start floor tpb servo)
    (within : servo.bus.reads + 1 < last) (silent : ∀ span, (servo.resolve wake).2 ≠ .frame span) :
    Tended feed len p uid start floor tpb (servo.looked wake) := by
  have landing := tended.follows.landing shape turn tended.above within
  have bounds := landing.bounds (tended.follows.sees shape turn tended.above within).ordered
  refine ⟨looked_attributed shape (turn.ringed shape) tended.attributed _,
    tended.follows.looked shape turn tended.above within, Nat.le_trans tended.above bounds.1, tended.pace, ?_⟩
  refine kept_of_grows tended.unlost (@looked_grows wake servo) fun before => ?_
  rcases tended.follows.spares shape turn tended.above within tended.pace ⟨frame.brk, frame.isPlausible⟩ before with
    ahead | ⟨q, emits, -⟩
  next => exact .inl ahead
  next => exact absurd emits (silent _)

theorem Tended.move (shape : RingShape len) (turn : Turn feed len p wake floor tpb last)
    (frame : WellFormedAt feed.stream p) (instruction : Inst.isStatus (feed.stream (p + 3)) = false)
    (tended : Tended feed len p uid start floor tpb servo) (move : Move wake servo after)
    (within : after.bus.reads ≤ last) (fresh : after.bus.trace.AllFresh)
    (clear : after.bus.trace.Clear feed.stream p) : Tended feed len p uid start floor tpb after := by
  have attributed := move_attributed shape (turn.ringed shape) tended.attributed move fresh
  have armed (bus : ServoBus) (framerAt : Option UInt32) : Aside bus { bus with framerAt := framerAt } :=
    .of_eq rfl rfl rfl (Nat.le_refl _) rfl rfl rfl rfl
  cases move with
  | quiet bus quiet => exact tended.aside quiet.aside attributed
  | look framerAt silent =>
    exact (tended.looked shape turn frame within silent).aside (armed _ framerAt) attributed
  | covered span endDue out =>
    have aside := @aside_covered wake
      ⟨{ (servo.looked wake).bus with framerAt := some endDue }, (servo.looked wake).session⟩ span
    have looks : servo.bus.reads + 1 < last := Nat.le_trans aside.reads within
    refine (tended.looked shape turn frame looks ?_).aside ((armed _ (some endDue)).trans aside) attributed
    intro other emits
    rw [out] at emits
    cases emits
  | ended span out =>
    have looks : servo.bus.reads + 1 < last :=
      Nat.le_trans (@onFrameEnd_grows wake (servo.looked wake) span).reads within
    obtain ⟨follows, moved, pace, unlost⟩ := tended.follows.ended shape turn tended.above looks tended.pace frame
      instruction tended.attributed out fresh clear tended.unlost
    exact ⟨attributed, follows, Nat.le_trans tended.above (Nat.le_of_lt moved), pace.trans tended.pace, unlost⟩
  | yieldReply => exact tended.aside (aside_yieldReply servo.bus) attributed
  | breakObserved => exact tended.aside (aside_routeChain servo.bus _) attributed
  | chainDue now => exact tended.aside (aside_chainDue servo.bus now) attributed
  | calBreak now => exact tended.aside (aside_calBreak servo.bus now) attributed
  | abandonCal => exact tended.aside (aside_abandonCal servo.bus) attributed

end Moves

section Run

variable {feed : Feed} {len p : Nat} {servo : Servo} {uid : List UInt8} {start : Standing} {event : BusEvent}

structure Served (feed : Feed) (len p : Nat) (uid : List UInt8) (start : Standing) (servo : Servo) : Prop where
  attributed : Attributed uid len start servo
  follows : Follows feed len servo.bus
  unlost : Unlost feed.stream p servo.bus.trace

theorem Served.moves (shape : RingShape len) (frame : WellFormedAt feed.stream p)
    (instruction : Inst.isStatus (feed.stream (p + 3)) = false) (served : Served feed len p uid start servo)
    {wake : Wake} {last : Servo} (moves : Moves wake servo last)
    (turn : Turn feed len p wake servo.bus.trace.spot servo.bus.tpb last.bus.reads)
    (fresh : last.bus.trace.AllFresh) (clear : last.bus.trace.Clear feed.stream p) :
    Tended feed len p uid start servo.bus.trace.spot servo.bus.tpb last := by
  have before : Tended feed len p uid start servo.bus.trace.spot servo.bus.tpb servo :=
    ⟨served.attributed, served.follows, Nat.le_refl _, rfl, served.unlost⟩
  refine moves_within ?_ moves before
  intro mid after tended move grows
  exact tended.move shape turn frame instruction move grows.reads (fresh.before grows) (clear.before grows)

theorem Served.rescue (shape : RingShape len) (served : Served feed len p uid start servo) {wake : Wake}
    (fed : Fed feed len p servo (.rescueBreak wake)) :
    Follows feed len (servo.bus.onRescueBreak wake) ∧
      Unlost feed.stream p (servo.bus.onRescueBreak wake).trace := by
  obtain ⟨high, near, -, bound⟩ := fed.turn.shows
  have grows := @onRescueBreak_grows wake servo.bus
  have follows := served.follows
  -- Amid a streaming reply it changes nothing; any other rescue takes the ladder to the cursor.
  by_cases streaming : servo.bus.tx.streaming = true
  next =>
    rw [ServoBus.onRescueBreak, if_pos streaming]
    exact ⟨follows, served.unlost⟩
  next =>
    have reads : (servo.bus.onRescueBreak wake).reads = servo.bus.reads + 2 := by
      rw [ServoBus.onRescueBreak, if_neg streaming]
      rfl
    have top : feed.pos servo.bus.reads ≤ high := bound _ (by
      change _ < (servo.bus.onRescueBreak wake).reads
      omega)
    have anchor : (servo.bus.onRescueBreak wake).framer.anchor = feed.pos servo.bus.reads % len := by
      rw [ServoBus.onRescueBreak, if_neg streaming, ← fed.turn.cursor]
      rfl
    have spot : (servo.bus.onRescueBreak wake).trace.spot = feed.pos servo.bus.reads := by
      have climbed : (servo.bus.onRescueBreak wake).trace.spot = servo.bus.trace.spot +
          dist (wake.cursor servo.bus.reads) servo.bus.framer.anchor wake.ring.length := by
        rw [ServoBus.onRescueBreak, if_neg streaming]
        rfl
      have cursor := fed.turn.cursor servo.bus.reads
      have ring := fed.turn.ring
      have ordered := follows.ordered
      change wake.cursor _ = _ at cursor
      change wake.ring.length = _ at ring
      rw [climbed, cursor, ring, dist, shape.wrap_u16, shape.wrap_eq, follows.anchor,
        wrapped_distance ordered (by omega)]
      omega
    have frontier : (servo.bus.onRescueBreak wake).framer.frontier = {} := by
      rw [ServoBus.onRescueBreak, if_neg streaming]
      rfl
    refine ⟨⟨?_, ?_, recalls_idle frontier⟩, kept_of_grows served.unlost grows fun before => .inl ?_⟩
    next => rw [anchor, spot]
    next =>
      rw [spot]
      exact feed.advances grows.reads
    next =>
      rw [spot]
      rcases fed.rescued wake rfl with past | early
      next => omega
      next => exact early

theorem Served.step (shape : RingShape len) (frame : WellFormedAt feed.stream p)
    (instruction : Inst.isStatus (feed.stream (p + 3)) = false) (served : Served feed len p uid start servo)
    (fed : Fed feed len p servo event) (fresh : (busStep servo event).bus.trace.AllFresh)
    (clear : (busStep servo event).bus.trace.Clear feed.stream p) :
    Served feed len p uid start (busStep servo event) := by
  have driven {wake : Wake} (moves : Moves wake servo (busStep servo event))
      (turn : Turn feed len p wake servo.bus.trace.spot servo.bus.tpb (busStep servo event).bus.reads) :
      Served feed len p uid start (busStep servo event) := by
    have tended := served.moves shape frame instruction moves turn fresh clear
    exact ⟨tended.attributed, tended.follows, tended.unlost⟩
  cases event with
  | brk wake => exact driven (onBreak_moves servo) fed.turn
  | deadline wake => exact driven (onDeadline_moves servo) fed.turn
  | txComplete wake =>
    have aside := @aside_onTxComplete wake servo.bus
    have follows := served.follows.aside aside
    refine ⟨onTxComplete_attributed served.attributed, ⟨follows.anchor, follows.ordered, follows.recalls⟩, ?_⟩
    refine kept_of_grows served.unlost (onTxComplete_grows servo.bus) fun before => .inl ?_
    exact Nat.le_trans (Nat.le_of_eq aside.spot) before
  | rescueBreak wake =>
    obtain ⟨follows, unlost⟩ := served.rescue shape fed
    exact ⟨onRescueBreak_attributed (fed.turn.ringed shape) served.attributed, follows, unlost⟩

end Run

end OpenServo.Bus
