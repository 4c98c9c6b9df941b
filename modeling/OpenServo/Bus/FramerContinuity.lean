import OpenServo.Bus.FramerStream

set_option autoImplicit false

namespace OpenServo.Bus

open OpenServo.Protocol OpenServo.Shared

/-- A well-formed frame in the ring: the break byte, a LEN that covers INST and CRC, and exactly the bytes LEN
announces. -/
structure WireFrame (bytes : List UInt8) : Prop where
  brk : bytes.getD 0 0 = 0
  len : 3 ≤ bytes.getD 2 0
  size : bytes.length = footprint (bytes.getD 2 0)

structure ResolveCall where
  ring : List UInt8
  pos : Nat
  now : UInt32
  tpb : UInt32
deriving DecidableEq, Repr

def ResolveCall.resolve (call : ResolveCall) (framer : Framer) : Framer × FramerOut :=
  framer.resolve call.ring (call.pos % call.ring.length) call.now call.tpb

def streamOf (start : Nat) (frames : List (List UInt8)) (p : Nat) : UInt8 :=
  frames.flatten.getD (p - start) 0

def offset (frames : List (List UInt8)) (k : Nat) : Nat :=
  (frames.take k).flatten.length

def consumedBy : FramerOut → Nat
  | .frame span => span.footprint
  | _ => 0

def InsideFrame (start : Nat) (frames : List (List UInt8)) (pos : Nat) : Prop :=
  ∃ k < frames.length, start + offset frames k < pos ∧ pos < start + offset frames (k + 1)

/-- What the wire and the ring promise of one call, after the calls `prior`. -/
structure Arrives (len start : Nat) (frames : List (List UInt8)) (consumed : Nat) (prior : List ResolveCall)
    (call : ResolveCall) : Prop where
  ring : call.ring.length = len
  advances : ∀ earlier ∈ prior, earlier.pos ≤ call.pos
  first : start ≤ call.pos
  last : call.pos ≤ start + frames.flatten.length
  shows : Shows call.ring 0 (streamOf start frames) (max start (call.pos - len)) call.pos
  unconsumed : call.pos < consumed + len
  alive : InsideFrame start frames call.pos → ∀ earlier ∈ prior, earlier.pos = call.pos →
    tickReached call.now (earlier.now + starveSpan call.tpb) = false

def Admissible (len start : Nat) (frames : List (List UInt8)) :
    Framer → Nat → List ResolveCall → List ResolveCall → Prop
  | _, _, _, [] => True
  | framer, consumed, prior, call :: calls =>
    Arrives len start frames consumed prior call ∧
      Admissible len start frames (call.resolve framer).1
        (consumed + consumedBy (call.resolve framer).2) (prior ++ [call]) calls

def countFrame (k : Nat) : FramerOut → Nat
  | .frame _ => k + 1
  | _ => k

def outcomes : Framer → Nat → List ResolveCall → List (Nat × ResolveCall × FramerOut)
  | _, _, [] => []
  | framer, k, call :: calls =>
    (k, call, (call.resolve framer).2) ::
      outcomes (call.resolve framer).1 (countFrame k (call.resolve framer).2) calls

def emitted (log : List (Nat × ResolveCall × FramerOut)) : List (Nat × Nat) :=
  log.filterMap (fun entry =>
    match entry.2.2 with
    | .frame span => some (span.anchor, span.footprint)
    | _ => none)

def coveredIndices (log : List (Nat × ResolveCall × FramerOut)) : List Nat :=
  log.filterMap (fun entry =>
    match entry.2.2 with
    | .covered _ _ => some entry.1
    | _ => none)

def expected (len : Nat) : Nat → List (List UInt8) → List (Nat × Nat)
  | _, [] => []
  | spot, frame :: frames => (spot % len, frame.length) :: expected len (spot + frame.length) frames

def Faithful (len start : Nat) (frames : List (List UInt8)) (entry : Nat × ResolveCall × FramerOut) : Prop :=
  match entry.2.2 with
  | .frame span =>
    (expected len start frames)[entry.1]? = some (span.anchor, span.footprint) ∧
      start + offset frames (entry.1 + 1) ≤ entry.2.1.pos
  | .covered span _ =>
    (expected len start frames)[entry.1]? = some (span.anchor, span.footprint) ∧
      start + offset frames entry.1 + (span.footprint - 2) ≤ entry.2.1.pos ∧
      entry.2.1.pos < start + offset frames (entry.1 + 1)
  | _ => entry.1 < frames.length → entry.2.1.pos < start + offset frames (entry.1 + 1)

structure Continuity (len start : Nat) (frames : List (List UInt8))
    (log : List (Nat × ResolveCall × FramerOut)) : Prop where
  inOrder : emitted log <+: expected len start frames
  faithful : ∀ entry ∈ log, Faithful len start frames entry
  coveredOnce : (coveredIndices log).Pairwise (· < ·)
  complete : ∀ entry ∈ log, entry.2.1.pos = start + frames.flatten.length → entry.2.2 = .none →
    emitted log = expected len start frames

section Frames

variable {len start : Nat} {frames : List (List UInt8)}

theorem offset_succ {k : Nat} {frame : List UInt8} (present : frames[k]? = some frame) :
    offset frames (k + 1) = offset frames k + frame.length := by
  simp [offset, List.take_add_one, present]

theorem offset_length : offset frames frames.length = frames.flatten.length := by
  simp [offset]

theorem offset_le (frames : List (List UInt8)) (k : Nat) : offset frames k ≤ frames.flatten.length := by
  conv_rhs => rw [← List.take_append_drop k frames, List.flatten_append, List.length_append]
  exact Nat.le_add_right _ _

theorem streamOf_frame {k : Nat} {frame : List UInt8} (present : frames[k]? = some frame) (i : Nat)
    (inside : i < frame.length) :
    streamOf start frames (start + offset frames k + i) = frame.getD i 0 := by
  obtain ⟨bound, rfl⟩ := List.getElem?_eq_some_iff.mp present
  have split : frames.flatten =
      (frames.take k).flatten ++ (frames[k] ++ (frames.drop (k + 1)).flatten) := by
    rw [← List.flatten_cons, ← List.drop_eq_getElem_cons bound, ← List.flatten_append,
      List.take_append_drop]
  have index : start + offset frames k + i - start = (frames.take k).flatten.length + i := by
    simp only [offset]; omega
  rw [streamOf, split, index]
  simp [List.getD_eq_getElem?_getD, List.getElem?_append_right, List.getElem?_append_left inside]

theorem expected_get (k : Nat) :
    (expected len start frames)[k]? =
      frames[k]?.map (fun frame => ((start + offset frames k) % len, frame.length)) := by
  induction frames generalizing start k with
  | nil => simp [expected]
  | cons frame frames ih =>
    cases k with
    | zero => simp [expected, offset]
    | succ k => simp [expected, ih, offset, Nat.add_assoc]

theorem WireFrame.size_le {frame : List UInt8} (wire : WireFrame frame) :
    6 ≤ frame.length ∧ frame.length ≤ 258 := by
  have low := UInt8.le_iff_toNat_le.mp wire.len
  have high := footprint_le (frame.getD 2 0)
  rw [wire.size]
  simp only [footprint] at high ⊢
  have three : (3 : UInt8).toNat = 3 := rfl
  omega

/-- The framer stands at the start of frame `k`, and what its frontier recorded it recorded at one
of the earlier calls, with bytes of that frame in the ring. -/
structure Tracks (len start : Nat) (frames : List (List UInt8)) (framer : Framer) (k : Nat)
    (prior : List ResolveCall) : Prop where
  anchor : framer.anchor = (start + offset frames k) % len
  within : k ≤ frames.length
  reached : k = 0 ∨ ∃ earlier ∈ prior, start + offset frames k ≤ earlier.pos
  observed : framer.frontier.observed = true → ∃ earlier ∈ prior,
    framer.frontier.seen = earlier.pos % len ∧ framer.frontier.progressTick = earlier.now ∧
      start + offset frames k < earlier.pos
  covered : framer.frontier.covered = true → framer.frontier.observed = true

theorem offset_zero : offset frames 0 = 0 := by
  simp [offset]

variable {framer : Framer} {k : Nat} {prior : List ResolveCall} {call : ResolveCall}

theorem Tracks.sees (shape : RingShape len) (tracks : Tracks len start frames framer k prior)
    (arrives : Arrives len start frames (start + offset frames k) prior call) :
    Sees call.ring (streamOf start frames) framer (start + offset frames k) call.pos where
  shape := arrives.ring ▸ shape
  anchor := arrives.ring ▸ tracks.anchor
  ordered := by
    have first := arrives.first
    rcases tracks.reached with rfl | ⟨earlier, member, reached⟩
    next => rwa [offset_zero]
    next => exact Nat.le_trans reached (arrives.advances earlier member)
  unconsumed := arrives.ring ▸ arrives.unconsumed
  shows := by
    apply arrives.shows.mono
    have := arrives.unconsumed
    omega

theorem Tracks.frame (wires : ∀ frame ∈ frames, WireFrame frame)
    (tracks : Tracks len start frames framer k prior)
    (arrives : Arrives len start frames (start + offset frames k) prior call)
    (some : start + offset frames k < call.pos) :
    ∃ frame, frames[k]? = .some frame ∧ WireFrame frame ∧
      Plausible (streamOf start frames) (start + offset frames k) call.pos ∧
      sizeAt (streamOf start frames) (start + offset frames k) = frame.length := by
  have bound : k < frames.length := by
    rcases Nat.lt_or_eq_of_le tracks.within with bound | rfl
    next => exact bound
    next =>
      have last := arrives.last
      rw [offset_length] at some
      omega
  have present : frames[k]? = .some frames[k] := List.getElem?_eq_getElem bound
  have wire := wires frames[k] (List.getElem_mem bound)
  have size := wire.size_le
  have third : streamOf start frames (start + offset frames k + 2) = frames[k].getD 2 0 :=
    streamOf_frame present 2 (by omega)
  refine ⟨frames[k], present, wire, ⟨?_, .inr ?_⟩, ?_⟩
  next => exact (streamOf_frame present 0 (by omega)).trans wire.brk
  next => rw [third]; exact wire.len
  next => rw [sizeAt, third, wire.size]

/-- How the covered mark of the frame at the ladder changes with an outcome. -/
def Marks (before after : Framer) : FramerOut → Prop
  | .frame _ => True
  | .covered _ _ => before.frontier.covered = false ∧ after.frontier.covered = true
  | .wait _ => after.frontier.covered = before.frontier.covered
  | .none => before.frontier.covered = false

structure Advances (len start : Nat) (frames : List (List UInt8)) (framer : Framer) (k : Nat)
    (prior : List ResolveCall) (call : ResolveCall) (result : Framer × FramerOut) : Prop where
  faithful : Faithful len start frames (k, call, result.2)
  tracks : Tracks len start frames result.1 (countFrame k result.2) (prior ++ [call])
  consumed : offset frames k + consumedBy result.2 = offset frames (countFrame k result.2)
  marks : Marks framer result.1 result.2

theorem Tracks.later (tracks : Tracks len start frames framer k prior) :
    k = 0 ∨ ∃ earlier ∈ prior ++ [call], start + offset frames k ≤ earlier.pos := by
  rcases tracks.reached with zero | ⟨earlier, member, reached⟩
  next => exact .inl zero
  next => exact .inr ⟨earlier, List.mem_append_left _ member, reached⟩

theorem Tracks.advance (tracks : Tracks len start frames framer k prior)
    (arrives : Arrives len start frames (start + offset frames k) prior call)
    (some : start + offset frames k < call.pos) (mark : Bool) :
    Tracks len start frames
      { framer with
        frontier := { framer.frontier.advance (call.pos % call.ring.length) call.now with covered := mark } }
      k (prior ++ [call]) := by
  have same : framer.frontier.observed = true →
      ∃ earlier ∈ prior ++ [call], framer.frontier.seen = earlier.pos % len ∧
        framer.frontier.progressTick = earlier.now ∧ start + offset frames k < earlier.pos := by
    intro observed
    obtain ⟨earlier, member, recorded⟩ := tracks.observed observed
    exact ⟨earlier, List.mem_append_left _ member, recorded⟩
  refine ⟨tracks.anchor, tracks.within, tracks.later, ?_, ?_⟩
  next =>
    simp only [Frontier.advance]
    split
    next unmoved => exact same
    next =>
      intro _
      exact ⟨call, by simp, by simp [arrives.ring], rfl, some⟩
  next =>
    simp only [Frontier.advance]
    split
    next unmoved => exact fun _ => unmoved.1
    next => exact fun _ => rfl

theorem Tracks.reset (tracks : Tracks len start frames framer k prior) (next : Framer)
    (anchor : next.anchor = framer.anchor) (idle : next.frontier = {}) :
    Tracks len start frames next k (prior ++ [call]) :=
  ⟨anchor.trans tracks.anchor, tracks.within, tracks.later, by simp [idle], by simp [idle]⟩

theorem Tracks.not_starved (tracks : Tracks len start frames framer k prior)
    (arrives : Arrives len start frames (start + offset frames k) prior call)
    (inside : InsideFrame start frames call.pos) (observed : framer.frontier.observed = true)
    (seen : framer.frontier.seen = call.pos % len) :
    tickReached call.now (framer.frontier.progressTick + starveSpan call.tpb) = false := by
  obtain ⟨earlier, member, cursor, tick, above⟩ := tracks.observed observed
  have ordered := arrives.advances earlier member
  have level : earlier.pos = call.pos := by
    refine @eq_of_wrapped_eq len _ _ ordered ?_ ?_
    next => have := arrives.unconsumed; omega
    next => rw [← cursor, seen]
  rw [tick]
  exact arrives.alive inside earlier member level

theorem Tracks.settled (wires : ∀ frame ∈ frames, WireFrame frame)
    (tracks : Tracks len start frames framer k prior)
    (arrives : Arrives len start frames (start + offset frames k) prior call)
    (some : start + offset frames k < call.pos) {next : Nat} {result : Framer × FramerOut}
    (settled : Settled (streamOf start frames) call.ring.length (start + offset frames k) call.pos
      call.now call.tpb framer next result) :
    Advances len start frames framer k prior call result := by
  obtain ⟨frame, present, wire, -, size⟩ := tracks.frame wires arrives some
  have bound := (List.getElem?_eq_some_iff.mp present).1
  have next := offset_succ present
  have large := wire.size_le
  have spans : (expected len start frames)[k]? =
      .some ((start + offset frames k) % len, frame.length) := by
    rw [expected_get, present]
    rfl
  have unfinished (part : Partial (streamOf start frames) (start + offset frames k) call.pos) :
      call.pos < start + offset frames (k + 1) := by
    rw [Partial, size] at part
    simp only [headerSpanBytes] at part
    omega
  cases settled with
  | waits tick part alive =>
    refine ⟨fun _ => unfinished part, ?_, rfl, ?_⟩
    next => exact tracks.advance arrives some _
    next => simp only [Marks, Frontier.advance]; split <;> rfl
  | gaveUp part observed seen starved =>
    have inside : InsideFrame start frames call.pos := ⟨k, bound, some, unfinished part⟩
    rw [arrives.ring] at seen
    rw [tracks.not_starved arrives inside observed seen] at starved
    cases starved
  | covered packetEnd fresh readable near part =>
    rw [size] at near part
    refine ⟨⟨?_, ?_, ?_⟩, tracks.advance arrives some true, rfl, fresh, rfl⟩
    next => rw [size, arrives.ring, spans]
    next => simp only [size, coveredTailBytes] at near ⊢; omega
    next => simp only; omega
  | frame readable whole =>
    rw [size] at whole
    refine ⟨⟨?_, ?_⟩, ⟨?_, bound, .inr ⟨call, by simp, ?_⟩, by simp, by simp⟩, ?_, trivial⟩
    next => rw [size, arrives.ring, spans]
    next => simp only; omega
    next => simp only [countFrame, size, arrives.ring, next]; rw [Nat.add_assoc]
    next => simp only [countFrame]; omega
    next => simp only [consumedBy, countFrame, size]; omega

theorem Tracks.resolve (shape : RingShape len) (wires : ∀ frame ∈ frames, WireFrame frame)
    (tracks : Tracks len start frames framer k prior)
    (arrives : Arrives len start frames (start + offset frames k) prior call) :
    Advances len start frames framer k prior call (call.resolve framer) := by
  have sees := tracks.sees shape arrives
  obtain ⟨next, landing⟩ := resolve_spec sees call.now call.tpb
  have standing {stop : Nat} (skipped : Skipped (streamOf start frames) (start + offset frames k) stop
      call.pos) (moved : start + offset frames k < stop) (bound : stop ≤ call.pos) : False := by
    obtain ⟨-, -, -, likely, -⟩ := tracks.frame wires arrives (by omega)
    exact skipped.2 _ (Nat.le_refl _) moved likely
  rw [ResolveCall.resolve]
  generalize framer.resolve call.ring (call.pos % call.ring.length) call.now call.tpb = result at landing ⊢
  cases landing with
  | idle level =>
    refine ⟨?_, tracks.reset _ rfl rfl, rfl, ?_⟩
    next =>
      intro bound
      have present : frames[k]? = .some frames[k] := List.getElem?_eq_getElem bound
      have large := (wires frames[k] (List.getElem_mem bound)).size_le
      have next := offset_succ present
      simp only
      omega
    next =>
      simp only [Marks, Bool.eq_false_iff]
      intro covered
      obtain ⟨earlier, member, -, -, above⟩ := tracks.observed (tracks.covered covered)
      have := arrives.advances earlier member
      omega
  | exhausted skipped moved => exact (standing skipped moved (Nat.le_refl _)).elim
  | paused stop skipped moved short => exact (standing skipped moved (Nat.le_of_lt short)).elim
  | stayed next result short likely settled => exact tracks.settled wires arrives short settled
  | found stop next result skipped moved short likely settled =>
    exact (standing skipped moved (Nat.le_of_lt short)).elim

structure Continues (len start : Nat) (frames : List (List UInt8)) (framer : Framer) (k : Nat)
    (log : List (Nat × ResolveCall × FramerOut)) : Prop where
  inOrder : emitted log <+: (expected len start frames).drop k
  faithful : ∀ entry ∈ log, Faithful len start frames entry
  coveredOnce : (coveredIndices log).Pairwise (· < ·)
  coveredFrom : ∀ i ∈ coveredIndices log, k ≤ i ∧ (framer.frontier.covered = true → k < i)
  counted : ∀ entry ∈ log, entry.1 ≤ k + (emitted log).length

theorem Continues.cons {log : List (Nat × ResolveCall × FramerOut)} {result : Framer × FramerOut}
    (advances : Advances len start frames framer k prior call result)
    (later : Continues len start frames result.1 (countFrame k result.2) log) :
    Continues len start frames framer k ((k, call, result.2) :: log) := by
  obtain ⟨next, out⟩ := result
  have faithful : ∀ entry ∈ (k, call, out) :: log, Faithful len start frames entry := by
    intro entry member
    rcases List.mem_cons.mp member with rfl | tail
    next => exact advances.faithful
    next => exact later.faithful entry tail
  have counted (entry : Nat × ResolveCall × FramerOut) (member : entry ∈ (k, call, out) :: log)
      (grows : countFrame k out + (emitted log).length ≤ k + (emitted ((k, call, out) :: log)).length) :
      entry.1 ≤ k + (emitted ((k, call, out) :: log)).length := by
    rcases List.mem_cons.mp member with rfl | tail
    next => exact Nat.le_add_right _ _
    next => exact Nat.le_trans (later.counted entry tail) grows
  have marks := advances.marks
  -- Each outcome changes the covered mark in its own way, and only a frame moves the count on.
  cases out with
  | none =>
    refine ⟨later.inOrder, faithful, later.coveredOnce, ?_, fun entry member => counted entry member (Nat.le_refl _)⟩
    intro i member
    refine ⟨(later.coveredFrom i member).1, fun covered => ?_⟩
    rw [Marks] at marks
    rw [marks] at covered
    cases covered
  | wait tick =>
    refine ⟨later.inOrder, faithful, later.coveredOnce, ?_, fun entry member => counted entry member (Nat.le_refl _)⟩
    intro i member
    rw [← show next.frontier.covered = framer.frontier.covered from marks]
    exact later.coveredFrom i member
  | covered span endDue =>
    have fresh : framer.frontier.covered = false := marks.1
    refine ⟨later.inOrder, faithful, ?_, ?_, fun entry member => counted entry member (Nat.le_refl _)⟩
    next => exact List.pairwise_cons.mpr ⟨fun i member => (later.coveredFrom i member).2 marks.2,
      later.coveredOnce⟩
    next =>
      intro i member
      rcases List.mem_cons.mp member with rfl | tail
      next => simp [fresh]
      next => exact ⟨(later.coveredFrom i tail).1, by simp [fresh]⟩
  | frame span =>
    have spans : (expected len start frames)[k]? = some (span.anchor, span.footprint) :=
      advances.faithful.1
    obtain ⟨bound, here⟩ := List.getElem?_eq_some_iff.mp spans
    refine ⟨?_, faithful, later.coveredOnce, ?_, fun entry member => counted entry member ?_⟩
    next =>
      rw [List.drop_eq_getElem_cons bound, here]
      exact List.cons_prefix_cons.mpr ⟨rfl, later.inOrder⟩
    next =>
      intro i member
      have above := (later.coveredFrom i member).1
      simp only [countFrame] at above
      exact ⟨by omega, fun _ => by omega⟩
    next => simp only [countFrame, emitted, List.filterMap_cons, List.length_cons]; omega

theorem Tracks.continues (shape : RingShape len) (wires : ∀ frame ∈ frames, WireFrame frame)
    (calls : List ResolveCall) (tracks : Tracks len start frames framer k prior)
    (admissible : Admissible len start frames framer (start + offset frames k) prior calls) :
    Continues len start frames framer k (outcomes framer k calls) := by
  induction calls generalizing framer k prior with
  | nil => exact ⟨by simp [outcomes, emitted], by simp [outcomes], by simp [outcomes, coveredIndices],
      by simp [outcomes, coveredIndices], by simp [outcomes]⟩
  | cons call calls ih =>
    have advances := tracks.resolve shape wires admissible.1
    have rest := admissible.2
    rw [Nat.add_assoc, advances.consumed] at rest
    exact (ih advances.tracks rest).cons advances

theorem expected_length : (expected len start frames).length = frames.length := by
  induction frames generalizing start with
  | nil => rfl
  | cons frame frames ih => simp [expected, ih]

theorem Continues.continuity {log : List (Nat × ResolveCall × FramerOut)}
    (continues : Continues len start frames framer 0 log) : Continuity len start frames log where
  inOrder := by simpa using continues.inOrder
  faithful := continues.faithful
  coveredOnce := continues.coveredOnce
  complete := by
    intro entry member last quiet
    have prefixed : emitted log <+: expected len start frames := by simpa using continues.inOrder
    apply prefixed.eq_of_length_le
    rw [expected_length]
    have faithful := continues.faithful entry member
    have counted := continues.counted entry member
    by_cases remaining : entry.1 < frames.length
    next =>
      simp only [Faithful, quiet] at faithful
      have short := faithful remaining
      have whole := offset_le frames (entry.1 + 1)
      omega
    next => omega

theorem Tracks.initial (anchored : framer.anchor = start % len) (idle : framer.frontier = {}) :
    Tracks len start frames framer 0 [] :=
  ⟨by rw [anchored, offset_zero, Nat.add_zero], Nat.zero_le _, .inl rfl, by simp [idle], by simp [idle]⟩

end Frames

theorem framer_continuity (len start : Nat) (frames : List (List UInt8)) (framer : Framer)
    (calls : List ResolveCall) (shape : RingShape len) (wires : ∀ frame ∈ frames, WireFrame frame)
    (anchored : framer.anchor = start % len) (idle : framer.frontier = {})
    (admissible : Admissible len start frames framer start [] calls) :
    Continuity len start frames (outcomes framer 0 calls) ∧
      ∀ (other : Framer) (schedule : List ResolveCall), other.anchor = start % len → other.frontier = {} →
        Admissible len start frames other start [] schedule →
          emitted (outcomes framer 0 calls) <+: emitted (outcomes other 0 schedule) ∨
            emitted (outcomes other 0 schedule) <+: emitted (outcomes framer 0 calls) := by
  have from_start (other : Framer) (schedule : List ResolveCall) (anchored : other.anchor = start % len)
      (idle : other.frontier = {}) (admissible : Admissible len start frames other start [] schedule) :
      Continuity len start frames (outcomes other 0 schedule) := by
    have zero : start = start + offset frames 0 := by rw [offset_zero, Nat.add_zero]
    rw [zero] at admissible
    exact ((Tracks.initial anchored idle).continues shape wires schedule admissible).continuity
  have continuity := from_start framer calls anchored idle admissible
  refine ⟨continuity, fun other schedule anchored idle admissible => ?_⟩
  exact List.prefix_or_prefix_of_prefix continuity.inOrder
    (from_start other schedule anchored idle admissible).inOrder

def pingFrame : List UInt8 :=
  [0x00, 0x01, 0x03, 0x10, 0x50, 0xFC]

/-- The frame arrives in three pieces; the last call finds nothing left. -/
def pingCalls : List ResolveCall :=
  let ring := pingFrame ++ List.replicate 506 0
  [⟨ring, 1, 0, 160⟩, ⟨ring, 4, 480, 160⟩, ⟨ring, 6, 800, 160⟩, ⟨ring, 6, 900, 160⟩]

theorem framer_continuity_ping :
    emitted (outcomes {} 0 pingCalls) = expected 512 0 [pingFrame] := by
  have shows (high : Nat) (bound : high ≤ 6) :
      Shows (pingFrame ++ List.replicate 506 0) 0 (streamOf 0 [pingFrame]) (max 0 (high - 512)) high := by
    have all : ∀ p < 6, (pingFrame ++ List.replicate 506 0).getD
        (p % (pingFrame ++ List.replicate 506 0).length) 0 = streamOf 0 [pingFrame] p := by
      decide +kernel
    exact fun p _ below => all p (by omega)
  have admissible : Admissible 512 0 [pingFrame] {} 0 [] pingCalls :=
    ⟨⟨by decide +kernel, by simp, by decide, by decide, shows 1 (by decide), by decide, by simp⟩,
      ⟨by decide +kernel, by decide, by decide, by decide, shows 4 (by decide), by decide +kernel,
        fun _ => by decide⟩,
      ⟨by decide +kernel, by decide, by decide, by decide, shows 6 (by decide), by decide +kernel,
        fun _ => by decide⟩,
      ⟨by decide +kernel, by decide, by decide, by decide, shows 6 (by decide), by decide +kernel,
        fun _ => by decide⟩, trivial⟩
  have wire : WireFrame pingFrame := ⟨by decide, by decide, by decide⟩
  exact (framer_continuity 512 0 [pingFrame] {} pingCalls ⟨⟨9, by decide⟩, by decide, by decide⟩
    (by simpa using wire) (by decide) rfl admissible).1.complete
      (1, ⟨pingFrame ++ List.replicate 506 0, 6, 900, 160⟩, .none) (by decide +kernel) (by decide) rfl

end OpenServo.Bus
