import OpenServo.Bus.Framer

set_option autoImplicit false

namespace OpenServo.Bus

open OpenServo.Protocol OpenServo.Shared

variable {stream : Nat → UInt8}

/-- At position `q`, with the bytes before `pos` received: a break, and room for INST and CRC in LEN where LEN is
readable. -/
def Plausible (stream : Nat → UInt8) (q pos : Nat) : Prop :=
  stream q = 0 ∧ (pos - q < headerSpanBytes ∨ 3 ≤ stream (q + 2))

def sizeAt (stream : Nat → UInt8) (q : Nat) : Nat :=
  footprint (stream (q + 2))

/-- The framer as it stands in the stream: its anchor is position `spot`, and everything from there
to the cursor is in the ring. -/
structure Sees (ring : List UInt8) (stream : Nat → UInt8) (framer : Framer) (spot pos : Nat) : Prop where
  shape : RingShape ring.length
  anchor : framer.anchor = spot % ring.length
  ordered : spot ≤ pos
  unconsumed : pos < spot + ring.length
  shows : Shows ring 0 stream spot pos

def Framer.hunted (framer : Framer) (anchor : Nat) : Framer :=
  { framer with hunting := true, anchor := anchor, frontier := {} }

section Ring

variable {ring : List UInt8} {framer : Framer} {spot pos : Nat}

theorem Sees.wrap (sees : Sees ring stream framer spot pos) (k : Nat) :
    ringWrap (framer.anchor + k) ring.length % 65536 = (spot + k) % ring.length := by
  rw [sees.shape.wrap_u16, sees.shape.wrap_eq, sees.anchor, Nat.mod_add_mod]

theorem Sees.byte (sees : Sees ring stream framer spot pos) (k : Nat) (received : spot + k < pos) :
    ring.getD (ringWrap (framer.anchor + k) ring.length) 0 = stream (spot + k) := by
  rw [sees.shape.wrap_eq, sees.anchor, Nat.mod_add_mod]
  exact sees.shows (spot + k) (by omega) received

theorem Sees.first (sees : Sees ring stream framer spot pos) (some : spot < pos) :
    ring.getD framer.anchor 0 = stream spot := by
  rw [sees.anchor]
  exact sees.shows spot (by omega) some

theorem Sees.dist_eq (sees : Sees ring stream framer spot pos) :
    dist (pos % ring.length) framer.anchor ring.length = pos - spot := by
  rw [dist, sees.shape.wrap_u16, sees.shape.wrap_eq, sees.anchor]
  exact wrapped_distance sees.ordered sees.unconsumed

theorem Sees.isPlausible_iff (sees : Sees ring stream framer spot pos) (some : spot < pos) :
    framer.isPlausible ring (pos - spot) = true ↔ Plausible stream spot pos := by
  simp only [Framer.isPlausible, Plausible, sees.first some, Bool.and_eq_true, Bool.or_eq_true,
    decide_eq_true_eq]
  by_cases short : pos - spot < headerSpanBytes
  next => simp [short]
  next =>
    have readable : spot + 2 < pos := by simp only [headerSpanBytes] at short; omega
    simp only [short, sees.byte 2 readable, false_or]

theorem Sees.hunted (sees : Sees ring stream framer spot pos) {stop : Nat} (onward : spot ≤ stop)
    (short : stop ≤ pos) :
    Sees ring stream (framer.hunted (stop % ring.length)) stop pos where
  shape := sees.shape
  anchor := rfl
  ordered := short
  unconsumed := by have := sees.unconsumed; omega
  shows := sees.shows.mono onward

theorem Sees.next (sees : Sees ring stream framer spot pos) (some : spot < pos) :
    Sees ring stream (framer.hunted ((spot + 1) % ring.length)) (spot + 1) pos :=
  sees.hunted (Nat.le_succ spot) some

/-- Positions the hunt has passed: none of them can start a frame, given the bytes received. -/
def Skipped (stream : Nat → UInt8) (spot stop pos : Nat) : Prop :=
  spot ≤ stop ∧ ∀ q, spot ≤ q → q < stop → ¬ Plausible stream q pos

inductive Hunted (stream : Nat → UInt8) (len spot pos : Nat) (now : UInt32) (framer : Framer) :
    Framer × (FramerOut ⊕ Nat) → Prop where
  | exhausted (skipped : Skipped stream spot pos pos) (moved : spot < pos) :
      Hunted stream len spot pos now framer (framer.hunted (pos % len), .inl .none)
  | paused (stop : Nat) (skipped : Skipped stream spot stop pos) (moved : spot < stop)
      (short : stop < pos) :
      Hunted stream len spot pos now framer (framer.hunted (stop % len), .inl (.wait now))
  | stayed (likely : Plausible stream spot pos) :
      Hunted stream len spot pos now framer (framer, .inr (pos - spot))
  | found (stop : Nat) (skipped : Skipped stream spot stop pos) (moved : spot < stop) (short : stop < pos)
      (likely : Plausible stream stop pos) :
      Hunted stream len spot pos now framer (framer.hunted (stop % len), .inr (pos - stop))

theorem Skipped.step {stop : Nat} (skipped : Skipped stream (spot + 1) stop pos)
    (unlikely : ¬ Plausible stream spot pos) : Skipped stream spot stop pos := by
  refine ⟨by have := skipped.1; omega, ?_⟩
  intro q low high
  by_cases here : q = spot
  next => exact here ▸ unlikely
  next => exact skipped.2 q (by omega) high

theorem Hunted.step {now : UInt32} {result : Framer × (FramerOut ⊕ Nat)} {len : Nat}
    (later : Hunted stream len (spot + 1) pos now (framer.hunted ((spot + 1) % len)) result)
    (unlikely : ¬ Plausible stream spot pos) (more : spot + 1 < pos) :
    Hunted stream len spot pos now framer result := by
  cases later with
  | exhausted skipped moved => exact .exhausted (skipped.step unlikely) (by omega)
  | paused stop skipped moved short =>
    exact .paused stop (skipped.step unlikely) (by omega) short
  | stayed likely =>
    have one : Skipped stream (spot + 1) (spot + 1) pos := ⟨Nat.le_refl _, fun q low high => by omega⟩
    exact .found (spot + 1) (one.step unlikely) (by omega) more likely
  | found stop skipped moved short likely =>
    exact .found stop (skipped.step unlikely) (by omega) short likely

theorem hunt_unlikely (sees : Sees ring stream framer spot pos) (now : UInt32) (budget : Nat)
    (here : ¬ framer.isPlausible ring (pos - spot) = true) :
    Framer.hunt ring now (budget + 1) framer (pos - spot) =
      if pos - (spot + 1) = 0 then (framer.hunted ((spot + 1) % ring.length), .inl .none)
      else Framer.hunt ring now budget (framer.hunted ((spot + 1) % ring.length)) (pos - (spot + 1)) := by
  rw [Framer.hunt, if_neg here, sees.wrap 1, ← Nat.sub_sub]
  rfl

theorem hunt_spec (sees : Sees ring stream framer spot pos) (some : spot < pos) (now : UInt32)
    (budget : Nat) :
    Hunted stream ring.length spot pos now framer
      (Framer.hunt ring now (budget + 1) framer (pos - spot)) := by
  induction budget generalizing framer spot with
  | zero =>
    by_cases here : framer.isPlausible ring (pos - spot) = true
    next =>
      rw [Framer.hunt, if_pos here]
      exact .stayed ((sees.isPlausible_iff some).mp here)
    next =>
      have unlikely := (sees.isPlausible_iff some).not.mp here
      rw [hunt_unlikely sees now 0 here]
      split
      next last =>
        have one : Skipped stream (spot + 1) pos pos := ⟨by omega, fun q low high => by omega⟩
        rw [show spot + 1 = pos by omega]
        exact .exhausted (one.step unlikely) some
      next more =>
        have one : Skipped stream (spot + 1) (spot + 1) pos := ⟨Nat.le_refl _, fun q low high => by omega⟩
        exact .paused (spot + 1) (one.step unlikely) (by omega) (by omega)
  | succ budget ih =>
    by_cases here : framer.isPlausible ring (pos - spot) = true
    next =>
      rw [Framer.hunt, if_pos here]
      exact .stayed ((sees.isPlausible_iff some).mp here)
    next =>
      have unlikely := (sees.isPlausible_iff some).not.mp here
      rw [hunt_unlikely sees now (budget + 1) here]
      split
      next last =>
        have one : Skipped stream (spot + 1) pos pos := ⟨by omega, fun q low high => by omega⟩
        rw [show spot + 1 = pos by omega]
        exact .exhausted (one.step unlikely) some
      next more => exact (ih (sees.next some) (by omega)).step unlikely (by omega)

def Partial (stream : Nat → UInt8) (spot pos : Nat) : Prop :=
  pos - spot < headerSpanBytes ∨ pos - spot < sizeAt stream spot

inductive Settled (stream : Nat → UInt8) (len spot pos : Nat) (now tpb : UInt32) (framer : Framer) :
    Nat → Framer × FramerOut → Prop where
  | waits (tick : UInt32) (unfinished : Partial stream spot pos)
      (alive : framer.frontier.observed = true → framer.frontier.seen = pos % len →
        tickReached now (framer.frontier.progressTick + starveSpan tpb) = false) :
      Settled stream len spot pos now tpb framer spot
        ({ framer with frontier := framer.frontier.advance (pos % len) now }, .wait tick)
  | gaveUp (unfinished : Partial stream spot pos) (observed : framer.frontier.observed = true)
      (seen : framer.frontier.seen = pos % len)
      (starved : tickReached now (framer.frontier.progressTick + starveSpan tpb) = true) :
      Settled stream len spot pos now tpb framer (spot + 1)
        ({ framer with
            drops := if framer.hunting then framer.drops else framer.drops + 1
            hunting := true
            anchor := (spot + 1) % len
            frontier := {} }, .wait now)
  | covered (packetEnd : UInt32) (fresh : framer.frontier.covered = false)
      (readable : headerSpanBytes ≤ pos - spot) (near : sizeAt stream spot ≤ pos - spot + coveredTailBytes)
      (unfinished : pos - spot < sizeAt stream spot) :
      Settled stream len spot pos now tpb framer spot
        ({ framer with frontier := { framer.frontier.advance (pos % len) now with covered := true } },
          .covered ⟨spot % len, sizeAt stream spot, packetEnd⟩ packetEnd)
  | frame (readable : headerSpanBytes ≤ pos - spot) (whole : sizeAt stream spot ≤ pos - spot) :
      Settled stream len spot pos now tpb framer (spot + sizeAt stream spot)
        ({ framer with anchor := (spot + sizeAt stream spot) % len, frontier := {} },
          .frame ⟨spot % len, sizeAt stream spot, now⟩)

theorem wait_spec (sees : Sees ring stream framer spot pos) (aim now tpb : UInt32)
    (unfinished : Partial stream spot pos) :
    ∃ next, Settled stream ring.length spot pos now tpb framer next
      (framer.wait aim now tpb (pos % ring.length) ring.length) := by
  simp only [Framer.wait]
  split
  next dead =>
    simp only [Bool.and_eq_true, decide_eq_true_eq] at dead
    obtain ⟨⟨observed, seen⟩, starved⟩ := dead
    have unmoved : framer.frontier.advance (pos % ring.length) now = framer.frontier := by
      rw [Frontier.advance, if_pos ⟨observed, seen⟩]
    rw [unmoved] at starved
    refine ⟨spot + 1, ?_⟩
    rw [Framer.giveUp, sees.wrap 1]
    exact .gaveUp unfinished observed seen.symm starved
  next alive =>
    refine ⟨spot, .waits _ unfinished ?_⟩
    intro observed seen
    have unmoved : framer.frontier.advance (pos % ring.length) now = framer.frontier := by
      rw [Frontier.advance, if_pos ⟨observed, seen.symm⟩]
    simpa [observed, seen, unmoved] using alive

theorem settle_spec (sees : Sees ring stream framer spot pos) (now tpb : UInt32) :
    ∃ next, Settled stream ring.length spot pos now tpb framer next
      (framer.settle ring (pos % ring.length) now tpb (pos - spot)) := by
  simp only [Framer.settle]
  split
  next short => exact wait_spec sees _ now tpb (.inl short)
  next readable =>
    have header : headerSpanBytes ≤ pos - spot := by omega
    have size : footprint (ring.getD (ringWrap (framer.anchor + 2) ring.length) 0) = sizeAt stream spot := by
      rw [sees.byte 2 (by simp only [headerSpanBytes] at header; omega), sizeAt]
    rw [size]
    split
    next whole =>
      rw [sees.wrap, sees.anchor]
      exact ⟨_, .frame header whole⟩
    next unfinished =>
      split
      next near =>
        simp only [Bool.and_eq_true, Bool.not_eq_true', decide_eq_true_eq] at near
        have close : sizeAt stream spot ≤ pos - spot + coveredTailBytes := by omega
        have settled := @Settled.covered stream ring.length spot pos now tpb framer
          (now + wireLead (sizeAt stream spot - (pos - spot)) tpb) near.1 header close (by omega)
        rw [← sees.anchor] at settled
        exact ⟨spot, settled⟩
      next => exact wait_spec sees _ now tpb (.inr (by omega))

inductive Landing (stream : Nat → UInt8) (len spot pos : Nat) (now tpb : UInt32) (framer : Framer) :
    Nat → Framer × FramerOut → Prop where
  | idle (level : spot = pos) :
      Landing stream len spot pos now tpb framer pos ({ framer with frontier := {} }, .none)
  | exhausted (skipped : Skipped stream spot pos pos) (moved : spot < pos) :
      Landing stream len spot pos now tpb framer pos (framer.hunted (pos % len), .none)
  | paused (stop : Nat) (skipped : Skipped stream spot stop pos) (moved : spot < stop)
      (short : stop < pos) :
      Landing stream len spot pos now tpb framer stop (framer.hunted (stop % len), .wait now)
  | stayed (next : Nat) (result : Framer × FramerOut) (short : spot < pos)
      (likely : Plausible stream spot pos)
      (settled : Settled stream len spot pos now tpb framer next result) :
      Landing stream len spot pos now tpb framer next result
  | found (stop next : Nat) (result : Framer × FramerOut) (skipped : Skipped stream spot stop pos)
      (moved : spot < stop) (short : stop < pos) (likely : Plausible stream stop pos)
      (settled : Settled stream len stop pos now tpb (framer.hunted (stop % len)) next result) :
      Landing stream len spot pos now tpb framer next result

theorem resolve_spec (sees : Sees ring stream framer spot pos) (now tpb : UInt32) :
    ∃ next, Landing stream ring.length spot pos now tpb framer next
      (framer.resolve ring (pos % ring.length) now tpb) := by
  have nonempty : ring.length ≠ 0 := by have := sees.shape.large; omega
  have ordered := sees.ordered
  simp only [Framer.resolve, nonempty, if_false, sees.dist_eq]
  split
  next level => exact ⟨pos, .idle (by omega)⟩
  next some =>
    have hunted := hunt_spec sees (by omega) now 63
    rw [show 63 + 1 = huntBytesPerWake by rfl] at hunted
    generalize Framer.hunt ring now huntBytesPerWake framer (pos - spot) = result at hunted ⊢
    cases hunted with
    | exhausted skipped moved => exact ⟨pos, .exhausted skipped moved⟩
    | paused stop skipped moved short => exact ⟨stop, .paused stop skipped moved short⟩
    | stayed likely =>
      obtain ⟨next, settled⟩ := settle_spec sees now tpb
      exact ⟨next, .stayed next _ (by omega) likely settled⟩
    | found stop skipped moved short likely =>
      obtain ⟨next, settled⟩ := settle_spec (sees.hunted (Nat.le_of_lt moved) (Nat.le_of_lt short)) now tpb
      exact ⟨next, .found stop next _ skipped moved short likely settled⟩

end Ring

section Good

variable {len spot pos p next : Nat} {now tpb : UInt32} {framer : Framer} {result : Framer × FramerOut}

structure Geometry (stream : Nat → UInt8) (p : Nat) : Prop where
  brk : stream p = 0
  len : 3 ≤ stream (p + 2)

theorem Geometry.isPlausible (geometry : Geometry stream p) (pos : Nat) : Plausible stream p pos :=
  ⟨geometry.brk, .inr geometry.len⟩

theorem Geometry.size_le (geometry : Geometry stream p) : 6 ≤ sizeAt stream p ∧ sizeAt stream p ≤ 258 := by
  have low := UInt8.le_iff_toNat_le.mp geometry.len
  have high := footprint_le (stream (p + 2))
  have three : (3 : UInt8).toNat = 3 := rfl
  simp only [sizeAt, footprint] at high ⊢
  omega

theorem Skipped.spares {stop : Nat} (skipped : Skipped stream spot stop pos) (geometry : Geometry stream p)
    (before : spot ≤ p) : stop ≤ p := by
  by_contra past
  exact skipped.2 p before (by omega) (geometry.isPlausible pos)

theorem Settled.anchor_eq (anchored : framer.anchor = spot % len)
    (settled : Settled stream len spot pos now tpb framer next result) :
    result.1.anchor = next % len := by
  cases settled with
  | waits | covered => exact anchored
  | gaveUp | frame => rfl

theorem Settled.bounds (some : spot < pos) (settled : Settled stream len spot pos now tpb framer next result) :
    spot ≤ next ∧ next ≤ pos := by
  cases settled with
  | waits | covered => exact ⟨Nat.le_refl _, by omega⟩
  | gaveUp => exact ⟨by omega, by omega⟩
  | frame readable whole => exact ⟨by omega, by omega⟩

theorem Landing.anchor_eq (anchored : framer.anchor = spot % len)
    (landing : Landing stream len spot pos now tpb framer next result) :
    result.1.anchor = next % len := by
  cases landing with
  | idle level => exact level ▸ anchored
  | exhausted | paused => rfl
  | stayed _ _ short likely settled => exact settled.anchor_eq anchored
  | found stop _ _ skipped moved short likely settled => exact settled.anchor_eq rfl

theorem Landing.bounds (landing : Landing stream len spot pos now tpb framer next result)
    (ordered : spot ≤ pos) : spot ≤ next ∧ next ≤ pos := by
  cases landing with
  | idle level => exact ⟨ordered, Nat.le_refl _⟩
  | exhausted skipped moved => exact ⟨ordered, Nat.le_refl _⟩
  | paused stop skipped moved short => exact ⟨by omega, by omega⟩
  | stayed _ _ short likely settled => exact settled.bounds short
  | found stop _ _ skipped moved short likely settled =>
    have bounds := settled.bounds short
    exact ⟨by omega, bounds.2⟩

/-- A frame the ladder is still before stays ahead of it, or is in the span just emitted. It is given up only when the
wire starves while the ladder stands on it. -/
theorem Landing.spares (landing : Landing stream len spot pos now tpb framer next result)
    (geometry : Geometry stream p) (before : spot ≤ p)
    (alive : spot = p → p < pos → pos < p + sizeAt stream p → framer.frontier.observed = true →
      framer.frontier.seen = pos % len →
        tickReached now (framer.frontier.progressTick + starveSpan tpb) = false) :
    next ≤ p ∨ ∃ q, result.2 = .frame ⟨q % len, sizeAt stream q, now⟩ ∧
      next = q + sizeAt stream q ∧ q ≤ p ∧ p < next := by
  have size := geometry.size_le
  have emits (q : Nat) (low : q ≤ p) :
      q + sizeAt stream q ≤ p ∨ ∃ r, FramerOut.frame ⟨q % len, sizeAt stream q, now⟩ =
        .frame ⟨r % len, sizeAt stream r, now⟩ ∧ q + sizeAt stream q = r + sizeAt stream r ∧
          r ≤ p ∧ p < q + sizeAt stream q := by
    by_cases past : q + sizeAt stream q ≤ p
    next => exact .inl past
    next => exact .inr ⟨q, rfl, rfl, low, by omega⟩
  cases landing with
  | idle level => exact .inl (level ▸ before)
  | exhausted skipped moved => exact .inl (skipped.spares geometry before)
  | paused stop skipped moved short => exact .inl (skipped.spares geometry before)
  | stayed _ _ short likely settled =>
    cases settled with
    | waits | covered => exact .inl before
    | gaveUp part observed seen starved =>
      by_cases here : spot = p
      next =>
        subst here
        have inside : pos < spot + sizeAt stream spot := by
          simp only [Partial, headerSpanBytes] at part
          omega
        rw [alive rfl short inside observed seen] at starved
        cases starved
      next => exact .inl (by omega)
    | frame readable whole => exact emits spot before
  | found stop _ _ skipped moved short likely settled =>
    have ahead := skipped.spares geometry before
    cases settled with
    | waits | covered => exact .inl ahead
    | gaveUp part observed seen starved => cases observed
    | frame readable whole => exact emits stop ahead

theorem Landing.frame_inv (landing : Landing stream len spot pos now tpb framer next result)
    {span : FrameSpan} (emits : result.2 = .frame span) :
    ∃ q, spot ≤ q ∧ span = ⟨q % len, sizeAt stream q, now⟩ ∧ next = q + sizeAt stream q ∧
      next ≤ pos ∧ Geometry stream q := by
  have whole {q : Nat} (likely : Plausible stream q pos) (readable : headerSpanBytes ≤ pos - q) :
      Geometry stream q := by
    refine ⟨likely.1, ?_⟩
    rcases likely.2 with short | long
    next => omega
    next => exact long
  cases landing with
  | idle | exhausted | paused => cases emits
  | stayed _ _ short likely settled =>
    cases settled with
    | waits | covered | gaveUp => cases emits
    | frame readable fits =>
      cases emits
      exact ⟨spot, Nat.le_refl _, rfl, rfl, by omega, whole likely readable⟩
  | found stop _ _ skipped moved short likely settled =>
    cases settled with
    | waits | covered | gaveUp => cases emits
    | frame readable fits =>
      cases emits
      exact ⟨stop, Nat.le_of_lt moved, rfl, rfl, by omega, whole likely readable⟩

theorem Landing.covered_inv (landing : Landing stream len spot pos now tpb framer next result)
    {span : FrameSpan} {endDue : UInt32} (emits : result.2 = .covered span endDue) :
    spot ≤ next ∧ span = ⟨next % len, sizeAt stream next, endDue⟩ ∧ Geometry stream next := by
  have readable {q : Nat} (likely : Plausible stream q pos) (received : headerSpanBytes ≤ pos - q) :
      Geometry stream q := by
    refine ⟨likely.1, ?_⟩
    rcases likely.2 with short | long
    next => omega
    next => exact long
  cases landing with
  | idle | exhausted | paused => cases emits
  | stayed _ _ short likely settled =>
    cases settled with
    | waits | frame | gaveUp => cases emits
    | covered packetEnd fresh header near unfinished =>
      cases emits
      exact ⟨Nat.le_refl _, rfl, readable likely header⟩
  | found stop _ _ skipped moved short likely settled =>
    cases settled with
    | waits | frame | gaveUp => cases emits
    | covered packetEnd fresh header near unfinished =>
      cases emits
      exact ⟨Nat.le_of_lt moved, rfl, readable likely header⟩

theorem Landing.spot_eq {ring : List UInt8} (sees : Sees ring stream framer spot pos)
    (landing : Landing stream ring.length spot pos now tpb framer next result) :
    spot + dist result.1.anchor framer.anchor ring.length = next := by
  have bounds := landing.bounds sees.ordered
  have unconsumed := sees.unconsumed
  rw [dist, sees.shape.wrap_u16, sees.shape.wrap_eq, landing.anchor_eq sees.anchor, sees.anchor,
    wrapped_distance bounds.1 (by omega)]
  omega

/-- What the frontier recorded it recorded at an earlier look at the ring, as position and tick, with bytes past the
ladder received. -/
def Recalls (len : Nat) (framer : Framer) (spot : Nat) (looks : List (Nat × UInt32)) : Prop :=
  framer.frontier.observed = true → ∃ look ∈ looks,
    framer.frontier.seen = look.1 % len ∧ framer.frontier.progressTick = look.2 ∧ spot < look.1

variable {looks : List (Nat × UInt32)}

theorem recalls_idle (idle : framer.frontier = {}) : Recalls len framer spot looks := by
  simp [Recalls, idle]

theorem Recalls.advance (recalls : Recalls len framer spot looks) (some : spot < pos) (mark : Bool) :
    Recalls len
      { framer with frontier := { framer.frontier.advance (pos % len) now with covered := mark } }
      spot (looks ++ [(pos, now)]) := by
  intro observed
  simp only [Frontier.advance] at observed ⊢
  split
  next unmoved =>
    obtain ⟨look, member, recorded⟩ := recalls unmoved.1
    exact ⟨look, List.mem_append_left _ member, recorded⟩
  next => exact ⟨(pos, now), by simp, rfl, rfl, some⟩

theorem Settled.recalls (recalls : Recalls len framer spot looks) (some : spot < pos)
    (settled : Settled stream len spot pos now tpb framer next result) :
    Recalls len result.1 next (looks ++ [(pos, now)]) := by
  cases settled with
  | waits | covered => exact recalls.advance some _
  | gaveUp | frame => exact recalls_idle rfl

theorem Landing.recalls (recalls : Recalls len framer spot looks)
    (landing : Landing stream len spot pos now tpb framer next result) :
    Recalls len result.1 next (looks ++ [(pos, now)]) := by
  cases landing with
  | idle | exhausted | paused => exact recalls_idle rfl
  | stayed _ _ short likely settled => exact settled.recalls recalls short
  | found stop _ _ skipped moved short likely settled =>
    exact settled.recalls (recalls_idle rfl) short

theorem Recalls.level (recalls : Recalls len framer spot looks) (observed : framer.frontier.observed = true)
    (seen : framer.frontier.seen = pos % len) (advances : ∀ look ∈ looks, look.1 ≤ pos)
    (unconsumed : pos < spot + len) :
    ∃ look ∈ looks, look.1 = pos ∧ look.2 = framer.frontier.progressTick := by
  obtain ⟨look, member, cursor, tick, above⟩ := recalls observed
  have ordered := advances look member
  have level : look.1 = pos := @eq_of_wrapped_eq len _ _ ordered (by omega) (by rw [← cursor, seen])
  exact ⟨look, member, level, tick.symm⟩

end Good

end OpenServo.Bus
