import OpenServo.Bus.FramerPace
import OpenServo.Shared.Run
import OpenServo.Shared.Ticks

set_option autoImplicit false

namespace OpenServo.Bus

open OpenServo.Protocol OpenServo.Shared

/-- A candidate under observation: where the cursor stands, and since when. -/
structure Watch where
  anchor : Nat
  cursor : Nat
  since : Nat
deriving DecidableEq

structure Timed where
  framer : Framer
  clock : Nat := 0
  due : Option Nat := none
  last : List UInt8 × Nat := ([], 0)
  watch : Option Watch := none

inductive FramerCall where
  | resolve (ring : List UInt8) (cursor clock : Nat)
  | verified
  | rejected (anchor : Nat)
deriving DecidableEq

def standsOn (now : UInt32) : FramerOut → Bool
  | .wait tick => tick != now
  | .covered .. => true
  | _ => false

def deadline (clock : Nat) : FramerOut → Option Nat
  | .wait tick | .covered _ tick => some (clock + (tick - UInt32.ofNat clock).toNat)
  | _ => none

def Watch.next (watch : Option Watch) (anchor cursor clock : Nat) : Watch :=
  match watch with
  | some watch => if watch.anchor = anchor ∧ watch.cursor = cursor then watch else ⟨anchor, cursor, clock⟩
  | none => ⟨anchor, cursor, clock⟩

def givesUp (framer : Framer) (ring : List UInt8) (cursor : Nat) (now tpb : UInt32) : Bool :=
  dist cursor framer.anchor ring.length != 0 &&
    match Framer.hunt ring now huntBytesPerWake framer (dist cursor framer.anchor ring.length) with
    | (candidate, .inr received) =>
      (candidate.settle ring cursor now tpb received).2 = .wait now &&
        (candidate.settle ring cursor now tpb received).1.anchor != candidate.anchor
    | _ => false

namespace Timed

def start (framer : Framer) (clock : Nat) : Timed :=
  { framer := framer, clock := clock }

def note (t : Timed) (ring : List UInt8) (cursor clock : Nat) (result : Framer × FramerOut) : Timed where
  framer := result.1
  clock := clock
  due := deadline clock result.2
  last := (ring, cursor)
  watch :=
    if standsOn (UInt32.ofNat clock) result.2 then some (Watch.next t.watch result.1.anchor cursor clock) else none

def step (len : Nat) (tpb : UInt32) (t : Timed) : FramerCall → Timed
  | .resolve ring cursor clock =>
    t.note ring cursor clock (t.framer.resolve ring cursor (UInt32.ofNat clock) tpb)
  | .verified => { t with framer := t.framer.onFrameVerified }
  | .rejected anchor => { t with framer := t.framer.onFrameRejected anchor len, watch := none }

/-- Time does not run back, a deadline is served in time, and the ring changes only where its cursor moves. -/
def Admits (len : Nat) (t : Timed) : FramerCall → Prop
  | .resolve ring cursor clock =>
    ring.length = len ∧ cursor < len ∧ t.clock ≤ clock ∧ (∀ due, t.due = some due → clock < due + 2 ^ 30) ∧
      (cursor = t.last.2 → t.watch ≠ none → ring = t.last.1)
  | _ => True

end Timed

theorem Frontier.advance_covered (frontier : Frontier) (cursor : Nat) (now : UInt32) :
    (frontier.advance cursor now).covered = frontier.covered := by
  rw [Frontier.advance]
  split <;> rfl

section Ticks

theorem tickReached_ofNat {clock mark : Nat} (near : clock < mark + (2 ^ 31 - 1)) (far : mark ≤ clock + 2 ^ 31) :
    tickReached (UInt32.ofNat clock) (UInt32.ofNat mark) = true ↔ mark ≤ clock := by
  rw [tickReached_iff, toNat_sub_ofNat]
  omega

theorem horizon_ofNat {tpb : UInt32} (fast : tpb.toNat ≤ 2 ^ 20) (since : Nat) :
    UInt32.ofNat since + starveSpan tpb = UInt32.ofNat (since + 64 * tpb.toNat) := by
  rw [ofNat_add_toNat, starveSpan_toNat (by omega)]

end Ticks

structure Watching (tpb : UInt32) (t : Timed) (watch : Watch) : Prop where
  observed : t.framer.frontier.observed = true
  anchor : watch.anchor = t.framer.anchor
  seen : t.framer.frontier.seen = watch.cursor
  progress : t.framer.frontier.progressTick = UInt32.ofNat watch.since
  last : t.last.2 = watch.cursor
  past : watch.since ≤ t.clock
  due : ∃ due, t.due = some due ∧ due ≤ watch.since + 64 * tpb.toNat
  far : t.framer.frontier.covered = true ∨ ¬ Near t.last.1 watch.cursor t.framer.anchor

structure KeepsWatch (len : Nat) (tpb : UInt32) (t : Timed) : Prop where
  anchored : t.framer.anchor < len
  idle : t.watch = none → t.framer.frontier.observed = false
  watching : ∀ watch, t.watch = some watch → Watching tpb t watch

structure Noted (t : Timed) (base : Framer) (cursor clock : Nat) (watch : Watch) : Prop where
  observed : (base.frontier.advance cursor (UInt32.ofNat clock)).observed = true
  seen : (base.frontier.advance cursor (UInt32.ofNat clock)).seen = cursor
  progress : (base.frontier.advance cursor (UInt32.ofNat clock)).progressTick = UInt32.ofNat watch.since
  anchor : watch.anchor = base.anchor
  level : watch.cursor = cursor
  past : watch.since ≤ clock
  origin : watch.since = clock ∨
    base = t.framer ∧ t.watch = some watch ∧ base.frontier.observed = true ∧ cursor = base.frontier.seen

section Look

variable {ring : List UInt8} {tpb : UInt32} {t : Timed} {cursor clock : Nat}

theorem KeepsWatch.next (follows : KeepsWatch ring.length tpb t) (later : t.clock ≤ clock) {base : Framer}
    (start : base = t.framer ∨ base.frontier = {} ∧ base.anchor ≠ t.framer.anchor) :
    Noted t base cursor clock (Watch.next t.watch base.anchor cursor clock) := by
  have fresh (moved : ¬ (base.frontier.observed = true ∧ cursor = base.frontier.seen)) :
      Noted t base cursor clock ⟨base.anchor, cursor, clock⟩ := by
    have advanced : base.frontier.advance cursor (UInt32.ofNat clock) =
        { base.frontier with observed := true, seen := cursor, progressTick := UInt32.ofNat clock } := if_neg moved
    exact ⟨by rw [advanced], by rw [advanced], by rw [advanced], rfl, rfl, Nat.le_refl _, .inl rfl⟩
  rcases start with rfl | ⟨idle, elsewhere⟩
  next =>
    cases watch : t.watch with
    | none => exact fresh (by rw [follows.idle watch]; simp)
    | some w =>
      have watching := follows.watching w watch
      by_cases still : w.cursor = cursor
      next =>
        have kept : Watch.next (some w) t.framer.anchor cursor clock = w := if_pos ⟨watching.anchor, still⟩
        have seen : cursor = t.framer.frontier.seen := still.symm.trans watching.seen.symm
        have unmoved : t.framer.frontier.advance cursor (UInt32.ofNat clock) = t.framer.frontier :=
          if_pos ⟨watching.observed, seen⟩
        have past := watching.past
        rw [kept]
        exact ⟨by rw [unmoved, watching.observed], by rw [unmoved, seen], by rw [unmoved, watching.progress],
          watching.anchor, still, by omega, .inr ⟨rfl, watch, watching.observed, seen⟩⟩
      next =>
        have anew : Watch.next (some w) t.framer.anchor cursor clock = ⟨t.framer.anchor, cursor, clock⟩ :=
          if_neg fun same => still same.2
        rw [anew]
        exact fresh fun unmoved => still (watching.seen.symm.trans unmoved.2.symm)
  next =>
    have anew : Watch.next t.watch base.anchor cursor clock = ⟨base.anchor, cursor, clock⟩ := by
      cases watch : t.watch with
      | none => rfl
      | some w => exact if_neg fun same => elsewhere (same.1.symm.trans (follows.watching w watch).anchor)
    rw [anew]
    exact fresh (by rw [idle]; simp)

theorem givesUp_starved {stream : Nat → UInt8} {framer : Framer} {spot pos : Nat} {now : UInt32}
    (sees : Sees ring stream framer spot pos) (left : givesUp framer ring (pos % ring.length) now tpb = true) :
    framer.frontier.observed = true ∧ pos % ring.length = framer.frontier.seen ∧
      tickReached now (framer.frontier.progressTick + starveSpan tpb) = true := by
  -- Only a candidate that is given up is left by a wait.
  have starved {base : Framer} {result : Framer × FramerOut}
      (pace : Pace ring (pos % ring.length) now tpb base result)
      (leaves : (decide (result.2 = .wait now) && result.1.anchor != base.anchor) = true) :
      base.frontier.observed = true ∧ pos % ring.length = base.frontier.seen ∧
        tickReached now (base.frontier.progressTick + starveSpan tpb) = true := by
    rw [Bool.and_eq_true, decide_eq_true_eq, bne_iff_ne] at leaves
    cases pace with
    | waits => exact absurd rfl leaves.2
    | gaveUp observed seen starved => exact ⟨observed, seen, starved⟩
    | covered | frame => cases leaves.1
  rw [givesUp, Bool.and_eq_true, bne_iff_ne, sees.dist_eq] at left
  obtain ⟨some, left⟩ := left
  have hunted := hunt_spec sees (by omega) now 63
  rw [show 63 + 1 = huntBytesPerWake by rfl] at hunted
  generalize Framer.hunt ring now huntBytesPerWake framer (pos - spot) = result at hunted left
  cases hunted with
  | exhausted | paused => cases left
  | stayed likely =>
    dsimp only at left
    rw [← sees.dist_eq] at left
    exact starved settle_pace left
  | found stop skipped moved short likely =>
    have there := sees.hunted (Nat.le_of_lt moved) (Nat.le_of_lt short)
    dsimp only at left
    rw [← there.dist_eq] at left
    cases (starved settle_pace left).1

theorem Noted.near {base : Framer} {watch : Watch} (noted : Noted t base cursor clock watch)
    (follows : KeepsWatch ring.length tpb t) (served : ∀ due, t.due = some due → clock < due + 2 ^ 30) :
    clock < watch.since + 64 * tpb.toNat + 2 ^ 30 := by
  rcases noted.origin with begins | ⟨-, watched, -, -⟩
  next => omega
  next =>
    obtain ⟨due, asked, soon⟩ := (follows.watching watch watched).due
    have inTime := served due asked
    omega

theorem Noted.ahead {base : Framer} {watch : Watch} {lead : UInt32} (noted : Noted t base cursor clock watch)
    (follows : KeepsWatch ring.length tpb t) (served : ∀ due, t.due = some due → clock < due + 2 ^ 30)
    (slow : 0 < tpb.toNat) (fast : tpb.toNat ≤ 2 ^ 20) (isLead : Lead tpb lead)
    (alive : base.frontier.observed = true → cursor = base.frontier.seen →
      tickReached (UInt32.ofNat clock) (base.frontier.progressTick + starveSpan tpb) = false)
    {tick : UInt32} (asks : tick = soonest (UInt32.ofNat clock) lead
      ((base.frontier.advance cursor (UInt32.ofNat clock)).progressTick + starveSpan tpb)) :
    tick ≠ UInt32.ofNat clock ∧ 0 < (tick - UInt32.ofNat clock).toNat ∧
      clock + (tick - UInt32.ofNat clock).toNat ≤ watch.since + 64 * tpb.toNat := by
  have near := noted.near follows served
  have past := noted.past
  have ahead := horizon_ahead slow (by omega) alive
  have first := soonest_ahead (isLead.range slow (by omega)) ahead
  rw [← asks] at first
  rw [noted.progress, horizon_ofNat fast] at ahead asks
  have coming : ¬ watch.since + 64 * tpb.toNat ≤ clock := by
    intro over'
    have reached := (@tickReached_ofNat clock (watch.since + 64 * tpb.toNat) (by omega) (by omega)).mpr over'
    rw [ahead] at reached
    cases reached
  have later : tick ≠ UInt32.ofNat clock := by
    rintro rfl
    have here := (tickReached_iff (UInt32.ofNat clock) (UInt32.ofNat clock)).mpr (by rw [UInt32.sub_self]; decide)
    rw [first] at here
    cases here
  have apart : 0 < (tick - UInt32.ofNat clock).toNat := by
    apply Nat.pos_of_ne_zero
    intro zero
    have same := ofNat_add_sub clock tick
    rw [zero, Nat.add_zero] at same
    exact later same.symm
  have sooner := @soonest_sub (UInt32.ofNat clock) lead (UInt32.ofNat (watch.since + 64 * tpb.toNat))
  rw [← asks, toNat_sub_ofNat] at sooner
  exact ⟨later, apart, by omega⟩

end Look

structure Wakes (tpb : UInt32) (t after : Timed) (ring : List UInt8) (cursor clock : Nat) : Prop where
  wait : ∀ tick, (t.framer.resolve ring cursor (UInt32.ofNat clock) tpb).2 = .wait tick →
    tick = UInt32.ofNat clock ∧ after.framer.hunting = true ∧ after.framer.anchor ≠ t.framer.anchor ∨
      ∃ watch due, after.watch = some watch ∧ watch.cursor = cursor ∧ tick = UInt32.ofNat due ∧ clock < due ∧
        due ≤ watch.since + 64 * tpb.toNat
  giveUp : givesUp t.framer ring cursor (UInt32.ofNat clock) tpb = true →
    ∃ watch, t.watch = some watch ∧ watch.anchor = t.framer.anchor ∧ watch.cursor = cursor ∧
      watch.since + 64 * tpb.toNat ≤ clock

section Step

variable {ring : List UInt8} {tpb : UInt32} {t : Timed} {cursor clock : Nat}

theorem KeepsWatch.starved (follows : KeepsWatch ring.length tpb t) (fast : tpb.toNat ≤ 2 ^ 20)
    (later : t.clock ≤ clock)
    (observed : t.framer.frontier.observed = true) (seen : cursor = t.framer.frontier.seen)
    (reached : tickReached (UInt32.ofNat clock) (t.framer.frontier.progressTick + starveSpan tpb) = true) :
    ∃ watch, t.watch = some watch ∧ watch.anchor = t.framer.anchor ∧ watch.cursor = cursor ∧
      watch.since + 64 * tpb.toNat ≤ clock := by
  cases watch : t.watch with
  | none =>
    rw [follows.idle watch] at observed
    cases observed
  | some w =>
    have watching := follows.watching w watch
    have past := watching.past
    refine ⟨w, rfl, watching.anchor, watching.seen.symm.trans seen.symm, ?_⟩
    by_contra early
    rw [watching.progress, horizon_ofNat fast, tickReached_iff, toNat_sub_ofNat] at reached
    omega

theorem keepsWatch_unwatched {result : Framer × FramerOut} (away : standsOn (UInt32.ofNat clock) result.2 = false)
    (anchored : result.1.anchor < ring.length) (idle : result.1.frontier = {}) :
    KeepsWatch ring.length tpb (t.note ring cursor clock result) := by
  have blank : (t.note ring cursor clock result).watch = none := by
    rw [Timed.note, away]
    rfl
  refine ⟨anchored, fun _ => congrArg Frontier.observed idle, fun watch watched => ?_⟩
  rw [blank] at watched
  cases watched

theorem Noted.keepsWatch {base : Framer} {result : Framer × FramerOut} {due : Nat}
    (noted : Noted t base cursor clock (Watch.next t.watch base.anchor cursor clock))
    (anchored : base.anchor < ring.length) (stands : standsOn (UInt32.ofNat clock) result.2 = true)
    (stayed : result.1.anchor = base.anchor) (asked : deadline clock result.2 = some due)
    (soon : due ≤ (Watch.next t.watch base.anchor cursor clock).since + 64 * tpb.toNat)
    (observed : result.1.frontier.observed = true) (seen : result.1.frontier.seen = cursor)
    (progress : result.1.frontier.progressTick =
      UInt32.ofNat (Watch.next t.watch base.anchor cursor clock).since)
    (far : result.1.frontier.covered = true ∨ ¬ Near ring cursor base.anchor) :
    (t.note ring cursor clock result).watch = some (Watch.next t.watch base.anchor cursor clock) ∧
      KeepsWatch ring.length tpb (t.note ring cursor clock result) := by
  have watch : (t.note ring cursor clock result).watch = some (Watch.next t.watch base.anchor cursor clock) := by
    rw [Timed.note, stands, stayed]
    rfl
  refine ⟨watch, stayed ▸ anchored, fun blank => (by rw [watch] at blank; cases blank), fun w watched => ?_⟩
  obtain rfl := Option.some.inj (watch.symm.trans watched)
  exact ⟨observed, noted.anchor.trans stayed.symm, seen.trans noted.level.symm, progress, noted.level.symm, noted.past,
    ⟨due, asked, soon⟩, by
      rw [noted.level]
      exact stayed.symm ▸ far⟩

theorem Noted.waits {base : Framer} {lead : UInt32}
    (noted : Noted t base cursor clock (Watch.next t.watch base.anchor cursor clock))
    (follows : KeepsWatch ring.length tpb t) (slow : 0 < tpb.toNat) (fast : tpb.toNat ≤ 2 ^ 20)
    (served : ∀ due, t.due = some due → clock < due + 2 ^ 30) (anchored : base.anchor < ring.length)
    (isLead : Lead tpb lead)
    (alive : base.frontier.observed = true → cursor = base.frontier.seen →
      tickReached (UInt32.ofNat clock) (base.frontier.progressTick + starveSpan tpb) = false)
    (far : base.frontier.covered = true ∨ ¬ Near ring cursor base.anchor) {result : Framer × FramerOut} {tick : UInt32}
    (asks : tick = soonest (UInt32.ofNat clock) lead
      ((base.frontier.advance cursor (UInt32.ofNat clock)).progressTick + starveSpan tpb))
    (made : result = ({ base with frontier := base.frontier.advance cursor (UInt32.ofNat clock) }, .wait tick)) :
    KeepsWatch ring.length tpb (t.note ring cursor clock result) ∧
      ∃ watch due, (t.note ring cursor clock result).watch = some watch ∧ watch.cursor = cursor ∧
        tick = UInt32.ofNat due ∧ clock < due ∧ due ≤ watch.since + 64 * tpb.toNat := by
  obtain ⟨other, apart, soon⟩ := noted.ahead follows served slow fast isLead alive asks
  subst made
  have covers : (base.frontier.advance cursor (UInt32.ofNat clock)).covered = true ∨
      ¬ Near ring cursor base.anchor :=
    far.imp_left fun covered => (Frontier.advance_covered _ _ _).trans covered
  obtain ⟨watch, keeps⟩ := @Noted.keepsWatch ring tpb t cursor clock base
    ({ base with frontier := base.frontier.advance cursor (UInt32.ofNat clock) }, .wait tick) _ noted anchored
    (bne_iff_ne.mpr other) rfl rfl soon noted.observed noted.seen noted.progress covers
  exact ⟨keeps, _, _, watch, noted.level, (ofNat_add_sub clock tick).symm, by omega, soon⟩

/-- The covered checkpoint falls on a cursor that has moved: the same bytes would have fallen on it before. -/
theorem Noted.covered {base : Framer} {bytes : Nat} {result : Framer × FramerOut} {span : FrameSpan}
    (noted : Noted t base cursor clock (Watch.next t.watch base.anchor cursor clock))
    (follows : KeepsWatch ring.length tpb t) (fast : tpb.toNat ≤ 2 ^ 20)
    (still : cursor = t.last.2 → t.watch ≠ none → ring = t.last.1) (anchored : base.anchor < ring.length)
    (few : bytes ≤ coveredTailBytes) (fresh : base.frontier.covered = false) (near : Near ring cursor base.anchor)
    (made : result =
      ({ base with frontier := { base.frontier.advance cursor (UInt32.ofNat clock) with covered := true } },
        .covered span (UInt32.ofNat clock + wireLead bytes tpb))) :
    KeepsWatch ring.length tpb (t.note ring cursor clock result) := by
  have begins : (Watch.next t.watch base.anchor cursor clock).since = clock := by
    rcases noted.origin with begins | ⟨rfl, watched, -, -⟩
    next => exact begins
    next =>
      have watching := follows.watching _ watched
      have unchanged := still (noted.level.symm.trans watching.last.symm) (by rw [watched]; simp)
      rcases watching.far with covered | far
      next =>
        rw [fresh] at covered
        cases covered
      next =>
        rw [noted.level, ← unchanged] at far
        exact absurd near far
  have lead : (UInt32.ofNat clock + wireLead bytes tpb - UInt32.ofNat clock).toNat ≤ 64 * tpb.toNat := by
    have trailer : coveredTailBytes = 2 := rfl
    have product : bytes * tpb.toNat ≤ 2 * tpb.toNat := Nat.mul_le_mul_right _ (by omega)
    rw [UInt32.add_comm, UInt32.add_sub_cancel, wireLead_toNat (by omega) (by omega)]
    omega
  subst made
  exact (noted.keepsWatch anchored rfl rfl rfl (by rw [begins]; omega) noted.observed noted.seen noted.progress
    (.inl rfl)).2

theorem KeepsWatch.note {stream : Nat → UInt8} {pos : Nat} {result : Framer × FramerOut}
    (follows : KeepsWatch ring.length tpb t) (slow : 0 < tpb.toNat) (fast : tpb.toNat ≤ 2 ^ 20)
    (later : t.clock ≤ clock)
    (served : ∀ due, t.due = some due → clock < due + 2 ^ 30)
    (still : pos % ring.length = t.last.2 → t.watch ≠ none → ring = t.last.1)
    (sees : Sees ring stream t.framer t.framer.anchor pos)
    (resolved : Resolved ring stream t.framer.anchor pos (UInt32.ofNat clock) tpb t.framer result) :
    KeepsWatch ring.length tpb (t.note ring (pos % ring.length) clock result) ∧ ∀ tick, result.2 = .wait tick →
      tick = UInt32.ofNat clock ∧ result.1.hunting = true ∧ result.1.anchor ≠ t.framer.anchor ∨
        ∃ watch due, (t.note ring (pos % ring.length) clock result).watch = some watch ∧
          watch.cursor = pos % ring.length ∧ tick = UInt32.ofNat due ∧ clock < due ∧
          due ≤ watch.since + 64 * tpb.toNat := by
  have unconsumed := sees.unconsumed
  have wrapped (i : Nat) : i % ring.length < ring.length := by
    have large := sees.shape.large
    exact Nat.mod_lt _ (by omega)
  have elsewhere {stop : Nat} (moved : t.framer.anchor < stop) (short : stop ≤ pos) :
      stop % ring.length ≠ t.framer.anchor := by
    intro same
    have level := @eq_of_wrapped_eq ring.length t.framer.anchor stop (by omega) (by omega)
      (by rw [same, Nat.mod_eq_of_lt follows.anchored])
    omega
  have now : standsOn (UInt32.ofNat clock) (.wait (UInt32.ofNat clock)) = false := bne_self_eq_false _
  -- A watch goes on only over the candidate that the framer stands on.
  cases resolved with
  | idle level => exact ⟨keepsWatch_unwatched rfl follows.anchored rfl, fun tick asks => (by cases asks)⟩
  | exhausted moved => exact ⟨keepsWatch_unwatched rfl (wrapped pos) rfl, fun tick asks => (by cases asks)⟩
  | paused stop moved short =>
    refine ⟨keepsWatch_unwatched now (wrapped stop) rfl, fun tick asks => ?_⟩
    cases asks
    exact .inl ⟨rfl, rfl, elsewhere moved (by omega)⟩
  | stands stop base _ short start likely there pace =>
    have begins : base = t.framer ∨ base.frontier = {} ∧ base.anchor ≠ t.framer.anchor := by
      rcases start with ⟨-, same⟩ | ⟨moved, rfl⟩
      next => exact .inl same
      next => exact .inr ⟨rfl, elsewhere moved (by omega)⟩
    have noted := @KeepsWatch.next ring tpb t (pos % ring.length) clock follows later base begins
    have anchored : base.anchor < ring.length := by
      rw [there.anchor]
      exact wrapped stop
    cases pace with
    | waits lead isLead alive far =>
      obtain ⟨keeps, waits⟩ := noted.waits follows slow fast served anchored isLead alive far rfl rfl
      refine ⟨keeps, fun tick asks => ?_⟩
      cases asks
      exact .inr waits
    | gaveUp observed seen starved =>
      have next : (base.giveUp ring.length (UInt32.ofNat clock)).1.anchor = (stop + 1) % ring.length := there.wrap 1
      refine ⟨keepsWatch_unwatched now (by rw [next]; exact wrapped _) rfl, fun tick asks => ?_⟩
      cases asks
      exact .inl ⟨rfl, rfl, by rw [next]; exact elsewhere (by omega) short⟩
    | covered bytes few fresh near =>
      exact ⟨noted.covered follows fast still anchored few fresh near rfl, fun tick asks => (by cases asks)⟩
    | frame readable whole =>
      refine ⟨keepsWatch_unwatched rfl ?_ rfl, fun tick asks => (by cases asks)⟩
      dsimp only
      rw [there.wrap]
      exact wrapped _

theorem KeepsWatch.resolve (shape : RingShape ring.length) (follows : KeepsWatch ring.length tpb t)
    (slow : 0 < tpb.toNat) (fast : tpb.toNat ≤ 2 ^ 20) (admits : t.Admits ring.length (.resolve ring cursor clock)) :
    KeepsWatch ring.length tpb (t.step ring.length tpb (.resolve ring cursor clock)) ∧
      Wakes tpb t (t.step ring.length tpb (.resolve ring cursor clock)) ring cursor clock := by
  obtain ⟨-, inside, later, served, still⟩ := admits
  obtain ⟨pos, rfl, sees⟩ := sees_ring shape follows.anchored inside
  have resolved := resolve_resolved sees (UInt32.ofNat clock) tpb
  obtain ⟨kept, waits⟩ := follows.note slow fast later served still sees resolved
  refine ⟨kept, waits, fun left => ?_⟩
  obtain ⟨observed, seen, starved⟩ := givesUp_starved sees left
  exact follows.starved fast later observed seen starved

end Step

theorem KeepsWatch.step {len : Nat} {tpb : UInt32} {t : Timed} (shape : RingShape len) (follows : KeepsWatch len tpb t)
    (slow : 0 < tpb.toNat) (fast : tpb.toNat ≤ 2 ^ 20) (call : FramerCall) (admits : t.Admits len call) :
    KeepsWatch len tpb (t.step len tpb call) := by
  cases call with
  | resolve ring cursor clock =>
    obtain rfl := admits.1
    exact (follows.resolve shape slow fast admits).1
  | verified =>
    refine ⟨follows.anchored, follows.idle, fun watch watched => ?_⟩
    obtain ⟨observed, anchor, seen, progress, last, past, due, far⟩ := follows.watching watch watched
    exact ⟨observed, anchor, seen, progress, last, past, due, far⟩
  | rejected anchor =>
    refine ⟨?_, fun _ => rfl, fun watch watched => (by cases watched)⟩
    exact Nat.lt_of_le_of_lt (Nat.mod_le _ _) (shape.wrap_lt _)

/-- A recovery episode goes on, or one begins: only a beginning may count a drop. -/
structure Episode (before after : Framer) : Prop where
  goesOn : before.hunting = true → after.hunting = true
  drops : after.drops = before.drops ∨
    before.hunting = false ∧ after.hunting = true ∧ after.drops = before.drops + 1

namespace Episode

theorem still {before after : Framer} (hunting : before.hunting = true → after.hunting = true)
    (drops : after.drops = before.drops) : Episode before after :=
  ⟨hunting, .inl drops⟩

theorem trans {before middle after : Framer} (first : Episode before middle) (second : Episode middle after) :
    Episode before after := by
  refine ⟨fun hunting => second.goesOn (first.goesOn hunting), ?_⟩
  rcases second.drops with kept | ⟨trusted, hunting, counted⟩
  next =>
    rcases first.drops with same | ⟨trusted, hunting, counted⟩
    next => exact .inl (kept.trans same)
    next => exact .inr ⟨trusted, second.goesOn hunting, kept.trans counted⟩
  next =>
    -- What begins in the second begins in both: an episode of the first would have gone on.
    have before' : before.hunting = false := by
      apply Bool.eq_false_iff.mpr
      intro started
      rw [first.goesOn started] at trusted
      cases trusted
    rcases first.drops with same | ⟨-, started, -⟩
    next => exact .inr ⟨before', hunting, by rw [counted, same]⟩
    next =>
      rw [started] at trusted
      cases trusted

end Episode

section Drops

variable {framer : Framer} {ring : List UInt8} {cursor len : Nat} {now tpb : UInt32}

theorem giveUp_episode : Episode framer (framer.giveUp len now).1 := by
  refine ⟨fun _ => rfl, ?_⟩
  cases hunting : framer.hunting with
  | true => exact .inl (by simp [Framer.giveUp, hunting])
  | false => exact .inr ⟨rfl, rfl, by simp [Framer.giveUp, hunting]⟩

theorem wait_episode {aim : UInt32} : Episode framer (framer.wait aim now tpb cursor len).1 := by
  have advanced : Episode framer { framer with frontier := framer.frontier.advance cursor now } := .still id rfl
  simp only [Framer.wait]
  split
  next => exact advanced.trans giveUp_episode
  next => exact advanced

theorem hunt_episode (budget received : Nat) : Episode framer (Framer.hunt ring now budget framer received).1 := by
  induction budget generalizing framer received with
  | zero => exact .still id rfl
  | succ budget ih =>
    simp only [Framer.hunt]
    have skipped : Episode framer
        { framer with
          hunting := true
          anchor := ringWrap (framer.anchor + 1) ring.length % 65536
          frontier := {} } := .still (fun _ => rfl) rfl
    split
    next => exact .still id rfl
    next =>
      split
      next => exact skipped
      next => exact skipped.trans (ih (received - 1))

theorem settle_episode (received : Nat) : Episode framer (framer.settle ring cursor now tpb received).1 := by
  rw [Framer.settle]
  dsimp only
  split
  next => exact wait_episode
  next =>
    split
    next => exact .still id rfl
    next =>
      split
      next => exact .still id rfl
      next => exact wait_episode

theorem resolve_episode : Episode framer (framer.resolve ring cursor now tpb).1 := by
  simp only [Framer.resolve]
  split
  next => exact .still id rfl
  next =>
    split
    next => exact .still id rfl
    next =>
      have hunted := @hunt_episode framer ring now huntBytesPerWake (dist cursor framer.anchor ring.length)
      split
      next ended =>
        rw [ended] at hunted
        exact hunted
      next candidate received found =>
        rw [found] at hunted
        exact hunted.trans (settle_episode received)

theorem step_episode {t : Timed} {call : FramerCall} (unverified : call ≠ .verified) :
    Episode t.framer (t.step len tpb call).framer := by
  cases call with
  | resolve ring cursor clock => exact resolve_episode
  | verified => exact absurd rfl unverified
  | rejected anchor => exact .still (fun _ => rfl) rfl

theorem run_episode (t : Timed) (calls : List FramerCall) (unverified : .verified ∉ calls) :
    Episode t.framer (run (Timed.step len tpb) t calls).framer := by
  induction calls generalizing t with
  | nil => exact .still id rfl
  | cons call calls ih =>
    rw [List.mem_cons, not_or] at unverified
    exact (step_episode (Ne.symm unverified.1)).trans (ih _ unverified.2)

end Drops

/-- Every wake of a served run is now or within a horizon of the watch, a candidate is given up a horizon after it, and
between two verified frames one drop is counted. -/
theorem wake_law {len : Nat} {tpb : UInt32} (shape : RingShape len) (slow : 1 ≤ tpb.toNat) (fast : tpb.toNat ≤ 2 ^ 20)
    (framer : Framer) (anchored : framer.anchor < len) (idle : framer.frontier = {}) (clock : Nat)
    (calls : List FramerCall)
    (served : Meets (Timed.step len tpb) (Timed.Admits len) (.start framer clock) calls) :
    (∀ before ring cursor now after, calls = before ++ .resolve ring cursor now :: after →
      Wakes tpb (run (Timed.step len tpb) (.start framer clock) before)
        (run (Timed.step len tpb) (.start framer clock) (before ++ [.resolve ring cursor now]))
        ring cursor now) ∧
    ∀ before episode after, calls = before ++ (episode ++ after) → .verified ∉ episode →
      Episode (run (Timed.step len tpb) (.start framer clock) before).framer
        (run (Timed.step len tpb) (.start framer clock) (before ++ episode)).framer := by
  have start : KeepsWatch len tpb (.start framer clock) :=
    ⟨anchored, fun _ => congrArg Frontier.observed idle, fun watch watched => (by cases watched)⟩
  constructor
  next =>
    rintro before ring cursor now after rfl
    rw [meets_append] at served
    obtain ⟨first, admits, -⟩ := served
    have follows := run_invariant _ _ (KeepsWatch len tpb)
      (fun t call follows admits => follows.step shape slow fast call admits) _ start before first
    obtain rfl := admits.1
    rw [run_append, run_cons, run_nil]
    exact (follows.resolve shape slow fast admits).2
  next =>
    rintro before episode after rfl unverified
    rw [run_append]
    exact run_episode _ episode unverified

def stalledRing : List UInt8 := List.replicate 512 0

/-- A break that nothing follows, first seen just before the counter wraps. -/
def stalledCalls : List FramerCall :=
  [.resolve stalledRing 1 (2 ^ 32 - 10), .resolve stalledRing 1 (2 ^ 32 - 10 + 64 * 480)]

theorem wake_law_starves :
    givesUp (run (Timed.step 512 480) (.start {} 0) (stalledCalls.take 1)).framer stalledRing 1
        (UInt32.ofNat (2 ^ 32 - 10 + 64 * 480)) 480 = true ∧
      Wakes 480 (run (Timed.step 512 480) (.start {} 0) (stalledCalls.take 1))
        (run (Timed.step 512 480) (.start {} 0) stalledCalls) stalledRing 1 (2 ^ 32 - 10 + 64 * 480) ∧
      Episode (run (Timed.step 512 480) (.start {} 0) (stalledCalls.take 1)).framer
        (run (Timed.step 512 480) (.start {} 0) stalledCalls).framer := by
  have served : Meets (Timed.step 512 480) (Timed.Admits 512) (.start {} 0) stalledCalls := by
    refine ⟨⟨List.length_replicate, by decide, by decide, fun due asked => (by cases asked), fun _ watched => ?_⟩,
      ⟨List.length_replicate, by decide, ?_, fun due asked => ?_, fun _ _ => rfl⟩, trivial⟩
    next => exact absurd rfl watched
    next => exact Nat.le_add_right _ _
    next =>
      have soon : (Timed.step 512 480 (.start {} 0) (.resolve stalledRing 1 (2 ^ 32 - 10))).due =
          some (2 ^ 32 - 10 + 1702) := by decide +kernel
      obtain rfl := Option.some.inj (soon.symm.trans asked)
      decide
  have law := wake_law ⟨⟨9, rfl⟩, by decide, by decide⟩ (by decide) (by decide) {} (by decide) rfl 0 stalledCalls served
  exact ⟨by decide +kernel, law.1 (stalledCalls.take 1) _ _ _ [] rfl,
    law.2 (stalledCalls.take 1) (stalledCalls.drop 1) [] rfl (by decide)⟩

end OpenServo.Bus
