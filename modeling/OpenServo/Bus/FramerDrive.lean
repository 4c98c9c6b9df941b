import OpenServo.Bus.FramerPace

set_option autoImplicit false

namespace OpenServo.Bus

open OpenServo.Protocol OpenServo.Shared

structure Spotted (ring : List UInt8) (anchor cursor missing : Nat) (span : FrameSpan) : Prop where
  inside : span.anchor < ring.length
  brk : ring.getD span.anchor 0 = 0
  len : 3 ≤ (ring.getD ((span.anchor + 2) % ring.length) 0).toNat
  size : span.footprint = 3 + (ring.getD ((span.anchor + 2) % ring.length) 0).toNat
  most : span.footprint ≤ 258
  received : dist span.anchor anchor ring.length + span.footprint ≤ dist cursor anchor ring.length + missing

/-- A frame that is decoded as someone else's may go without a verdict. -/
inductive Verdict where
  | passed
  | rejected
  | unjudged
deriving DecidableEq

structure Look where
  now : UInt32
  verdict : Verdict

def judged (len : Nat) (verdict : Verdict) (result : Framer × FramerOut) : Framer :=
  match result.2, verdict with
  | .frame _, .passed => result.1.onFrameVerified
  | .frame span, .rejected => result.1.onFrameRejected span.anchor len
  | _, _ => result.1

def Rests (now : UInt32) : FramerOut → Prop
  | .none => True
  | .wait tick => tickReached now tick = false
  | _ => False

instance (now : UInt32) : (out : FramerOut) → Decidable (Rests now out)
  | .none => inferInstanceAs (Decidable True)
  | .wait _ => inferInstanceAs (Decidable (_ = _))
  | .covered _ _ => inferInstanceAs (Decidable False)
  | .frame _ => inferInstanceAs (Decidable False)

section Drive

variable (ring : List UInt8) (cursor : Nat) (tpb : UInt32)

def driven : (looks : Nat → Look) → (n : Nat) → Framer → Framer
  | _, 0, framer => framer
  | looks, n + 1, framer =>
    driven (fun k => looks (k + 1)) n
      (judged ring.length (looks 0).verdict (framer.resolve ring cursor (looks 0).now tpb))

end Drive

section Step

variable {ring : List UInt8} {stream : Nat → UInt8} {framer : Framer} {spot pos : Nat} {now tpb : UInt32}
  {result : Framer × FramerOut}

theorem Sees.candidate {base : Framer} {stop missing : Nat} {due : UInt32} (sees : Sees ring stream framer spot pos)
    (there : Sees ring stream base stop pos) (onward : spot ≤ stop) (likely : Plausible stream stop pos)
    (readable : headerSpanBytes ≤ pos - stop) (near : sizeIn ring base.anchor ≤ pos - stop + missing) :
    Spotted ring framer.anchor (pos % ring.length) missing ⟨base.anchor, sizeIn ring base.anchor, due⟩ := by
  have four : headerSpanBytes = 4 := rfl
  have first := there.first (by omega)
  have third := there.byte 2 (by omega)
  have long : 3 ≤ stream (stop + 2) := by
    rcases likely.2 with short | long
    next => omega
    next => exact long
  have three := UInt8.le_iff_toNat_le.mp long
  have index : (base.anchor + 2) % ring.length = ringWrap (base.anchor + 2) ring.length :=
    (sees.shape.wrap_eq _).symm
  have ahead : dist base.anchor framer.anchor ring.length = stop - spot := by
    have unconsumed := sees.unconsumed
    have ordered := there.ordered
    rw [dist, sees.shape.wrap_u16, sees.shape.wrap_eq, there.anchor, sees.anchor]
    exact wrapped_distance onward (by omega)
  refine ⟨?_, ?_, ?_, ?_, footprint_le _, ?_⟩
  next =>
    dsimp only
    rw [there.anchor]
    have large := sees.shape.large
    exact Nat.mod_lt _ (by omega)
  next => exact first.trans likely.1
  next =>
    dsimp only
    rw [index, third]
    exact three
  next =>
    dsimp only
    rw [index]
    rfl
  next =>
    dsimp only
    rw [ahead, sees.dist_eq]
    omega

theorem Resolved.candidate (sees : Sees ring stream framer spot pos)
    (resolved : Resolved ring stream spot pos now tpb framer result) :
    (∀ span, result.2 = .frame span → Spotted ring framer.anchor (pos % ring.length) 0 span) ∧
      ∀ span due, result.2 = .covered span due → Spotted ring framer.anchor (pos % ring.length) 2 span := by
  cases resolved with
  | idle | exhausted | paused => exact ⟨fun _ emits => (by cases emits), fun _ _ emits => (by cases emits)⟩
  | stands stop base _ short start likely there pace =>
    have onward : spot ≤ stop := by omega
    have distance := there.dist_eq
    cases pace with
    | waits | gaveUp => exact ⟨fun _ emits => (by cases emits), fun _ _ emits => (by cases emits)⟩
    | covered bytes few fresh near =>
      refine ⟨fun _ emits => (by cases emits), fun span due emits => ?_⟩
      cases emits
      have readable := near.readable
      have close := near.near
      rw [distance] at readable close
      exact sees.candidate there onward likely readable close
    | frame readable whole =>
      refine ⟨fun span emits => ?_, fun _ _ emits => (by cases emits)⟩
      cases emits
      rw [distance] at readable whole
      exact sees.candidate there onward likely readable whole

/-- What is left to scan, and one more where the covered checkpoint is still to come. -/
def toGo (framer : Framer) (spot pos : Nat) : Nat :=
  2 * (pos - spot) + if framer.frontier.covered then 0 else 1

theorem toGo_bounds (framer : Framer) (spot pos : Nat) :
    2 * (pos - spot) ≤ toGo framer spot pos ∧ toGo framer spot pos ≤ 2 * (pos - spot) + 1 := by
  rw [toGo]
  split <;> omega

theorem Resolved.nears (sees : Sees ring stream framer spot pos) (slow : 0 < tpb.toNat) (fast : tpb.toNat ≤ 2 ^ 22)
    (resolved : Resolved ring stream spot pos now tpb framer result) (moving : ¬ Rests now result.2)
    (verdict : Verdict) :
    ∃ next, Sees ring stream (judged ring.length verdict result) next pos ∧
      toGo (judged ring.length verdict result) next pos < toGo framer spot pos := by
  have here := toGo_bounds framer spot pos
  -- A call that does not wait passes over a byte or covers a candidate.
  cases resolved with
  | idle level => exact absurd trivial moving
  | exhausted moved => exact absurd trivial moving
  | paused stop moved short =>
    refine ⟨stop, sees.hunted (Nat.le_of_lt moved) (Nat.le_of_lt short), ?_⟩
    have left := toGo_bounds (framer.hunted (stop % ring.length)) stop pos
    have next : toGo (framer.hunted (stop % ring.length)) stop pos < toGo framer spot pos := by omega
    exact next
  | stands stop base _ short start likely there pace =>
    have bounds := toGo_bounds base stop pos
    have onward : toGo base stop pos ≤ toGo framer spot pos := by
      rcases start with ⟨rfl, rfl⟩ | ⟨moved, rfl⟩
      next => exact Nat.le_refl _
      next => omega
    have unconsumed := there.unconsumed
    cases pace with
    | waits lead isLead alive far =>
      exact absurd (soonest_ahead (isLead.range slow fast) (horizon_ahead slow fast alive)) moving
    | gaveUp observed seen starved =>
      refine ⟨stop + 1, ⟨there.shape, there.wrap 1, short, by omega, there.shows.mono (by omega)⟩, ?_⟩
      have left := toGo_bounds (base.giveUp ring.length now).1 (stop + 1) pos
      have next : toGo (base.giveUp ring.length now).1 (stop + 1) pos < toGo framer spot pos := by omega
      exact next
    | covered bytes few fresh near =>
      refine ⟨stop, ⟨there.shape, there.anchor, there.ordered, unconsumed, there.shows⟩, ?_⟩
      rw [toGo, fresh] at onward
      exact Nat.lt_of_lt_of_le (Nat.lt_succ_self _) onward
    | frame readable whole =>
      rw [there.dist_eq] at whole
      have size : 3 ≤ sizeIn ring base.anchor := Nat.le_add_right _ _
      cases verdict with
      | passed | unjudged =>
        refine ⟨stop + sizeIn ring base.anchor,
          ⟨there.shape, there.wrap _, by omega, by omega, there.shows.mono (by omega)⟩, ?_⟩
        have ends : 2 * (pos - (stop + sizeIn ring base.anchor)) + 1 < toGo framer spot pos := by omega
        exact ends
      | rejected =>
        refine ⟨stop + 1, ⟨there.shape, there.wrap 1, short, by omega, there.shows.mono (by omega)⟩, ?_⟩
        have ends : 2 * (pos - (stop + 1)) + 1 < toGo framer spot pos := by omega
        exact ends

theorem driven_rests (sees : Sees ring stream framer spot pos) (slow : 0 < tpb.toNat) (fast : tpb.toNat ≤ 2 ^ 22)
    (looks : Nat → Look) :
    ∃ n, n ≤ toGo framer spot pos ∧ Rests (looks n).now
      ((driven ring (pos % ring.length) tpb looks n framer).resolve ring (pos % ring.length) (looks n).now tpb).2 := by
  generalize size : toGo framer spot pos = left
  induction left using Nat.strong_induction_on generalizing framer spot looks with
  | _ left ih =>
    have resolved := resolve_resolved sees (looks 0).now tpb
    by_cases rests : Rests (looks 0).now (framer.resolve ring (pos % ring.length) (looks 0).now tpb).2
    next => exact ⟨0, Nat.zero_le _, rests⟩
    next =>
      obtain ⟨next, there, nearer⟩ := resolved.nears sees slow fast rests (looks 0).verdict
      obtain ⟨n, soon, later⟩ := ih _ (by omega) there (fun k => looks (k + 1)) rfl
      exact ⟨n + 1, by omega, later⟩

end Step

theorem framer_progress {ring : List UInt8} {framer : Framer} {cursor : Nat} (shape : RingShape ring.length)
    (anchored : framer.anchor < ring.length) (inside : cursor < ring.length) :
    (∀ now tpb span, (framer.resolve ring cursor now tpb).2 = .frame span →
        Spotted ring framer.anchor cursor 0 span ∧
          ((framer.resolve ring cursor now tpb).1.onFrameRejected span.anchor ring.length).anchor =
            (span.anchor + 1) % ring.length) ∧
      (∀ now tpb span due, (framer.resolve ring cursor now tpb).2 = .covered span due →
        Spotted ring framer.anchor cursor 2 span) ∧
      ∀ tpb, 0 < tpb.toNat → tpb.toNat ≤ 2 ^ 22 → ∀ looks : Nat → Look, ∃ n, n < 2 * ring.length ∧
        Rests (looks n).now ((driven ring cursor tpb looks n framer).resolve ring cursor (looks n).now tpb).2 := by
  obtain ⟨pos, rfl, sees⟩ := sees_ring shape anchored inside
  refine ⟨fun now tpb span emits => ⟨?_, ?_⟩, fun now tpb span due emits => ?_, fun tpb slow fast looks => ?_⟩
  next => exact ((resolve_resolved sees now tpb).candidate sees).1 span emits
  next => rw [Framer.onFrameRejected, shape.wrap_u16, shape.wrap_eq]
  next => exact ((resolve_resolved sees now tpb).candidate sees).2 span due emits
  next =>
    obtain ⟨n, soon, rests⟩ := driven_rests sees slow fast looks
    have unconsumed := sees.unconsumed
    refine ⟨n, ?_, rests⟩
    rw [toGo] at soon
    split at soon <;> omega

def noiseRing : List UInt8 :=
  List.replicate 512 0x55

theorem framer_progress_noise :
    ∃ n, n < 2 * noiseRing.length ∧
      Rests 7 ((driven noiseRing 300 480 (fun _ => ⟨7, .rejected⟩) n {}).resolve noiseRing 300 7 480).2 := by
  have length : noiseRing.length = 512 := List.length_replicate
  have shape : RingShape noiseRing.length := by
    rw [length]
    exact ⟨⟨9, rfl⟩, by decide, by decide⟩
  exact (@framer_progress noiseRing {} 300 shape (by rw [length]; decide) (by rw [length]; decide)).2.2 480 (by decide)
    (by decide) (fun _ => ⟨7, .rejected⟩)

end OpenServo.Bus
