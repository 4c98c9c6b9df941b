import OpenServo.Bus.FramerStream

set_option autoImplicit false

namespace OpenServo.Bus

open OpenServo.Protocol OpenServo.Shared

theorem tickReached_iff (a b : UInt32) : tickReached a b = true ↔ (a - b).toNat < 2 ^ 31 - 1 := by
  rw [tickReached, decide_eq_true_eq, UInt32.lt_iff_toNat_lt]
  exact Iff.rfl

/-- How far ahead a projection looks: some bytes of a frame at wire pace, with half a byte for the break. -/
def Lead (tpb lead : UInt32) : Prop :=
  ∃ bytes, 0 < bytes ∧ bytes ≤ 254 ∧ (lead = wireLead bytes tpb ∨ lead = wireLead bytes tpb + tpb / 2)

theorem wireLead_toNat {bytes : Nat} {tpb : UInt32} (few : bytes ≤ 254) (fast : tpb.toNat ≤ 2 ^ 22) :
    (wireLead bytes tpb).toNat = bytes * tpb.toNat + bytes * tpb.toNat / 64 := by
  have most : bytes * tpb.toNat ≤ 254 * 2 ^ 22 := Nat.mul_le_mul few fast
  have product : (UInt32.ofNat bytes * tpb).toNat = bytes * tpb.toNat := by
    rw [UInt32.toNat_mul, UInt32.toNat_ofNat', Nat.mod_eq_of_lt (show bytes < 2 ^ 32 by omega)]
    exact Nat.mod_eq_of_lt (by omega)
  have pad : ((UInt32.ofNat bytes * tpb) >>> 6).toNat = bytes * tpb.toNat / 64 := by
    rw [UInt32.toNat_shiftRight, product, Nat.shiftRight_eq_div_pow]
    rfl
  rw [wireLead, UInt32.toNat_add, product, pad]
  exact Nat.mod_eq_of_lt (by omega)

theorem Lead.range {tpb lead : UInt32} (isLead : Lead tpb lead) (slow : 0 < tpb.toNat) (fast : tpb.toNat ≤ 2 ^ 22) :
    0 < lead.toNat ∧ lead.toNat < 2 ^ 31 - 1 := by
  obtain ⟨bytes, some, few, exact' | halved⟩ := isLead
  next =>
    have least : 1 * tpb.toNat ≤ bytes * tpb.toNat := Nat.mul_le_mul_right _ some
    have most : bytes * tpb.toNat ≤ 254 * 2 ^ 22 := Nat.mul_le_mul few fast
    rw [exact', wireLead_toNat few fast]
    omega
  next =>
    have least : 1 * tpb.toNat ≤ bytes * tpb.toNat := Nat.mul_le_mul_right _ some
    have most : bytes * tpb.toNat ≤ 254 * 2 ^ 22 := Nat.mul_le_mul few fast
    have half : (tpb / 2).toNat = tpb.toNat / 2 := UInt32.toNat_div _ _
    rw [halved, UInt32.toNat_add, wireLead_toNat few fast, half, Nat.mod_eq_of_lt (by omega)]
    omega

def soonest (now lead horizon : UInt32) : UInt32 :=
  if lead ≤ horizon - now then now + lead else horizon

theorem soonest_ahead {now lead horizon : UInt32} (range : 0 < lead.toNat ∧ lead.toNat < 2 ^ 31 - 1)
    (ahead : tickReached now horizon = false) : tickReached now (soonest now lead horizon) = false := by
  rw [soonest]
  split
  next sooner =>
    apply Bool.eq_false_iff.mpr
    rw [ne_eq, tickReached_iff, UInt32.toNat_sub, UInt32.toNat_add]
    have wide := now.toNat_lt
    omega
  next => exact ahead

theorem soonest_sub {now lead horizon : UInt32} : (soonest now lead horizon - now).toNat ≤ (horizon - now).toNat := by
  rw [soonest]
  split
  next sooner =>
    have back : now + lead - now = lead := by
      rw [UInt32.add_comm]
      exact UInt32.add_sub_cancel lead now
    rw [back]
    exact UInt32.le_iff_toNat_le.mp sooner
  next => exact Nat.le_refl _

theorem starveSpan_toNat {tpb : UInt32} (fast : tpb.toNat ≤ 2 ^ 22) : (starveSpan tpb).toNat = 64 * tpb.toNat := by
  rw [starveSpan, UInt32.toNat_mul]
  exact Nat.mod_eq_of_lt (by show 64 * tpb.toNat < 2 ^ 32; omega)

theorem horizon_ahead {frontier : Frontier} {cursor : Nat} {now tpb : UInt32} (slow : 0 < tpb.toNat)
    (fast : tpb.toNat ≤ 2 ^ 22)
    (alive : frontier.observed = true → cursor = frontier.seen →
      tickReached now (frontier.progressTick + starveSpan tpb) = false) :
    tickReached now ((frontier.advance cursor now).progressTick + starveSpan tpb) = false := by
  rw [Frontier.advance]
  split
  next unmoved => exact alive unmoved.1 unmoved.2
  next =>
    dsimp only
    apply Bool.eq_false_iff.mpr
    rw [ne_eq, tickReached_iff, UInt32.toNat_sub, UInt32.toNat_add, starveSpan_toNat fast]
    have wide := now.toNat_lt
    omega

def sizeIn (ring : List UInt8) (anchor : Nat) : Nat :=
  footprint (ring.getD (ringWrap (anchor + 2) ring.length) 0)

structure Near (ring : List UInt8) (cursor anchor : Nat) : Prop where
  readable : headerSpanBytes ≤ dist cursor anchor ring.length
  unfinished : dist cursor anchor ring.length < sizeIn ring anchor
  near : sizeIn ring anchor ≤ dist cursor anchor ring.length + coveredTailBytes

inductive Pace (ring : List UInt8) (cursor : Nat) (now tpb : UInt32) (framer : Framer) : Framer × FramerOut → Prop where
  | waits (lead : UInt32) (isLead : Lead tpb lead)
      (alive : framer.frontier.observed = true → cursor = framer.frontier.seen →
        tickReached now (framer.frontier.progressTick + starveSpan tpb) = false)
      (far : framer.frontier.covered = true ∨ ¬ Near ring cursor framer.anchor) :
      Pace ring cursor now tpb framer
        ({ framer with frontier := framer.frontier.advance cursor now },
          .wait (soonest now lead ((framer.frontier.advance cursor now).progressTick + starveSpan tpb)))
  | gaveUp (observed : framer.frontier.observed = true) (seen : cursor = framer.frontier.seen)
      (starved : tickReached now (framer.frontier.progressTick + starveSpan tpb) = true) :
      Pace ring cursor now tpb framer (framer.giveUp ring.length now)
  | covered (bytes : Nat) (few : bytes ≤ coveredTailBytes)
      (fresh : framer.frontier.covered = false) (near : Near ring cursor framer.anchor) :
      Pace ring cursor now tpb framer
        ({ framer with frontier := { framer.frontier.advance cursor now with covered := true } },
          .covered ⟨framer.anchor, sizeIn ring framer.anchor, now + wireLead bytes tpb⟩ (now + wireLead bytes tpb))
  | frame (readable : headerSpanBytes ≤ dist cursor framer.anchor ring.length)
      (whole : sizeIn ring framer.anchor ≤ dist cursor framer.anchor ring.length) :
      Pace ring cursor now tpb framer
        ({ framer with
            anchor := ringWrap (framer.anchor + sizeIn ring framer.anchor) ring.length % 65536
            frontier := {} },
          .frame ⟨framer.anchor, sizeIn ring framer.anchor, now⟩)

section Ring

variable {ring : List UInt8} {framer : Framer} {cursor : Nat} {now tpb : UInt32}

theorem wait_pace {aim lead : UInt32} (ahead : aim = now + lead) (isLead : Lead tpb lead)
    (far : framer.frontier.covered = true ∨ ¬ Near ring cursor framer.anchor) :
    Pace ring cursor now tpb framer (framer.wait aim now tpb cursor ring.length) := by
  subst ahead
  have back : now + lead - now = lead := by
    rw [UInt32.add_comm]
    exact UInt32.add_sub_cancel lead now
  simp only [Framer.wait]
  rw [back]
  split
  next dead =>
    simp only [Bool.and_eq_true, decide_eq_true_eq] at dead
    obtain ⟨⟨observed, seen⟩, starved⟩ := dead
    have unmoved : framer.frontier.advance cursor now = framer.frontier := by
      rw [Frontier.advance, if_pos ⟨observed, seen⟩]
    rw [unmoved] at starved ⊢
    exact .gaveUp observed seen starved
  next alive =>
    refine .waits lead isLead (fun observed seen => ?_) far
    have unmoved : framer.frontier.advance cursor now = framer.frontier := by
      rw [Frontier.advance, if_pos ⟨observed, seen⟩]
    rw [unmoved] at alive
    apply Bool.eq_false_iff.mpr
    intro reached
    exact alive (by rw [observed, reached, decide_eq_true seen]; rfl)

theorem settle_pace :
    Pace ring cursor now tpb framer
      (framer.settle ring cursor now tpb (dist cursor framer.anchor ring.length)) := by
  have most : sizeIn ring framer.anchor ≤ 258 := footprint_le _
  have header : headerSpanBytes = 4 := rfl
  have trailer : coveredTailBytes = 2 := rfl
  rw [Framer.settle]
  dsimp only
  rw [← sizeIn]
  split
  next short =>
    exact wait_pace (UInt32.add_assoc _ _ _) ⟨_, by omega, by omega, .inr rfl⟩
      (.inr fun near => absurd near.readable (by omega))
  next readable =>
    split
    next whole => exact .frame (by omega) whole
    next unfinished =>
      split
      next close =>
        rw [Bool.and_eq_true, decide_eq_true_eq, Bool.not_eq_true'] at close
        exact .covered _ close.2 close.1 ⟨by omega, by omega, by omega⟩
      next apart =>
        cases covered : framer.frontier.covered with
        | true =>
          rw [if_pos rfl]
          exact wait_pace rfl ⟨_, by omega, by omega, .inl rfl⟩ (.inl covered)
        | false =>
          have far : ¬ sizeIn ring framer.anchor - dist cursor framer.anchor ring.length ≤ coveredTailBytes := by
            intro close
            exact apart (by rw [covered, decide_eq_true close]; rfl)
          rw [if_neg (by decide)]
          exact wait_pace rfl ⟨_, by omega, by omega, .inl rfl⟩ (.inr fun near => absurd near.near (by omega))

end Ring

inductive Resolved (ring : List UInt8) (stream : Nat → UInt8) (spot pos : Nat) (now tpb : UInt32) (framer : Framer) :
    Framer × FramerOut → Prop where
  | idle (level : spot = pos) : Resolved ring stream spot pos now tpb framer ({ framer with frontier := {} }, .none)
  | exhausted (moved : spot < pos) :
      Resolved ring stream spot pos now tpb framer (framer.hunted (pos % ring.length), .none)
  | paused (stop : Nat) (moved : spot < stop) (short : stop < pos) :
      Resolved ring stream spot pos now tpb framer (framer.hunted (stop % ring.length), .wait now)
  | stands (stop : Nat) (base : Framer) (result : Framer × FramerOut) (short : stop < pos)
      (start : stop = spot ∧ base = framer ∨ spot < stop ∧ base = framer.hunted (stop % ring.length))
      (likely : Plausible stream stop pos) (sees : Sees ring stream base stop pos)
      (pace : Pace ring (pos % ring.length) now tpb base result) :
      Resolved ring stream spot pos now tpb framer result

theorem resolve_resolved {ring : List UInt8} {stream : Nat → UInt8} {framer : Framer} {spot pos : Nat}
    (sees : Sees ring stream framer spot pos) (now tpb : UInt32) :
    Resolved ring stream spot pos now tpb framer (framer.resolve ring (pos % ring.length) now tpb) := by
  have nonempty : ring.length ≠ 0 := by have := sees.shape.large; omega
  have ordered := sees.ordered
  simp only [Framer.resolve, nonempty, if_false, sees.dist_eq]
  split
  next level => exact .idle (by omega)
  next some =>
    have hunted := hunt_spec sees (by omega) now 63
    rw [show 63 + 1 = huntBytesPerWake by rfl] at hunted
    generalize Framer.hunt ring now huntBytesPerWake framer (pos - spot) = result at hunted ⊢
    cases hunted with
    | exhausted skipped moved => exact .exhausted moved
    | paused stop skipped moved short => exact .paused stop moved short
    | stayed likely =>
      dsimp only
      rw [← sees.dist_eq]
      exact .stands spot framer _ (by omega) (.inl ⟨rfl, rfl⟩) likely sees settle_pace
    | found stop skipped moved short likely =>
      have there := sees.hunted (Nat.le_of_lt moved) (Nat.le_of_lt short)
      dsimp only
      rw [← there.dist_eq]
      exact .stands stop _ _ short (.inr ⟨moved, rfl⟩) likely there settle_pace

theorem sees_ring {ring : List UInt8} {framer : Framer} {cursor : Nat} (shape : RingShape ring.length)
    (anchored : framer.anchor < ring.length) (inside : cursor < ring.length) :
    ∃ pos, pos % ring.length = cursor ∧
      Sees ring (fun q => ring.getD (q % ring.length) 0) framer framer.anchor pos := by
  refine ⟨framer.anchor + (cursor + ring.length - framer.anchor) % ring.length, ?_, shape,
    (Nat.mod_eq_of_lt anchored).symm, by omega, ?_, fun _ _ _ => rfl⟩
  next => rw [Nat.add_mod_mod, Nat.add_sub_cancel' (by omega), Nat.add_mod_right, Nat.mod_eq_of_lt inside]
  next => exact Nat.add_lt_add_left (Nat.mod_lt _ (by omega)) _

end OpenServo.Bus
