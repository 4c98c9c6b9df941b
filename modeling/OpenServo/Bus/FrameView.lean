import OpenServo.Bus.FramerStream
import OpenServo.Bus.ServoBus

set_option autoImplicit false

namespace OpenServo.Bus

open OpenServo.Protocol OpenServo.Shared

section View

variable {ring : List UInt8} {anchor footprint : Nat}

theorem frameView_bytes (inside : anchor < ring.length) (fits : footprint ≤ ring.length) :
    (frameView ring anchor footprint).bytes = around ring 0 anchor footprint := by
  simp only [frameView]
  split
  next one => rw [FrameBytes.bytes_ofList, around_inside _ _ _ _ one]
  next two =>
    rw [around_seam _ _ _ _ (by omega) (by omega) (by omega)]
    simp only [FrameBytes.bytes, List.extract_eq_take_drop, List.drop_zero, Nat.sub_zero]
    have whole : (ring.drop anchor).take (ring.length - anchor) = ring.drop anchor :=
      List.take_of_length_le (by simp)
    rw [whole, show footprint - (ring.length - anchor) = anchor + footprint - ring.length by omega]

theorem frameView_len (inside : anchor < ring.length) (fits : footprint ≤ ring.length) :
    (frameView ring anchor footprint).len = footprint := by
  rw [← FrameBytes.length_bytes, frameView_bytes inside fits, around_length]

end View

def coveredOf (view : FrameBytes) : List UInt8 :=
  view.bytes.take (view.len - 2)

def CrcHolds (view : FrameBytes) : Prop :=
  oscCrc ((coveredOf view).drop 1) =
    u16FromLe (view.bytes.getD (view.len - 2) 0) (view.bytes.getD (view.len - 1) 0)

instance (view : FrameBytes) : Decidable (CrcHolds view) :=
  inferInstanceAs (Decidable (_ = _))

/-- What the engine makes of a covered span that starts at `anchor`: its even bulk. -/
def bulkSum (anchor : Nat) (covered : List UInt8) : UInt16 :=
  let aligned := covered.drop (anchor % 2)
  oscCrc (aligned.take (aligned.length - aligned.length % 2))

section Sum

variable {ring : List UInt8} {anchor footprint : Nat} (shape : RingShape ring.length)
  (inside : anchor < ring.length) (low : 6 ≤ footprint) (high : footprint ≤ 258)

include shape inside low high

theorem coveredOf_frameView :
    coveredOf (frameView ring anchor footprint) = around ring 0 anchor (footprint - 2) := by
  have large := shape.large
  rw [coveredOf, frameView_len inside (by omega), frameView_bytes inside (by omega)]
  have split := around_append ring 0 anchor (footprint - 2) 2
  rw [show footprint - 2 + 2 = footprint by omega] at split
  rw [split, List.take_append_of_le_length (by simp), List.take_of_length_le (by simp)]

theorem crcFeed_bulkSum (engine : CrcEngine) :
    (crcFeed engine ring anchor footprint).acc =
      bulkSum anchor (coveredOf (frameView ring anchor footprint)) := by
  have large := shape.large
  rw [crcFeed_acc engine inside (even_of_pow shape.pow (by omega)) large low high,
    coveredOf_frameView shape inside low high, bulkSum]
  have aligned : (around ring 0 anchor (footprint - 2)).drop (anchor % 2) =
      around ring 0 (anchor + anchor % 2) (footprint - 2 - anchor % 2) := by
    have split := around_append ring 0 anchor (anchor % 2) (footprint - 2 - anchor % 2)
    rw [show anchor % 2 + (footprint - 2 - anchor % 2) = footprint - 2 by omega] at split
    rw [split, List.drop_left' (by simp)]
  rw [aligned, around_length]
  have even := around_append ring 0 (anchor + anchor % 2)
    (footprint - 2 - anchor % 2 - (footprint - 2 - anchor % 2) % 2) ((footprint - 2 - anchor % 2) % 2)
  rw [show footprint - 2 - anchor % 2 - (footprint - 2 - anchor % 2) % 2 +
    (footprint - 2 - anchor % 2) % 2 = footprint - 2 - anchor % 2 by omega] at even
  rw [even, List.take_left' (by simp)]

theorem crcVerify_iff {engine : CrcEngine} {lag : Nat} (brk : ring.getD anchor 0 = 0)
    (sum : engine.acc = bulkSum anchor (coveredOf (frameView ring anchor footprint))) :
    crcVerify engine lag ring anchor footprint = true ↔
      lag ≤ spinPerByte * (footprint - 2) ∧ CrcHolds (frameView ring anchor footprint) := by
  have large := shape.large
  have fed : crcVerify engine lag ring anchor footprint =
      crcVerify (crcFeed engine ring anchor footprint) lag ring anchor footprint := by
    simp only [crcVerify, CrcEngine.await_eq, crcFeed_bulkSum shape inside low high, sum]
  have bytes := @frameView_bytes ring anchor footprint inside (by omega)
  have tail (i : Nat) (within : i < footprint) :
      (around ring 0 anchor footprint).getD i 0 = ring.getD ((anchor + i) % ring.length) 0 := by
    simp [around, List.getD_eq_getElem?_getD, List.getElem?_map, List.getElem?_range within]
  have body : (around ring 0 anchor (footprint - 2)).drop 1 = coveredBytes ring anchor footprint := by
    rw [show footprint - 2 = footprint - 3 + 1 by omega, around_succ, List.drop_one, List.tail_cons,
      coveredBytes]
  have holds : CrcHolds (frameView ring anchor footprint) ↔
      oscCrc (coveredBytes ring anchor footprint) = wireCrc ring anchor footprint := by
    rw [CrcHolds, coveredOf_frameView shape inside low high, frameView_len inside (by omega), bytes, body,
      wireCrc, tail _ (by omega), tail _ (by omega), show anchor + (footprint - 2) = anchor + footprint - 2 by omega,
      show anchor + (footprint - 1) = anchor + footprint - 2 + 1 by omega]
  by_cases drains : lag ≤ spinPerByte * (footprint - 2)
  next =>
    rw [fed, crcVerify_crcFeed_iff engine lag shape.pow large inside brk low high drains, ← holds]
    exact ⟨fun good => ⟨drains, good⟩, fun both => both.2⟩
  next => simp [crcVerify, CrcEngine.await_eq, drains]

theorem crcOk_iff {engine : CrcEngine} {lag : Nat} (brk : ring.getD anchor 0 = 0) :
    (crcOk engine lag ring anchor footprint).2 = true ↔
      lag ≤ spinPerByte * (footprint - 2) ∧ CrcHolds (frameView ring anchor footprint) := by
  have large := shape.large
  have some : (ring.isEmpty || decide (footprint < 2)) = false := by
    have nonempty : ring ≠ [] := by
      rintro rfl
      simp at large
    simp [nonempty]
    omega
  simp only [crcOk, some]
  exact crcVerify_iff shape inside low high brk (crcFeed_bulkSum shape inside low high engine)

end Sum

structure Candidate (ring : List UInt8) (span : FrameSpan) : Prop where
  inside : span.anchor < ring.length
  brk : ring.getD span.anchor 0 = 0
  footprint : span.footprint = Protocol.footprint (ring.getD ((span.anchor + 2) % ring.length) 0)
  low : 6 ≤ span.footprint
  high : span.footprint ≤ 258

/-- The ring as a stream of its own laps: what one look at it says holds of any stream it could show. -/
theorem resolve_candidate {ring : List UInt8} {framer : Framer} {cursor : Nat} {now tpb : UInt32}
    (shape : RingShape ring.length) (inside : framer.anchor < ring.length) (within : cursor < ring.length) :
    (framer.resolve ring cursor now tpb).1.anchor < ring.length ∧
      (∀ span, (framer.resolve ring cursor now tpb).2 = .frame span → Candidate ring span) ∧
      ∀ span due, (framer.resolve ring cursor now tpb).2 = .covered span due → Candidate ring span := by
  have positive := pow_pos shape.pow
  obtain ⟨pos, wraps, ordered, unconsumed⟩ : ∃ pos, pos % ring.length = cursor ∧ framer.anchor ≤ pos ∧
      pos < framer.anchor + ring.length := by
    by_cases ahead : framer.anchor ≤ cursor
    next => exact ⟨cursor, Nat.mod_eq_of_lt within, ahead, by omega⟩
    next =>
      refine ⟨cursor + ring.length, ?_, by omega, by omega⟩
      rw [Nat.add_mod_right, Nat.mod_eq_of_lt within]
  have sees : Sees ring (fun q => ring.getD (q % ring.length) 0) framer framer.anchor pos :=
    ⟨shape, (Nat.mod_eq_of_lt inside).symm, ordered, unconsumed, fun _ _ _ => rfl⟩
  obtain ⟨next, landing⟩ := resolve_spec sees now tpb
  rw [wraps] at landing
  have candidate (q : Nat) (geometry : Geometry (fun q => ring.getD (q % ring.length) 0) q)
      (packetEnd : UInt32) :
      Candidate ring ⟨q % ring.length, sizeAt (fun q => ring.getD (q % ring.length) 0) q, packetEnd⟩ := by
    have size := geometry.size_le
    exact ⟨Nat.mod_lt _ positive, geometry.brk, by simp [sizeAt, Nat.mod_add_mod], size.1, size.2⟩
  refine ⟨?_, ?_, ?_⟩
  next =>
    rw [landing.anchor_eq sees.anchor]
    exact Nat.mod_lt _ positive
  next =>
    intro span emits
    obtain ⟨q, -, rfl, -, -, geometry⟩ := landing.frame_inv emits
    exact candidate q geometry _
  next =>
    intro span due emits
    obtain ⟨-, rfl, geometry⟩ := landing.covered_inv emits
    exact candidate next geometry _

end OpenServo.Bus
