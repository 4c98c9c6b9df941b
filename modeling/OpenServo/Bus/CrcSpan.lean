import OpenServo.Bus.Providers
import OpenServo.Protocol.Bytes

set_option autoImplicit false

namespace OpenServo.Bus

open OpenServo.Protocol OpenServo.Shared

/-- The ring chunks, as offset and length, that `crc_feed` hands to the engine. -/
def crcFeedChunks (len anchor footprint : Nat) : List (Nat × Nat) :=
  let start := anchor + anchor % 2
  let stop := anchor + footprint - 2
  let bulkEnd := stop - (stop - start) % 2
  if bulkEnd ≤ len then
    [(start, bulkEnd - start)]
  else
    [(start, len - start), (0, bulkEnd - len)]

def crcFeed (engine : CrcEngine) (ring : List UInt8) (anchor footprint : Nat) : CrcEngine :=
  ((crcFeedChunks ring.length anchor footprint).map
    (fun chunk => ring.extract chunk.1 (chunk.1 + chunk.2))).foldl CrcEngine.feed engine.reset

def crcTail (ring : List UInt8) (anchor footprint : Nat) : Option UInt8 :=
  let start := anchor + anchor % 2
  let stop := anchor + footprint - 2
  if (stop - start) % 2 = 1 then some (ring.getD ((stop - 1) % ring.length) 0) else none

def wireCrc (ring : List UInt8) (anchor footprint : Nat) : UInt16 :=
  let stop := anchor + footprint - 2
  u16FromLe (ring.getD (stop % ring.length) 0) (ring.getD ((stop + 1) % ring.length) 0)

def crcVerify (engine : CrcEngine) (lag : Nat) (ring : List UInt8) (anchor footprint : Nat) : Bool :=
  match engine.await lag (spinPerByte * (footprint - 2)) with
  | some v =>
    let v :=
      match crcTail ring anchor footprint with
      | some b => oscCrcContinue v [b]
      | none => v
    v == wireCrc ring anchor footprint
  | none => false

def crcOk (engine : CrcEngine) (lag : Nat) (ring : List UInt8) (anchor footprint : Nat) :
    CrcEngine × Bool :=
  if ring.isEmpty || footprint < 2 then
    (engine, false)
  else
    let engine := crcFeed engine ring anchor footprint
    (engine, crcVerify engine lag ring anchor footprint)

def coveredBytes (ring : List UInt8) (anchor footprint : Nat) : List UInt8 :=
  around ring 0 (anchor + 1) (footprint - 3)

@[simp] theorem crcFeed_snap (engine : CrcEngine) (ring : List UInt8) (anchor footprint : Nat) :
    (crcFeed engine ring anchor footprint).snap = engine.snap := by
  rw [crcFeed, CrcEngine.foldl_feed]
  rfl

section Span

variable {ring : List UInt8} {anchor footprint : Nat}

theorem crcFeedChunks_aligned (even : ring.length % 2 = 0) (large : 512 ≤ ring.length)
    (inside : anchor < ring.length) (low : 6 ≤ footprint) (high : footprint ≤ 258) :
    ∀ chunk ∈ crcFeedChunks ring.length anchor footprint,
      chunk.1 % 2 = 0 ∧ chunk.2 % 2 = 0 ∧ chunk.1 + chunk.2 ≤ ring.length := by
  intro chunk member
  simp only [crcFeedChunks] at member
  split at member
  next =>
    obtain rfl := List.mem_singleton.mp member
    refine ⟨?_, ?_, ?_⟩ <;> simp only <;> omega
  next wraps =>
    rcases List.mem_pair.mp member with rfl | rfl <;> refine ⟨?_, ?_, ?_⟩ <;> simp only <;> omega

theorem crcFeed_acc (engine : CrcEngine) (inside : anchor < ring.length) (even : ring.length % 2 = 0)
    (large : 512 ≤ ring.length) (low : 6 ≤ footprint) (high : footprint ≤ 258) :
    (crcFeed engine ring anchor footprint).acc =
      oscCrc (around ring 0 (anchor + anchor % 2)
        (footprint - 2 - anchor % 2 - (footprint - 2 - anchor % 2) % 2)) := by
  have length : anchor + footprint - 2 - (anchor + anchor % 2) = footprint - 2 - anchor % 2 := by
    omega
  rw [crcFeed, CrcEngine.foldl_feed]
  simp only [CrcEngine.feed, CrcEngine.reset, oscCrc, crcFeedChunks, length]
  congr 1
  split
  next fits =>
    rw [around_inside _ _ _ _ (by omega)]
    simp only [List.map_cons, List.map_nil, List.flatten_cons, List.flatten_nil, List.append_nil]
    congr 1
    omega
  next wraps =>
    rw [around_seam _ _ _ _ (by omega) (by omega) (by omega)]
    simp only [List.map_cons, List.map_nil, List.flatten_cons, List.flatten_nil, List.append_nil]
    congr 2 <;> omega

theorem crcFeed_crcTail (engine : CrcEngine) (inside : anchor < ring.length)
    (even : ring.length % 2 = 0) (large : 512 ≤ ring.length) (low : 6 ≤ footprint)
    (high : footprint ≤ 258) (brk : ring.getD anchor 0 = 0) :
    (match crcTail ring anchor footprint with
      | some b => oscCrcContinue (crcFeed engine ring anchor footprint).acc [b]
      | none => (crcFeed engine ring anchor footprint).acc) =
      oscCrc (coveredBytes ring anchor footprint) := by
  have bulk := crcFeed_acc engine inside even large low high
  have whole : oscCrc (around ring 0 (anchor + anchor % 2) (footprint - 2 - anchor % 2)) =
      oscCrc (coveredBytes ring anchor footprint) := by
    rcases Nat.mod_two_eq_zero_or_one anchor with aligned | odd
    next =>
      rw [aligned, show footprint - 2 - 0 = footprint - 3 + 1 by omega, around_succ, Nat.add_zero,
        Nat.mod_eq_of_lt inside, brk]
      exact oscCrc_break_cons _
    next =>
      rw [odd, show footprint - 2 - 1 = footprint - 3 by omega, coveredBytes]
  have length : anchor + footprint - 2 - (anchor + anchor % 2) = footprint - 2 - anchor % 2 := by
    omega
  rw [← whole, bulk]
  simp only [crcTail, length]
  by_cases odd : (footprint - 2 - anchor % 2) % 2 = 1
  next =>
    have last : anchor + footprint - 2 - 1 = anchor + anchor % 2 + (footprint - 2 - anchor % 2 - 1) := by
      omega
    have split := around_concat ring 0 (anchor + anchor % 2) (footprint - 2 - anchor % 2 - 1)
    rw [show footprint - 2 - anchor % 2 - 1 + 1 = footprint - 2 - anchor % 2 by omega] at split
    rw [if_pos odd, split, odd, last, oscCrc, oscCrc, oscCrcContinue_append]
  next =>
    rw [if_neg odd, show (footprint - 2 - anchor % 2) % 2 = 0 by omega, Nat.sub_zero]

theorem crcVerify_crcFeed_iff (engine : CrcEngine) (lag : Nat) (pow : ∃ k, ring.length = 2 ^ k)
    (large : 512 ≤ ring.length) (inside : anchor < ring.length) (brk : ring.getD anchor 0 = 0)
    (low : 6 ≤ footprint) (high : footprint ≤ 258) (drains : lag ≤ spinPerByte * (footprint - 2)) :
    crcVerify (crcFeed engine ring anchor footprint) lag ring anchor footprint = true ↔
      oscCrc (coveredBytes ring anchor footprint) = wireCrc ring anchor footprint := by
  have even := even_of_pow pow (by omega)
  have folded := crcFeed_crcTail engine inside even large low high brk
  simp only [crcVerify, CrcEngine.await_eq, if_pos drains, beq_iff_eq]
  rw [folded]

end Span

theorem crcFeed_refines_oscCrc (engine : CrcEngine) (lag : Nat) (ring : List UInt8)
    (anchor footprint : Nat) (pow : ∃ k, ring.length = 2 ^ k) (large : 512 ≤ ring.length)
    (inside : anchor < ring.length) (brk : ring.getD anchor 0 = 0) (low : 6 ≤ footprint)
    (high : footprint ≤ 258) (drains : lag ≤ spinPerByte * (footprint - 2)) :
    (crcVerify (crcFeed engine ring anchor footprint) lag ring anchor footprint = true ↔
      oscCrc (around ring 0 (anchor + 1) (footprint - 3)) =
        u16FromLe (ring.getD ((anchor + footprint - 2) % ring.length) 0)
          (ring.getD ((anchor + footprint - 1) % ring.length) 0)) ∧
      ∀ chunk ∈ crcFeedChunks ring.length anchor footprint,
        chunk.1 % 2 = 0 ∧ chunk.2 % 2 = 0 ∧ chunk.1 + chunk.2 ≤ ring.length := by
  constructor
  next =>
    have trailer : anchor + footprint - 2 + 1 = anchor + footprint - 1 := by omega
    rw [crcVerify_crcFeed_iff engine lag pow large inside brk low high drains, coveredBytes, wireCrc,
      trailer]
  next => exact crcFeedChunks_aligned (even_of_pow pow (by omega)) large inside low high

/-- A ping whose break is the last byte of the ring: odd anchor, and the whole span wraps. -/
def seamRing : List UInt8 :=
  [0x01, 0x03, 0x10, 0x50, 0xFC] ++ List.replicate 507 0

theorem crcFeed_refines_oscCrc_seam :
    crcVerify (crcFeed {} seamRing 511 6) 256 seamRing 511 6 = true :=
  (crcFeed_refines_oscCrc {} 256 seamRing 511 6 ⟨9, by decide +kernel⟩ (by decide +kernel)
    (by decide +kernel) (by decide +kernel) (by decide) (by decide) (by decide)).1.mpr
      (by decide +kernel)

end OpenServo.Bus
