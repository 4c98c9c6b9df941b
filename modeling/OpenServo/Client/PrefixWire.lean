import OpenServo.Client.PrefixBits
import OpenServo.Protocol.RoundTrip

set_option autoImplicit false

namespace OpenServo.Client

open OpenServo.Protocol OpenServo.Core OpenServo.Shared

def probePayload (len : UInt8) (bits : Uid) : Option (List UInt8) :=
  (Build.mgmtEnum (List.replicate (2 + uidLen) 0) len bits).map fun built => built.2.take built.1

def enumRecovered (payload : FrameBytes) : Option EnumReq :=
  (Form.subArgs .enum payload).bind EnumReq.parse

theorem prefixBits_length {args : FrameBytes} {e : EnumReq} (parsed : EnumReq.parse args = some e) :
    e.prefixBits.length = uidLen := by
  simp only [EnumReq.parse, Option.bind_eq_bind, Option.bind_eq_some_iff, Option.pure_def, Option.guard_eq_some',
    Option.some.injEq] at parsed
  obtain ⟨prefixLen, -, -, low, -, -, body, cut, rfl⟩ := parsed
  have size := FrameBytes.sub_len cut
  simp only [EnumReq.maxPrefixBits, uidLen] at low
  simp only [List.length_append, List.length_replicate, FrameBytes.length_bytes, uidLen]
  omega

section Probe

variable {len : UInt8}

theorem mgmtEnum_room (bits : Uid) : ((subOpFormat .enum enumArgsFormat).encode (len, bits)).length ≤ 2 + uidLen := by
  show (MgmtOp.enum.asByte :: len :: (List.ofFn bits).take (prefixBytes len)).length ≤ _
  rw [List.length_cons, List.length_cons, List.length_take, List.length_ofFn]
  omega

theorem probe_reads (bits : Uid) (short : len.toNat ≤ 8 * uidLen) :
    ∃ n p, Build.mgmtEnum (List.replicate (2 + uidLen) 0) len bits = some (n, p) ∧
      ∀ view, view.bytes = p.take n → Form.parse .mgmtEnum view = some (Form.used .mgmtEnum (len, bits)) := by
  have fits := Format.roundTrips FrameBytes.exists_view (subOp_reads .enum enumArgs_reads) mgmtEnum_writes
  have room : ((subOpFormat .enum enumArgsFormat).encode (len, bits)).length ≤
      min (List.replicate (2 + uidLen) (0 : UInt8)).length maxPayload := by
    rw [List.length_replicate]
    exact (mgmtEnum_room bits).trans (by decide)
  have built := (mgmtEnum_writes _ (len, bits) _ _).mpr ⟨short, room, rfl, rfl⟩
  exact ⟨_, _, built, fits.parses _ (len, bits) _ _ built⟩

theorem probe_recovered (bits : Uid) (short : len.toNat ≤ 8 * uidLen) :
    ∃ payload, probePayload len bits = some payload ∧ ∀ view, view.bytes = payload →
      enumRecovered view = some ⟨len, List.ofFn (Form.used .mgmtEnum (len, bits)).2⟩ := by
  obtain ⟨n, p, built, reads⟩ := probe_reads bits short
  refine ⟨p.take n, by rw [probePayload, built]; rfl, ?_⟩
  intro view bytes
  obtain ⟨args, cut, read⟩ := Option.bind_eq_some_iff.mp (reads view bytes)
  obtain ⟨e, made, same⟩ := Option.map_eq_some_iff.mp read
  obtain ⟨sameLen, sameBits⟩ := Prod.mk.inj same
  have bytes := (ofFn_uidOf (prefixBits_length made)).symm.trans (congrArg List.ofFn sameBits)
  rw [enumRecovered, cut, Option.bind_some, made]
  exact congrArg some (congrArg₂ EnumReq.mk sameLen bytes)

end Probe

/-- The extensions of a prefix share out its UIDs: each of them goes to one, and neither goes without. -/
structure Splits (bits : Uid) (len : UInt8) : Prop where
  covers : ∀ uid, matchesPrefix uid bits len = true ↔ ∃ v, matchesPrefix uid (withBit bits len v) (len + 1) = true
  apart : ∀ uid v w, matchesPrefix uid (withBit bits len v) (len + 1) = true →
    matchesPrefix uid (withBit bits len w) (len + 1) = true → v = w
  inhabited : ∀ v, ∃ uid, matchesPrefix uid (withBit bits len v) (len + 1) = true

theorem matchesPrefix_self (bits : Uid) (len : UInt8) : matchesPrefix bits bits len = true :=
  (matchesPrefix_iff bits bits len).mpr fun _ _ => rfl

theorem splits_of_clear {bits : Uid} {len : UInt8} (inside : len.toNat < 8 * uidLen)
    (clear : bitAt bits len.toNat = false) : Splits bits len := by
  have extended := fun uid v => (matchesPrefix_iff uid (withBit bits len v) (len + 1)).trans
    (agreeTo_withBit clear inside uid v)
  constructor
  case covers =>
    intro uid
    rw [matchesPrefix_iff]
    constructor
    next =>
      intro agree
      exact ⟨bitAt uid len.toNat, (extended uid _).mpr ⟨agree, rfl⟩⟩
    next =>
      rintro ⟨v, longer⟩
      exact ((extended uid v).mp longer).1
  case apart =>
    intro uid v w first second
    exact ((extended uid v).mp first).2.symm.trans ((extended uid w).mp second).2
  case inhabited =>
    intro v
    exact ⟨withBit bits len v, matchesPrefix_self _ _⟩

theorem withBit_set {bits : Uid} {len : UInt8} (inside : len.toNat < 8 * uidLen)
    (marked : bitAt bits len.toNat = true) (v : Bool) : AgreeTo (withBit bits len v) bits (len + 1).toNat := by
  intro k _
  rw [bitAt_withBit bits inside]
  by_cases here : len.toNat = k
  next => rw [← here, marked, Bool.true_or]
  next => rw [decide_eq_false here, Bool.and_false, Bool.or_false]

theorem splits_iff {bits : Uid} {len : UInt8} (inside : len.toNat < 8 * uidLen) :
    Splits bits len ↔ bitAt bits len.toNat = false := by
  constructor
  next =>
    intro splits
    by_contra marked
    have same := fun v => withBit_set inside (Bool.eq_true_of_not_eq_false marked) v
    have mine := fun v => (matchesPrefix_iff bits (withBit bits len v) (len + 1)).mpr
      fun k below => (same v k below).symm
    exact Bool.false_ne_true (splits.apart bits false true (mine false) (mine true))
  next =>
    intro clear
    exact splits_of_clear inside clear

/-- The servo's test on what it recovers of a probe is the walk's own, for every UID; and the extensions of a
prefix share out its UIDs exactly when the bit that they add is clear in it. -/
theorem prefix_agreement (bits : Uid) (len : UInt8) (short : len.toNat ≤ 8 * uidLen) :
    (∃ payload, probePayload len bits = some payload ∧ ∀ view, view.bytes = payload →
      ∃ e, enumRecovered view = some e ∧
        ∀ uid, uidPrefixMatches (List.ofFn uid) e.prefixLen e.prefixBits = matchesPrefix uid bits len) ∧
      (len.toNat < 8 * uidLen → (Splits bits len ↔ bitAt bits len.toNat = false)) := by
  refine ⟨?_, splits_iff⟩
  obtain ⟨payload, sent, recovered⟩ := probe_recovered bits short
  refine ⟨payload, sent, ?_⟩
  intro view bytes
  refine ⟨_, recovered view bytes, ?_⟩
  intro uid
  rw [Bool.eq_iff_iff, uidPrefixMatches_iff uid _ short, agreeTo_used, matchesPrefix_iff]

/-- The first byte of a prefix and three bits of the second. -/
def elevenBits : Uid :=
  fun i => if i.val = 0 then 0xA5 else if i.val = 1 then 0x05 else 0

theorem prefix_agreement_partial : (11 : UInt8).toNat ≤ 8 * uidLen ∧
    (∃ payload, probePayload 11 elevenBits = some payload ∧ ∀ view, view.bytes = payload →
      ∃ e, enumRecovered view = some e ∧
        ∀ uid, uidPrefixMatches (List.ofFn uid) e.prefixLen e.prefixBits = matchesPrefix uid elevenBits 11) ∧
      Splits elevenBits 11 ∧ ¬ Splits elevenBits 10 := by
  have split := prefix_agreement elevenBits 11 (by decide)
  have marked := (prefix_agreement elevenBits 10 (by decide)).2 (by decide)
  exact ⟨by decide, split.1, (split.2 (by decide)).mpr (by decide), fun merged => absurd (marked.mp merged) (by decide)⟩

/-- The byte of an empty prefix with its first bit set: both extensions are the one with that bit. -/
theorem stray_bit_merges : ¬ ∀ (bits : Uid) (len : UInt8), len.toNat < 8 * uidLen → Splits bits len := by
  intro all
  have splits := all (fun _ => 1) 0 (by decide)
  exact Bool.false_ne_true (splits.apart (fun _ => 1) false true (by decide) (by decide))

end OpenServo.Client
