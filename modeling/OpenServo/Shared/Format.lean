import Mathlib.Data.List.Basic

set_option autoImplicit false

/-!
Wire formats. A format says which values it has and what their bytes are; a parser and a builder
are each measured against it, and from the two measurements follows how they fit together. A list
of entries is read by taking one after another off the front.
-/

namespace OpenServo.Shared

variable {A B V E : Type}

def copyAt (dst : List B) (off : Nat) (src : List B) : List B :=
  dst.take off ++ src ++ dst.drop (off + src.length)

theorem copyAt_zero (dst src : List B) : copyAt dst 0 src = src ++ dst.drop src.length := by
  simp [copyAt]

theorem take_copyAt (dst src : List B) : (copyAt dst 0 src).take src.length = src := by
  rw [copyAt_zero, List.take_left]

theorem copyAt_append (dst first second : List B) :
    copyAt (copyAt dst 0 first) first.length second = copyAt dst 0 (first ++ second) := by
  simp only [copyAt, List.take_zero, List.nil_append, Nat.zero_add, List.length_append]
  rw [List.take_left' rfl, List.drop_append, List.drop_drop]
  simp [List.append_assoc, List.drop_of_length_le]

theorem length_copyAt {dst src : List B} (fits : src.length ≤ dst.length) :
    (copyAt dst 0 src).length = dst.length := by
  rw [copyAt_zero, List.length_append, List.length_drop]
  omega

/-- `canon` is the value a reader gets back: the part of a value that has no bytes is dropped. -/
structure Format (A B : Type) where
  valid : A → Prop
  encode : A → List B
  canon : A → A
  valid_canon : ∀ a, valid (canon a) ↔ valid a
  encode_canon : ∀ a, encode (canon a) = encode a
  canon_canon : ∀ a, canon (canon a) = canon a

def Format.plain (valid : A → Prop) (encode : A → List B) : Format A B :=
  ⟨valid, encode, id, fun _ => Iff.rfl, fun _ => rfl, fun _ => rfl⟩

/-- Of the views it is meant for, the parser accepts exactly the encodings. -/
structure Format.Reads (format : Format A B) (bytes : V → List B) (meant : V → Prop)
    (parse : V → Option A) : Prop where
  parse_iff : ∀ view, meant view → ∀ a,
    parse view = some a ↔ format.canon a = a ∧ format.valid a ∧ bytes view = format.encode a
  meets : ∀ view a, format.valid a → bytes view = format.encode a → meant view

/-- The builder writes the encoding of exactly the values that have one and fit. -/
def Format.Writes (format : Format A B) (limit : Nat) (build : List B → A → Option (Nat × List B)) : Prop :=
  ∀ dst a n out, build dst a = some (n, out) ↔
    format.valid a ∧ (format.encode a).length ≤ min dst.length limit ∧
      n = (format.encode a).length ∧ out = copyAt dst 0 (format.encode a)

structure RoundTrips (limit : Nat) (bytes : V → List B) (meant : V → Prop) (canon : A → A)
    (parse : V → Option A) (build : List B → A → Option (Nat × List B)) : Prop where
  parses : ∀ dst a n out, build dst a = some (n, out) →
    ∀ view, bytes view = out.take n → parse view = some (canon a)
  rebuilds : ∀ view a dst, parse view = some a → meant view → (bytes view).length ≤ limit →
    (bytes view).length ≤ dst.length →
      ∃ out, build dst a = some ((bytes view).length, out) ∧ out.take (bytes view).length = bytes view
  refuses : ∀ dst a, build dst a = none ↔
    ∀ view, meant view → parse view = some (canon a) →
      limit < (bytes view).length ∨ dst.length < (bytes view).length

theorem Format.roundTrips {format : Format A B} {limit : Nat} {bytes : V → List B} {meant : V → Prop}
    {parse : V → Option A} {build : List B → A → Option (Nat × List B)}
    (onto : ∀ wire, ∃ view, bytes view = wire) (reads : format.Reads bytes meant parse)
    (writes : format.Writes limit build) : RoundTrips limit bytes meant format.canon parse build where
  parses := by
    intro dst a n out built view payload
    obtain ⟨valid, -, rfl, rfl⟩ := (writes dst a n out).mp built
    rw [take_copyAt] at payload
    refine (reads.parse_iff view (reads.meets view a valid payload) _).mpr ?_
    exact ⟨format.canon_canon a, (format.valid_canon a).mpr valid, payload.trans (format.encode_canon a).symm⟩
  rebuilds := by
    intro view a dst parsed meant short room
    obtain ⟨-, valid, payload⟩ := (reads.parse_iff view meant a).mp parsed
    rw [payload] at short room ⊢
    exact ⟨_, (writes dst a _ _).mpr ⟨valid, Nat.le_min.mpr ⟨room, short⟩, rfl, rfl⟩, take_copyAt dst _⟩
  refuses := by
    intro dst a
    constructor
    next =>
      intro refused view meant parsed
      obtain ⟨-, valid, payload⟩ := (reads.parse_iff view meant _).mp parsed
      rw [format.valid_canon] at valid
      rw [payload, format.encode_canon]
      by_contra fits
      have built := (writes dst a _ _).mpr ⟨valid, by omega, rfl, rfl⟩
      rw [refused] at built
      cases built
    next =>
      intro long
      rw [Option.eq_none_iff_forall_ne_some]
      rintro ⟨n, out⟩ built
      obtain ⟨valid, fits, -, -⟩ := (writes dst a n out).mp built
      obtain ⟨view, payload⟩ := onto (format.encode a)
      have parsed := (reads.parse_iff view (reads.meets view a valid payload) (format.canon a)).mpr
        ⟨format.canon_canon a, (format.valid_canon a).mpr valid, payload.trans (format.encode_canon a).symm⟩
      have bounded := long view (reads.meets view a valid payload) parsed
      rw [payload] at bounded
      omega

structure Takes (bytes : V → List B) (ok : E → Prop) (encode : E → List B) (next : V → Option (E × V)) : Prop where
  takes : ∀ view e wire, ok e → bytes view = encode e ++ wire →
    ∃ rest, next view = some (e, rest) ∧ bytes rest = wire
  stops : ∀ view, bytes view = [] → next view = none

theorem exists_entries {ok : E → Prop} {encode : E → List B} {stride : Nat}
    (gives : ∀ wire : List B, wire.length = stride → ∃ e, ok e ∧ encode e = wire) (wire : List B)
    (even : wire.length % stride = 0) : ∃ es : List E, (∀ e ∈ es, ok e) ∧ wire = es.flatMap encode := by
  generalize size : wire.length / stride = count
  have total : wire.length = stride * count := by
    rw [← size]
    exact (Nat.mul_div_cancel' (Nat.dvd_of_mod_eq_zero even)).symm
  clear even size
  induction count generalizing wire with
  | zero =>
    rw [Nat.mul_zero, List.length_eq_zero_iff] at total
    exact ⟨[], by simp, by simp [total]⟩
  | succ count ih =>
    rw [Nat.mul_succ] at total
    obtain ⟨e, fine, head⟩ := gives (wire.take stride) (by rw [List.length_take]; omega)
    obtain ⟨es, all, tail⟩ := ih (wire.drop stride) (by rw [List.length_drop]; omega)
    refine ⟨e :: es, by simpa [fine] using all, ?_⟩
    rw [List.flatMap_cons, head, ← tail, List.take_append_drop]

end OpenServo.Shared
