import OpenServo.Link.Record

set_option autoImplicit false

namespace OpenServo.Link

open OpenServo.Protocol

def framed (recs : List (List UInt8)) : List UInt8 :=
  recs.flatMap sealed

def lengthAt (bytes : List UInt8) : Nat :=
  (u16FromLe (bytes.getD 0 0) (bytes.getD 1 0)).toNat

@[simp] theorem framed_nil : framed [] = [] := rfl

@[simp] theorem framed_cons (rec : List UInt8) (recs : List (List UInt8)) :
    framed (rec :: recs) = sealed rec ++ framed recs := rfl

@[simp] theorem framed_append (first second : List (List UInt8)) :
    framed (first ++ second) = framed first ++ framed second :=
  List.flatMap_append

@[simp] theorem length_sealed (rec : List UInt8) : (sealed rec).length = 2 + rec.length := by
  simp only [sealed, u16ToLe, List.length_append, List.length_cons, List.length_nil]

theorem sealed_eq (rec : List UInt8) : ∃ low high, sealed rec = low :: high :: rec ∧
    u16FromLe low high = UInt16.ofNat rec.length :=
  ⟨_, _, rfl, u16FromLe_toLe _⟩

theorem lengthAt_sealed {rec : List UInt8} (short : rec.length < 65536) (more : List UInt8) :
    lengthAt (sealed rec ++ more) = rec.length := by
  obtain ⟨low, high, shape, value⟩ := sealed_eq rec
  simp only [lengthAt, shape, List.cons_append, List.getD_cons_zero, List.getD_cons_succ, value]
  exact Nat.mod_eq_of_lt short

theorem lengthAt_append {front : List UInt8} (some : 2 ≤ front.length) (more : List UInt8) :
    lengthAt (front ++ more) = lengthAt front := by
  rw [lengthAt, lengthAt]
  simp only [List.getD_eq_getElem?_getD]
  rw [List.getElem?_append_left (by omega), List.getElem?_append_left (by omega)]

theorem drop_sealed (rec more : List UInt8) : (sealed rec ++ more).drop 2 = rec ++ more := by
  obtain ⟨low, high, shape, -⟩ := sealed_eq rec
  rw [shape]
  rfl

theorem take_sealed (rec more : List UInt8) : ((sealed rec ++ more).drop 2).take rec.length = rec := by
  rw [drop_sealed, List.take_left]

theorem drop_whole (rec more : List UInt8) : (sealed rec ++ more).drop (2 + rec.length) = more := by
  rw [← length_sealed, List.drop_left]

inductive Cut (rec : List UInt8) (rest : List (List UInt8)) : List UInt8 → Prop where
  | few {bytes : List UInt8} (short : bytes.length < 2) : Cut rec rest bytes
  | part {bytes : List UInt8} (some : 2 ≤ bytes.length) (length : lengthAt bytes = rec.length)
    (short : bytes.length < 2 + rec.length) : Cut rec rest bytes
  | whole {more : List UInt8} (front : more <+: framed rest) : Cut rec rest (sealed rec ++ more)

theorem cut_of_front {rec bytes : List UInt8} {rest : List (List UInt8)} (short : rec.length < 65536)
    (front : bytes <+: framed (rec :: rest)) : Cut rec rest bytes := by
  rw [framed_cons] at front
  by_cases few : bytes.length < 2
  next => exact .few few
  next =>
    by_cases part : bytes.length < 2 + rec.length
    next =>
      have inside : bytes <+: sealed rec :=
        List.prefix_of_prefix_length_le front (List.prefix_append _ _) (by rw [length_sealed]; omega)
      obtain ⟨more, whole⟩ := inside
      refine .part (Nat.le_of_not_lt few) ?_ part
      have same := lengthAt_sealed short []
      rw [List.append_nil, ← whole] at same
      rw [← same, lengthAt_append (by omega)]
    next =>
      have outside : sealed rec <+: bytes :=
        List.prefix_of_prefix_length_le (List.prefix_append _ _) front (by rw [length_sealed]; omega)
      obtain ⟨more, rfl⟩ := outside
      exact .whole ((List.prefix_append_right_inj _).mp front)

theorem framed_front {first second : List (List UInt8)} (front : first <+: second) :
    framed first <+: framed second := by
  obtain ⟨more, rfl⟩ := front
  rw [framed_append]
  exact List.prefix_append _ _

end OpenServo.Link
