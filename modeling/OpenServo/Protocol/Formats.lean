import Mathlib.Data.Option.Basic
import OpenServo.Protocol.Build

set_option autoImplicit false

namespace OpenServo.Protocol

open OpenServo.Shared

namespace FrameBytes

variable {view : FrameBytes}

theorem u8At_of_drop {i : Nat} {b : UInt8} {rest : List UInt8} (here : view.bytes.drop i = b :: rest) :
    view.u8At i = some b := by
  rw [u8At_eq, ← List.head?_drop, here]
  rfl

theorem u16LeAt_of_drop {i : Nat} {v : UInt16} {rest : List UInt8} (here : view.bytes.drop i = u16ToLe v ++ rest) :
    view.u16LeAt i = some v := by
  have next : view.bytes.drop (i + 1) = (v >>> 8).toUInt8 :: rest := by
    rw [← List.drop_drop, here]
    rfl
  simp [u16LeAt, u8At_of_drop here, u8At_of_drop next, u16FromLe_toLe]

theorem drop_of_u8At {i : Nat} {b : UInt8} (here : view.u8At i = some b) :
    view.bytes.drop i = b :: view.bytes.drop (i + 1) := by
  rw [u8At_eq] at here
  obtain ⟨inside, rfl⟩ := List.getElem?_eq_some_iff.mp here
  exact List.drop_eq_getElem_cons inside

theorem drop_of_u16LeAt {i : Nat} {v : UInt16} (here : view.u16LeAt i = some v) :
    view.bytes.drop i = u16ToLe v ++ view.bytes.drop (i + 2) := by
  simp only [u16LeAt, Option.bind_eq_bind, Option.bind_eq_some_iff] at here
  obtain ⟨low, first, high, second, value⟩ := here
  rw [drop_of_u8At first, drop_of_u8At second, ← Option.some.inj value, u16ToLe_fromLe]
  rfl

theorem exists_sub {i : Nat} {part rest : List UInt8} (inside : i ≤ view.len)
    (here : view.bytes.drop i = part ++ rest) :
    ∃ sub, view.sub i part.length = some sub ∧ sub.bytes = part := by
  have room : i + part.length ≤ view.len := by
    have length := congrArg List.length here
    rw [List.length_drop, List.length_append, length_bytes] at length
    omega
  have cut := view.sub_bytes i part.length
  rw [if_neg (by omega), List.extract_eq_take_drop, here, Nat.add_sub_cancel_left, List.take_left' rfl,
    Option.map_eq_some_iff] at cut
  exact cut

theorem bytes_of_sub {sub : FrameBytes} {i len : Nat} (cut : view.sub i len = some sub) :
    sub.bytes = (view.bytes.drop i).take len := by
  have bytes := view.sub_bytes i len
  rw [cut] at bytes
  split at bytes
  next => cases bytes
  next =>
    rw [Option.map_some, Option.some.injEq, List.extract_eq_take_drop, Nat.add_sub_cancel_left] at bytes
    exact bytes

theorem bytes_of_rest {sub : FrameBytes} {i : Nat} (cut : view.sub i (view.len - i) = some sub) :
    sub.bytes = view.bytes.drop i := by
  rw [bytes_of_sub cut, List.take_of_length_le (by simp)]

theorem exists_rest {i : Nat} (inside : i ≤ view.len) :
    ∃ sub, view.sub i (view.len - i) = some sub ∧ sub.bytes = view.bytes.drop i := by
  have whole := @exists_sub view i (view.bytes.drop i) [] inside (by simp)
  rw [List.length_drop, length_bytes] at whole
  exact whole

theorem exists_view (wire : List UInt8) : ∃ view : FrameBytes, view.bytes = wire :=
  ⟨.ofList wire, bytes_ofList wire⟩

end FrameBytes

section Reads

open FrameBytes

theorem length_u16ToLe (v : UInt16) : (u16ToLe v).length = 2 := rfl

def readFormat : Format (UInt16 × UInt16) UInt8 :=
  .plain (fun _ => True) fun a => u16ToLe a.1 ++ u16ToLe a.2

def profileFormat : Format UInt8 UInt8 :=
  .plain (fun _ => True) fun slot => [slot]

def writeFormat : Format (UInt16 × List UInt8) UInt8 :=
  .plain (fun _ => True) fun a => u16ToLe a.1 ++ a.2

def greadUniformFormat : Format (UInt16 × UInt16 × List UInt8) UInt8 :=
  .plain (fun a => a.2.2 ≠ []) fun a => u16ToLe a.1 ++ u16ToLe a.2.1 ++ a.2.2

def greadProfileUniformFormat : Format (UInt8 × List UInt8) UInt8 :=
  .plain (fun a => a.2 ≠ []) fun a => a.1 :: a.2

theorem read_reads : readFormat.Reads bytes (fun _ => True)
    (fun payload => (ReadReq.parse payload).map fun r => (r.addr, r.count)) := by
  refine ⟨fun view _ a => ⟨?_, ?_⟩, fun _ _ _ _ => trivial⟩
  next =>
    intro parsed
    simp only [ReadReq.parse, Option.map_eq_some_iff, Option.bind_eq_bind, Option.bind_eq_some_iff, Option.pure_def,
      Option.guard_eq_some', Option.some.injEq] at parsed
    obtain ⟨_, ⟨-, whole, addr, first, count, second, rfl⟩, rfl⟩ := parsed
    refine ⟨rfl, trivial, ?_⟩
    have empty : view.bytes.drop 4 = [] := List.drop_eq_nil_of_le (by simp [whole])
    have all := drop_of_u16LeAt first
    rw [drop_of_u16LeAt second, empty, List.append_nil] at all
    exact all
  next =>
    rintro ⟨-, -, payload⟩
    have payload : view.bytes = u16ToLe a.1 ++ u16ToLe a.2 := payload
    have whole : view.len = 4 := by rw [← length_bytes, payload]; rfl
    have first : view.u16LeAt 0 = some a.1 := u16LeAt_of_drop payload
    have second : view.u16LeAt 2 = some a.2 := by
      apply @u16LeAt_of_drop view 2 a.2 []
      rw [payload]
      rfl
    simp [ReadReq.parse, whole, first, second]

theorem profile_reads : profileFormat.Reads bytes (fun _ => True) ProfileReq.parse := by
  refine ⟨fun view _ slot => ⟨?_, ?_⟩, fun _ _ _ _ => trivial⟩
  next =>
    intro parsed
    simp only [ProfileReq.parse, Option.bind_eq_bind, Option.bind_eq_some_iff, Option.guard_eq_some'] at parsed
    obtain ⟨-, whole, first⟩ := parsed
    refine ⟨rfl, trivial, ?_⟩
    have empty : view.bytes.drop 1 = [] := List.drop_eq_nil_of_le (by simp [whole])
    have all := drop_of_u8At first
    rw [empty] at all
    exact all
  next =>
    rintro ⟨-, -, payload⟩
    have payload : view.bytes = [slot] := payload
    have whole : view.len = 1 := by rw [← length_bytes, payload]; rfl
    have first : view.u8At 0 = some slot := u8At_of_drop payload
    simp [ProfileReq.parse, whole, first]

theorem write_reads : writeFormat.Reads bytes (fun _ => True)
    (fun payload => (WriteReq.parse payload).map fun w => (w.addr, w.data.bytes)) := by
  refine ⟨fun view _ a => ⟨?_, ?_⟩, fun _ _ _ _ => trivial⟩
  next =>
    intro parsed
    simp only [WriteReq.parse, Option.map_eq_some_iff, Option.bind_eq_bind, Option.bind_eq_some_iff, Option.pure_def,
      Option.guard_eq_some', Option.some.injEq] at parsed
    obtain ⟨_, ⟨addr, first, -, -, data, cut, rfl⟩, rfl⟩ := parsed
    refine ⟨rfl, trivial, ?_⟩
    have all := drop_of_u16LeAt first
    rw [← bytes_of_rest cut] at all
    exact all
  next =>
    rintro ⟨-, -, payload⟩
    have payload : view.bytes = u16ToLe a.1 ++ a.2 := payload
    have whole : 2 ≤ view.len := by
      rw [← length_bytes, payload, List.length_append, length_u16ToLe]
      omega
    have first : view.u16LeAt 0 = some a.1 := u16LeAt_of_drop payload
    obtain ⟨data, cut, same⟩ := exists_rest whole
    rw [payload] at same
    have same : data.bytes = a.2 := same
    simp [WriteReq.parse, whole, first, cut, same]

theorem greadUniform_reads : greadUniformFormat.Reads bytes (fun _ => True)
    (fun payload => (GreadUniform.parse payload).map fun g => (g.addr, g.count, g.ids.bytes)) := by
  refine ⟨fun view _ a => ⟨?_, ?_⟩, fun _ _ _ _ => trivial⟩
  next =>
    intro parsed
    simp only [GreadUniform.parse, Option.map_eq_some_iff, Option.bind_eq_bind, Option.bind_eq_some_iff,
      Option.pure_def, Option.guard_eq_some', Option.some.injEq] at parsed
    obtain ⟨_, ⟨addr, first, count, second, -, -, ids, cut, -, listed, rfl⟩, rfl⟩ := parsed
    refine ⟨rfl, ?_, ?_⟩
    next =>
      intro empty
      rw [← length_bytes, List.length_eq_zero_iff.mpr empty] at listed
      exact listed rfl
    next =>
      have all := drop_of_u16LeAt first
      rw [drop_of_u16LeAt second, ← bytes_of_rest cut, ← List.append_assoc] at all
      exact all
  next =>
    rintro ⟨-, listed, payload⟩
    obtain ⟨addr, count, ids⟩ := a
    have payload : view.bytes = u16ToLe addr ++ u16ToLe count ++ ids := payload
    have listed : ids ≠ [] := listed
    have whole : 4 ≤ view.len := by
      rw [← length_bytes, payload, List.length_append, List.length_append, length_u16ToLe, length_u16ToLe]
      omega
    have first : view.u16LeAt 0 = some addr := u16LeAt_of_drop (payload.trans (List.append_assoc ..))
    have second : view.u16LeAt 2 = some count := by
      apply @u16LeAt_of_drop view 2 count ids
      rw [payload]
      rfl
    obtain ⟨part, cut, same⟩ := exists_rest whole
    rw [payload] at same
    have same : part.bytes = ids := same
    have length : part.len ≠ 0 := by
      rw [← length_bytes, same]
      exact fun zero => listed (List.length_eq_zero_iff.mp zero)
    simp [GreadUniform.parse, whole, first, second, cut, same, length]

theorem greadProfileUniform_reads : greadProfileUniformFormat.Reads bytes (fun _ => True)
    (fun payload => (GreadProfileUniform.parse payload).map fun g => (g.slot, g.ids.bytes)) := by
  refine ⟨fun view _ a => ⟨?_, ?_⟩, fun _ _ _ _ => trivial⟩
  next =>
    intro parsed
    simp only [GreadProfileUniform.parse, Option.map_eq_some_iff, Option.bind_eq_bind, Option.bind_eq_some_iff,
      Option.pure_def, Option.guard_eq_some', Option.some.injEq] at parsed
    obtain ⟨_, ⟨slot, first, -, -, ids, cut, -, listed, rfl⟩, rfl⟩ := parsed
    refine ⟨rfl, ?_, ?_⟩
    next =>
      intro empty
      rw [← length_bytes, List.length_eq_zero_iff.mpr empty] at listed
      exact listed rfl
    next =>
      have all := drop_of_u8At first
      rw [← bytes_of_rest cut] at all
      exact all
  next =>
    rintro ⟨-, listed, payload⟩
    obtain ⟨slot, ids⟩ := a
    have payload : view.bytes = slot :: ids := payload
    have listed : ids ≠ [] := listed
    have whole : 1 ≤ view.len := by
      rw [← length_bytes, payload, List.length_cons]
      omega
    have first : view.u8At 0 = some slot := u8At_of_drop payload
    obtain ⟨part, cut, same⟩ := exists_rest whole
    rw [payload] at same
    have same : part.bytes = ids := same
    have length : part.len ≠ 0 := by
      rw [← length_bytes, same]
      exact fun zero => listed (List.length_eq_zero_iff.mp zero)
    simp [GreadProfileUniform.parse, whole, first, cut, same, length]

theorem entriesOf_eq {E : Type} {ok : E → Prop} {encode : E → List UInt8}
    {next : FrameBytes → Option (E × FrameBytes)} (takes : Takes bytes ok encode next) (es : List E)
    (all : ∀ e ∈ es, ok e) (view : FrameBytes) (wire : view.bytes = es.flatMap encode) (fuel : Nat)
    (enough : es.length ≤ fuel) : entriesOf next fuel view = es := by
  induction es generalizing view fuel with
  | nil =>
    cases fuel with
    | zero => rfl
    | succ fuel => rw [entriesOf, takes.stops view wire]
  | cons e es ih =>
    cases fuel with
    | zero => cases enough
    | succ fuel =>
      rw [List.flatMap_cons] at wire
      obtain ⟨rest, taken, tail⟩ := takes.takes view e _ (all e List.mem_cons_self) wire
      rw [entriesOf, taken]
      refine congrArg (e :: ·) (ih ?_ rest tail fuel (Nat.le_of_succ_le_succ enough))
      exact fun later member => all later (List.mem_cons_of_mem e member)

theorem entriesOf_map {E F : Type} (f : E → F) (next : FrameBytes → Option (E × FrameBytes)) (fuel : Nat)
    (view : FrameBytes) :
    (entriesOf next fuel view).map f = entriesOf (fun view => (next view).map (Prod.map f id)) fuel view := by
  induction fuel generalizing view with
  | zero => rfl
  | succ fuel ih =>
    rw [entriesOf, entriesOf]
    cases step : next view with
    | none => rfl
    | some taken => simp [ih]

theorem length_le_flatMap {E : Type} {encode : E → List UInt8} {es : List E}
    (nonempty : ∀ e ∈ es, 1 ≤ (encode e).length) : es.length ≤ (es.flatMap encode).length := by
  induction es with
  | nil => simp
  | cons e es ih =>
    have rest := ih fun later member => nonempty later (List.mem_cons_of_mem e member)
    have here := nonempty e List.mem_cons_self
    rw [List.flatMap_cons, List.length_append, List.length_cons]
    omega

theorem length_flatMap {E : Type} {encode : E → List UInt8} {es : List E} {stride : Nat}
    (size : ∀ e ∈ es, (encode e).length = stride) : (es.flatMap encode).length = stride * es.length := by
  induction es with
  | nil => simp
  | cons e es ih =>
    rw [List.flatMap_cons, List.length_append, size e List.mem_cons_self,
      ih fun later member => size later (List.mem_cons_of_mem e member), List.length_cons, Nat.mul_succ]
    omega

/-- Entries of one size: what the payload's length admits is what the iterator takes apart. -/
structure Strides (E : Type) where
  ok : E → Prop
  encode : E → List UInt8
  stride : Nat
  next : FrameBytes → Option (E × FrameBytes)
  positive : 0 < stride
  size : ∀ e, ok e → (encode e).length = stride
  gives : ∀ wire : List UInt8, wire.length = stride → ∃ e, ok e ∧ encode e = wire
  takes : Takes bytes ok encode next

theorem Strides.iter_iff {E : Type} (strides : Strides E) (view : FrameBytes) (es : List E) :
    (view.len ≠ 0 ∧ view.len % strides.stride = 0) ∧ entriesOf strides.next view.len view = es ↔
      es ≠ [] ∧ (∀ e ∈ es, strides.ok e) ∧ view.bytes = es.flatMap strides.encode := by
  have iter (es : List E) (all : ∀ e ∈ es, strides.ok e) (wire : view.bytes = es.flatMap strides.encode) :
      entriesOf strides.next view.len view = es := by
    refine entriesOf_eq strides.takes es all view wire _ ?_
    rw [← length_bytes, wire]
    refine length_le_flatMap fun e member => ?_
    rw [strides.size e (all e member)]
    exact strides.positive
  constructor
  next =>
    rintro ⟨⟨some, even⟩, rfl⟩
    obtain ⟨es, all, wire⟩ := exists_entries strides.gives view.bytes (by rw [length_bytes]; exact even)
    rw [iter es all wire]
    refine ⟨?_, all, wire⟩
    rintro rfl
    rw [← length_bytes, wire] at some
    exact some rfl
  next =>
    rintro ⟨listed, all, wire⟩
    have length : view.len = strides.stride * es.length := by
      rw [← length_bytes, wire]
      exact length_flatMap fun e member => strides.size e (all e member)
    refine ⟨⟨?_, ?_⟩, iter es all wire⟩
    next =>
      rw [length]
      have := strides.positive
      have := List.length_pos_iff.mpr listed
      exact Nat.mul_ne_zero (by omega) (by omega)
    next => rw [length, Nat.mul_mod_right]

def entriesFormat {E : Type} (ok : E → Prop) (encode : E → List UInt8) : Format (List E) UInt8 :=
  .plain (fun es => es ≠ [] ∧ ∀ e ∈ es, ok e) fun es => es.flatMap encode

theorem Strides.reads {E : Type} (strides : Strides E) :
    (entriesFormat strides.ok strides.encode).Reads bytes (fun _ => True) (fun payload =>
      (if payload.len = 0 ∨ payload.len % strides.stride ≠ 0 then none else some payload).map
        fun entries => entriesOf strides.next entries.len entries) := by
  refine ⟨fun view _ es => ?_, fun _ _ _ _ => trivial⟩
  have iff := strides.iter_iff view es
  by_cases accepted : view.len ≠ 0 ∧ view.len % strides.stride = 0
  next =>
    rw [if_neg (by tauto), Option.map_some, Option.some.injEq]
    rw [and_iff_right accepted] at iff
    rw [iff]
    exact ⟨fun right => ⟨rfl, ⟨right.1, right.2.1⟩, right.2.2⟩, fun right => ⟨right.2.1.1, right.2.1.2, right.2.2⟩⟩
  next =>
    rw [if_pos (by tauto)]
    simp only [accepted, false_and, false_iff] at iff
    refine ⟨fun no => (by cases no), fun right => ?_⟩
    exact absurd ⟨right.2.1.1, right.2.1.2, right.2.2⟩ iff

def greadTargets : Strides GreadTarget where
  ok _ := True
  encode t := t.id :: u16ToLe t.addr ++ u16ToLe t.count
  stride := 5
  next := GreadPerTarget.next
  positive := by decide
  size _ _ := rfl
  gives wire length := by
    match wire, length with
    | [id, a, b, c, d], _ =>
      refine ⟨⟨id, u16FromLe a b, u16FromLe c d⟩, trivial, ?_⟩
      simp only [u16ToLe_fromLe]
      rfl
  takes := by
    constructor
    next =>
      intro view t wire _ here
      have whole : 5 ≤ view.len := by
        rw [← length_bytes, here, List.length_append]
        exact Nat.le_add_right _ _
      have id : view.u8At 0 = some t.id := u8At_of_drop here
      have addr : view.u16LeAt 1 = some t.addr := by
        apply @u16LeAt_of_drop view 1 t.addr (u16ToLe t.count ++ wire)
        rw [here]
        rfl
      have count : view.u16LeAt 3 = some t.count := by
        apply @u16LeAt_of_drop view 3 t.count wire
        rw [here]
        rfl
      obtain ⟨rest, cut, tail⟩ := exists_rest whole
      rw [here] at tail
      exact ⟨rest, by simp [GreadPerTarget.next, id, addr, count, cut, whole], tail⟩
    next =>
      intro view empty
      have none : view.len = 0 := by rw [← length_bytes, empty]; rfl
      simp [GreadPerTarget.next, none]

def greadProfileTargets : Strides GreadProfileTarget where
  ok _ := True
  encode t := [t.id, t.slot]
  stride := 2
  next := GreadProfilePerTarget.next
  positive := by decide
  size _ _ := rfl
  gives wire length := by
    match wire, length with
    | [id, slot], _ => exact ⟨⟨id, slot⟩, trivial, rfl⟩
  takes := by
    constructor
    next =>
      intro view t wire _ here
      have whole : 2 ≤ view.len := by
        rw [← length_bytes, here, List.length_append]
        exact Nat.le_add_right _ _
      have id : view.u8At 0 = some t.id := u8At_of_drop here
      have slot : view.u8At 1 = some t.slot := by
        apply @u8At_of_drop view 1 t.slot wire
        rw [here]
        rfl
      obtain ⟨rest, cut, tail⟩ := exists_rest whole
      rw [here] at tail
      exact ⟨rest, by simp [GreadProfilePerTarget.next, id, slot, cut, whole], tail⟩
    next =>
      intro view empty
      have none : view.len = 0 := by rw [← length_bytes, empty]; rfl
      simp [GreadProfilePerTarget.next, none]

def plainEntry (entry : UInt8 × FrameBytes) : UInt8 × List UInt8 :=
  (entry.1, entry.2.bytes)

def gwriteEntries (count : Nat) : Strides (UInt8 × List UInt8) where
  ok e := e.2.length = count
  encode e := e.1 :: e.2
  stride := 1 + count
  next view := (GwriteUniform.next (1 + count) view).map (Prod.map plainEntry id)
  positive := by omega
  size e fine := by rw [List.length_cons, fine, Nat.add_comm]
  gives wire length := by
    match wire with
    | [] => rw [List.length_nil] at length; omega
    | id :: data => exact ⟨(id, data), by simpa [Nat.add_comm] using length, rfl⟩
  takes := by
    constructor
    next =>
      rintro view ⟨id, data⟩ wire fine here
      have fine : data.length = count := fine
      have here : view.bytes = id :: (data ++ wire) := here
      have whole : 1 + count ≤ view.len := by
        rw [← length_bytes, here, List.length_cons, List.length_append]
        omega
      have first : view.u8At 0 = some id := u8At_of_drop here
      obtain ⟨part, cut, same⟩ := @exists_sub view 1 data wire (by omega) (by rw [here]; rfl)
      obtain ⟨rest, last, tail⟩ := exists_rest whole
      rw [here, Nat.add_comm, List.drop_succ_cons, List.drop_left' fine] at tail
      rw [fine] at cut
      refine ⟨rest, ?_, tail⟩
      simp [GwriteUniform.next, whole, first, cut, last, plainEntry, same]
    next =>
      intro view empty
      have none : view.len = 0 := by rw [← length_bytes, empty]; rfl
      simp [GwriteUniform.next, none]

def gwriteUniformFormat : Format (UInt16 × UInt8 × List (UInt8 × List UInt8)) UInt8 :=
  .plain (fun a => a.2.1 ≠ 0 ∧ a.2.2 ≠ [] ∧ ∀ e ∈ a.2.2, e.2.length = a.2.1.toNat)
    fun a => u16ToLe a.1 ++ a.2.1 :: a.2.2.flatMap fun e => e.1 :: e.2

theorem gwriteUniform_reads : gwriteUniformFormat.Reads bytes (fun _ => True)
    (fun payload => (GwriteUniform.parse payload).map fun g =>
      (g.addr, g.count, g.iter.map plainEntry)) := by
  refine ⟨fun view _ a => ⟨?_, ?_⟩, fun _ _ _ _ => trivial⟩
  next =>
    intro parsed
    simp only [GwriteUniform.parse, Option.map_eq_some_iff, Option.bind_eq_bind, Option.bind_eq_some_iff,
      Option.pure_def, Option.guard_eq_some', Option.some.injEq] at parsed
    obtain ⟨_, ⟨addr, first, count, second, -, nonzero, -, -, entries, cut, -, listed, -, even, rfl⟩, rfl⟩ := parsed
    obtain ⟨full, all, wire⟩ := ((gwriteEntries count.toNat).iter_iff entries _).mp ⟨⟨listed, even⟩, rfl⟩
    simp only [GwriteUniform.iter, entriesOf_map]
    refine ⟨rfl, ⟨nonzero, full, all⟩, ?_⟩
    have head := drop_of_u16LeAt first
    rw [drop_of_u8At second, ← bytes_of_rest cut, wire] at head
    exact head
  next =>
    obtain ⟨addr, count, es⟩ := a
    rintro ⟨-, ⟨nonzero, full, all⟩, payload⟩
    have payload : view.bytes = u16ToLe addr ++ count :: es.flatMap fun e => e.1 :: e.2 := payload
    have whole : 3 ≤ view.len := by
      rw [← length_bytes, payload, List.length_append, length_u16ToLe, List.length_cons]
      omega
    have first : view.u16LeAt 0 = some addr := u16LeAt_of_drop payload
    have second : view.u8At 2 = some count := by
      apply @u8At_of_drop view 2 count (es.flatMap fun e => e.1 :: e.2)
      rw [payload]
      rfl
    obtain ⟨entries, cut, same⟩ := exists_rest whole
    rw [payload] at same
    obtain ⟨⟨listed, even⟩, iter⟩ := ((gwriteEntries count.toNat).iter_iff entries es).mpr ⟨full, all, same⟩
    have even : entries.len % (1 + count.toNat) = 0 := even
    have nonzero : count ≠ 0 := nonzero
    have made : GwriteUniform.parse view = some ⟨addr, count, entries⟩ := by
      simp [GwriteUniform.parse, whole, first, second, cut, listed, even, nonzero]
    rw [made, Option.map_some]
    simp only [GwriteUniform.iter, entriesOf_map]
    exact congrArg (fun es => some (addr, count, es)) iter

def plainTarget (t : GwriteTarget) : UInt8 × UInt16 × List UInt8 :=
  (t.id, t.addr, t.data.bytes)

def encodeTarget (t : UInt8 × UInt16 × List UInt8) : List UInt8 :=
  t.1 :: u16ToLe t.2.1 ++ UInt8.ofNat t.2.2.length :: t.2.2

theorem encodeTarget_split {view : FrameBytes} {t : UInt8 × UInt16 × List UInt8} {wire : List UInt8}
    (fine : t.2.2.length ≤ 255) (here : view.bytes = encodeTarget t ++ wire) :
    view.u8At 0 = some t.1 ∧ view.u16LeAt 1 = some t.2.1 ∧
      view.u8At 3 = some (UInt8.ofNat t.2.2.length) ∧ (UInt8.ofNat t.2.2.length).toNat = t.2.2.length ∧
      4 + t.2.2.length ≤ view.len ∧ view.bytes.drop 4 = t.2.2 ++ wire := by
  obtain ⟨id, addr, data⟩ := t
  have here : view.bytes = id :: (u16ToLe addr ++ UInt8.ofNat data.length :: (data ++ wire)) := by
    rw [here]
    simp [encodeTarget]
  refine ⟨u8At_of_drop here, ?_, ?_, Nat.mod_eq_of_lt (Nat.lt_succ_of_le fine), ?_, by rw [here]; rfl⟩
  next =>
    apply @u16LeAt_of_drop view 1 addr (UInt8.ofNat data.length :: (data ++ wire))
    rw [here]
    rfl
  next =>
    apply @u8At_of_drop view 3 _ (data ++ wire)
    rw [here]
    rfl
  next =>
    show 4 + data.length ≤ view.len
    rw [← length_bytes, here, List.length_cons, List.length_append, length_u16ToLe, List.length_cons,
      List.length_append]
    omega

theorem gwriteTargets_takes : Takes bytes (fun t : UInt8 × UInt16 × List UInt8 => t.2.2.length ≤ 255) encodeTarget
    (fun view => (GwritePerTarget.next view).map (Prod.map plainTarget id)) := by
  constructor
  next =>
    intro view t wire fine here
    obtain ⟨first, second, third, count, whole, behind⟩ := encodeTarget_split fine here
    have enough : 4 ≤ view.len := by omega
    obtain ⟨part, cut, same⟩ := @exists_sub view 4 t.2.2 wire (by omega) behind
    obtain ⟨rest, last, tail⟩ := exists_rest whole
    rw [← List.drop_drop, behind, List.drop_left' rfl] at tail
    refine ⟨rest, ?_, tail⟩
    simp [GwritePerTarget.next, enough, first, second, third, count, cut, last, plainTarget, same]
  next =>
    intro view empty
    have none : view.len = 0 := by rw [← length_bytes, empty]; rfl
    simp [GwritePerTarget.next, none]

theorem walk_iff (fuel : Nat) (view : FrameBytes) (enough : view.len ≤ fuel) :
    GwritePerTarget.walk fuel view = some () ↔
      ∃ es : List (UInt8 × UInt16 × List UInt8), (∀ t ∈ es, t.2.2.length ≤ 255) ∧
        view.bytes = es.flatMap encodeTarget := by
  -- On the fuel, of which a byte of the view each is enough.
  induction fuel generalizing view with
  | zero =>
    have empty : view.bytes = [] := List.length_eq_zero_iff.mp (by rw [length_bytes]; omega)
    have none : view.len = 0 := by omega
    simp only [GwritePerTarget.walk, none, guard_true, Option.pure_def, true_iff]
    exact ⟨[], by simp, by simp [empty]⟩
  | succ fuel ih =>
    rw [GwritePerTarget.walk]
    split
    next none =>
      have empty : view.bytes = [] := List.length_eq_zero_iff.mp (by rw [length_bytes]; exact none)
      simp only [true_iff]
      exact ⟨[], by simp, by simp [empty]⟩
    next some =>
      constructor
      next =>
        intro walked
        simp only [Option.bind_eq_bind, Option.bind_eq_some_iff, Option.guard_eq_some'] at walked
        obtain ⟨count, third, -, fits, rest, cut, walked⟩ := walked
        have shorter : rest.len ≤ fuel := by
          rw [sub_len cut]
          omega
        obtain ⟨es, all, wire⟩ := (ih rest shorter).mp walked
        have four : 4 ≤ view.bytes.length := by
          rw [length_bytes]
          omega
        match bytes : view.bytes, four with
        | id :: low :: high :: size :: tail, _ =>
          have sized : size = count := by
            have here := @u8At_of_drop view 3 size tail (by rw [bytes]; rfl)
            exact Option.some.inj (here.symm.trans third)
          have long : count.toNat ≤ tail.length := by
            have length := congrArg List.length bytes
            rw [length_bytes] at length
            simp only [List.length_cons] at length
            omega
          have behind : rest.bytes = tail.drop count.toNat := by
            rw [bytes_of_rest cut, ← List.drop_drop, bytes]
            rfl
          have data : (tail.take count.toNat).length = count.toNat := by
            rw [List.length_take]
            omega
          have bound := count.toNat_lt
          refine ⟨(id, u16FromLe low high, tail.take count.toNat) :: es, ?_, ?_⟩
          next =>
            rw [List.forall_mem_cons]
            exact ⟨by show (tail.take count.toNat).length ≤ 255; omega, all⟩
          next =>
            have same : UInt8.ofNat (tail.take count.toNat).length = size := by
              rw [data, sized]
              exact UInt8.ofNat_toNat
            rw [List.flatMap_cons, encodeTarget, same, u16ToLe_fromLe, ← wire, behind]
            simp
      next =>
        rintro ⟨es, all, wire⟩
        cases es with
        | nil =>
          rw [← length_bytes, wire] at some
          exact absurd rfl some
        | cons t es =>
          rw [List.flatMap_cons] at wire
          have fine := all t List.mem_cons_self
          obtain ⟨-, -, third, count, whole, behind⟩ := encodeTarget_split fine wire
          obtain ⟨rest, last, tail⟩ := exists_rest whole
          rw [← List.drop_drop, behind, List.drop_left' rfl] at tail
          have shorter : rest.len ≤ fuel := by
            rw [sub_len last]
            omega
          have walked := (ih rest shorter).mpr
            ⟨es, fun later member => all later (List.mem_cons_of_mem t member), tail⟩
          simp [third, count, whole, last, walked]

theorem gwritePerTarget_reads :
    (entriesFormat (fun t : UInt8 × UInt16 × List UInt8 => t.2.2.length ≤ 255) encodeTarget).Reads bytes
      (fun _ => True) (fun payload => (GwritePerTarget.parse payload).map fun entries =>
        (GwritePerTarget.iter entries).map plainTarget) := by
  refine ⟨fun view _ es => ?_, fun _ _ _ _ => trivial⟩
  have iter (es : List (UInt8 × UInt16 × List UInt8)) (all : ∀ t ∈ es, t.2.2.length ≤ 255)
      (wire : view.bytes = es.flatMap encodeTarget) : (GwritePerTarget.iter view).map plainTarget = es := by
    rw [GwritePerTarget.iter, entriesOf_map]
    refine entriesOf_eq gwriteTargets_takes es all view wire _ ?_
    rw [← length_bytes, wire]
    exact length_le_flatMap fun t _ => by simp [encodeTarget]
  constructor
  next =>
    intro parsed
    simp only [GwritePerTarget.parse, Option.map_eq_some_iff, Option.bind_eq_bind, Option.bind_eq_some_iff,
      Option.pure_def, Option.guard_eq_some', Option.some.injEq] at parsed
    obtain ⟨_, ⟨-, some, _, walked, rfl⟩, rfl⟩ := parsed
    obtain ⟨es, all, wire⟩ := (walk_iff _ view (Nat.le_refl _)).mp walked
    rw [iter es all wire]
    refine ⟨rfl, ⟨?_, all⟩, wire⟩
    rintro rfl
    rw [← length_bytes, wire] at some
    exact some rfl
  next =>
    rintro ⟨-, ⟨listed, all⟩, wire⟩
    have walked := (walk_iff _ view (Nat.le_refl _)).mpr ⟨es, all, wire⟩
    have some : view.len ≠ 0 := by
      rw [← length_bytes, wire]
      have long := @length_le_flatMap _ encodeTarget es fun t _ => by simp [encodeTarget]
      have := List.length_pos_iff.mpr listed
      exact Nat.ne_of_gt (Nat.lt_of_lt_of_le this long)
    have made : GwritePerTarget.parse view = .some view := by simp [GwritePerTarget.parse, some, walked]
    rw [made, Option.map_some, iter es all wire]

theorem MgmtOp.fromByte_iff (b : UInt8) (op : MgmtOp) : MgmtOp.fromByte b = some op ↔ b = op.asByte := by
  cases op <;> simp only [MgmtOp.fromByte, MgmtOp.asByte] <;> split_ifs <;> simp_all

theorem subArgs_iff (op : MgmtOp) (view : FrameBytes) (rest : List UInt8) :
    (∃ args, Form.subArgs op view = some args ∧ args.bytes = rest) ↔ view.bytes = op.asByte :: rest := by
  constructor
  next =>
    rintro ⟨args, parsed, rfl⟩
    simp only [Form.subArgs, MgmtReq.parse, Option.bind_eq_bind, Option.bind_eq_some_iff, Option.pure_def,
      Option.guard_eq_some', Option.some.injEq] at parsed
    obtain ⟨_, ⟨b, first, op', named, -, -, part, cut, rfl⟩, -, rfl, rfl⟩ := parsed
    have all := drop_of_u8At first
    rw [← bytes_of_rest cut, (MgmtOp.fromByte_iff b _).mp named] at all
    exact all
  next =>
    intro wire
    have whole : 1 ≤ view.len := by
      rw [← length_bytes, wire, List.length_cons]
      omega
    have first : view.u8At 0 = some op.asByte := u8At_of_drop wire
    obtain ⟨part, cut, same⟩ := exists_rest whole
    rw [wire] at same
    refine ⟨part, ?_, same⟩
    simp [Form.subArgs, MgmtReq.parse, first, (MgmtOp.fromByte_iff _ op).mpr rfl, whole, cut]

def subOpFormat {A : Type} (op : MgmtOp) (args : Format A UInt8) : Format A UInt8 where
  valid := args.valid
  encode a := op.asByte :: args.encode a
  canon := args.canon
  valid_canon := args.valid_canon
  encode_canon a := congrArg (op.asByte :: ·) (args.encode_canon a)
  canon_canon := args.canon_canon

theorem subOp_reads {A : Type} (op : MgmtOp) {args : Format A UInt8} {parse : FrameBytes → Option A}
    (reads : args.Reads bytes (fun _ => True) parse) :
    (subOpFormat op args).Reads bytes (fun _ => True) (fun payload => (Form.subArgs op payload).bind parse) := by
  refine ⟨fun view _ a => ?_, fun _ _ _ _ => trivial⟩
  simp only [subOpFormat]
  rw [← subArgs_iff, Option.bind_eq_some_iff]
  constructor
  next =>
    rintro ⟨args, cut, parsed⟩
    obtain ⟨same, right, wire⟩ := (reads.parse_iff args trivial a).mp parsed
    exact ⟨same, right, args, cut, wire⟩
  next =>
    rintro ⟨same, right, args, cut, wire⟩
    exact ⟨args, cut, (reads.parse_iff args trivial a).mpr ⟨same, right, wire⟩⟩

def mgmtFormat : Format MgmtOp UInt8 :=
  .plain (fun _ => True) fun op => [op.asByte]

theorem mgmt_reads : mgmtFormat.Reads bytes (fun payload => payload.len = 1)
    (fun payload => (MgmtReq.parse payload).map MgmtReq.op) := by
  refine ⟨fun view bare op => ⟨?_, ?_⟩, ?_⟩
  next =>
    intro parsed
    simp only [MgmtReq.parse, Option.map_eq_some_iff, Option.bind_eq_bind, Option.bind_eq_some_iff, Option.pure_def,
      Option.guard_eq_some', Option.some.injEq] at parsed
    obtain ⟨_, ⟨b, first, op', named, -, -, part, cut, rfl⟩, rfl⟩ := parsed
    refine ⟨rfl, trivial, ?_⟩
    have empty : view.bytes.drop 1 = [] := List.drop_eq_nil_of_le (by simp [bare])
    have all := drop_of_u8At first
    rw [empty, (MgmtOp.fromByte_iff b _).mp named] at all
    exact all
  next =>
    rintro ⟨-, -, wire⟩
    obtain ⟨args, parsed, -⟩ := (subArgs_iff op view []).mpr wire
    simp only [Form.subArgs, Option.bind_eq_bind, Option.bind_eq_some_iff, Option.guard_eq_some'] at parsed
    obtain ⟨m, made, -, named, -⟩ := parsed
    rw [made, Option.map_some, named]
  next =>
    intro view op _ wire
    rw [← length_bytes, wire]
    rfl

theorem ofFn_uidOf {uid : List UInt8} (length : uid.length = uidLen) : List.ofFn (Form.uidOf uid) = uid := by
  apply List.ext_getElem
  next => rw [List.length_ofFn, length]
  next =>
    intro i _ inside
    simp [Form.uidOf, inside]

theorem uidOf_ofFn (uid : Uid) : Form.uidOf (List.ofFn uid) = uid := by
  funext i
  simp [Form.uidOf]

def prefixBytes (prefixLen : UInt8) : Nat :=
  (prefixLen.toNat + 7) / 8

def enumArgsFormat : Format (UInt8 × Uid) UInt8 where
  valid a := a.1.toNat ≤ uidLen * 8
  encode a := a.1 :: (List.ofFn a.2).take (prefixBytes a.1)
  canon := Form.used .mgmtEnum
  valid_canon _ := Iff.rfl
  encode_canon := by
    rintro ⟨prefixLen, bits⟩
    refine congrArg (prefixLen :: ·) ?_
    show (List.ofFn fun i : Fin uidLen => if i.val < prefixBytes prefixLen then bits i else 0).take
      (prefixBytes prefixLen) = _
    apply List.ext_getElem
    next => simp
    next =>
      intro i inside _
      rw [List.length_take] at inside
      rw [List.getElem_take, List.getElem_take, List.getElem_ofFn, List.getElem_ofFn]
      exact if_pos (by show i < prefixBytes prefixLen; omega)
  canon_canon a := by
    simp only [Form.used]
    congr 1
    funext i
    split <;> rfl

theorem enumArgs_reads : enumArgsFormat.Reads bytes (fun _ => True)
    (fun args => (EnumReq.parse args).map fun e => (e.prefixLen, Form.uidOf e.prefixBits)) := by
  -- The bytes past the prefix are not sent: both ways they read as zero.
  refine ⟨fun view _ a => ⟨?_, ?_⟩, fun _ _ _ _ => trivial⟩
  next =>
    intro parsed
    simp only [EnumReq.parse, Option.map_eq_some_iff, Option.bind_eq_bind, Option.bind_eq_some_iff, Option.pure_def,
      Option.guard_eq_some', Option.some.injEq] at parsed
    obtain ⟨_, ⟨prefixLen, first, -, low, -, whole, body, cut, rfl⟩, rfl⟩ := parsed
    have low : prefixLen.toNat ≤ uidLen * 8 := low
    have size : body.bytes.length = prefixBytes prefixLen := by
      rw [length_bytes, sub_len cut]
      rfl
    have short : prefixBytes prefixLen ≤ uidLen := by
      simp only [prefixBytes, uidLen] at low ⊢
      omega
    have length : (body.bytes ++ List.replicate (uidLen - prefixBytes prefixLen) 0).length = uidLen := by
      rw [List.length_append, List.length_replicate, size]
      omega
    refine ⟨?_, low, ?_⟩
    next =>
      simp only [enumArgsFormat, Form.used]
      congr 1
      funext i
      split
      next => rfl
      next beyond =>
        simp only [Form.uidOf, List.getD_eq_getElem?_getD]
        rw [List.getElem?_append_right (by rw [size]; exact Nat.le_of_not_lt beyond), List.getElem?_replicate]
        split <;> rfl
    next =>
      have all := drop_of_u8At first
      have rest : view.bytes.drop 1 = body.bytes := by
        rw [bytes_of_sub cut, List.take_of_length_le]
        rw [List.length_drop, length_bytes, whole]
        omega
      rw [rest] at all
      refine all.trans (congrArg (prefixLen :: ·) ?_)
      exact ((congrArg (List.take (prefixBytes prefixLen)) (ofFn_uidOf length)).trans (List.take_left' size)).symm
  next =>
    obtain ⟨prefixLen, bits⟩ := a
    rintro ⟨canon, low, wire⟩
    have low : prefixLen.toNat ≤ uidLen * 8 := low
    have wire : view.bytes = prefixLen :: (List.ofFn bits).take (prefixBytes prefixLen) := wire
    have short : prefixBytes prefixLen ≤ uidLen := by
      simp only [prefixBytes, uidLen] at low ⊢
      omega
    have size : ((List.ofFn bits).take (prefixBytes prefixLen)).length = prefixBytes prefixLen := by
      rw [List.length_take, List.length_ofFn]
      omega
    have whole : view.len = 1 + prefixBytes prefixLen := by
      rw [← length_bytes, wire, List.length_cons, size, Nat.add_comm]
    have first : view.u8At 0 = some prefixLen := u8At_of_drop wire
    obtain ⟨body, cut, same⟩ := @exists_sub view 1 ((List.ofFn bits).take (prefixBytes prefixLen)) [] (by omega)
      (by rw [wire]; simp)
    rw [size] at cut
    have made : EnumReq.parse view =
        some ⟨prefixLen, body.bytes ++ List.replicate (uidLen - prefixBytes prefixLen) 0⟩ := by
      have accepted : prefixLen.toNat ≤ EnumReq.maxPrefixBits := low
      simp only [prefixBytes] at whole cut ⊢
      simp [EnumReq.parse, first, accepted, whole, cut]
    rw [made, Option.map_some, same]
    refine congrArg (fun bits => some (prefixLen, bits)) ?_
    funext i
    have kept := congrFun (congrArg Prod.snd canon) i
    simp only [enumArgsFormat, Form.used] at kept
    rw [← kept]
    simp only [Form.uidOf, List.getD_eq_getElem?_getD]
    split
    next inside =>
      have inside : i.val < prefixBytes prefixLen := inside
      rw [List.getElem?_append_left (by rw [size]; exact inside), List.getElem?_take_of_lt inside]
      simp
    next beyond =>
      rw [List.getElem?_append_right (by rw [size]; exact Nat.le_of_not_lt beyond), List.getElem?_replicate]
      split <;> rfl

def assignArgsFormat : Format (Uid × UInt8) UInt8 :=
  .plain (fun _ => True) fun a => List.ofFn a.1 ++ [a.2]

theorem assignArgs_reads : assignArgsFormat.Reads bytes (fun _ => True)
    (fun args => (AssignReq.parse args).map fun a => (Form.uidOf a.uid, a.newId)) := by
  refine ⟨fun view _ a => ⟨?_, ?_⟩, fun _ _ _ _ => trivial⟩
  next =>
    intro parsed
    simp only [AssignReq.parse, Option.map_eq_some_iff, Option.bind_eq_bind, Option.bind_eq_some_iff, Option.pure_def,
      Option.guard_eq_some', Option.some.injEq] at parsed
    obtain ⟨_, ⟨-, whole, uid, cut, newId, last, rfl⟩, rfl⟩ := parsed
    refine ⟨rfl, trivial, ?_⟩
    have size : uid.bytes.length = uidLen := by rw [length_bytes, sub_len cut]
    have empty : view.bytes.drop (uidLen + 1) = [] := List.drop_eq_nil_of_le (by simp [whole])
    have behind := drop_of_u8At last
    rw [empty] at behind
    have front : uid.bytes = view.bytes.take uidLen := bytes_of_sub cut
    refine (List.take_append_drop uidLen view.bytes).symm.trans ?_
    rw [behind, ← front]
    exact congrArg (· ++ [newId]) (ofFn_uidOf size).symm
  next =>
    obtain ⟨uid, newId⟩ := a
    rintro ⟨-, -, wire⟩
    have wire : view.bytes = List.ofFn uid ++ [newId] := wire
    have whole : view.len = uidLen + 1 := by
      rw [← length_bytes, wire, List.length_append, List.length_ofFn]
      rfl
    have last : view.u8At uidLen = some newId := by
      apply @u8At_of_drop view uidLen newId []
      rw [wire, List.drop_left' List.length_ofFn]
    obtain ⟨part, cut, same⟩ := @exists_sub view 0 (List.ofFn uid) [newId] (Nat.zero_le _) wire
    rw [List.length_ofFn] at cut
    simp [AssignReq.parse, whole, last, cut, same, uidOf_ofFn]

def calArgsFormat : Format (UInt16 × UInt8) UInt8 :=
  .plain (fun a => a.1 ≠ 0 ∧ a.2 ≠ 0) fun a => u16ToLe a.1 ++ [a.2]

theorem calArgs_reads : calArgsFormat.Reads bytes (fun _ => True)
    (fun args => (CalReq.parse args).map fun c => (c.gapUs, c.gaps)) := by
  refine ⟨fun view _ a => ⟨?_, ?_⟩, fun _ _ _ _ => trivial⟩
  next =>
    intro parsed
    simp only [CalReq.parse, Option.map_eq_some_iff, Option.bind_eq_bind, Option.bind_eq_some_iff, Option.pure_def,
      Option.guard_eq_some', Option.some.injEq] at parsed
    obtain ⟨_, ⟨-, whole, gapUs, first, gaps, second, -, live, rfl⟩, rfl⟩ := parsed
    refine ⟨rfl, live, ?_⟩
    have empty : view.bytes.drop 3 = [] := List.drop_eq_nil_of_le (by simp [whole])
    have all := drop_of_u16LeAt first
    rw [drop_of_u8At second, empty] at all
    exact all
  next =>
    obtain ⟨gapUs, gaps⟩ := a
    rintro ⟨-, ⟨gap, some⟩, wire⟩
    have wire : view.bytes = u16ToLe gapUs ++ [gaps] := wire
    have gap : gapUs ≠ 0 := gap
    have some : gaps ≠ 0 := some
    have whole : view.len = 3 := by rw [← length_bytes, wire]; rfl
    have first : view.u16LeAt 0 = .some gapUs := u16LeAt_of_drop wire
    have second : view.u8At 2 = .some gaps := by
      apply @u8At_of_drop view 2 gaps []
      rw [wire]
      rfl
    simp [CalReq.parse, whole, first, second, gap, some]

end Reads

end OpenServo.Protocol
