import OpenServo.Protocol.Formats
import OpenServo.Shared.Entries

set_option autoImplicit false

namespace OpenServo.Protocol

open OpenServo.Shared

namespace FrameBytes

theorem sub_eq (view : FrameBytes) {start len : Nat} (fits : start + len ≤ view.len) :
    view.sub start len =
      if view.head.length ≤ start then some ⟨(view.tail.drop (start - view.head.length)).take len, []⟩
      else some ⟨(view.head.drop start).take len, view.tail.take (start + len - view.head.length)⟩ := by
  simp only [sub, List.extract_eq_take_drop, Nat.add_sub_cancel_left]
  rw [if_neg (by omega)]
  split
  next => rfl
  next before =>
    split
    next inside => rw [show start + len - view.head.length = 0 by omega, List.take_zero]
    next crossing => rw [List.take_of_length_le (show (view.head.drop start).length ≤ len by rw [List.length_drop]; omega)]

section SubSub

variable {view part cut : FrameBytes} {start len i size : Nat} (fits : start + len ≤ view.len)
  (outer : view.sub start len = some part) (room : i + size ≤ len) (inner : part.sub i size = some cut)

include fits outer room inner

theorem sub_sub : view.sub (start + i) size = some cut := by
  have length := sub_len outer
  rw [sub_eq view fits] at outer
  rw [sub_eq part (by omega)] at inner
  rw [sub_eq view (by omega)]
  by_cases beyond : view.head.length ≤ start
  next =>
    rw [if_pos beyond, Option.some.injEq] at outer
    rw [if_pos (by omega), ← inner, ← outer]
    have tail : len ≤ (view.tail.drop (start - view.head.length)).length := by
      rw [List.length_drop]
      simp only [FrameBytes.len] at fits
      omega
    rw [List.length_take, Nat.min_eq_left tail]
    split
    next done =>
      rw [show size = 0 by omega, List.take_zero, List.take_zero]
    next =>
      rw [List.drop_take, List.take_take, Nat.min_eq_left (by omega), List.drop_drop, List.take_nil]
      congr 4
      omega
  next =>
    rw [if_neg beyond, Option.some.injEq] at outer
    rw [← inner, ← outer, List.length_take, List.length_drop]
    by_cases past : min len (view.head.length - start) ≤ i
    next =>
      rw [if_pos past]
      split
      next tail =>
        rw [List.drop_take, List.take_take, Nat.min_eq_left (by omega)]
        congr 4
        omega
      next =>
        rw [show size = 0 by omega, List.take_zero, List.take_zero, Nat.add_zero,
          show start + i - view.head.length = 0 by omega, List.take_zero]
    next =>
      rw [if_neg past, if_neg (by omega), List.drop_take, List.take_take, Nat.min_eq_left (by omega), List.drop_drop,
        List.take_take]
      congr 3
      omega

end SubSub

def Inside (view part : FrameBytes) : Prop :=
  ∃ start, start + part.len ≤ view.len ∧ view.sub start part.len = some part

theorem inside_of_sub {view part : FrameBytes} {start len : Nat} (cut : view.sub start len = some part) :
    view.Inside part := by
  have length := sub_len cut
  subst length
  refine ⟨start, ?_, cut⟩
  by_contra beyond
  rw [sub, if_pos (by omega)] at cut
  cases cut

theorem Inside.trans {view part piece : FrameBytes} (outer : view.Inside part) (inner : part.Inside piece) :
    view.Inside piece := by
  obtain ⟨start, fits, cut⟩ := outer
  obtain ⟨i, room, piece⟩ := inner
  exact ⟨start + i, by omega, sub_sub fits cut room piece⟩

def next : FrameBytes → Option (UInt8 × FrameBytes)
  | ⟨b :: head, tail⟩ => some (b, ⟨head, tail⟩)
  | ⟨[], b :: tail⟩ => some (b, ⟨[], tail⟩)
  | ⟨[], []⟩ => none

theorem next_takes : Takes bytes (fun _ => True) (fun b => [b]) next := by
  constructor
  next =>
    rintro ⟨head, tail⟩ b wire _ here
    cases head with
    | nil =>
      obtain rfl : tail = b :: wire := here
      exact ⟨⟨[], wire⟩, rfl, rfl⟩
    | cons b' head =>
      obtain ⟨rfl, rest⟩ := List.cons.inj here
      exact ⟨⟨head, tail⟩, rfl, rest⟩
  next =>
    rintro ⟨head, tail⟩ empty
    obtain ⟨rfl, rfl⟩ := List.append_eq_nil_iff.mp empty
    rfl

end FrameBytes

def First {F : Type} (idOf : F → UInt8) (entries : List F) (id : UInt8) (k : Nat) (e : F) : Prop :=
  entries[k]? = some e ∧ idOf e = id ∧ ∀ j < k, ∀ e', entries[j]? = some e' → idOf e' ≠ id

section First

variable {F : Type} {idOf : F → UInt8} {entries : List F} {id : UInt8}

theorem First.lt {k : Nat} {e : F} (first : First idOf entries id k e) : k < entries.length :=
  (List.getElem?_eq_some_iff.mp first.1).1

theorem First.unique {k k' : Nat} {e e' : F} (first : First idOf entries id k e) (other : First idOf entries id k' e') :
    k = k' ∧ e = e' := by
  have same : k = k' := by
    by_contra apart
    rcases Nat.lt_or_gt_of_ne apart with before | behind
    next => exact other.2.2 k before e first.1 first.2.1
    next => exact first.2.2 k' behind e' other.1 other.2.1
  subst same
  exact ⟨rfl, Option.some.inj (first.1.symm.trans other.1)⟩

theorem First.cons {k : Nat} {head e : F} (other : idOf head ≠ id) (first : First idOf entries id k e) :
    First idOf (head :: entries) id (k + 1) e := by
  refine ⟨first.1, first.2.1, fun j before e' here => ?_⟩
  cases j with
  | zero => exact Option.some.inj here ▸ other
  | succ j => exact first.2.2 j (by omega) e' here

theorem zipIdx_find (start : Nat) :
    match (entries.zipIdx start).find? (fun e => idOf e.1 == id) with
    | none => ∀ e ∈ entries, idOf e ≠ id
    | some (e, n) => ∃ k, n = start + k ∧ First idOf entries id k e := by
  induction entries generalizing start with
  | nil => simp
  | cons head tail ih =>
    rw [List.zipIdx_cons]
    by_cases here : idOf head = id
    next =>
      rw [List.find?_cons_of_pos (by simpa using here)]
      exact ⟨0, rfl, rfl, here, fun j before => absurd before (Nat.not_lt_zero j)⟩
    next =>
      rw [List.find?_cons_of_neg (by simpa using here)]
      have rest := ih (start + 1)
      split at rest
      next => exact List.forall_mem_cons.mpr ⟨here, rest⟩
      next e n _ =>
        obtain ⟨k, place, first⟩ := rest
        exact ⟨k + 1, by omega, first.cons here⟩

end First

structure Finds {F R : Type} (idOf : F → UInt8) (entries : List F) (tells : Nat → F → R → Prop)
    (find : UInt8 → Option R) : Prop where
  first : ∀ id r, find id = some r ↔ ∃ k e, First idOf entries id k e ∧ tells k e r
  missing : ∀ id, find id = none ↔ ∀ e ∈ entries, idOf e ≠ id

section Finds

variable {F R : Type} {idOf : F → UInt8} {entries : List F}

theorem First.mem {id : UInt8} {k : Nat} {e : F} (first : First idOf entries id k e) : e ∈ entries :=
  List.mem_of_getElem? first.1

theorem Finds.of_zipIdx {tells : Nat → F → R → Prop} {find : UInt8 → Option R} (say : Nat → F → R)
    (told : ∀ k e r, k < entries.length → (tells k e r ↔ r = say k e))
    (searches : ∀ id, find id = (entries.zipIdx.find? (fun e => idOf e.1 == id)).map fun e => say e.2 e.1) :
    Finds idOf entries tells find := by
  have search := fun id => @zipIdx_find F idOf entries id 0
  constructor
  case first =>
    intro id r
    have rest := search id
    rw [searches]
    split at rest
    next none =>
      rw [none]
      refine ⟨fun no => (by cases no), ?_⟩
      rintro ⟨k, e, first, -⟩
      exact absurd first.2.1 (rest e first.mem)
    next e n found =>
      obtain ⟨k, place, first⟩ := rest
      obtain rfl : n = k := by omega
      rw [found]
      constructor
      next =>
        intro said
        exact ⟨n, e, first, (told n e r first.lt).mpr (Option.some.inj said).symm⟩
      next =>
        rintro ⟨k', e', other, tells⟩
        obtain ⟨rfl, rfl⟩ := first.unique other
        exact congrArg some ((told n e r first.lt).mp tells).symm
  case missing =>
    intro id
    have rest := search id
    rw [searches, Option.map_eq_none_iff]
    split at rest
    next none => exact ⟨fun _ => rest, fun _ => none⟩
    next e n found =>
      obtain ⟨k, -, first⟩ := rest
      rw [found]
      exact ⟨fun no => (by cases no), fun all => absurd first.2.1 (all e first.mem)⟩

end Finds

/-- A group payload: its grammar, and what the source parses, iterates and looks up of it. -/
structure GroupForm (H E F G R : Type) where
  head : H → List UInt8 → Prop
  entry : H → E → List UInt8 → Prop
  parse : FrameBytes → Option G
  headOf : G → H
  entries : G → FrameBytes
  next : G → FrameBytes → Option (F × FrameBytes)
  plain : F → E
  data : F → Option FrameBytes
  idOf : F → UInt8
  find : G → UInt8 → Option R
  tells : Nat → F → R → Prop

namespace GroupForm

variable {H E F G R : Type} (form : GroupForm H E F G R)

/-- A payload is a head and its entries, and nothing behind them. -/
inductive Derives : H → List E → List UInt8 → Prop where
  | payload {h : H} {es : List E} {front rest : List UInt8} :
      form.head h front → Entries (form.entry h) es rest → Derives h es (front ++ rest)

def iter (g : G) : List F :=
  entriesOf (form.next g) (form.entries g).len (form.entries g)

structure Law (view : FrameBytes) : Prop where
  accepts : (∃ g, form.parse view = some g) ↔ ∃ h es, form.Derives h es view.bytes
  -- The derivation is the one of the parsed head and the entries iterated.
  yields : ∀ g, form.parse view = some g → ∀ h es,
    form.Derives h es view.bytes ↔ h = form.headOf g ∧ es = (form.iter g).map form.plain
  consumes : ∀ g, form.parse view = some g →
    ∃ last, Iterates (form.next g) (form.entries g) (form.iter g) last ∧ last.bytes = []
  slices : ∀ g, form.parse view = some g → ∀ e ∈ form.iter g, ∀ part, form.data e = some part → view.Inside part
  finds : ∀ g, form.parse view = some g → Finds form.idOf (form.iter g) form.tells (form.find g)

/-- Whatever bytes it is let loose on, the iterator comes to its end. -/
def Ends (view : FrameBytes) : Prop :=
  ∀ g, ∃ last, Iterates (form.next g) view (entriesOf (form.next g) view.len view) last

end GroupForm

theorem entriesOf_iterates {F : Type} {next : FrameBytes → Option (F × FrameBytes)}
    (shrinks : ∀ view e rest, next view = some (e, rest) → rest.len < view.len) (view : FrameBytes) (fuel : Nat)
    (enough : view.len ≤ fuel) : ∃ last, Iterates next view (entriesOf next fuel view) last := by
  induction fuel generalizing view with
  | zero =>
    cases taken : next view with
    | none => exact ⟨view, .stop taken⟩
    | some turn =>
      have shorter := shrinks view turn.1 turn.2 taken
      omega
  | succ fuel ih =>
    rw [entriesOf]
    cases taken : next view with
    | none => exact ⟨view, .stop taken⟩
    | some turn =>
      have shorter := shrinks view turn.1 turn.2 taken
      obtain ⟨last, turns⟩ := ih turn.2 (by omega)
      exact ⟨last, .turn taken turns⟩

namespace GroupForm

variable {H E F G R : Type} {form : GroupForm H E F G R}

theorem derives_iff {good : H → Prop} {headBytes : H → List UInt8} {ok : H → E → Prop} {encode : H → E → List UInt8}
    (heads : ∀ h front, form.head h front ↔ good h ∧ front = headBytes h)
    (writes : ∀ h e wire, form.entry h e wire ↔ ok h e ∧ wire = encode h e) (h : H) (es : List E) (wire : List UInt8) :
    form.Derives h es wire ↔
      good h ∧ (es ≠ [] ∧ ∀ e ∈ es, ok h e) ∧ wire = headBytes h ++ es.flatMap (encode h) := by
  constructor
  next =>
    rintro ⟨front, rest⟩
    obtain ⟨right, rfl⟩ := (heads _ _).mp front
    obtain ⟨listed, rfl⟩ := (entries_iff (writes h) _ _).mp rest
    exact ⟨right, listed, rfl⟩
  next =>
    rintro ⟨right, listed, rfl⟩
    exact .payload ((heads _ _).mpr ⟨right, rfl⟩) ((entries_iff (writes h) _ _).mpr ⟨listed, rfl⟩)

theorem slices_of_cuts {view : FrameBytes} {g : G} (within : form.entries g = view ∨ view.Inside (form.entries g))
    (shrinks : ∀ view e rest, form.next g view = some (e, rest) → rest.len < view.len)
    (cuts : ∀ view e rest, form.next g view = some (e, rest) →
      (∀ part, form.data e = some part → view.Inside part) ∧ view.Inside rest) :
    ∀ e ∈ form.iter g, ∀ part, form.data e = some part → view.Inside part := by
  obtain ⟨last, turns⟩ := entriesOf_iterates shrinks (form.entries g) _ (Nat.le_refl _)
  refine @Iterates.forall_mem _ _ _ _ _ _ (fun rest => rest = view ∨ view.Inside rest) _ ?_ within turns
  intro rest e rest' inside taken
  obtain ⟨data, behind⟩ := cuts rest e rest' taken
  rcases inside with rfl | inside
  next => exact ⟨data, .inr behind⟩
  next => exact ⟨fun part here => inside.trans (data part here), .inr (inside.trans behind)⟩

structure Faithful (form : GroupForm H E F G R) (ok : G → E → Prop) (encode : G → E → List UInt8) : Prop where
  reads : ∀ view h es, (form.parse view).map (fun g => (form.headOf g, (form.iter g).map form.plain)) = some (h, es) ↔
    form.Derives h es view.bytes
  takes : ∀ g, Takes FrameBytes.bytes (ok g) (encode g) fun view => (form.next g view).map (Prod.map form.plain id)
  whole : ∀ view g, form.parse view = some g →
    ∃ es : List E, (∀ e ∈ es, ok g e) ∧ (form.entries g).bytes = es.flatMap (encode g)
  shorter : ∀ view g, form.parse view = some g → (form.entries g).len ≤ view.len
  shrinks : ∀ g view e rest, form.next g view = some (e, rest) → rest.len < view.len
  slices : ∀ view g, form.parse view = some g → ∀ e ∈ form.iter g, ∀ part, form.data e = some part → view.Inside part
  finds : ∀ g, (form.iter g).length ≤ maxPayload → Finds form.idOf (form.iter g) form.tells (form.find g)

namespace Faithful

variable {ok : G → E → Prop} {encode : G → E → List UInt8} (faithful : form.Faithful ok encode)

include faithful

theorem ends (view : FrameBytes) : form.Ends view :=
  fun g => entriesOf_iterates (faithful.shrinks g) view _ (Nat.le_refl _)

theorem consumes {view : FrameBytes} {g : G} (parsed : form.parse view = some g) :
    ∃ last, Iterates (form.next g) (form.entries g) (form.iter g) last ∧ last.bytes = [] := by
  obtain ⟨es, all, wire⟩ := faithful.whole view g parsed
  obtain ⟨last, turns⟩ := faithful.ends (form.entries g) g
  obtain ⟨last', plain, empty⟩ := Iterates.of_takes (faithful.takes g) es all _ wire
  obtain ⟨-, rfl⟩ := (turns.map form.plain).unique plain
  exact ⟨last, turns, empty⟩

theorem law {view : FrameBytes} (fits : view.len ≤ maxPayload) : form.Law view := by
  constructor
  case accepts =>
    constructor
    next =>
      rintro ⟨g, parsed⟩
      exact ⟨_, _, (faithful.reads view _ _).mp (by rw [parsed]; rfl)⟩
    next =>
      rintro ⟨h, es, derived⟩
      obtain ⟨g, parsed, -⟩ := Option.map_eq_some_iff.mp ((faithful.reads view h es).mpr derived)
      exact ⟨g, parsed⟩
  case yields =>
    intro g parsed h es
    rw [← faithful.reads, parsed, Option.map_some, Option.some.injEq, Prod.mk.injEq]
    exact and_congr eq_comm eq_comm
  case consumes => exact fun g parsed => faithful.consumes parsed
  case slices => exact faithful.slices view
  case finds =>
    intro g parsed
    have room := faithful.shorter view g parsed
    exact faithful.finds g (Nat.le_trans (entriesOf_length_le _ _ _) (Nat.le_trans room fits))

end Faithful

end GroupForm

end OpenServo.Protocol
