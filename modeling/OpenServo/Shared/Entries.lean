import OpenServo.Shared.Format

set_option autoImplicit false

/-!
Lists of entries on a wire: the grammar that derives them, and the turns of an iterator that takes them off.
-/

namespace OpenServo.Shared

variable {B V E F : Type}

inductive Entries (entry : E → List B → Prop) : List E → List B → Prop where
  | last {e : E} {wire : List B} : entry e wire → Entries entry [e] wire
  | more {e : E} {es : List E} {wire rest : List B} :
      entry e wire → Entries entry es rest → Entries entry (e :: es) (wire ++ rest)

theorem entries_iff {entry : E → List B → Prop} {ok : E → Prop} {encode : E → List B}
    (writes : ∀ e wire, entry e wire ↔ ok e ∧ wire = encode e) (es : List E) (wire : List B) :
    Entries entry es wire ↔ (es ≠ [] ∧ ∀ e ∈ es, ok e) ∧ wire = es.flatMap encode := by
  constructor
  next =>
    intro derived
    induction derived with
    | last here =>
      obtain ⟨fine, same⟩ := (writes _ _).mp here
      simp [fine, same]
    | more here _ ih =>
      obtain ⟨fine, same⟩ := (writes _ _).mp here
      obtain ⟨⟨-, all⟩, rest⟩ := ih
      refine ⟨⟨List.cons_ne_nil _ _, ?_⟩, by rw [same, rest, List.flatMap_cons]⟩
      simpa [fine] using all
  next =>
    rintro ⟨⟨listed, all⟩, rfl⟩
    induction es with
    | nil => exact absurd rfl listed
    | cons e es ih =>
      have here : entry e (encode e) := (writes e _).mpr ⟨all e List.mem_cons_self, rfl⟩
      cases es with
      | nil =>
        rw [List.flatMap_singleton]
        exact .last here
      | cons e' es =>
        rw [List.flatMap_cons]
        exact .more here (ih (List.cons_ne_nil _ _) fun later member => all later (List.mem_cons_of_mem e member))

/-- The turns of an iterator until it has no more: what it gave, and what it left. -/
inductive Iterates (next : V → Option (E × V)) : V → List E → V → Prop where
  | stop {view : V} : next view = none → Iterates next view [] view
  | turn {view rest last : V} {e : E} {es : List E} :
      next view = some (e, rest) → Iterates next rest es last → Iterates next view (e :: es) last

namespace Iterates

variable {next : V → Option (E × V)} {view last last' : V} {es es' : List E}

theorem unique (first : Iterates next view es last) (second : Iterates next view es' last') :
    es = es' ∧ last = last' := by
  induction first generalizing es' last' with
  | stop none =>
    cases second with
    | stop _ => exact ⟨rfl, rfl⟩
    | turn taken _ => exact absurd (none.symm.trans taken) (by simp)
  | turn taken _ ih =>
    cases second with
    | stop none => exact absurd (none.symm.trans taken) (by simp)
    | turn taken' later =>
      obtain ⟨rfl, rfl⟩ := Prod.mk.inj (Option.some.inj (taken.symm.trans taken'))
      obtain ⟨rfl, rfl⟩ := ih later
      exact ⟨rfl, rfl⟩

theorem map (f : E → F) (turns : Iterates next view es last) :
    Iterates (fun view => (next view).map (Prod.map f id)) view (es.map f) last := by
  induction turns with
  | stop none => exact .stop (by rw [none]; rfl)
  | turn taken _ ih => exact .turn (by rw [taken]; rfl) ih

theorem forall_mem {Inv : V → Prop} {Said : E → Prop}
    (turn : ∀ view e rest, Inv view → next view = some (e, rest) → Said e ∧ Inv rest) (start : Inv view)
    (turns : Iterates next view es last) : ∀ e ∈ es, Said e := by
  induction turns with
  | stop _ => simp
  | turn taken _ ih =>
    obtain ⟨said, kept⟩ := turn _ _ _ start taken
    exact List.forall_mem_cons.mpr ⟨said, ih kept⟩

theorem of_takes {bytes : V → List B} {ok : E → Prop} {encode : E → List B} (takes : Takes bytes ok encode next)
    (es : List E) (all : ∀ e ∈ es, ok e) (view : V) (wire : bytes view = es.flatMap encode) :
    ∃ last, Iterates next view es last ∧ bytes last = [] := by
  induction es generalizing view with
  | nil => exact ⟨view, .stop (takes.stops view wire), wire⟩
  | cons e es ih =>
    rw [List.flatMap_cons] at wire
    obtain ⟨rest, taken, tail⟩ := takes.takes view e _ (all e List.mem_cons_self) wire
    obtain ⟨last, turns, empty⟩ := ih (fun later member => all later (List.mem_cons_of_mem e member)) rest tail
    exact ⟨last, .turn taken turns, empty⟩

end Iterates

end OpenServo.Shared
