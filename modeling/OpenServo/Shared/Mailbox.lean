import Mathlib.Data.List.Basic

set_option autoImplicit false

/-!
A mailbox that is emptied at a poll: what is posted to it and what the polls find. Whoever posts is served
when a later poll hands the item out, or when a later item of the same kind has taken its place.
-/

namespace OpenServo.Shared

variable {α κ : Type}

inductive Mark (α : Type) where
  | posted (item : α)
  | polled (item : Option α)

/-- Every item is handed out later, or another of its kind is posted later. -/
def Honoured (kind : α → κ) : List (Mark α) → Prop
  | [] => True
  | .posted item :: later =>
    (.polled (some item) ∈ later ∨ ∃ next, .posted next ∈ later ∧ kind next = kind item) ∧ Honoured kind later
  | .polled _ :: later => Honoured kind later

def lastOf [DecidableEq κ] (kind : α → κ) (which : κ) (items : List α) : Option α :=
  (items.filter fun item => kind item = which).getLast?

def batch (items : List α) (found : Option α) : List (Mark α) :=
  items.map .posted ++ [.polled found]

variable {kind : α → κ}

section Last

variable [DecidableEq κ]

theorem lastOf_append (which : κ) (front back : List α) :
    lastOf kind which (front ++ back) = (lastOf kind which back).or (lastOf kind which front) := by
  rw [lastOf, List.filter_append, List.getLast?_append]
  rfl

variable (kind) in
theorem lastOf_append_single (which : κ) (items : List α) (item : α) :
    lastOf kind which (items ++ [item]) = if kind item = which then some item else lastOf kind which items := by
  rw [lastOf_append, lastOf, List.filter_singleton]
  by_cases same : kind item = which <;> simp [same]

variable (kind) in
theorem lastOf_of_mem {item : α} {items : List α} (member : item ∈ items) :
    ∃ last, lastOf kind (kind item) items = some last ∧ kind last = kind item := by
  have some : item ∈ items.filter fun next => kind next = kind item := List.mem_filter.mpr ⟨member, by simp⟩
  obtain ⟨last, found⟩ := Option.isSome_iff_exists.mp (List.getLast?_isSome.mpr (List.ne_nil_of_mem some))
  have inside := (List.mem_filter.mp (List.mem_of_getLast? found)).2
  exact ⟨last, found, by simpa using inside⟩

theorem lastOf_cons_of_mem {item next : α} {rest : List α} (member : next ∈ rest) :
    lastOf kind (kind next) (item :: rest) = lastOf kind (kind next) rest := by
  obtain ⟨last, found, -⟩ := lastOf_of_mem kind member
  rw [← List.singleton_append, lastOf_append, found]
  rfl

theorem lastOf_cons_of_none {item : α} {rest : List α} (none : ∀ next ∈ rest, kind next ≠ kind item) :
    lastOf kind (kind item) (item :: rest) = some item := by
  have empty : (rest.filter fun next => kind next = kind item) = [] := by
    simpa using none
  rw [lastOf, List.filter_cons, if_pos (by simp), empty]
  rfl

end Last

theorem honoured_append {front : List (Mark α)} (settled : Honoured kind front) (back : List (Mark α)) :
    Honoured kind (front ++ back) ↔ Honoured kind back := by
  induction front with
  | nil => rfl
  | cons mark front ih =>
    cases mark with
    | polled => exact ih settled
    | posted item =>
      have covered :
          .polled (some item) ∈ front ++ back ∨ ∃ next, .posted next ∈ front ++ back ∧ kind next = kind item :=
        settled.1.imp (List.mem_append_left _) fun ⟨next, member, same⟩ => ⟨next, List.mem_append_left _ member, same⟩
      exact (and_iff_right covered).trans (ih settled.2)

theorem posted_mem_batch {items : List α} {found : Option α} {item : α} :
    .posted item ∈ batch items found ↔ item ∈ items := by
  simp [batch]

theorem polled_mem_batch {items : List α} {found item : Option α} :
    .polled item ∈ batch items found ↔ found = item := by
  simp [batch, eq_comm]

/-- A batch is served exactly when the poll finds the last item of every kind that was posted. -/
theorem honoured_batch [DecidableEq κ] (items : List α) (found : Option α) :
    Honoured kind (batch items found) ↔ ∀ item ∈ items, lastOf kind (kind item) items = found := by
  induction items with
  | nil => simp [batch, Honoured]
  | cons item rest ih =>
    have head : Honoured kind (batch (item :: rest) found) ↔
        (found = some item ∨ ∃ next ∈ rest, kind next = kind item) ∧ Honoured kind (batch rest found) := by
      refine and_congr_left fun _ => or_congr polled_mem_batch ?_
      exact exists_congr fun next => and_congr_left fun _ => posted_mem_batch
    have others (all : ∀ next ∈ rest, lastOf kind (kind next) rest = found) :
        ∀ next ∈ rest, lastOf kind (kind next) (item :: rest) = found :=
      fun next member => (lastOf_cons_of_mem member).trans (all next member)
    rw [head, ih, List.forall_mem_cons]
    by_cases again : ∃ next ∈ rest, kind next = kind item
    next =>
      obtain ⟨next, member, same⟩ := again
      constructor
      next =>
        rintro ⟨-, all⟩
        have first := others all next member
        rw [same] at first
        exact ⟨first, others all⟩
      next =>
        rintro ⟨-, all⟩
        refine ⟨.inr ⟨next, member, same⟩, fun one inside => ?_⟩
        exact (lastOf_cons_of_mem inside).symm.trans (all one inside)
    next =>
      have alone : ∀ next ∈ rest, kind next ≠ kind item := fun next member same => again ⟨next, member, same⟩
      rw [lastOf_cons_of_none alone]
      constructor
      next =>
        rintro ⟨first, all⟩
        exact ⟨(first.resolve_right again).symm, others all⟩
      next =>
        rintro ⟨first, all⟩
        refine ⟨.inl first.symm, fun one inside => ?_⟩
        exact (lastOf_cons_of_mem inside).symm.trans (all one inside)

end OpenServo.Shared
