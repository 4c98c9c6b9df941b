import Mathlib.Data.List.TakeWhile

set_option autoImplicit false

/-!
A line that takes levels, one after the other, and what is recorded of it: the changes alone. The level at any
instant can be read back from them.
-/

namespace OpenServo.Shared

variable {A : Type} {p : A → Bool}

section Partition

def partitionPoint (p : A → Bool) (xs : List A) : Nat :=
  (xs.takeWhile p).length

theorem takeWhile_split {front back : List A} (holds : ∀ a ∈ front, p a = true) (stops : ∀ a ∈ back.head?, p a = false) :
    (front ++ back).takeWhile p = front := by
  rw [List.takeWhile_append_of_pos holds]
  cases back with
  | nil => simp
  | cons a back => simp [stops a rfl]

theorem takeWhile_congr {q : A → Bool} {xs : List A} (same : ∀ a ∈ xs, p a = q a) : xs.takeWhile p = xs.takeWhile q := by
  induction xs with
  | nil => rfl
  | cons a xs ih =>
    rw [List.takeWhile_cons, List.takeWhile_cons, same a List.mem_cons_self,
      ih fun b member => same b (List.mem_cons_of_mem a member)]

theorem partitionPoint_split {front back : List A} (holds : ∀ a ∈ front, p a = true)
    (stops : ∀ a ∈ back.head?, p a = false) : partitionPoint p (front ++ back) = front.length := by
  rw [partitionPoint, takeWhile_split holds stops]

end Partition

variable {idle : A} {marks : List (Nat × A)} {t : Nat}

/-- The level at an instant: that of the latest mark, or `idle` before any. -/
def lineAt (idle : A) (marks : List (Nat × A)) (t : Nat) : A :=
  ((marks.takeWhile fun mark => mark.1 ≤ t).getLast?.map Prod.snd).getD idle

theorem lineAt_cons (mark : Nat × A) (reached : mark.1 ≤ t) : lineAt idle (mark :: marks) t = lineAt mark.2 marks t := by
  rw [lineAt, lineAt, List.takeWhile_cons_of_pos (by simpa using reached), List.getLast?_cons]
  cases (marks.takeWhile fun mark => mark.1 ≤ t).getLast? <;> rfl

theorem lineAt_later (later : ∀ mark ∈ marks.head?, t < mark.1) : lineAt idle marks t = idle := by
  cases marks with
  | nil => rfl
  | cons mark marks =>
    have apart : ¬ mark.1 ≤ t := Nat.not_le.mpr (later mark rfl)
    simp [lineAt, apart]

theorem lineAt_mark {front back : List (Nat × A)} {mark : Nat × A} (past : ∀ m ∈ front, m.1 ≤ t) (reached : mark.1 ≤ t)
    (later : ∀ m ∈ back.head?, t < m.1) : lineAt idle (front ++ mark :: back) t = mark.2 := by
  induction front generalizing idle with
  | nil => rw [List.nil_append, lineAt_cons mark reached, lineAt_later later]
  | cons first front ih =>
    rw [List.cons_append, lineAt_cons first (past first List.mem_cons_self)]
    exact ih fun m member => past m (List.mem_cons_of_mem first member)

def leftAt (idle : A) (marks : List (Nat × A)) : A :=
  (marks.getLast?.map Prod.snd).getD idle

theorem leftAt_cons (mark : Nat × A) : leftAt idle (mark :: marks) = leftAt mark.2 marks := by
  rw [leftAt, leftAt, List.getLast?_cons]
  cases marks.getLast? <;> rfl

theorem leftAt_append (front back : List (Nat × A)) : leftAt idle (front ++ back) = leftAt (leftAt idle front) back := by
  induction front generalizing idle with
  | nil => rfl
  | cons mark front ih => rw [List.cons_append, leftAt_cons, leftAt_cons, ih]

variable [DecidableEq A]

def changes (idle : A) : List (Nat × A) → List (Nat × A)
  | [] => []
  | mark :: marks => if mark.2 = idle then changes idle marks else mark :: changes mark.2 marks

theorem changes_append (front back : List (Nat × A)) :
    changes idle (front ++ back) = changes idle front ++ changes (leftAt idle front) back := by
  induction front generalizing idle with
  | nil => rfl
  | cons mark front ih =>
    rw [List.cons_append, changes, changes, leftAt_cons]
    split
    next same => rw [ih, same]
    next => rw [ih, List.cons_append]

theorem mem_of_changes {mark : Nat × A} (member : mark ∈ changes idle marks) : mark ∈ marks := by
  induction marks generalizing idle with
  | nil => exact member
  | cons first marks ih =>
    rw [changes] at member
    split at member
    next => exact List.mem_cons_of_mem first (ih member)
    next =>
      rcases List.mem_cons.mp member with rfl | later
      next => exact List.mem_cons_self
      next => exact List.mem_cons_of_mem first (ih later)

theorem changes_ne_nil (moved : leftAt idle marks ≠ idle) : changes idle marks ≠ [] := by
  induction marks with
  | nil => exact absurd rfl moved
  | cons mark marks ih =>
    rw [leftAt_cons] at moved
    rw [changes]
    split
    next same => exact ih (by rwa [same] at moved)
    next => exact List.cons_ne_nil _ _

/-- The changes tell the level at every instant. -/
theorem lineAt_changes (sorted : marks.Pairwise fun a b => a.1 ≤ b.1) (t : Nat) :
    lineAt idle (changes idle marks) t = lineAt idle marks t := by
  induction marks generalizing idle with
  | nil => rfl
  | cons mark marks ih =>
    obtain ⟨first, sorted⟩ := List.pairwise_cons.mp sorted
    by_cases reached : mark.1 ≤ t
    next =>
      rw [lineAt_cons mark reached, changes]
      split
      next same => rw [ih sorted, same]
      next => rw [lineAt_cons mark reached, ih sorted]
    next =>
      have later : t < mark.1 := Nat.not_le.mp reached
      have known : ∀ m ∈ mark :: marks, t < m.1 := by
        intro m member
        rcases List.mem_cons.mp member with rfl | behind
        next => exact later
        next => exact Nat.lt_of_lt_of_le later (first m behind)
      rw [lineAt_later fun m head => known m (mem_of_changes (List.mem_of_mem_head? head)),
        lineAt_later fun m head => known m (List.mem_of_mem_head? head)]

end OpenServo.Shared
