import Mathlib.Data.List.Induction

set_option autoImplicit false

/-!
The evidence of a counter that its condition raises and anything else clears: how many of the last flags in a row
hold.
-/

namespace OpenServo.Shared

variable {A : Type} {flags : List Bool} {m n : Nat}

def Streak (n : Nat) (flags : List Bool) : Prop :=
  List.replicate n true <:+ flags

theorem Streak.zero (flags : List Bool) : Streak 0 flags :=
  List.nil_suffix

theorem Streak.snoc (streak : Streak n flags) : Streak (n + 1) (flags ++ [true]) := by
  obtain ⟨front, whole⟩ := streak
  exact ⟨front, by rw [List.replicate_succ', ← List.append_assoc, whole]⟩

theorem Streak.mono (streak : Streak n flags) (le : m ≤ n) : Streak m flags := by
  have shorter : List.replicate m true <:+ List.replicate n true :=
    ⟨List.replicate (n - m) true, by rw [List.replicate_append_replicate, Nat.sub_add_cancel le]⟩
  exact shorter.trans streak

theorem Streak.count (streak : Streak n flags) (flag : Bool) (bound : Nat) :
    Streak (if flag then min (n + 1) bound else 0) (flags ++ [flag]) := by
  cases flag with
  | true => exact streak.snoc.mono (Nat.min_le_left _ _)
  | false => exact .zero _

/-- How long the streak at the end is: each flag raises it or clears it. -/
def trailing (flags : List Bool) : Nat :=
  flags.foldl (fun count flag => if flag then count + 1 else 0) 0

@[simp] theorem trailing_nil : trailing [] = 0 := rfl

@[simp] theorem trailing_snoc (flags : List Bool) (flag : Bool) :
    trailing (flags ++ [flag]) = if flag then trailing flags + 1 else 0 := by
  rw [trailing, List.foldl_append]
  rfl

theorem not_streak_snoc_false (positive : 0 < n) : ¬ Streak n (flags ++ [false]) := by
  intro streak
  have one := streak.mono positive
  obtain ⟨front, whole⟩ := one
  have last := congrArg List.getLast? whole
  simp at last

theorem Streak.of_snoc (streak : Streak (n + 1) (flags ++ [true])) : Streak n flags := by
  obtain ⟨front, whole⟩ := streak
  rw [List.replicate_succ', ← List.append_assoc] at whole
  exact ⟨front, (List.append_inj' whole rfl).1⟩

theorem streak_iff : Streak n flags ↔ n ≤ trailing flags := by
  induction flags using List.reverseRecOn generalizing n with
  | nil =>
    constructor
    next =>
      intro streak
      have length := streak.length_le
      simpa using length
    next =>
      intro none
      rw [Nat.le_zero.mp none]
      exact .zero []
  | append_singleton flags flag ih =>
    rw [trailing_snoc]
    cases n with
    | zero => exact ⟨fun _ => Nat.zero_le _, fun _ => .zero _⟩
    | succ n =>
      cases flag with
      | true =>
        rw [if_pos rfl, Nat.add_le_add_iff_right, ← ih]
        exact ⟨Streak.of_snoc, Streak.snoc⟩
      | false =>
        have never := @not_streak_snoc_false flags (n + 1) (by omega)
        exact ⟨fun streak => absurd streak never, fun less => absurd less (by simp)⟩

theorem streak_iff_counted {bound count : Nat} (counted : count = min (trailing flags) bound) (le : n ≤ bound) :
    Streak n flags ↔ n ≤ count := by
  rw [streak_iff, counted]
  omega

theorem counted_snoc {bound count : Nat} (counted : count = min (trailing flags) bound) (flag : Bool) :
    (if flag then min (count + 1) bound else 0) = min (trailing (flags ++ [flag])) bound := by
  rw [trailing_snoc, counted]
  split <;> omega

def adjacent (f : A → A → Bool) : List A → List Bool
  | a :: b :: rest => f a b :: adjacent f (b :: rest)
  | _ => []

theorem adjacent_snoc (f : A → A → Bool) (front : List A) (a b : A) :
    adjacent f (front ++ [a] ++ [b]) = adjacent f (front ++ [a]) ++ [f a b] := by
  induction front with
  | nil => rfl
  | cons first front ih =>
    cases front with
    | nil => rfl
    | cons second front => simpa [adjacent] using ih

theorem adjacent_snoc_of_last (f : A → A → Bool) {list : List A} {a : A} (last : list.getLast? = some a) (b : A) :
    adjacent f (list ++ [b]) = adjacent f list ++ [f a b] := by
  obtain ⟨front, rfl⟩ := List.getLast?_eq_some_iff.mp last
  exact adjacent_snoc f front a b

end OpenServo.Shared
