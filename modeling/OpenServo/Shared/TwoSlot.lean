import Mathlib.Data.Option.Basic

set_option autoImplicit false

/-!
Two slots written by turns. The slot whose value loses the comparison is the one to write next, so that a
write cut short costs nothing that was current.
-/

namespace OpenServo.Shared

inductive Side where
  | a
  | b
deriving DecidableEq, Repr

def Side.other : Side → Side
  | .a => .b
  | .b => .a

@[simp] theorem Side.other_other (side : Side) : side.other.other = side := by
  cases side <;> rfl

theorem Side.ne_other (side : Side) : side ≠ side.other := by
  cases side <;> decide

/-- What each slot reads as; `none` is a slot that holds no valid value. -/
abbrev Slots (T : Type) := Side → Option T

section

variable {T : Type} (newer : T → T → Bool) (slots : Slots T)

def Slots.set (side : Side) (value : Option T) : Slots T :=
  fun slot => if slot = side then value else slots slot

/-- The value that stands, and the slot to write next. Of two values that neither beats the other the
second slot's stands. -/
def Slots.pick : Option T × Side :=
  match slots .a, slots .b with
  | some a, some b => if newer a b then (some a, .b) else (some b, .a)
  | some a, none => (some a, .b)
  | none, b => (b, .a)

abbrev Slots.current : Option T := (slots.pick newer).1

abbrev Slots.spare : Side := (slots.pick newer).2

@[simp] theorem Slots.set_same (side : Side) (value : Option T) : slots.set side value side = value := by
  simp [Slots.set]

@[simp] theorem Slots.set_other (side : Side) (value : Option T) :
    slots.set side value side.other = slots side.other := by
  simp [Slots.set, (Side.ne_other side).symm]

theorem Slots.set_self (side : Side) : slots.set side (slots side) = slots := by
  funext slot
  by_cases same : slot = side <;> simp [Slots.set, same]

theorem Slots.spare_of_none {newer : T → T → Bool} {slots : Slots T} (nothing : slots.current newer = none) :
    slots.spare newer = .a := by
  simp only [Slots.current, Slots.spare, Slots.pick] at nothing ⊢
  cases first : slots .a with
  | none => rfl
  | some a =>
    cases second : slots .b with
    | none => simp [first, second] at nothing
    | some b =>
      by_cases beats : newer a b = true
      next => simp [first, second, beats] at nothing
      next => simp [first, second, beats] at nothing

variable {newer slots}

theorem Slots.pick_torn : (slots.set (slots.spare newer) none).pick newer = slots.pick newer := by
  simp only [Slots.spare, Slots.pick]
  cases first : slots .a with
  | none =>
    cases second : slots .b with
    | none => simp [Slots.set, second]
    | some b => simp [Slots.set, second]
  | some a =>
    cases second : slots .b with
    | none => simp [Slots.set, first]
    | some b =>
      by_cases beats : newer a b = true
      next => simp [Slots.set, first, beats]
      next => simp [Slots.set, second, beats]

theorem Slots.pick_landed {value : T}
    (ahead : ∀ standing, slots.current newer = some standing →
      newer value standing = true ∧ newer standing value = false) :
    (slots.set (slots.spare newer) (some value)).pick newer = (some value, (slots.spare newer).other) := by
  simp only [Slots.current, Slots.spare, Slots.pick] at ahead ⊢
  cases first : slots .a with
  | none =>
    cases second : slots .b with
    | none => simp [Slots.set, second, Side.other]
    | some b =>
      obtain ⟨beats, -⟩ := ahead b (by simp [first, second])
      simp [Slots.set, second, beats, Side.other]
  | some a =>
    cases second : slots .b with
    | none =>
      obtain ⟨-, beaten⟩ := ahead a (by simp [first, second])
      simp [Slots.set, first, beaten, Side.other]
    | some b =>
      by_cases stands : newer a b = true
      next =>
        obtain ⟨-, beaten⟩ := ahead a (by simp [first, second, stands])
        simp [Slots.set, first, stands, beaten, Side.other]
      next =>
        obtain ⟨beats, -⟩ := ahead b (by simp [first, second, stands])
        simp [Slots.set, second, stands, beats, Side.other]

def Slots.lose (slots : Slots T) (gone : Side → Bool) : Slots T :=
  fun side => if gone side then none else slots side

theorem Slots.current_lose {gone : Side → Bool} :
    (slots.lose gone).current newer = slots.current newer ∨ (slots.lose gone).current newer = none ↔
      (slots.current newer ≠ none → gone (slots.spare newer).other = true →
        gone (slots.spare newer) = true ∨ slots (slots.spare newer) = none ∨
          slots (slots.spare newer) = slots.current newer) := by
  simp only [Slots.current, Slots.spare, Slots.pick, Slots.lose]
  cases first : slots .a with
  | none =>
    cases second : slots .b with
    | none => simp
    | some b => cases goneB : gone .b <;> simp [first, Side.other, goneB]
  | some a =>
    cases second : slots .b with
    | none => cases goneA : gone .a <;> simp [second, Side.other, goneA]
    | some b =>
      by_cases beats : newer a b = true
      next =>
        cases goneA : gone .a <;> cases goneB : gone .b <;> simp [second, beats, Side.other, goneA, goneB]
      next =>
        cases goneA : gone .a <;> cases goneB : gone .b <;> simp [first, beats, Side.other, goneA, goneB]

end

end OpenServo.Shared
