import Mathlib.Data.List.Chain

set_option autoImplicit false

/-!
Logs of a thing that is taken and given back. From the invariant that each new mark is the opposite of
where the log stands follows that taking and giving back alternate strictly.
-/

namespace OpenServo.Shared

/-- Marks that alternate from taken on; the index says where they leave off. -/
inductive Toggles : List Bool → Bool → Prop where
  | nil : Toggles [] false
  | take {marks : List Bool} : Toggles marks false → Toggles (marks ++ [true]) true
  | give {marks : List Bool} : Toggles marks true → Toggles (marks ++ [false]) false

theorem Toggles.isChain_last {marks : List Bool} {out : Bool} (toggles : Toggles marks out) :
    (false :: marks).IsChain (· ≠ ·) ∧ (false :: marks).getLast? = some out := by
  induction toggles with
  | nil => exact ⟨List.isChain_singleton false, rfl⟩
  | take before ih | give before ih =>
    obtain ⟨chain, last⟩ := ih
    rw [← List.cons_append]
    refine ⟨List.isChain_append.mpr ⟨chain, List.isChain_singleton _, ?_⟩, by rw [List.getLast?_append]; rfl⟩
    simp [last]

theorem Toggles.isChain {marks : List Bool} {out : Bool} (toggles : Toggles marks out) :
    (false :: marks).IsChain (· ≠ ·) :=
  toggles.isChain_last.1

theorem Toggles.out_iff {marks : List Bool} {out : Bool} (toggles : Toggles marks out) :
    out = true ↔ marks.getLast? = some true := by
  have last := toggles.isChain_last.2
  rw [List.getLast?_cons, Option.some.injEq] at last
  rw [← last]
  cases marks.getLast? with
  | none => simp
  | some mark => simp

end OpenServo.Shared
