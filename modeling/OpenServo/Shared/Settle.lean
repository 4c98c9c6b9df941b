set_option autoImplicit false

/-!
Machines that turn until they have to wait for more input. What such a machine settles in does not
depend on how its input is cut, as long as a turn it could make it still makes with more at hand.
-/

namespace OpenServo.Shared

variable {S : Type} {turn : S → Option S}

inductive Settles (turn : S → Option S) : S → S → Prop where
  | wait {s : S} (waits : turn s = none) : Settles turn s s
  | turn {s next last : S} (turns : turn s = some next) (rest : Settles turn next last) : Settles turn s last

theorem Settles.waits {s last : S} (settles : Settles turn s last) : turn last = none := by
  induction settles with
  | wait waits => exact waits
  | turn _ _ ih => exact ih

theorem Settles.unique {s first second : S} (left : Settles turn s first) (right : Settles turn s second) :
    first = second := by
  induction left with
  | wait waits =>
    cases right with
    | wait => rfl
    | turn turns => rw [waits] at turns; cases turns
  | turn turns _ ih =>
    cases right with
    | wait waits => rw [turns] at waits; cases waits
    | turn other rest =>
      rw [turns] at other
      cases other
      exact ih rest

theorem Settles.feed {feed : S → S} (keeps : ∀ s next, turn s = some next → turn (feed s) = some (feed next))
    {s middle last : S} (first : Settles turn s middle) (second : Settles turn (feed middle) last) :
    Settles turn (feed s) last := by
  induction first with
  | wait => exact second
  | turn turns _ ih => exact .turn (keeps _ _ turns) (ih second)

section Chunks

variable {B : Type} (push : S → List B → S) (feed : S → List B → S)

theorem settle_chunks (settles : ∀ s bytes, Settles turn (feed s bytes) (push s bytes))
    (keeps : ∀ bytes s next, turn s = some next → turn (feed s bytes) = some (feed next bytes))
    (joins : ∀ s first second, feed (feed s first) second = feed s (first ++ second))
    (empty : ∀ s, feed s [] = s) (s : S) (waits : turn s = none) (chunks : List (List B)) :
    chunks.foldl push s = push s chunks.flatten := by
  induction chunks generalizing s with
  | nil =>
    have idle := settles s []
    rw [empty] at idle
    exact (Settles.wait waits).unique idle
  | cons chunk rest ih =>
    rw [List.foldl_cons, List.flatten_cons, ih (push s chunk) (settles s chunk).waits]
    have whole := (settles s chunk).feed (keeps rest.flatten) (settles (push s chunk) rest.flatten)
    rw [joins] at whole
    exact whole.unique (settles s (chunk ++ rest.flatten))

end Chunks

end OpenServo.Shared
