import Mathlib.Data.List.Basic

set_option autoImplicit false

/-!
Runs of a step function over a list of events, with the two rules every result about whole runs
is assembled from: what each step preserves a run preserves, and a step-wise simulation is a
simulation of runs.
-/

namespace OpenServo.Shared

variable {S M E : Type}

def run (step : S → E → S) (init : S) (events : List E) : S :=
  events.foldl step init

@[simp] theorem run_nil (step : S → E → S) (init : S) : run step init [] = init := rfl

@[simp] theorem run_cons (step : S → E → S) (init : S) (event : E) (events : List E) :
    run step init (event :: events) = run step (step init event) events := rfl

theorem run_append (step : S → E → S) (init : S) (first second : List E) :
    run step init (first ++ second) = run step (run step init first) second := by
  simp [run, List.foldl_append]

/-- A step may rely on what its event promises about the state it arrives in. -/
def Meets (step : S → E → S) (promise : S → E → Prop) : S → List E → Prop
  | _, [] => True
  | s, event :: events => promise s event ∧ Meets step promise (step s event) events

theorem meets_forall (step : S → E → S) {promise : E → Prop} (init : S) (events : List E)
    (all : ∀ event ∈ events, promise event) : Meets step (fun _ event => promise event) init events := by
  induction events generalizing init with
  | nil => trivial
  | cons event events ih =>
    refine ⟨all event List.mem_cons_self, ih (step init event) ?_⟩
    exact fun later member => all later (List.mem_cons_of_mem event member)

theorem meets_trivial (step : S → E → S) (init : S) (events : List E) :
    Meets step (fun _ _ => True) init events :=
  meets_forall step init events (fun _ _ => trivial)

theorem meets_append (step : S → E → S) (promise : S → E → Prop) (init : S) (first second : List E) :
    Meets step promise init (first ++ second) ↔
      Meets step promise init first ∧ Meets step promise (run step init first) second := by
  induction first generalizing init with
  | nil => simp [Meets]
  | cons event first ih => simp [Meets, ih, and_assoc]

theorem meets_mono (step : S → E → S) {promise other : S → E → Prop} {init : S} {events : List E}
    (implies : ∀ event ∈ events, ∀ s, promise s event → other s event) (meets : Meets step promise init events) :
    Meets step other init events := by
  induction events generalizing init with
  | nil => trivial
  | cons event events ih =>
    obtain ⟨first, rest⟩ := List.forall_mem_cons.mp implies
    exact ⟨first init meets.1, ih rest meets.2⟩

theorem run_invariant (step : S → E → S) (promise : S → E → Prop) (Inv : S → Prop)
    (keeps : ∀ s event, Inv s → promise s event → Inv (step s event)) (init : S) (start : Inv init)
    (events : List E) (meets : Meets step promise init events) : Inv (run step init events) := by
  induction events generalizing init with
  | nil => exact start
  | cons event events ih => exact ih (step init event) (keeps init event start meets.1) meets.2

/-- Where each step keeps an invariant exactly when its promise is kept, a run has it throughout exactly
when it starts with it and every promise is kept. -/
theorem run_invariant_iff (step : S → E → S) (promise : S → E → Prop) (Base Inv : S → Prop)
    (base : ∀ s event, Base s → Base (step s event))
    (exact : ∀ s event, Base s → Inv s → (Inv (step s event) ↔ promise s event)) (init : S)
    (start : Base init) (events : List E) :
    (∀ n, Inv (run step init (events.take n))) ↔ Inv init ∧ Meets step promise init events := by
  induction events generalizing init with
  | nil => simp [Meets]
  | cons event events ih =>
    have rest := ih (step init event) (base init event start)
    constructor
    next =>
      intro throughout
      have first : Inv init := throughout 0
      obtain ⟨after, meets⟩ := rest.mp (fun n => throughout (n + 1))
      exact ⟨first, (exact init event start first).mp after, meets⟩
    next =>
      rintro ⟨first, kept, meets⟩ n
      cases n with
      | zero => exact first
      | succ n => exact rest.mpr ⟨(exact init event start first).mpr kept, meets⟩ n

theorem run_simulation (step : S → E → S) (abstract : M → E → M) (Rel : S → M → Prop)
    (keeps : ∀ s m event, Rel s m → Rel (step s event) (abstract m event)) (init : S) (top : M)
    (start : Rel init top) (events : List E) :
    Rel (run step init events) (run abstract top events) := by
  induction events generalizing init top with
  | nil => exact start
  | cons event events ih =>
    exact ih (step init event) (abstract top event) (keeps init top event start)

end OpenServo.Shared
