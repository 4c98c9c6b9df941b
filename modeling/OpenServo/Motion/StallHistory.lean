import OpenServo.Motion.Limits
import OpenServo.Shared.Run
import OpenServo.Shared.Streak

set_option autoImplicit false

namespace OpenServo.Motion

open OpenServo.Shared

structure FoldCall where
  iRefPinned : Bool
  omegaHatAbsCps : Nat
  tauDAbsCounts : Nat
  thetaHatCounts : Int
deriving DecidableEq

inductive LimitCall where
  | fold (call : FoldCall)
  | updateDerate (tWindingCc : Int)
  | ack
deriving DecidableEq

structure Folded where
  slow : Bool
  relaxed : Bool
  released : Bool
  tripped : Bool

inductive LimitEntry where
  | fold (folded : Folded)
  | updateDerate
  | ack

namespace LimitState

variable (cfg : LimitCfg) (s : LimitState)

def folded (call : FoldCall) : IBand × LimitState :=
  s.fold call.iRefPinned call.omegaHatAbsCps call.tauDAbsCounts call.thetaHatCounts cfg

def step : LimitCall → LimitState
  | .fold call => (s.folded cfg call).2
  | .updateDerate tWindingCc => s.updateDerate tWindingCc cfg
  | .ack => s.ack

def relaxed (call : FoldCall) : Bool :=
  call.tauDAbsCounts < cfg.stallReleaseCounts.toNat

def tripped (call : FoldCall) : Bool :=
  ((s.release call.tauDAbsCounts cfg).time call.iRefPinned call.omegaHatAbsCps call.tauDAbsCounts cfg).1

def entry : LimitCall → LimitEntry
  | .fold call =>
    .fold ⟨pinnedSlow call.iRefPinned call.omegaHatAbsCps cfg, relaxed cfg call, s.stalled && relaxed cfg call,
      s.tripped cfg call⟩
  | .updateDerate _ => .updateDerate
  | .ack => .ack

def ticked (call : FoldCall) : Nat :=
  if pinnedSlow call.iRefPinned call.omegaHatAbsCps cfg then
    min ((if s.stalled && relaxed cfg call then 0 else s.stallTicks) + 1) (2 ^ 32 - 1)
  else 0

theorem release_eq (call : FoldCall) :
    s.release call.tauDAbsCounts cfg =
      { s with
        stalled := s.stalled && !relaxed cfg call
        stallTicks := if s.stalled && relaxed cfg call then 0 else s.stallTicks } := by
  obtain ⟨ticks, stalled, pending, cache, lim⟩ := s
  cases stalled with
  | false => rfl
  | true =>
    by_cases calm : call.tauDAbsCounts < cfg.stallReleaseCounts.toNat
    next => simp [release, relaxed, calm]
    next => simp [release, relaxed, calm]

theorem time_eq (call : FoldCall) :
    (s.release call.tauDAbsCounts cfg).time call.iRefPinned call.omegaHatAbsCps call.tauDAbsCounts cfg =
      (decide (cfg.stallTauTripCounts.toNat < call.tauDAbsCounts) ||
          pinnedSlow call.iRefPinned call.omegaHatAbsCps cfg && decide (cfg.stallTimeTicks ≤ s.ticked cfg call),
        { s with stalled := s.stalled && !relaxed cfg call, stallTicks := s.ticked cfg call }) := by
  rw [release_eq, time, ticked]
  by_cases slow : pinnedSlow call.iRefPinned call.omegaHatAbsCps cfg = true
  next => simp [slow]
  next => simp [slow]

theorem tripped_iff (call : FoldCall) :
    s.tripped cfg call = true ↔ cfg.stallTauTripCounts.toNat < call.tauDAbsCounts ∨
      pinnedSlow call.iRefPinned call.omegaHatAbsCps cfg = true ∧ cfg.stallTimeTicks ≤ s.ticked cfg call := by
  rw [tripped, time_eq]
  simp

theorem slow_iff (call : FoldCall) :
    pinnedSlow call.iRefPinned call.omegaHatAbsCps cfg = true ↔ 1 ≤ s.ticked cfg call := by
  rw [ticked]
  split
  next slow => exact ⟨fun _ => by omega, fun _ => slow⟩
  next idle => exact ⟨fun slow => absurd slow idle, fun least => by omega⟩

theorem stallTicks_folded (call : FoldCall) : (s.folded cfg call).2.stallTicks = s.ticked cfg call := by
  rw [folded, fold, time_eq]
  rfl

theorem stalled_folded (call : FoldCall) :
    (s.folded cfg call).2.stalled =
      (s.stalled && !relaxed cfg call || s.tripped cfg call && cfg.stallResponse = .yield) := by
  rw [folded, fold, tripped, time_eq]
  rfl

theorem faultPending_folded (call : FoldCall) :
    (s.folded cfg call).2.faultPending = (s.faultPending || s.tripped cfg call && cfg.stallResponse = .fault) := by
  rw [folded, fold, tripped, time_eq]
  rfl

theorem iLim_folded (call : FoldCall) :
    (s.folded cfg call).2.iLim =
      if (s.folded cfg call).2.stalled then
        min (min cfg.currentLimitCounts.toNat (s.folded cfg call).2.derateCache) cfg.stallYieldCounts.toNat
      else min cfg.currentLimitCounts.toNat (s.folded cfg call).2.derateCache := by
  rw [folded, fold, time_eq]
  rfl

theorem derateCache_folded (call : FoldCall) : (s.folded cfg call).2.derateCache = s.derateCache := by
  rw [folded, fold, time_eq]
  rfl

theorem band_folded (call : FoldCall) :
    (s.folded cfg call).1 = band (s.folded cfg call).2.iLim call.thetaHatCounts cfg := rfl

end LimitState

section History

def sinceAck (log : List LimitEntry) : List Folded :=
  log.foldl (fun folds entry => match entry with
    | .fold folded => folds ++ [folded]
    | .updateDerate => folds
    | .ack => []) []

/-- From the last fold that released on, that one among them. -/
def fromRelease (folds : List Folded) : List Folded :=
  folds.foldl (fun kept folded => if folded.released then [folded] else kept ++ [folded]) []

@[simp] theorem sinceAck_snoc (log : List LimitEntry) (entry : LimitEntry) :
    sinceAck (log ++ [entry]) = match entry with
      | .fold folded => sinceAck log ++ [folded]
      | .updateDerate => sinceAck log
      | .ack => [] := by
  rw [sinceAck, List.foldl_append]
  rfl

@[simp] theorem fromRelease_snoc (folds : List Folded) (folded : Folded) :
    fromRelease (folds ++ [folded]) = if folded.released then [folded] else fromRelease folds ++ [folded] := by
  rw [fromRelease, List.foldl_append]
  rfl

/-- Some fold tripped, and none after it relaxed without tripping again. -/
def Holding (folds : List Folded) : Prop :=
  ∃ before folded after, folds = before ++ folded :: after ∧ folded.tripped = true ∧
    ∀ later ∈ after, later.relaxed = true → later.tripped = true

theorem not_holding_nil : ¬ Holding [] := by
  rintro ⟨before, folded, after, whole, -⟩
  simp at whole

theorem holding_snoc (folds : List Folded) (last : Folded) :
    Holding (folds ++ [last]) ↔ Holding folds ∧ last.relaxed = false ∨ last.tripped = true := by
  constructor
  next =>
    rintro ⟨before, folded, after, whole, tripped, kept⟩
    rcases List.eq_nil_or_concat after with rfl | ⟨middle, final, rfl⟩
    next =>
      obtain ⟨-, same⟩ := List.append_inj' whole rfl
      rw [List.singleton_inj.mp same]
      exact .inr tripped
    next =>
      rw [List.concat_eq_append] at kept whole
      rw [← List.cons_append, ← List.append_assoc] at whole
      obtain ⟨front, same⟩ := List.append_inj' whole rfl
      obtain rfl := List.singleton_inj.mp same
      by_cases again : last.tripped = true
      next => exact .inr again
      next =>
        have calm := mt (kept last (by simp)) again
        refine .inl ⟨⟨before, folded, middle, front, tripped, ?_⟩, by simpa using calm⟩
        exact fun later member => kept later (List.mem_append_left _ member)
  next =>
    rintro (⟨⟨before, folded, after, rfl, tripped, kept⟩, tense⟩ | tripped)
    next =>
      refine ⟨before, folded, after ++ [last], by simp, tripped, ?_⟩
      intro later member relaxed
      rcases List.mem_append.mp member with old | new
      next => exact kept later old relaxed
      next =>
        rw [List.mem_singleton.mp new, tense] at relaxed
        exact absurd relaxed (by decide)
    next => exact ⟨folds, last, [], rfl, tripped, by simp⟩

end History

structure Recorded where
  s : LimitState := {}
  log : List LimitEntry := []

namespace Recorded

variable {cfg : LimitCfg}

def step (cfg : LimitCfg) (w : Recorded) (call : LimitCall) : Recorded where
  s := w.s.step cfg call
  log := w.log ++ [w.s.entry cfg call]

def counted (w : Recorded) : List Folded :=
  fromRelease (sinceAck w.log)

structure Told (cfg : LimitCfg) (w : Recorded) : Prop where
  ticks : w.s.stallTicks = min (trailing (w.counted.map Folded.slow)) (2 ^ 32 - 1)
  stalled : cfg.stallResponse = .yield → (w.s.stalled = true ↔ Holding (sinceAck w.log))
  pending : cfg.stallResponse = .fault → (w.s.faultPending = true ↔ ∃ folded ∈ sinceAck w.log, folded.tripped = true)
  unfolded : cfg.stallResponse = .fault → w.s.stalled = false

theorem Told.init (cfg : LimitCfg) : Told cfg {} where
  ticks := rfl
  stalled _ := ⟨fun held => absurd held (by decide), fun held => absurd held not_holding_nil⟩
  pending _ := ⟨fun held => absurd held (by decide), fun ⟨_, member, _⟩ => absurd member List.not_mem_nil⟩
  unfolded _ := rfl

theorem ticked_eq {w : Recorded} (told : Told cfg w) (call : FoldCall) :
    w.s.ticked cfg call = min (trailing ((w.step cfg (.fold call)).counted.map Folded.slow)) (2 ^ 32 - 1) := by
  have start : (if w.s.stalled && LimitState.relaxed cfg call then 0 else w.s.stallTicks) =
      min (trailing (if w.s.stalled && LimitState.relaxed cfg call then [] else w.counted.map Folded.slow))
        (2 ^ 32 - 1) := by
    split
    next => rfl
    next => exact told.ticks
  have bump := counted_snoc start (LimitState.pinnedSlow call.iRefPinned call.omegaHatAbsCps cfg)
  have flags : (w.step cfg (.fold call)).counted.map Folded.slow =
      (if w.s.stalled && LimitState.relaxed cfg call then [] else w.counted.map Folded.slow) ++
        [LimitState.pinnedSlow call.iRefPinned call.omegaHatAbsCps cfg] := by
    rw [counted, step, LimitState.entry, sinceAck_snoc, fromRelease_snoc]
    split
    next => rfl
    next => simp [counted]
  rw [flags, ← bump]
  rfl

theorem Told.fold {w : Recorded} (told : Told cfg w) (call : FoldCall) : Told cfg (w.step cfg (.fold call)) where
  ticks := by
    rw [← ticked_eq told]
    exact w.s.stallTicks_folded cfg call
  stalled yields := by
    have before := told.stalled yields
    have after := w.s.stalled_folded cfg call
    rw [step, LimitState.entry, sinceAck_snoc, holding_snoc, ← before]
    simp [LimitState.step, after, yields]
  pending faults := by
    have before := told.pending faults
    have after := w.s.faultPending_folded cfg call
    rw [step, LimitState.entry, sinceAck_snoc]
    simp [LimitState.step, after, faults, before, or_and_right, exists_or]
  unfolded faults := by
    have after := w.s.stalled_folded cfg call
    have apart : ¬ cfg.stallResponse = .yield := by simp [faults]
    rw [told.unfolded faults, Bool.false_and, Bool.false_or, decide_eq_false apart, Bool.and_false] at after
    exact after

theorem Told.step {w : Recorded} (told : Told cfg w) (call : LimitCall) : Told cfg (w.step cfg call) := by
  cases call with
  | fold call => exact told.fold call
  | updateDerate tWindingCc =>
    have same : sinceAck (w.step cfg (.updateDerate tWindingCc)).log = sinceAck w.log := by
      rw [Recorded.step, LimitState.entry, sinceAck_snoc]
    refine ⟨?_, ?_, ?_, told.unfolded⟩
    next =>
      rw [counted, same]
      exact told.ticks
    next =>
      rw [same]
      exact told.stalled
    next =>
      rw [same]
      exact told.pending
  | ack =>
    have none : sinceAck (w.step cfg .ack).log = [] := by
      rw [Recorded.step, LimitState.entry, sinceAck_snoc]
    refine ⟨?_, fun _ => ?_, fun _ => ?_, fun _ => rfl⟩
    next =>
      rw [counted, none]
      rfl
    next =>
      rw [none]
      exact ⟨fun held => absurd held Bool.false_ne_true, fun held => absurd held not_holding_nil⟩
    next =>
      rw [none]
      exact ⟨fun held => absurd held Bool.false_ne_true, fun ⟨_, member, _⟩ => absurd member List.not_mem_nil⟩

theorem told_run (cfg : LimitCfg) (calls : List LimitCall) : Told cfg (run (step cfg) {} calls) :=
  run_invariant (step cfg) (fun _ _ => True) (Told cfg) (fun _ call told _ => told.step call) {} (.init cfg) calls
    (meets_trivial _ _ _)

theorem iLim_run (cfg : LimitCfg) (s : LimitState) (calls : List LimitCall) (none : ∀ call, .fold call ∉ calls) :
    (run (LimitState.step cfg) s calls).iLim = s.iLim := by
  induction calls generalizing s with
  | nil => rfl
  | cons call calls ih =>
    have later := ih (s.step cfg call) (fun call member => none call (List.mem_cons_of_mem _ member))
    rw [run_cons, later]
    cases call with
    | fold call => exact absurd List.mem_cons_self (none call)
    | updateDerate tWindingCc => rfl
    | ack => rfl

theorem s_run (cfg : LimitCfg) (w : Recorded) (calls : List LimitCall) :
    (run (step cfg) w calls).s = run (LimitState.step cfg) w.s calls := by
  induction calls generalizing w with
  | nil => rfl
  | cons call calls ih => exact ih (w.step cfg call)

def yieldCfg : LimitCfg :=
  ⟨1000, .yield, true, 10, 2, 100, 50, 500, 6000, 8000, -1000, 1000⟩

/-- The cached limit is not recomposed when the ceiling moves: it is that of the last fold. -/
theorem iLim_stale :
    (run (LimitState.step yieldCfg) {} [.fold ⟨false, 0, 0, 0⟩, .updateDerate 9000]).iLim ≠
      min (min yieldCfg.currentLimitCounts.toNat
        (run (LimitState.step yieldCfg) {} [.fold ⟨false, 0, 0, 0⟩, .updateDerate 9000]).derateCache)
        yieldCfg.stallYieldCounts.toNat ∧
    (run (LimitState.step yieldCfg) {} [.fold ⟨false, 0, 0, 0⟩, .updateDerate 9000]).iLim ≠
      min yieldCfg.currentLimitCounts.toNat
        (run (LimitState.step yieldCfg) {} [.fold ⟨false, 0, 0, 0⟩, .updateDerate 9000]).derateCache := by
  decide

theorem limit_history (cfg : LimitCfg) (word : cfg.stallTimeTicks < 2 ^ 32) (calls : List LimitCall) :
    let w := run (step cfg) {} calls
    (∀ call : FoldCall, w.s.tripped cfg call = true ↔
      cfg.stallTauTripCounts.toNat < call.tauDAbsCounts ∨
        Streak (max 1 cfg.stallTimeTicks) ((w.step cfg (.fold call)).counted.map Folded.slow)) ∧
    (cfg.stallResponse = .yield → (w.s.stalled = true ↔ Holding (sinceAck w.log))) ∧
    (cfg.stallResponse = .fault →
      (w.s.faultPending = true ↔ ∃ folded ∈ sinceAck w.log, folded.tripped = true) ∧
      ∀ call : FoldCall, (w.s.folded cfg call).1 =
        LimitState.band (min cfg.currentLimitCounts.toNat w.s.derateCache) call.thetaHatCounts cfg) ∧
    (∀ call : FoldCall, ∀ rest : List LimitCall, (∀ other, .fold other ∉ rest) →
      let s := (w.step cfg (.fold call)).s
      (run (step cfg) w (.fold call :: rest)).s.iLim =
        if s.stalled then min (min cfg.currentLimitCounts.toNat s.derateCache) cfg.stallYieldCounts.toNat
        else min cfg.currentLimitCounts.toNat s.derateCache) ∧
    ((∀ call, .fold call ∉ calls) → w.s.iLim = 0) := by
  intro w
  have told := told_run cfg calls
  refine ⟨fun call => ?_, told.stalled, fun faults => ⟨told.pending faults, fun call => ?_⟩, ?_, ?_⟩
  next =>
    have ticks := ticked_eq told call
    rw [w.s.tripped_iff, streak_iff_counted ticks (by omega), w.s.slow_iff, Nat.max_le]
  next =>
    have free : (w.s.folded cfg call).2.stalled = false := (told.fold call).unfolded faults
    rw [w.s.band_folded, w.s.iLim_folded, free, w.s.derateCache_folded]
    rfl
  next =>
    intro call rest none s
    rw [run_cons, s_run, iLim_run cfg _ rest none]
    exact w.s.iLim_folded cfg call
  next =>
    intro none
    rw [s_run, iLim_run cfg _ calls none]

theorem limit_history_second :
    (run (step yieldCfg) {} [.fold ⟨true, 0, 80, 0⟩]).s.tripped yieldCfg ⟨true, 0, 80, 0⟩ = true ∧
      (run (step yieldCfg) (run (step yieldCfg) {} [.fold ⟨true, 0, 80, 0⟩])
        [.fold ⟨true, 0, 80, 0⟩, .updateDerate 9000]).s.iLim = 100 := by
  obtain ⟨trips, -, -, lims, -⟩ := limit_history yieldCfg (by decide) [.fold ⟨true, 0, 80, 0⟩]
  constructor
  next => exact (trips ⟨true, 0, 80, 0⟩).mpr (.inr ⟨[], rfl⟩)
  next =>
    rw [lims ⟨true, 0, 80, 0⟩ [.updateDerate 9000] (by simp)]
    rfl

end Recorded

end OpenServo.Motion
