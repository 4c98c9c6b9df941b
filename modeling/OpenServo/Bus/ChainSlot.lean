import Mathlib.Data.List.Induction
import OpenServo.Bus.Chain
import OpenServo.Shared.Run

set_option autoImplicit false

namespace OpenServo.Bus

open OpenServo.Shared

inductive ChainCall where
  | statusEnd (endTick : UInt32)
  | breakObserved (now : UInt32)
  | deadline
  | reset
deriving DecidableEq

/-- A chain with the last tick it asked to wait for, whether that deadline is still outstanding, and its triggers. -/
structure Slot where
  chain : Chain
  due : UInt32
  outstanding : Bool
  starts : List Bool := []
deriving DecidableEq

namespace Slot

def heard (s : Slot) : ChainOut → Slot
  | .none => s
  | .wait tick => { s with due := tick, outstanding := true }
  | .trigger silent => { s with starts := s.starts ++ [silent] }

def staged (slot : UInt8) (endTick replyGap reclaim allowance : UInt32) : Slot :=
  let (chain, out) := Chain.onReplyStaged slot endTick replyGap reclaim allowance
  heard { chain, due := 0, outstanding := false } out

def answer (s : Slot) : ChainCall → Chain × ChainOut
  | .statusEnd endTick => s.chain.onStatusEnd endTick
  | .breakObserved now => (s.chain, s.chain.onBreakObserved now)
  | .deadline => s.chain.onDeadline s.due
  | .reset => (s.chain.reset, .none)

def step (s : Slot) (call : ChainCall) : Slot :=
  heard { s with
    chain := (s.answer call).1
    outstanding := if call = .deadline then false else s.outstanding } (s.answer call).2

end Slot

/-- The predecessors accounted for, and the end that the reply gap of the next servo runs from: none after an expiry. -/
structure Account where
  ends : Nat := 0
  expiries : Nat := 0
  since : Option UInt32

namespace Account

def total (account : Account) : Nat :=
  account.ends + account.expiries

def enter (slot : Nat) (account : Account) : ChainCall → Account
  | .statusEnd endTick =>
    if account.total < slot then { account with ends := account.ends + 1, since := some endTick } else account
  | .deadline =>
    if account.total < slot then { account with expiries := account.expiries + 1, since := none } else account
  | _ => account

end Account

inductive SlotTurn (slot : Nat) (replyGap : UInt32) (s : Slot) (account : Account) (calls : List ChainCall) : Prop where
  | awaits (clear : .reset ∉ calls) (fresh : s.starts = []) (short : account.total < slot)
      (state : s.chain.state = .waiting (UInt8.ofNat (slot - account.total)) (decide (0 < account.expiries)))
      (outstanding : s.outstanding = true)
  | pends (clear : .reset ∉ calls) (fresh : s.starts = []) (full : account.total = slot)
      (state : s.chain.state = .pending (decide (0 < account.expiries))) (outstanding : s.outstanding = true)
      (endTick : UInt32) (since : account.since = some endTick) (due : s.due = endTick + replyGap)
  | ended (stopped : .reset ∈ calls ∨ s.starts ≠ []) (once : s.starts.length ≤ 1) (state : s.chain.state = .idle)

section Steps

variable {slot : Nat} {replyGap : UInt32} {s : Slot} {account : Account} {calls : List ChainCall}

theorem Account.enter_full (full : slot ≤ account.total) (call : ChainCall) : account.enter slot call = account := by
  cases call with
  | statusEnd endTick => exact if_neg (by omega)
  | deadline => exact if_neg (by omega)
  | breakObserved now => rfl
  | reset => rfl

theorem Slot.step_idle (state : s.chain.state = .idle) (call : ChainCall) :
    (s.step call).chain.state = .idle ∧ (s.step call).starts = s.starts ∧ (s.answer call).2 = .none := by
  cases call <;> simp [Slot.step, Slot.answer, Slot.heard, Chain.onStatusEnd, Chain.onBreakObserved, Chain.onDeadline,
    Chain.reset, state]

theorem Slot.answer_statusEnd {n : Nat} {silent : Bool} (state : s.chain.state = .waiting (UInt8.ofNat n) silent)
    (low : 0 < n) (high : n < 256) (endTick : UInt32) :
    s.answer (.statusEnd endTick) =
      if n = 1 then ({ s.chain with state := .pending silent }, .wait (endTick + s.chain.replyGap))
      else ({ s.chain with state := .waiting (UInt8.ofNat (n - 1)) silent },
        .wait (endTick + s.chain.replyGap + s.chain.reclaim)) := by
  simp only [Slot.answer, Chain.onStatusEnd, state, Chain.countDown_ofNat_eq_zero low high]
  split
  next => rfl
  next => rw [Chain.countDown_ofNat low high]

theorem Slot.answer_deadline {n : Nat} {silent : Bool} (state : s.chain.state = .waiting (UInt8.ofNat n) silent)
    (low : 0 < n) (high : n < 256) :
    s.answer .deadline =
      if n = 1 then ({ s.chain with state := .idle }, .trigger true)
      else ({ s.chain with state := .waiting (UInt8.ofNat (n - 1)) true }, .wait (s.due + s.chain.reclaim)) := by
  simp only [Slot.answer, Chain.onDeadline, state, Chain.countDown_ofNat_eq_zero low high]
  split
  next => rfl
  next => rw [Chain.countDown_ofNat low high]

theorem not_mem_snoc {call : ChainCall} (clear : .reset ∉ calls) (other : call ≠ .reset) :
    .reset ∉ calls ++ [call] := by
  simpa using ⟨clear, Ne.symm other⟩

theorem SlotTurn.reset (turn : SlotTurn slot replyGap s account calls) :
    SlotTurn slot replyGap (s.step .reset) (account.enter slot .reset) (calls ++ [.reset]) := by
  have stopped : ChainCall.reset ∈ calls ++ [.reset] ∨ (s.step .reset).starts ≠ [] := .inl (by simp)
  cases turn with
  | awaits clear fresh => exact .ended stopped (by simp [Slot.step, Slot.answer, Slot.heard, fresh]) rfl
  | pends clear fresh => exact .ended stopped (by simp [Slot.step, Slot.answer, Slot.heard, fresh]) rfl
  | ended _ once state => exact .ended stopped once rfl

theorem SlotTurn.breakObserved (turn : SlotTurn slot replyGap s account calls) (now : UInt32) :
    SlotTurn slot replyGap (s.step (.breakObserved now)) account (calls ++ [.breakObserved now]) := by
  cases turn with
  | awaits clear fresh short state outstanding =>
    have out : s.chain.onBreakObserved now = .wait (now + s.chain.allowance) := by
      rw [Chain.onBreakObserved, state]
    exact .awaits (not_mem_snoc clear (by simp)) (by simp [Slot.step, Slot.answer, Slot.heard, out, fresh]) short
      (by simp [Slot.step, Slot.answer, Slot.heard, out, state]) (by simp [Slot.step, Slot.answer, Slot.heard, out])
  | pends clear fresh full state outstanding endTick since due =>
    have out : s.chain.onBreakObserved now = .none := by
      rw [Chain.onBreakObserved, state]
    exact .pends (not_mem_snoc clear (by simp)) (by simp [Slot.step, Slot.answer, Slot.heard, out, fresh]) full
      (by simp [Slot.step, Slot.answer, Slot.heard, out, state])
      (by simp [Slot.step, Slot.answer, Slot.heard, out, outstanding]) endTick since
      (by simp [Slot.step, Slot.answer, Slot.heard, out, due])
  | ended stopped once state =>
    obtain ⟨idle, starts, -⟩ := Slot.step_idle state (.breakObserved now)
    exact .ended (by simpa [starts] using stopped) (by rw [starts]; exact once) idle

theorem SlotTurn.statusEnd (turn : SlotTurn slot replyGap s account calls) (small : slot < 256)
    (gap : s.chain.replyGap = replyGap) (endTick : UInt32) :
    SlotTurn slot replyGap (s.step (.statusEnd endTick)) (account.enter slot (.statusEnd endTick))
      (calls ++ [.statusEnd endTick]) := by
  have clear' : .reset ∉ calls → .reset ∉ calls ++ [ChainCall.statusEnd endTick] :=
    fun clear => not_mem_snoc clear (by simp)
  cases turn with
  | awaits clear fresh short state outstanding =>
    have entered : account.enter slot (.statusEnd endTick) =
        { account with ends := account.ends + 1, since := some endTick } := if_pos short
    have total : (account.enter slot (.statusEnd endTick)).total = account.total + 1 := by
      rw [entered]
      simp only [Account.total]
      omega
    have out := Slot.answer_statusEnd state (by omega) (by omega) endTick
    by_cases final : account.total + 1 = slot
    next =>
      rw [if_pos (by omega)] at out
      rw [Slot.step, out]
      exact .pends (clear' clear) fresh (by omega) (by rw [entered]; rfl) rfl endTick (by rw [entered])
        (congrArg (endTick + ·) gap)
    next =>
      rw [if_neg (by omega)] at out
      rw [Slot.step, out]
      exact .awaits (clear' clear) fresh (by omega) (by rw [total, entered, ← Nat.sub_sub]; rfl) rfl
  | pends clear fresh full state outstanding since' since due =>
    have out : s.answer (.statusEnd endTick) = (s.chain, .none) := by
      rw [Slot.answer, Chain.onStatusEnd, state]
    rw [Slot.step, out, Account.enter_full (Nat.le_of_eq full.symm)]
    exact .pends (clear' clear) fresh full state outstanding since' since due
  | ended stopped once state =>
    obtain ⟨idle, starts, -⟩ := Slot.step_idle state (.statusEnd endTick)
    exact .ended (by simpa [starts] using stopped) (by rw [starts]; exact once) idle

theorem SlotTurn.deadline (turn : SlotTurn slot replyGap s account calls) (small : slot < 256) :
    SlotTurn slot replyGap (s.step .deadline) (account.enter slot .deadline) (calls ++ [.deadline]) ∧
      ∀ silent, (s.answer .deadline).2 = .trigger silent ↔
        .reset ∉ calls ∧ s.starts = [] ∧ (account.enter slot .deadline).total = slot ∧
          silent = decide (0 < (account.enter slot .deadline).expiries) := by
  have clear' : .reset ∉ calls → .reset ∉ calls ++ [ChainCall.deadline] := fun clear => not_mem_snoc clear (by simp)
  -- It waits for a predecessor, or out its own gap, or is done for good.
  cases turn with
  | awaits clear fresh short state outstanding =>
    have entered : account.enter slot .deadline =
        { account with expiries := account.expiries + 1, since := none } := if_pos short
    have total : (account.enter slot .deadline).total = account.total + 1 := by
      rw [entered]
      simp only [Account.total]
      omega
    have silent' : decide (0 < (account.enter slot .deadline).expiries) = true := by
      rw [entered]
      exact decide_eq_true (Nat.succ_pos _)
    have out := Slot.answer_deadline state (by omega) (by omega)
    by_cases final : account.total + 1 = slot
    next =>
      rw [if_pos (by omega)] at out
      rw [Slot.step, out, silent']
      refine ⟨.ended (.inr (by simp [Slot.heard, fresh])) (by simp [Slot.heard, fresh]) rfl, fun silent => ?_⟩
      constructor
      next =>
        intro same
        exact ⟨clear, fresh, by omega, (ChainOut.trigger.inj same).symm⟩
      next =>
        rintro ⟨-, -, -, rfl⟩
        rfl
    next =>
      rw [if_neg (by omega)] at out
      rw [Slot.step, out]
      refine ⟨.awaits (clear' clear) fresh (by omega) (by rw [total, silent', ← Nat.sub_sub]; rfl) rfl,
        fun silent => ?_⟩
      constructor
      next =>
        intro same
        exact absurd same (by simp)
      next =>
        rintro ⟨-, -, full, -⟩
        omega
  | pends clear fresh full state outstanding endTick since due =>
    have out : s.answer .deadline = ({ s.chain with state := .idle }, .trigger (decide (0 < account.expiries))) := by
      rw [Slot.answer, Chain.onDeadline, state]
    rw [Slot.step, out, Account.enter_full (Nat.le_of_eq full.symm)]
    refine ⟨.ended (.inr (by simp [Slot.heard, fresh])) (by simp [Slot.heard, fresh]) rfl, fun silent => ?_⟩
    constructor
    next =>
      intro same
      exact ⟨clear, fresh, full, (ChainOut.trigger.inj same).symm⟩
    next =>
      rintro ⟨-, -, -, rfl⟩
      rfl
  | ended stopped once state =>
    obtain ⟨idle, starts, quiet⟩ := Slot.step_idle state .deadline
    refine ⟨.ended (by simpa [starts] using stopped) (by rw [starts]; exact once) idle, fun silent => ?_⟩
    rw [quiet]
    constructor
    next =>
      intro same
      exact absurd same (by simp)
    next =>
      rintro ⟨clear, fresh, -⟩
      rcases stopped with reset | started
      next => exact absurd reset clear
      next => exact absurd fresh started

theorem Slot.step_replyGap (s : Slot) (call : ChainCall) : (s.step call).chain.replyGap = s.chain.replyGap := by
  have heard (s : Slot) (out : ChainOut) : (s.heard out).chain = s.chain := by
    cases out <;> rfl
  rw [Slot.step, heard]
  cases call with
  | statusEnd endTick =>
    simp only [Slot.answer, Chain.onStatusEnd]
    split
    next => split <;> rfl
    next => rfl
  | breakObserved now => rfl
  | deadline =>
    simp only [Slot.answer, Chain.onDeadline]
    split
    next => rfl
    next => split <;> rfl
    next => rfl
  | reset => rfl

theorem SlotTurn.step (turn : SlotTurn slot replyGap s account calls) (small : slot < 256)
    (gap : s.chain.replyGap = replyGap) (call : ChainCall) :
    SlotTurn slot replyGap (s.step call) (account.enter slot call) (calls ++ [call]) :=
  match call with
  | .statusEnd endTick => turn.statusEnd small gap endTick
  | .breakObserved now => turn.breakObserved now
  | .deadline => (turn.deadline small).1
  | .reset => turn.reset

theorem Slot.deadline_of_trigger {call : ChainCall} {silent : Bool} (out : (s.answer call).2 = .trigger silent) :
    call = .deadline := by
  cases call with
  | statusEnd endTick =>
    simp only [Slot.answer, Chain.onStatusEnd] at out
    split at out
    next => split at out <;> exact absurd out (by simp)
    next => exact absurd out (by simp)
  | breakObserved now =>
    simp only [Slot.answer, Chain.onBreakObserved] at out
    split at out <;> exact absurd out (by simp)
  | deadline => rfl
  | reset => exact absurd out (by simp [Slot.answer])

/-- A reply that no expiry released starts one reply gap after the end it waited for. -/
theorem SlotTurn.due (turn : SlotTurn slot replyGap s account calls) (small : slot < 256) {silent : Bool}
    (out : (s.answer .deadline).2 = .trigger silent) {endTick : UInt32}
    (since : (account.enter slot .deadline).since = some endTick) : s.due = endTick + replyGap := by
  obtain ⟨-, fresh, -, -⟩ := ((turn.deadline small).2 silent).mp out
  cases turn with
  | awaits _ _ short =>
    have expired : account.enter slot .deadline = { account with expiries := account.expiries + 1, since := none } :=
      if_pos short
    rw [expired] at since
    cases since
  | pends _ _ full _ _ latest known due =>
    rw [Account.enter_full (Nat.le_of_eq full.symm), known] at since
    rw [due, Option.some.inj since]
  | ended stopped _ state =>
    rw [(Slot.step_idle state .deadline).2.2] at out
    exact absurd out (by simp)

end Steps

section Law

variable (slot : UInt8) (endTick replyGap reclaim allowance : UInt32)

def accounted (calls : List ChainCall) : Account :=
  run (Account.enter slot.toNat) { since := some endTick } calls

def slotAfter (calls : List ChainCall) : Slot :=
  run Slot.step (Slot.staged slot endTick replyGap reclaim allowance) calls

theorem staged_turn :
    (Slot.staged slot endTick replyGap reclaim allowance).chain.replyGap = replyGap ∧
      SlotTurn slot.toNat replyGap (Slot.staged slot endTick replyGap reclaim allowance)
        { since := some endTick } [] := by
  by_cases first : slot = 0
  next =>
    subst first
    exact ⟨rfl, .pends (by simp) rfl rfl rfl rfl endTick rfl rfl⟩
  next =>
    have positive : 0 < slot.toNat := by
      have other := mt UInt8.toNat_inj.mp first
      have zero : (0 : UInt8).toNat = 0 := rfl
      omega
    have staged : Slot.staged slot endTick replyGap reclaim allowance =
        { chain := ⟨.waiting slot false, replyGap, reclaim, allowance⟩, due := endTick + replyGap + reclaim,
          outstanding := true } := by
      rw [Slot.staged, Chain.onReplyStaged, if_neg first]
      rfl
    rw [staged]
    exact ⟨rfl, .awaits (by simp) rfl positive (congrArg (ChainState.waiting · false) (UInt8.ofNat_toNat.symm)) rfl⟩

theorem turn_run (calls : List ChainCall) :
    (slotAfter slot endTick replyGap reclaim allowance calls).chain.replyGap = replyGap ∧
      SlotTurn slot.toNat replyGap (slotAfter slot endTick replyGap reclaim allowance calls)
        (accounted slot endTick calls) calls := by
  induction calls using List.reverseRecOn with
  | nil => exact staged_turn slot endTick replyGap reclaim allowance
  | append_singleton calls call ih =>
    rw [slotAfter, accounted, run_append, run_append, run_cons, run_cons, run_nil, run_nil]
    exact ⟨(Slot.step_replyGap _ call).trans ih.1, ih.2.step slot.toNat_lt ih.1 call⟩

theorem slot_law (calls : List ChainCall) :
    (slotAfter slot endTick replyGap reclaim allowance calls).starts.length ≤ 1 ∧
      ((slotAfter slot endTick replyGap reclaim allowance calls).chain.active = true →
        (slotAfter slot endTick replyGap reclaim allowance calls).outstanding = true) ∧
      ∀ call silent,
        (((slotAfter slot endTick replyGap reclaim allowance calls).answer call).2 = .trigger silent ↔
          call = .deadline ∧ .reset ∉ calls ∧
            (slotAfter slot endTick replyGap reclaim allowance calls).starts = [] ∧
            (accounted slot endTick (calls ++ [call])).total = slot.toNat ∧
            silent = decide (0 < (accounted slot endTick (calls ++ [call])).expiries)) ∧
        (((slotAfter slot endTick replyGap reclaim allowance calls).answer call).2 = .trigger silent →
          ∀ latest, (accounted slot endTick (calls ++ [call])).since = some latest →
            (slotAfter slot endTick replyGap reclaim allowance calls).due = latest + replyGap) := by
  obtain ⟨-, turn⟩ := turn_run slot endTick replyGap reclaim allowance calls
  have last (call : ChainCall) : accounted slot endTick (calls ++ [call]) =
      (accounted slot endTick calls).enter slot.toNat call := by
    rw [accounted, run_append]
    rfl
  refine ⟨?_, ?_, fun call silent => ⟨⟨fun out => ?_, ?_⟩, fun out latest since => ?_⟩⟩
  next =>
    cases turn with
    | awaits _ fresh => simp [fresh]
    | pends _ fresh => simp [fresh]
    | ended _ once => exact once
  next =>
    intro active
    cases turn with
    | awaits _ _ _ _ outstanding => exact outstanding
    | pends _ _ _ _ outstanding => exact outstanding
    | ended _ _ state => simp [Chain.active, state] at active
  next =>
    obtain rfl := Slot.deadline_of_trigger out
    rw [last]
    exact ⟨rfl, ((turn.deadline slot.toNat_lt).2 silent).mp out⟩
  next =>
    rintro ⟨rfl, accounts⟩
    rw [last] at accounts
    exact ((turn.deadline slot.toNat_lt).2 silent).mpr accounts
  next =>
    obtain rfl := Slot.deadline_of_trigger out
    rw [last] at since
    exact turn.due slot.toNat_lt out since

end Law

theorem slot_law_silent :
    ((slotAfter 2 1000 60 300 5000 [.deadline, .breakObserved 1400, .statusEnd 2000]).answer .deadline).2 =
        .trigger true ∧
      (slotAfter 2 1000 60 300 5000 [.deadline, .breakObserved 1400, .statusEnd 2000]).due = 2060 := by
  have law := (slot_law 2 1000 60 300 5000 [.deadline, .breakObserved 1400, .statusEnd 2000]).2.2 .deadline true
  have out := law.1.mpr ⟨rfl, by decide, by decide, by decide, by decide⟩
  exact ⟨out, law.2 out 2000 (by decide)⟩

end OpenServo.Bus
