import OpenServo.Bus.Chain
import OpenServo.Bus.Decode
import OpenServo.Shared.Run

set_option autoImplicit false

namespace OpenServo.Bus

open OpenServo.Protocol OpenServo.Shared

structure Terms where
  endTick : UInt32
  replyGap : UInt32
  reclaim : UInt32
  allowance : UInt32

def enrol (frame : FrameBytes) (id : UInt8) (terms : Terms) : Chain :=
  match decode frame id with
  | .own _ _ slot =>
    (Chain.onReplyStaged slot terms.endTick terms.replyGap terms.reclaim terms.allowance).1
  | _ => {}

structure Trigger where
  slot : Nat
  point : Nat
  silent : Bool
deriving DecidableEq, Repr

/-- The listed servos by their place in the list, the replies now on the wire, the number of status ends and reclaim
expiries so far, and every reply started. -/
structure Fleet where
  chains : Nat → Chain
  onWire : List Nat := []
  point : Nat := 0
  log : List Trigger := []

/-- Each servo reads its own clock. -/
inductive FleetEvent where
  | breakSeen (clock : Nat → UInt32)
  | gap (clock : Nat → UInt32)
  | statusEnd (clock : Nat → UInt32)
  | reclaim (clock : Nat → UInt32)

namespace Fleet

def expire (fleet : Fleet) (due : List Nat) (clock : Nat → UInt32) : Fleet :=
  let outs := due.filterMap (fun k =>
    (Chain.triggers ((fleet.chains k).onDeadline (clock k)).2).map (fun silent => (k, silent)))
  { fleet with
    chains := fun k => if k ∈ due then ((fleet.chains k).onDeadline (clock k)).1 else fleet.chains k
    onWire := fleet.onWire ++ outs.map Prod.fst
    log := fleet.log ++ outs.map (fun out => ⟨out.1, fleet.point, out.2⟩) }

def pending (fleet : Fleet) (live : List Nat) : List Nat :=
  live.filter (fun k => (fleet.chains k).active && !(fleet.chains k).waiting)

def waiting (fleet : Fleet) (live : List Nat) : List Nat :=
  live.filter (fun k => (fleet.chains k).waiting)

/-- A servo does not hear its own status. -/
def statusEnd (fleet : Fleet) (live : List Nat) (clock : Nat → UInt32) : Fleet :=
  { fleet with
    chains := fun k =>
      if k ∈ live ∧ k ∉ fleet.onWire then ((fleet.chains k).onStatusEnd (clock k)).1
      else fleet.chains k
    onWire := []
    point := fleet.point + 1 }

def step (live : List Nat) (fleet : Fleet) : FleetEvent → Fleet
  -- A break moves the armed ticks, not the chain.
  | .breakSeen _ => fleet
  | .gap clock => fleet.expire (fleet.pending live) clock
  | .statusEnd clock => fleet.statusEnd live clock
  | .reclaim clock =>
    { fleet with point := fleet.point + 1 }.expire (fleet.waiting live) clock

/-- What the wire lets happen. A status ends only if one is being sent; a reclaim window runs out only over a silent
wire, and it is longer than the reply gap of a servo whose turn it is. -/
def Admits (live : List Nat) (fleet : Fleet) : FleetEvent → Prop
  | .breakSeen _ => True
  | .gap _ => fleet.pending live ≠ []
  | .statusEnd _ => fleet.onWire ≠ []
  | .reclaim _ => fleet.onWire = [] ∧ fleet.pending live = [] ∧ fleet.waiting live ≠ []

instance (live : List Nat) (fleet : Fleet) (event : FleetEvent) : Decidable (fleet.Admits live event) :=
  match event with
  | .breakSeen _ => inferInstanceAs (Decidable True)
  | .gap _ => inferInstanceAs (Decidable (_ ≠ []))
  | .statusEnd _ => inferInstanceAs (Decidable (_ ≠ []))
  | .reclaim _ => inferInstanceAs (Decidable (_ ∧ _ ∧ _ ≠ []))

end Fleet

section Turns

variable (count : Nat) (dead : Nat → Bool)

def live : List Nat :=
  (List.range count).filter (fun k => !dead k)

def gapBefore (k : Nat) : Bool :=
  (List.range k).any dead

def triggers (turns : Nat) : List Trigger :=
  ((List.range turns).filter (fun k => !dead k)).map (fun k => ⟨k, k, gapBefore dead k⟩)

/-- The state of slot `k` while slot `turn` has the wire, or is about to take it. -/
def stateAt (turn : Nat) (sending : Bool) (k : Nat) : ChainState :=
  if k < turn then .idle
  else if k = turn then if sending then .idle else .pending (gapBefore dead turn)
  else .waiting (UInt8.ofNat (k - turn)) (gapBefore dead turn)

structure InTurn (fleet : Fleet) (turn : Nat) (sending : Bool) : Prop where
  bounded : turn ≤ count
  point : fleet.point = turn
  chains : ∀ k ∈ live count dead, (fleet.chains k).state = stateAt dead turn sending k
  onWire : fleet.onWire = if sending then [turn] else []
  taken : sending = true → turn ∈ live count dead
  log : fleet.log = triggers dead (if sending then turn + 1 else turn)

end Turns

theorem gapBefore_succ (dead : Nat → Bool) (k : Nat) :
    gapBefore dead (k + 1) = (gapBefore dead k || dead k) := by
  simp [gapBefore, List.range_succ]

theorem triggers_succ (dead : Nat → Bool) (turns : Nat) :
    triggers dead (turns + 1) =
      triggers dead turns ++ if dead turns then [] else [⟨turns, turns, gapBefore dead turns⟩] := by
  simp only [triggers, List.range_succ, List.filter_append, List.map_append]
  congr 1
  cases quiet : dead turns <;> simp [quiet]

theorem mem_live {count : Nat} {dead : Nat → Bool} {k : Nat} :
    k ∈ live count dead ↔ k < count ∧ dead k = false := by
  simp [live]

theorem live_nodup (count : Nat) (dead : Nat → Bool) : (live count dead).Nodup :=
  List.nodup_range.filter _

theorem filterMap_single {A : Type} {slots : List Nat} (distinct : slots.Nodup) (turn : Nat)
    (f : Nat → Option A) (others : ∀ k ∈ slots, k ≠ turn → f k = none) :
    slots.filterMap f = if turn ∈ slots then (f turn).toList else [] := by
  induction slots with
  | nil => simp
  | cons k slots ih =>
    obtain ⟨fresh, distinct⟩ := List.nodup_cons.mp distinct
    have rest := ih distinct (fun j member => others j (List.mem_cons_of_mem k member))
    by_cases here : k = turn
    next =>
      subst here
      rw [if_neg fresh] at rest
      cases said : f k <;> simp [said, rest]
    next =>
      rw [List.filterMap_cons_none (others k List.mem_cons_self here), rest]
      simp [Ne.symm here]

section Step

variable {count : Nat} {dead : Nat → Bool} {fleet : Fleet} {turn : Nat} {sending : Bool}

theorem InTurn.pending_eq (inTurn : InTurn count dead fleet turn sending) :
    fleet.pending (live count dead) =
      if turn ∈ live count dead ∧ sending = false then [turn] else [] := by
  have only : ∀ k ∈ live count dead, ((fleet.chains k).active && !(fleet.chains k).waiting) =
      decide (k = turn ∧ sending = false) := by
    intro k alive
    simp only [Chain.active, Chain.waiting, inTurn.chains k alive, stateAt]
    rcases Nat.lt_trichotomy k turn with before | rfl | after
    next => simp [before, Nat.ne_of_lt before]
    next => cases sending <;> simp
    next => simp [Nat.not_lt_of_gt after, Nat.ne_of_gt after]
  rw [Fleet.pending, List.filter_congr only]
  cases sending with
  | true => simp
  | false =>
    rw [← List.filterMap_eq_filter,
      filterMap_single (live_nodup count dead) turn _ (by simp +contextual [Option.guard])]
    simp [Option.guard]

theorem InTurn.mem_waiting (inTurn : InTurn count dead fleet turn sending) (k : Nat) :
    k ∈ fleet.waiting (live count dead) ↔ k ∈ live count dead ∧ turn < k := by
  simp only [Fleet.waiting, List.mem_filter]
  apply and_congr_right
  intro alive
  simp only [Chain.waiting, inTurn.chains k alive, stateAt]
  rcases Nat.lt_trichotomy k turn with before | rfl | after
  next => simp [before, Nat.not_lt_of_gt before]
  next => cases sending <;> simp
  next => simp [Nat.not_lt_of_gt after, Nat.ne_of_gt after, after]

theorem InTurn.gap (inTurn : InTurn count dead fleet turn sending) (clock : Nat → UInt32)
    (due : fleet.pending (live count dead) ≠ []) :
    InTurn count dead (fleet.expire (fleet.pending (live count dead)) clock) turn true := by
  rw [inTurn.pending_eq] at due ⊢
  obtain ⟨alive, quiet⟩ : turn ∈ live count dead ∧ sending = false := by
    by_contra other
    exact due (if_neg other)
  have present := mem_live.mp alive
  rw [if_pos ⟨alive, quiet⟩]
  have state : (fleet.chains turn).state = .pending (gapBefore dead turn) := by
    rw [inTurn.chains turn alive, stateAt, quiet]
    simp
  have out : (fleet.chains turn).onDeadline (clock turn) =
      ({ fleet.chains turn with state := .idle }, .trigger (gapBefore dead turn)) := by
    simp [Chain.onDeadline, state]
  refine ⟨inTurn.bounded, inTurn.point, ?_, ?_, fun _ => alive, ?_⟩
  next =>
    intro k member
    simp only [Fleet.expire, List.mem_singleton]
    by_cases here : k = turn
    next => simp [here, out, stateAt]
    next => simp [here, inTurn.chains k member, stateAt]
  next => simp [Fleet.expire, out, Chain.triggers, inTurn.onWire, quiet]
  next =>
    simp [Fleet.expire, out, Chain.triggers, inTurn.log, inTurn.point, quiet, triggers_succ,
      present.2]

theorem InTurn.statusEnd (inTurn : InTurn count dead fleet turn sending) (small : count ≤ 252)
    (clock : Nat → UInt32) (busy : fleet.onWire ≠ []) :
    InTurn count dead (fleet.statusEnd (live count dead) clock) (turn + 1) false := by
  obtain rfl : sending = true := by
    cases sending with
    | true => rfl
    | false => exact absurd inTurn.onWire busy
  have present := mem_live.mp (inTurn.taken rfl)
  have flag : gapBefore dead (turn + 1) = gapBefore dead turn := by
    rw [gapBefore_succ, present.2, Bool.or_false]
  refine ⟨present.1, by simp [Fleet.statusEnd, inTurn.point], ?_, rfl, by simp, ?_⟩
  next =>
    intro k alive
    have before := inTurn.chains k alive
    have bound := (mem_live.mp alive).1
    simp only [Fleet.statusEnd, inTurn.onWire, if_true, List.mem_singleton, alive, true_and]
    rcases Nat.lt_trichotomy k turn with gone | rfl | after
    next =>
      have idle : (fleet.chains k).state = .idle := by simp [before, stateAt, gone]
      simp [Chain.onStatusEnd, idle, stateAt, Nat.lt_succ_of_lt gone]
    next => simp [before, stateAt]
    next =>
      have ahead : (fleet.chains k).state =
          .waiting (UInt8.ofNat (k - turn)) (gapBefore dead turn) := by
        simp [before, stateAt, Nat.not_lt_of_gt after, Nat.ne_of_gt after]
      rw [if_pos (Nat.ne_of_gt after), Chain.onStatusEnd_waiting ahead (by omega) (by omega),
        stateAt, flag, if_neg (show ¬ k < turn + 1 by omega)]
      by_cases next : k = turn + 1
      next => simp [next]
      next => simp [next, show ¬ k - turn = 1 by omega, show k - turn - 1 = k - (turn + 1) by omega]
  next => simp [Fleet.statusEnd, inTurn.log]

theorem InTurn.reclaim (inTurn : InTurn count dead fleet turn sending) (small : count ≤ 252)
    (clock : Nat → UInt32) (quiet : fleet.onWire = []) (idle : fleet.pending (live count dead) = [])
    (left : fleet.waiting (live count dead) ≠ []) :
    InTurn count dead
      ({ fleet with point := fleet.point + 1 }.expire (fleet.waiting (live count dead)) clock)
      (turn + 1) (decide (turn + 1 ∈ live count dead)) := by
  obtain rfl : sending = false := by
    cases sending with
    | false => rfl
    | true => rw [inTurn.onWire] at quiet; cases quiet
  obtain ⟨last, waits⟩ := List.exists_mem_of_ne_nil _ left
  obtain ⟨alive, after⟩ := (inTurn.mem_waiting last).mp waits
  have absent : turn ∉ live count dead := by
    intro here
    rw [inTurn.pending_eq, if_pos ⟨here, rfl⟩] at idle
    cases idle
  have bound := (mem_live.mp alive).1
  have silent : dead turn = true := by
    cases quiet : dead turn with
    | true => rfl
    | false => exact absurd (mem_live.mpr ⟨by omega, quiet⟩) absent
  have flag : gapBefore dead (turn + 1) = true := by rw [gapBefore_succ, silent, Bool.or_true]
  -- The next servo has waited long enough, and every later one has one predecessor less.
  have react : ∀ k ∈ live count dead, turn < k →
      ((fleet.chains k).onDeadline (clock k)).1.state =
        (if k = turn + 1 then .idle else .waiting (UInt8.ofNat (k - (turn + 1))) true) ∧
      Chain.triggers ((fleet.chains k).onDeadline (clock k)).2 =
        if k = turn + 1 then some true else none := by
    intro k alive after
    have bound := (mem_live.mp alive).1
    have ahead : (fleet.chains k).state =
        .waiting (UInt8.ofNat (k - turn)) (gapBefore dead turn) := by
      simp [inTurn.chains k alive, stateAt, Nat.not_lt_of_gt after, Nat.ne_of_gt after]
    obtain ⟨state, out⟩ := Chain.onDeadline_waiting ahead (by omega) (by omega) (clock k)
    rw [state, out]
    by_cases next : k = turn + 1
    next => simp [next]
    next => simp [next, show ¬ k - turn = 1 by omega, show k - turn - 1 = k - (turn + 1) by omega]
  have outs : (fleet.waiting (live count dead)).filterMap (fun k =>
      (Chain.triggers ((fleet.chains k).onDeadline (clock k)).2).map (fun silent => (k, silent))) =
      if turn + 1 ∈ live count dead then [(turn + 1, true)] else [] := by
    have distinct : (fleet.waiting (live count dead)).Nodup := (live_nodup count dead).filter _
    rw [filterMap_single distinct (turn + 1)]
    next =>
      simp only [inTurn.mem_waiting, Nat.lt_succ_self, and_true]
      split
      next here => simp [(react _ here (Nat.lt_succ_self turn)).2]
      next => rfl
    next =>
      intro k member other
      obtain ⟨alive, after⟩ := (inTurn.mem_waiting k).mp member
      simp [(react k alive after).2, other]
  refine ⟨by omega, by simp [Fleet.expire, inTurn.point], ?_, ?_, by simp, ?_⟩
  next =>
    intro k alive
    simp only [Fleet.expire, inTurn.mem_waiting, alive, true_and, stateAt, flag]
    rcases Nat.lt_trichotomy k turn with gone | rfl | after
    next =>
      simp [Nat.not_lt_of_gt gone, inTurn.chains k alive, stateAt, gone, Nat.lt_succ_of_lt gone]
    next => exact absurd alive absent
    next =>
      rw [if_pos after, (react k alive after).1, if_neg (show ¬ k < turn + 1 by omega)]
      by_cases next : k = turn + 1
      next => simp [next, next ▸ alive]
      next => simp [next]
  next =>
    simp only [Fleet.expire, outs, quiet]
    by_cases here : turn + 1 ∈ live count dead <;> simp [here]
  next =>
    simp only [Fleet.expire, outs, inTurn.log, inTurn.point]
    by_cases here : turn + 1 ∈ live count dead
    next => simp [here, triggers_succ, silent, (mem_live.mp here).2, flag]
    next => simp [here, triggers_succ, silent]

def moves : FleetEvent → Bool
  | .breakSeen _ => false
  | _ => true

theorem InTurn.step (inTurn : InTurn count dead fleet turn sending) (small : count ≤ 252)
    {event : FleetEvent} (admits : fleet.Admits (live count dead) event) :
    ∃ turn' sending', InTurn count dead (fleet.step (live count dead) event) turn' sending' ∧
      (moves event).toNat + (2 * turn + sending.toNat) ≤ 2 * turn' + sending'.toNat := by
  cases event with
  | breakSeen clock => exact ⟨turn, sending, inTurn, by simp [moves]⟩
  | gap clock =>
    refine ⟨turn, true, inTurn.gap clock admits, ?_⟩
    have idle : sending = false := by
      cases sending with
      | false => rfl
      | true => exact absurd (inTurn.pending_eq.trans (by simp)) admits
    simp [idle, moves]
    omega
  | statusEnd clock =>
    refine ⟨turn + 1, false, inTurn.statusEnd small clock admits, ?_⟩
    have bound := sending.toNat_le
    simp [moves]
    omega
  | reclaim clock =>
    obtain ⟨quiet, idle, left⟩ := admits
    refine ⟨turn + 1, _, inTurn.reclaim small clock quiet idle left, ?_⟩
    have bound := sending.toNat_le
    simp [moves]
    omega

theorem InTurn.run (small : count ≤ 252) (events : List FleetEvent)
    (inTurn : InTurn count dead fleet turn sending)
    (admitted : Meets (Fleet.step (live count dead)) (Fleet.Admits (live count dead)) fleet events) :
    ∃ turn' sending', InTurn count dead (run (Fleet.step (live count dead)) fleet events) turn' sending' ∧
      (events.filter moves).length + (2 * turn + sending.toNat) ≤ 2 * turn' + sending'.toNat := by
  induction events generalizing fleet turn sending with
  | nil => exact ⟨turn, sending, inTurn, by simp⟩
  | cons event events ih =>
    obtain ⟨turn₁, sending₁, next, further⟩ := inTurn.step small admitted.1
    obtain ⟨turn₂, sending₂, last, total⟩ := ih next admitted.2
    refine ⟨turn₂, sending₂, last, ?_⟩
    cases moved : moves event <;> simp [moved] at further ⊢ <;> omega

end Step

def enrolled (frame : FrameBytes) (ids : List UInt8) (terms : Nat → Terms) : Fleet where
  chains := fun k => enrol frame (ids.getD k 0) (terms k)

theorem enrolled_inTurn {frame : FrameBytes} {ids : List UInt8} (list : greadIds frame = some ids)
    (distinct : ids.Nodup) (dead : Nat → Bool) (terms : Nat → Terms) :
    InTurn ids.length dead (enrolled frame ids terms) 0 false := by
  refine ⟨Nat.zero_le _, rfl, ?_, rfl, by simp, rfl⟩
  intro k alive
  have bound := (mem_live.mp alive).1
  have small := greadIds_length list
  have listed : ids[k]? = some (ids.getD k 0) := by
    rw [List.getD_eq_getElem _ _ bound, List.getElem?_eq_getElem bound]
  obtain ⟨req, decoded⟩ := decode_listed list distinct listed
  simp only [enrolled, enrol, decoded, Chain.onReplyStaged, stateAt]
  have zero : UInt8.ofNat k = 0 ↔ k = 0 := by
    rw [← UInt8.toNat_inj, UInt8.toNat_ofNat', Nat.mod_eq_of_lt (by omega)]
    rfl
  by_cases first : k = 0
  next => simp [first, gapBefore]
  next => simp [zero, first, gapBefore]

theorem live_front {turns count : Nat} (dead : Nat → Bool) (within : turns ≤ count) :
    live turns dead <+: live count dead := by
  obtain ⟨rest, rfl⟩ := Nat.exists_eq_add_of_le within
  simp only [live, List.range_add, List.filter_append]
  exact List.prefix_append _ _

theorem triggers_slot (dead : Nat → Bool) (turns : Nat) :
    (triggers dead turns).map Trigger.slot = live turns dead := by
  simp [triggers, live, Function.comp_def]

theorem triggers_later (dead : Nat → Bool) (turns : Nat) :
    (triggers dead turns).Pairwise (fun first second => first.point < second.point) := by
  rw [triggers, List.pairwise_map]
  exact List.Pairwise.filter _ List.pairwise_lt_range

theorem triggers_silent (dead : Nat → Bool) (turns : Nat) :
    ∀ trigger ∈ triggers dead turns, trigger.silent = true ↔ ∃ j < trigger.slot, dead j = true := by
  intro trigger member
  obtain ⟨k, -, rfl⟩ := List.mem_map.mp member
  simp [gapBefore]

theorem InTurn.complete {count : Nat} {dead : Nat → Bool} {fleet : Fleet} {turn : Nat} {sending : Bool}
    (inTurn : InTurn count dead fleet turn sending)
    (stopped : ∀ event, fleet.Admits (live count dead) event → moves event = false) :
    fleet.log.map Trigger.slot = live count dead := by
  have quiet : fleet.onWire = [] := by
    by_contra busy
    exact absurd (stopped (.statusEnd (fun _ => 0)) busy) (by simp [moves])
  have idle : fleet.pending (live count dead) = [] := by
    by_contra due
    exact absurd (stopped (.gap (fun _ => 0)) due) (by simp [moves])
  have none : fleet.waiting (live count dead) = [] := by
    by_contra left
    exact absurd (stopped (.reclaim (fun _ => 0)) ⟨quiet, idle, left⟩) (by simp [moves])
  obtain rfl : sending = false := by
    cases sending with
    | false => rfl
    | true => rw [inTurn.onWire] at quiet; cases quiet
  rw [inTurn.log, if_neg (by simp), triggers_slot]
  apply (live_front dead inTurn.bounded).eq_of_length_le
  apply List.Subperm.length_le
  apply List.subperm_of_subset (live_nodup count dead)
  intro k alive
  have past : ¬ turn < k := by
    intro after
    have waits := (inTurn.mem_waiting k).mpr ⟨alive, after⟩
    rw [none] at waits
    cases waits
  have other : k ≠ turn := by
    rintro rfl
    rw [inTurn.pending_eq, if_pos ⟨alive, rfl⟩] at idle
    cases idle
  exact mem_live.mpr ⟨by omega, (mem_live.mp alive).2⟩

/-- `dead` is any set of places in the list; every live servo holds the place it decoded. -/
theorem chain_replies_in_turn (frame : FrameBytes) (ids : List UInt8) (dead : Nat → Bool)
    (terms : Nat → Terms) (events : List FleetEvent) (list : greadIds frame = some ids)
    (distinct : ids.Nodup)
    (observed : Meets (Fleet.step (live ids.length dead)) (Fleet.Admits (live ids.length dead))
      (enrolled frame ids terms) events) :
    let fleet := run (Fleet.step (live ids.length dead)) (enrolled frame ids terms) events
    fleet.onWire.length ≤ 1 ∧
      fleet.log.map Trigger.slot <+: live ids.length dead ∧
      fleet.log.Pairwise (fun first second => first.point < second.point) ∧
      (∀ trigger ∈ fleet.log, trigger.silent = true ↔ ∃ j < trigger.slot, dead j = true) ∧
      (events.filter moves).length ≤ 2 * ids.length ∧
      ((∀ event, fleet.Admits (live ids.length dead) event → moves event = false) →
        fleet.log.map Trigger.slot = live ids.length dead) := by
  obtain ⟨turn, sending, inTurn, total⟩ :=
    (enrolled_inTurn list distinct dead terms).run (greadIds_length list) events observed
  have within : (if sending then turn + 1 else turn) ≤ ids.length := by
    cases sending with
    | false => exact inTurn.bounded
    | true => exact (mem_live.mp (inTurn.taken rfl)).1
  refine ⟨?_, ?_, ?_, ?_, ?_, fun stopped => inTurn.complete stopped⟩
  next =>
    rw [inTurn.onWire]
    cases sending <;> simp
  next =>
    rw [inTurn.log, triggers_slot]
    exact live_front dead within
  next =>
    rw [inTurn.log]
    exact triggers_later dead _
  next =>
    rw [inTurn.log]
    exact triggers_silent dead _
  next => cases sending <;> simp at total within <;> omega

def greadTrio : FrameBytes :=
  .ofList [0x00, 0xFE, 0x0A, 0x50, 0x00, 0x00, 0x02, 0x00, 0x03, 0x01, 0x02, 0x00, 0x00]

def trioDead (k : Nat) : Bool :=
  k == 1

def trioRun : List FleetEvent :=
  [.gap (fun _ => 100), .breakSeen (fun _ => 101), .statusEnd (fun _ => 200), .reclaim (fun _ => 900),
    .statusEnd (fun _ => 1000)]

theorem chain_replies_in_turn_trio :
    let fleet := run (Fleet.step (live 3 trioDead))
      (enrolled greadTrio [3, 1, 2] (fun _ => ⟨0, 60, 600, 5000⟩)) trioRun
    fleet.log = [⟨0, 0, false⟩, ⟨2, 2, true⟩] ∧ fleet.onWire.length ≤ 1 := by
  have admitted : Meets (Fleet.step (live 3 trioDead)) (Fleet.Admits (live 3 trioDead))
      (enrolled greadTrio [3, 1, 2] (fun _ => ⟨0, 60, 600, 5000⟩)) trioRun := by
    exact ⟨by decide +kernel, trivial, by decide +kernel, by decide +kernel, by decide +kernel, trivial⟩
  exact ⟨by decide +kernel, (chain_replies_in_turn greadTrio [3, 1, 2] trioDead
    (fun _ => ⟨0, 60, 600, 5000⟩) trioRun (by decide +kernel) (by decide) admitted).1⟩

end OpenServo.Bus
