import OpenServo.Bus.TxFrames
import OpenServo.Core.Dispatch
import OpenServo.Shared.Checked

set_option autoImplicit false

namespace OpenServo.Bus

open OpenServo.Core OpenServo.Protocol OpenServo.Shared OpenServo.Table
open OpenServo.Shared.Checked

def gatherMax : Nat := 8

def setAt {A : Type} (xs : List A) (n : Nat) (x : A) : Checked (List A) :=
  ⟨xs.set n x, decide (n < xs.length)⟩

def upTo {A : Type} (xs : List A) (n : Nat) : Checked (List A) :=
  ⟨xs.take n, decide (n ≤ xs.length)⟩

/-- `none` when a span leaves the table. -/
def gather (table : ControlTable) :
    List UInt16 → List (List UInt8) → Nat → Nat → Checked (Option (List (List UInt8) × Nat × Nat))
  | [], spans, n, total => pure (some (spans, n, total))
  | word :: rest, spans, n, total =>
    match spanOf word with
    | none => gather table rest spans n total
    | some (addr, count) =>
      match controlTable.read table addr count with
      | .error _ => pure none
      | .ok data => do
        let spans ← setAt spans n data
        let total ← u16 (total + count)
        gather table rest spans (n + 1) total

def checkedReadProfile (s : Session) (mayReply : Bool) (slot : UInt8) : Checked (List Call) :=
  if !mayReply then pure []
  else
    match slotWords s.table slot with
    | none => pure [.sendStatus .range s.alert []]
    | some words => do
      match ← gather s.table words (List.replicate gatherMax []) 0 0 with
      | none => pure [.sendStatus .range s.alert []]
      | some (spans, n, total) =>
        if n = 0 then pure [.sendStatus .range s.alert []]
        else if maxPayload < total then pure [.sendStatus .limit s.alert []]
        else do
          let spans ← upTo spans n
          pure [.sendStatusGather .ok s.alert spans]

def stagingSums (spans : List (List UInt8)) : Checked Nat := do
  let total ← spans.foldlM (fun total span => u32 (total + span.length)) 0
  let _ ← u8 total
  spans.foldlM (fun off span => u16 (off + span.length)) 0

def enabled (table : ControlTable) (slot : UInt8) : List (Nat × Nat) :=
  ((slotWords table slot).getD []).filterMap spanOf

def liveBytes (table : ControlTable) (span : Nat × Nat) : List UInt8 :=
  readBytes table span.1 span.2

theorem sums_sat {word : Nat → Checked Nat} (most : Nat) (fits : ∀ x ≤ most, (word x).Sat (· = x))
    (spans : List (List UInt8)) (start : Nat) (room : start + (spans.map List.length).sum ≤ most) :
    (spans.foldlM (fun total span => word (total + span.length)) start).Sat
      (· = start + (spans.map List.length).sum) := by
  induction spans generalizing start with
  | nil => exact Sat.pure rfl
  | cons span rest ih =>
    rw [List.map_cons, List.sum_cons] at room ⊢
    rw [List.foldlM_cons]
    apply (fits (start + span.length) (by omega)).bind
    intro total same
    subst same
    rw [← Nat.add_assoc]
    exact ih (start + span.length) (by omega)

theorem stagingSums_sat {spans : List (List UInt8)} (fits : (spans.map List.length).sum ≤ maxPayload) :
    (stagingSums spans).Sat (· = (spans.map List.length).sum) := by
  have most : maxPayload = 252 := rfl
  apply (sums_sat 252 (fun x small => u32_sat (by omega)) spans 0 (by omega)).bind
  intro total same
  apply (u8_sat (by omega)).bind
  intro _ _
  have offsets := sums_sat 252 (fun x small => u16_sat (by omega)) spans 0 (by omega)
  rwa [Nat.zero_add] at offsets

theorem spanOf_le {word : UInt16} {span : Nat × Nat} (enabled : spanOf word = some span) : span.2 ≤ 63 := by
  simp only [spanOf] at enabled
  split at enabled
  next => exact absurd enabled (by simp)
  next =>
    obtain rfl := Option.some.inj enabled
    have low : (word &&& 0x3F).toNat ≤ 63 := by
      rw [UInt16.toNat_and]
      exact Nat.and_le_right
    exact low

section Gather

variable {table : ControlTable}

theorem read_eq (table : ControlTable) (addr count : Nat) :
    controlTable.read table addr count =
      if tableSize < addr + count then .error .outOfRange else .ok (readBytes table addr count) := rfl

theorem gather_sat (words : List UInt16) (spans : List (List UInt8)) (n total : Nat) (size : spans.length = gatherMax)
    (room : n + words.length ≤ gatherMax) (small : total + 63 * words.length < 2 ^ 16) :
    (gather table words spans n total).Sat fun got =>
      match gatherSpans table words with
      | none => got = none
      | some more => ∃ after, got = some (after, n + more.length, total + (more.map List.length).sum) ∧
          after.length = gatherMax ∧ after.take (n + more.length) = spans.take n ++ more := by
  -- On the words left; `n` spans of `total` bytes are gathered.
  induction words generalizing spans n total with
  | nil => exact Sat.pure ⟨spans, rfl, size, by simp⟩
  | cons word rest ih =>
    rw [List.length_cons] at room small
    rw [gather, gatherSpans]
    cases bits : spanOf word with
    | none => exact ih spans n total size (by omega) (by omega)
    | some span =>
      obtain ⟨addr, count⟩ := span
      have short : count ≤ 63 := spanOf_le bits
      dsimp only
      cases reads : controlTable.read table addr count with
      | error e => exact Sat.pure rfl
      | ok data =>
        have length : data.length = count := by
          rw [read_eq] at reads
          split at reads
          next => exact absurd reads (by simp)
          next => rw [← Except.ok.inj reads, length_readBytes]
        have stored : (setAt spans n data).Sat (· = spans.set n data) := ⟨decide_eq_true (by omega), rfl⟩
        apply stored.bind
        rintro _ rfl
        apply (u16_sat (by omega)).bind
        rintro _ rfl
        have later := ih (spans.set n data) (n + 1) (total + count) (by rw [List.length_set, size]) (by omega) (by omega)
        refine later.mono fun got said => ?_
        cases more : gatherSpans table rest with
        | none =>
          rw [more] at said
          exact said
        | some more' =>
          rw [more] at said
          obtain ⟨after, same, sized, front⟩ := said
          refine ⟨after, ?_, sized, ?_⟩
          next =>
            rw [same, List.map_cons, List.sum_cons, List.length_cons, length]
            simp only [Nat.add_assoc, Nat.add_comm 1]
          next =>
            have last : (spans.set n data).take (n + 1) = spans.take n ++ [data] := by
              rw [List.take_add_one, List.getElem?_set_self (by omega), List.take_set_of_le (Nat.le_refl n)]
              rfl
            rw [List.length_cons, Nat.add_comm more'.length 1, ← Nat.add_assoc, front, last, List.append_assoc]
            rfl

theorem gatherSpans_eq (words : List UInt16) :
    gatherSpans table words =
      if ∃ span ∈ words.filterMap spanOf, tableSize < span.1 + span.2 then none
      else some ((words.filterMap spanOf).map (liveBytes table)) := by
  induction words with
  | nil => rfl
  | cons word rest ih =>
    rw [gatherSpans, List.filterMap_cons]
    cases bits : spanOf word with
    | none => exact ih
    | some span =>
      obtain ⟨addr, count⟩ := span
      dsimp only
      rw [read_eq, ih]
      by_cases leaves : tableSize < addr + count
      next =>
        rw [if_pos leaves]
        exact (if_pos ⟨(addr, count), List.mem_cons_self, leaves⟩).symm
      next =>
        rw [if_neg leaves]
        by_cases later : ∃ span ∈ rest.filterMap spanOf, tableSize < span.1 + span.2
        next =>
          obtain ⟨span, member, out⟩ := later
          rw [if_pos ⟨span, member, out⟩, if_pos ⟨span, List.mem_cons_of_mem _ member, out⟩]
          rfl
        next =>
          have inside : ¬ ∃ span ∈ (addr, count) :: rest.filterMap spanOf, tableSize < span.1 + span.2 := by
            rintro ⟨span, member, out⟩
            rcases List.mem_cons.mp member with rfl | member
            next => exact leaves out
            next => exact later ⟨span, member, out⟩
          rw [if_neg later, if_neg inside]
          rfl

end Gather

/-- The array is long enough for every slot, and no sum leaves its word. -/
theorem checkedReadProfile_sat (s : Session) (mayReply : Bool) (slot : UInt8) :
    (checkedReadProfile s mayReply slot).Sat (· = readProfile s mayReply slot) := by
  cases mayReply with
  | false => exact Sat.pure rfl
  | true =>
    simp only [checkedReadProfile, readProfile, Bool.not_true, Bool.false_eq_true, if_false]
    cases slots : slotWords s.table slot with
    | none => exact Sat.pure rfl
    | some words =>
      have eight : words.length = 8 := by
        rw [slotWords] at slots
        split at slots
        next => exact absurd slots (by simp)
        next => rw [← Option.some.inj slots, List.length_map, List.length_range, spansPerSlot]
      have most : gatherMax = 8 := rfl
      dsimp only
      -- Eight words at most, so no index leaves the array.
      apply (gather_sat words (List.replicate gatherMax []) 0 0 List.length_replicate (by omega) (by omega)).bind
      intro got said
      cases more : gatherSpans s.table words with
      | none =>
        rw [more] at said
        subst said
        exact Sat.pure rfl
      | some spans =>
        rw [more] at said
        obtain ⟨after, rfl, sized, front⟩ := said
        rw [Nat.zero_add, Nat.zero_add] at *
        dsimp only
        rw [List.take_zero, List.nil_append] at front
        by_cases empty : spans = []
        next =>
          subst empty
          exact Sat.pure rfl
        next =>
          have counted : ¬ spans.length = 0 := mt List.length_eq_zero_iff.mp empty
          have listed : ¬ spans.isEmpty = true := mt List.isEmpty_iff.mp empty
          rw [if_neg counted, if_neg listed]
          split
          next => exact Sat.pure rfl
          next =>
            have room : spans.length ≤ after.length := by
              have taken := congrArg List.length front
              rw [List.length_take] at taken
              omega
            have cut : (upTo after spans.length).Sat (· = spans) := ⟨decide_eq_true room, front⟩
            apply cut.bind
            rintro _ rfl
            exact Sat.pure rfl

section Law

variable (s : Session) (slot : UInt8)

theorem gathered_lengths (table : ControlTable) (spans : List (Nat × Nat)) :
    (spans.map (liveBytes table)).map List.length = spans.map Prod.snd := by
  rw [List.map_map]
  exact List.map_congr_left fun span _ => length_readBytes table span.1 span.2

theorem readProfile_eq :
    readProfile s true slot =
      if profileSlots ≤ slot ∨ enabled s.table slot = [] ∨
          ∃ span ∈ enabled s.table slot, tableSize < span.1 + span.2 then
        [.sendStatus .range s.alert []]
      else if maxPayload < ((enabled s.table slot).map Prod.snd).sum then [.sendStatus .limit s.alert []]
      else [.sendStatusGather .ok s.alert ((enabled s.table slot).map (liveBytes s.table))] := by
  have lengths := gathered_lengths s.table (enabled s.table slot)
  simp only [readProfile, Bool.not_true, Bool.false_eq_true, if_false]
  rw [← lengths]
  by_cases high : profileSlots ≤ slot
  next =>
    have out : slotWords s.table slot = none := if_pos high
    rw [out, if_pos (.inl high)]
  next =>
    obtain ⟨words, slots⟩ : ∃ words, slotWords s.table slot = some words := ⟨_, if_neg high⟩
    have spans : enabled s.table slot = words.filterMap spanOf := by
      rw [enabled, slots]
      rfl
    rw [slots]
    dsimp only
    rw [gatherSpans_eq, ← spans]
    by_cases leaves : ∃ span ∈ enabled s.table slot, tableSize < span.1 + span.2
    next => rw [if_pos leaves, if_pos (.inr (.inr leaves))]
    next =>
      rw [if_neg leaves]
      dsimp only
      by_cases empty : enabled s.table slot = []
      next =>
        have bare : ((enabled s.table slot).map (liveBytes s.table)).isEmpty = true := by
          rw [empty]
          rfl
        rw [if_pos bare, if_pos (.inr (.inl empty))]
      next =>
        have listed : ¬ ((enabled s.table slot).map (liveBytes s.table)).isEmpty = true := by
          simpa using empty
        have served : ¬ (profileSlots ≤ slot ∨ enabled s.table slot = [] ∨
            ∃ span ∈ enabled s.table slot, tableSize < span.1 + span.2) := by
          rintro (high' | empty' | leaves')
          next => exact high high'
          next => exact empty empty'
          next => exact leaves leaves'
        rw [if_neg listed, if_neg served]

section Staged

variable {tx : TxEngine} {engine : CrcEngine} {id : UInt8} {result : ResultCode} {alert : Bool}
  {spans : List (List UInt8)} (fits : spans.flatten.length ≤ maxPayload)

include fits

theorem stageGather_accepts :
    (tx.stageGather engine id result alert spans).2.2 = (if tx.busy then .error .busy else .ok ()) ∧
      (tx.busy = false → Staging tx (tx.stageGather engine id result alert spans).1
        (tx.stageGather engine id result alert spans).2.1 id result alert spans.flatten) := by
  cases busy : tx.busy with
  | true =>
    have refused : tx.stageGather engine id result alert spans = (tx, engine, .error .busy) := by
      rw [TxEngine.stageGather, if_pos busy]
    rw [refused]
    exact ⟨rfl, fun free => absurd free (by simp)⟩
  | false =>
    obtain ⟨staged, later, stages, staging⟩ := stageGather_staging tx engine id result alert spans busy fits
    rw [stages]
    exact ⟨rfl, fun _ => staging⟩

end Staged

/-- What a profile read answers, and that the reply engine takes what it gathered. -/
theorem profile_read_law (store : Option StoreAnswer) :
    (checkedReadProfile s.revertDangling true slot).ok = true ∧
      (dispatch s store (.readProfile slot) true).2.1 = (checkedReadProfile s.revertDangling true slot).val ∧
      (dispatch s store (.readProfile slot) true).2.1 =
        (if profileSlots ≤ slot ∨ enabled s.table slot = [] ∨
            ∃ span ∈ enabled s.table slot, tableSize < span.1 + span.2 then
          [.sendStatus .range s.alert []]
        else if 252 < ((enabled s.table slot).map Prod.snd).sum then [.sendStatus .limit s.alert []]
        else [.sendStatusGather .ok s.alert ((enabled s.table slot).map (liveBytes s.table))]) ∧
      (((enabled s.table slot).map Prod.snd).sum ≤ 252 →
        (stagingSums ((enabled s.table slot).map (liveBytes s.table))).ok = true ∧
          ∀ (tx : TxEngine) (engine : CrcEngine) (id : UInt8),
            (tx.stageGather engine id .ok s.alert ((enabled s.table slot).map (liveBytes s.table))).2.2 =
                (if tx.busy then .error .busy else .ok ()) ∧
              (tx.busy = false →
                Staging tx (tx.stageGather engine id .ok s.alert ((enabled s.table slot).map (liveBytes s.table))).1
                  (tx.stageGather engine id .ok s.alert ((enabled s.table slot).map (liveBytes s.table))).2.1 id .ok
                  s.alert ((enabled s.table slot).map (liveBytes s.table)).flatten)) := by
  have sat := checkedReadProfile_sat s.revertDangling true slot
  have table : s.revertDangling.table = s.table := by
    rw [Session.revertDangling]
    split <;> rfl
  have alert : s.revertDangling.alert = s.alert := by
    rw [Session.alert, table, Session.alert]
  have answers := readProfile_eq s.revertDangling slot
  rw [table, alert] at answers
  refine ⟨sat.1, sat.2.symm, answers, fun fits => ?_⟩
  have lengths : (((enabled s.table slot).map (liveBytes s.table)).map List.length).sum ≤ maxPayload := by
    rw [gathered_lengths]
    exact fits
  exact ⟨(stagingSums_sat lengths).1, fun tx engine id => stageGather_accepts (by rw [List.length_flatten]; exact lengths)⟩

end Law

end OpenServo.Bus
