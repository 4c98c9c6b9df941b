import OpenServo.Core.RuleInvariants
import OpenServo.Table.PairRules

set_option autoImplicit false

namespace OpenServo.Core

open OpenServo.Protocol OpenServo.Shared OpenServo.Table

/-- The immediate compare rules byte by byte: each bounds its bytes separately, so a field may be
written in pieces. -/
def immediateByte (addr : Nat) (b : UInt8) : Prop :=
  (addr = Addr.id → 1 ≤ b.toNat ∧ b.toNat ≤ 249) ∧
    (addr = Addr.baudRateIdx → b.toNat ≤ 3) ∧
    (addr = Addr.dutyMaxQ15 + 1 → b.toNat ≤ 127) ∧
    (addr = Addr.telMask → b.toNat ≤ 63) ∧
    (addr = Addr.telMask + 1 → b.toNat = 0)

theorem immediateRules_eq : controlTable.immediateRules =
    [immRule Addr.id 1 .ge 1, immRule Addr.id 1 .le 249, immRule Addr.baudRateIdx 1 .le 3,
      immRule Addr.dutyMaxQ15 2 .le 32767, immRule Addr.telMask 2 .le 0x3F] := by
  decide

theorem immRule_one_holds (addr : Nat) (op : Op) (value : Int) (table : ControlTable) :
    (immRule addr 1 op value).Holds table ↔ op.holds (peek table addr).toNat value = true := by
  simp [CmpRule.Holds, immRule, CmpRule.compare, fieldValue, widen, pad4, readBytes]

theorem immRule_two_holds (addr : Nat) (op : Op) (value : Int) (table : ControlTable) :
    (immRule addr 2 op value).Holds table ↔
      op.holds ((peek table addr).toNat + 256 * (peek table (addr + 1)).toNat) value = true := by
  simp [CmpRule.Holds, immRule, CmpRule.compare, fieldValue, widen, pad4, readBytes, List.range_succ]

theorem immediateRules_hold_iff (table : ControlTable) :
    (∀ rule ∈ controlTable.immediateRules, rule.Holds table) ↔ Respects immediateByte table := by
  simp only [immediateRules_eq, List.forall_mem_cons, immRule_one_holds, immRule_two_holds, Op.holds,
    decide_eq_true_eq]
  constructor
  next =>
    rintro ⟨low, high, baud, duty, mask, -⟩ addr inside
    refine ⟨?_, ?_, ?_, ?_, ?_⟩ <;> rintro rfl <;> omega
  next =>
    intro respects
    have id := (respects Addr.id (by decide)).1 rfl
    have baud := (respects Addr.baudRateIdx (by decide)).2.1 rfl
    have duty := (respects (Addr.dutyMaxQ15 + 1) (by decide)).2.2.1 rfl
    have low := (respects Addr.telMask (by decide)).2.2.2.1 rfl
    have high := (respects (Addr.telMask + 1) (by decide)).2.2.2.2 rfl
    have bound := (peek table Addr.dutyMaxQ15).toNat_lt
    refine ⟨by omega, by omega, by omega, by omega, by omega, by simp⟩

theorem immediateByte_enforced : Enforced immediateByte where
  validated := by
    intro table addr head tail ok i within
    simp only at within ⊢
    have nonempty : head ++ tail ≠ [] := List.ne_nil_of_length_pos (by omega)
    have bound := RegisterMap.validate_bound ok nonempty
    have brought : peek (poke table addr (head ++ tail)) (addr + i) = (head ++ tail).getD i 0 := by
      rw [peek_poke_inside _ _ _ _ (by omega) (by omega) (by omega), Nat.add_sub_cancel_left]
    -- A rule is checked wherever one of its bytes is written, on the table that results.
    have touched (rule : CmpRule) (member : rule ∈ controlTable.cmpRules)
        (own : rule.addr ≤ addr + i ∧ addr + i < rule.addr + rule.width) :
        rule.Holds (poke table addr (head ++ tail)) := by
      apply RegisterMap.validate_cmp controlTable_wellFormed ok nonempty rule member
      rw [overlaps_iff]
      omega
    rw [← brought]
    refine ⟨?_, ?_, ?_, ?_, ?_⟩ <;> intro same
    next =>
      have low := touched (immRule Addr.id 1 .ge 1) (by decide) (by simp [immRule, same])
      have high := touched (immRule Addr.id 1 .le 249) (by decide) (by simp [immRule, same])
      simp only [immRule_one_holds, Op.holds, decide_eq_true_eq] at low high
      rw [same]
      omega
    next =>
      have high := touched (immRule Addr.baudRateIdx 1 .le 3) (by decide) (by simp [immRule, same])
      simp only [immRule_one_holds, Op.holds, decide_eq_true_eq] at high
      rw [same]
      omega
    next =>
      have high := touched (immRule Addr.dutyMaxQ15 2 .le 32767) (by decide) (by simp [immRule, same])
      simp only [immRule_two_holds, Op.holds, decide_eq_true_eq] at high
      rw [same]
      omega
    next =>
      have high := touched (immRule Addr.telMask 2 .le 0x3F) (by decide) (by simp [immRule, same])
      simp only [immRule_two_holds, Op.holds, decide_eq_true_eq] at high
      rw [same]
      omega
    next =>
      have high := touched (immRule Addr.telMask 2 .le 0x3F) (by decide) (by simp [immRule, same])
      simp only [immRule_two_holds, Op.holds, decide_eq_true_eq] at high
      rw [same]
      omega
  flags := by
    intro b
    simp [immediateByte, Addr.id, Addr.statusFlags, Addr.baudRateIdx, Addr.dutyMaxQ15, Addr.telMask]
  assigned := by
    intro id unicast
    simp only [isUnicast, Bool.and_eq_true, decide_eq_true_eq, UInt8.le_iff_toNat_le] at unicast
    simpa [immediateByte, Addr.id, Addr.baudRateIdx, Addr.dutyMaxQ15, Addr.telMask] using unicast

theorem mirrored_holds_poke {table : ControlTable} {addr : Nat} {data : List UInt8}
    (outside : addr + data.length ≤ 17 ∨ 512 ≤ addr) {rule : CmpRule}
    (member : rule ∈ controlTable.mirroredRules) (holds : rule.Holds table) :
    rule.Holds (poke table addr data) := by
  have within : ∀ rule ∈ controlTable.cmpRules, ∀ other ∈ controlTable.cmpRules,
      rule.mirrors other = true →
        17 ≤ rule.addr ∧ rule.addr + rule.width ≤ 512 ∧ 17 ≤ other.addr ∧ other.addr + rule.width ≤ 512 := by
    decide
  obtain ⟨declared, other, alsoDeclared, mirror⟩ := RegisterMap.mirroredRules_spec member
  have bounds := within rule declared other alsoDeclared mirror
  simp only [CmpRule.mirrors, decide_eq_true_eq] at mirror
  exact (CmpRule.holds_poke_apart mirror.1 table addr data (by omega) (by omega)).mpr holds

theorem landed_holds_mirrored {table : ControlTable} {writes : List (Nat × List UInt8)} {rule : CmpRule}
    (member : rule ∈ controlTable.mirroredRules) (holds : rule.Holds table) :
    rule.Holds (writes.foldl (fun table write => dirtyBit.landed table write.1 write.2.length) table) := by
  induction writes generalizing table with
  | nil => exact holds
  | cons write rest ih =>
    apply ih
    simp only [dirtyBit, markDirtyIfPersistent]
    split
    next => exact mirrored_holds_poke (.inr (by decide)) member holds
    next => exact holds

def Machine.Paired (m : Machine) : Prop :=
  ∀ rule ∈ controlTable.mirroredRules, rule.Holds m.table

/-- Writes checked on the table they land on keep the pairs; so does a COMMIT whose held writes
would still each be accepted where they land. -/
theorem Machine.step_paired {m : Machine} (paired : m.Paired) (uid : List UInt8) (frame : Frame)
    (revalidates : frame.req = .commit → controlTable.Revalidates m.table m.held) :
    (m.step dirtyBit uid frame).Paired := by
  intro rule member
  have holds := paired rule member
  obtain ⟨store, req, mayReply, verdict⟩ := frame
  cases req with
  | write addr data hold =>
    simp only [Machine.step]
    split
    next passed =>
      split
      next => exact holds
      next =>
        exact landed_holds_mirrored member
          (RegisterMap.validate_keeps_mirrored controlTable_wellFormed passed.1.1 member holds)
    next => exact holds
  | commit =>
    exact landed_holds_mirrored member
      (RegisterMap.foldl_poke_keeps_mirrored controlTable_wellFormed (revalidates rfl) member holds)
  | assign target newId =>
    simp only [Machine.step]
    split
    next => exact landed_holds_mirrored member (mirrored_holds_poke (.inl (by simp [Addr.id])) member holds)
    next => exact holds
  | mgmt op args =>
    cases op with
    | save =>
      simp only [Machine.step]
      split
      next => exact mirrored_holds_poke (.inr (by decide)) member holds
      next => exact holds
    | enum | assign | reboot | factory | cal => exact holds
  | ping | read | readProfile | enumerate | calibrate | unsupported => exact holds

def CommitsRevalidate : Session → List Frame → Prop :=
  Meets frameStep (fun s frame => frame.req = .commit → controlTable.Revalidates s.table (held s))

theorem run_paired (table : ControlTable) (uid : List UInt8) (frames : List Frame)
    (paired : ∀ rule ∈ controlTable.mirroredRules, rule.Holds table)
    (revalidate : CommitsRevalidate (boot table uid) frames) :
    ∀ rule ∈ controlTable.mirroredRules,
      rule.Holds (run frameStep (boot table uid) frames).table := by
  have kept := run_invariant frameStep _ (fun s => ∃ m, Stages uid s m ∧ m.Paired)
    (by
      rintro s frame ⟨m, stages, paired⟩ promise
      rw [stages.table, stages.held_eq] at promise
      exact ⟨_, frameStep_stages stages frame, m.step_paired paired uid frame promise⟩)
    (boot table uid) ⟨⟨table, []⟩, ⟨rfl, rfl, by simp, rfl⟩, paired⟩ frames revalidate
  obtain ⟨m, stages, paired⟩ := kept
  exact stages.table ▸ paired

theorem run_immediate (table : ControlTable) (uid : List UInt8) (frames : List Frame)
    (holds : ∀ rule ∈ controlTable.immediateRules, rule.Holds table) :
    ∀ rule ∈ controlTable.immediateRules,
      rule.Holds (run frameStep (boot table uid) frames).table := by
  have kept : (run (Machine.step dirtyBit uid) ⟨table, []⟩ frames).Respects immediateByte := by
    apply run_invariant (Machine.step dirtyBit uid) (fun _ _ => True) (Machine.Respects immediateByte)
    next => exact fun m frame respects _ => immediateByte_enforced.step respects uid frame
    next => exact ⟨(immediateRules_hold_iff table).mp holds, by simp⟩
    next => exact meets_trivial _ _ _
  rw [(run_stages table uid frames).table]
  exact (immediateRules_hold_iff _).mpr kept.1

theorem compare_rules_hold (table : ControlTable) (uid : List UInt8) (frames : List Frame)
    (immediate : ∀ rule ∈ controlTable.immediateRules, rule.Holds table)
    (paired : ∀ rule ∈ controlTable.mirroredRules, rule.Holds table) :
    (∀ rule ∈ controlTable.immediateRules,
      rule.Holds (run frameStep (boot table uid) frames).table) ∧
    (CommitsRevalidate (boot table uid) frames →
      ∀ rule ∈ controlTable.mirroredRules,
        rule.Holds (run frameStep (boot table uid) frames).table) :=
  ⟨run_immediate table uid frames immediate, run_paired table uid frames paired⟩

def seededTable : ControlTable :=
  seedConfigDefaults
    { posMinPhysCounts := 0, posMaxPhysCounts := 100, id := 1, baud := .b1000000, responseDeadlineUs := 60 }
    (zeroStore _)

def heldWrite (addr : Nat) (data : List UInt8) : Frame where
  req := .write addr (.ofList data) true
  mayReply := true
  verdict := .pass

def commitFrame : Frame where
  req := .commit
  mayReply := true
  verdict := .pass

theorem compare_rules_hold_after_held_limits :
    posMinPhysRule.Holds (run frameStep (boot seededTable [])
      [heldWrite Addr.posMinPhys [10, 0, 0, 0], heldWrite Addr.posMaxPhys [20, 0, 0, 0], commitFrame]).table :=
  (compare_rules_hold seededTable []
      [heldWrite Addr.posMinPhys [10, 0, 0, 0], heldWrite Addr.posMaxPhys [20, 0, 0, 0], commitFrame]
      (by decide +kernel) (by decide +kernel)).2
    ⟨by decide +kernel, by decide +kernel, by decide +kernel, trivial⟩ posMinPhysRule (by decide)

/-- Each held limit is valid against the live table, and together they cross. -/
theorem held_limits_cross_at_commit :
    ¬ ∀ (table : ControlTable) (uid : List UInt8) (frames : List Frame),
      (∀ rule ∈ controlTable.immediateRules, rule.Holds table) →
      (∀ rule ∈ controlTable.mirroredRules, rule.Holds table) →
      ∀ rule ∈ controlTable.mirroredRules,
        rule.Holds (run frameStep (boot table uid) frames).table := by
  intro always
  have crossed := always seededTable []
    [heldWrite Addr.posMinPhys [50, 0, 0, 0], heldWrite Addr.posMaxPhys [20, 0, 0, 0], commitFrame]
    (by decide +kernel) (by decide +kernel) posMinPhysRule (by decide)
  revert crossed
  decide +kernel

end OpenServo.Core
