import OpenServo.Table.Map

set_option autoImplicit false

namespace OpenServo.Table

open OpenServo.Shared

def Op.flip : Op → Op
  | .lt => .gt
  | .le => .ge
  | .gt => .lt
  | .ge => .le
  | .eq => .eq
  | .ne => .ne

theorem Op.flip_holds (op : Op) (a r : Int) : op.flip.holds r a = op.holds a r := by
  cases op <;> simp [flip, holds, eq_comm]

def CmpRule.mirrors (rule other : CmpRule) : Bool :=
  rule.rhs = .reg other.addr ∧ other.rhs = .reg rule.addr ∧ other.width = rule.width ∧
    other.signed = rule.signed ∧ other.abs = rule.abs ∧ other.op = rule.op.flip

def CmpRule.immediate (rule : CmpRule) : Bool :=
  match rule.rhs with
  | .imm _ => true
  | .reg _ => false

def RegisterMap.mirroredRules (m : RegisterMap) : List CmpRule :=
  m.cmpRules.filter (fun rule => m.cmpRules.any rule.mirrors)

def RegisterMap.immediateRules (m : RegisterMap) : List CmpRule :=
  m.cmpRules.filter CmpRule.immediate

section Rule

variable {size : Nat} {rule other : CmpRule}

theorem CmpRule.mirrors_holds (mirror : rule.mirrors other = true) (table : Store size) :
    rule.Holds table ↔ other.Holds table := by
  simp only [mirrors, decide_eq_true_eq] at mirror
  obtain ⟨right, left, width, signed, abs, op⟩ := mirror
  have value (addr : Nat) : fieldValue other table addr = fieldValue rule table addr := by
    simp only [fieldValue, width, signed]
  simp only [Holds, right, left, value, compare, abs, width, op]
  split <;> rw [Op.flip_holds]

theorem fieldValue_poke_apart (rule : CmpRule) (table : Store size) (addr : Nat) (data : List UInt8)
    (field : Nat) (apart : field + rule.width ≤ addr ∨ addr + data.length ≤ field) :
    fieldValue rule (poke table addr data) field = fieldValue rule table field := by
  rw [fieldValue, readBytes_poke_outside _ _ _ _ _ (by omega), fieldValue]

theorem CmpRule.holds_poke_apart {reg : Nat} (pair : rule.rhs = .reg reg) (table : Store size)
    (addr : Nat) (data : List UInt8) (left : rule.addr + rule.width ≤ addr ∨ addr + data.length ≤ rule.addr)
    (right : reg + rule.width ≤ addr ∨ addr + data.length ≤ reg) :
    rule.Holds (poke table addr data) ↔ rule.Holds table := by
  simp only [Holds, pair, fieldValue_poke_apart rule table addr data _ left,
    fieldValue_poke_apart rule table addr data _ right]

end Rule

namespace RegisterMap

variable {m : RegisterMap}

theorem mirroredRules_spec {rule : CmpRule} (member : rule ∈ m.mirroredRules) :
    rule ∈ m.cmpRules ∧ ∃ other ∈ m.cmpRules, rule.mirrors other = true := by
  simpa [mirroredRules, List.mem_filter, List.any_eq_true] using member

/-- Validation sees a pair from whichever of its fields a write touches. -/
theorem validate_keeps_mirrored (wf : m.WellFormed) {live : Store m.size} {addr : Nat}
    {head tail : List UInt8} (ok : m.validate live addr head tail = .ok ()) {rule : CmpRule}
    (member : rule ∈ m.mirroredRules) (holds : rule.Holds live) :
    rule.Holds (poke live addr (head ++ tail)) := by
  obtain ⟨declared, other, alsoDeclared, mirror⟩ := mirroredRules_spec member
  by_cases empty : head ++ tail = []
  next => rwa [empty, poke_nil]
  next =>
    by_cases own : overlaps rule.addr rule.width addr (addr + (head ++ tail).length) = true
    next => exact validate_cmp wf ok empty rule declared own
    next =>
      by_cases paired : overlaps other.addr other.width addr (addr + (head ++ tail).length) = true
      next =>
        rw [CmpRule.mirrors_holds mirror]
        exact validate_cmp wf ok empty other alsoDeclared paired
      next =>
        have fields := mirror
        simp only [CmpRule.mirrors, decide_eq_true_eq] at fields
        simp only [overlaps_iff] at own paired
        have width : other.width = rule.width := fields.2.2.1
        rw [CmpRule.holds_poke_apart fields.1]
        next => exact holds
        next => omega
        next => omega

def Revalidates (m : RegisterMap) : Store m.size → List (Nat × List UInt8) → Prop
  | _, [] => True
  | live, write :: rest =>
    m.validate live write.1 write.2 [] = .ok () ∧ m.Revalidates (poke live write.1 write.2) rest

def decideRevalidates (m : RegisterMap) :
    (live : Store m.size) → (writes : List (Nat × List UInt8)) → Decidable (m.Revalidates live writes)
  | _, [] => .isTrue trivial
  | live, write :: rest =>
    haveI := m.decideRevalidates (poke live write.1 write.2) rest
    inferInstanceAs (Decidable (_ ∧ _))

instance (live : Store m.size) (writes : List (Nat × List UInt8)) :
    Decidable (m.Revalidates live writes) :=
  m.decideRevalidates live writes

theorem foldl_poke_keeps_mirrored (wf : m.WellFormed) {live : Store m.size}
    {writes : List (Nat × List UInt8)} (valid : m.Revalidates live writes) {rule : CmpRule}
    (member : rule ∈ m.mirroredRules) (holds : rule.Holds live) :
    rule.Holds (writes.foldl (fun live write => poke live write.1 write.2) live) := by
  induction writes generalizing live with
  | nil => exact holds
  | cons write rest ih =>
    have kept := validate_keeps_mirrored wf valid.1 member holds
    rw [List.append_nil] at kept
    exact ih valid.2 kept

end RegisterMap

end OpenServo.Table
