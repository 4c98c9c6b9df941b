import OpenServo.Core.Regions
import OpenServo.Table.Validation
import Mathlib.Algebra.Ring.Nat
import Mathlib.Algebra.Ring.Int.Defs

set_option autoImplicit false

namespace OpenServo.Core

open OpenServo.Protocol OpenServo.Shared OpenServo.Table

inductive FieldType where
  | u16
  | i16
  | i32
deriving DecidableEq, Repr

def littleEndian : List UInt8 → Nat
  | [] => 0
  | b :: rest => b.toNat + 256 * littleEndian rest

theorem littleEndian_lt (bytes : List UInt8) : littleEndian bytes < 256 ^ bytes.length := by
  induction bytes with
  | nil => simp [littleEndian]
  | cons b rest ih =>
    have bound := b.toNat_lt
    rw [List.length_cons, Nat.pow_succ]
    simp only [littleEndian]
    omega

namespace FieldType

def width : FieldType → Nat
  | .u16 => 2
  | .i16 => 2
  | .i32 => 4

def signed : FieldType → Bool
  | .u16 => false
  | .i16 => true
  | .i32 => true

def max : FieldType → Int
  | .u16 => 2 ^ 16 - 1
  | .i16 => 2 ^ 15 - 1
  | .i32 => 2 ^ 31 - 1

def value {size : Nat} (type : FieldType) (table : Store size) (addr : Nat) : Int :=
  let raw := littleEndian (readBytes table addr type.width)
  if type.signed then signExtend (8 * type.width) raw else raw

end FieldType

def declaredType (addr : Nat) : FieldType :=
  if addr = Addr.dutyMaxQ15 ∨ addr = Addr.currentLimit then .u16
  else if addr = Addr.cutoffCc ∨ addr = Addr.recoverCc ∨ addr = Addr.goalDuty ∨ addr = Addr.goalCurrent then .i16
  else .i32

def declaredValue (table : ControlTable) (addr : Nat) : Int :=
  (declaredType addr).value table addr

def magnitude (type : FieldType) (value : Int) : Int :=
  min (value.natAbs : Int) type.max

def trueOutcome (rule : CmpRule) (left right : Int) : Bool :=
  if rule.abs then
    rule.op.holds (magnitude (declaredType rule.addr) left) (magnitude (declaredType rule.addr) right)
  else
    rule.op.holds left right

theorem widen_two (bytes : List UInt8) (length : bytes.length = 2) :
    widen (pad4 bytes) 2 true = signExtend 16 (littleEndian bytes) := by
  obtain ⟨a, b, rfl⟩ := List.length_eq_two.mp length
  simp [widen, pad4, littleEndian]

theorem widen_four (bytes : List UInt8) (length : bytes.length = 4) :
    widen (pad4 bytes) 4 true = signExtend 32 (littleEndian bytes) := by
  match bytes, length with
  | [a, b, c, d], _ => simp [widen, pad4, littleEndian]

/-- A signed rule loads a register as its own type does, save that an unsigned one wraps at the top
half of its range. -/
theorem fieldValue_eq (rule : CmpRule) (table : ControlTable) (addr : Nat) (type : FieldType)
    (signed : rule.signed = true) (width : rule.width = type.width)
    (fits : type.value table addr < 2 ^ (8 * type.width - 1)) : fieldValue rule table addr = type.value table addr := by
  cases type with
  | u16 =>
    simp only [FieldType.value, FieldType.width, FieldType.signed, Bool.false_eq_true, if_false] at width fits ⊢
    simp only [fieldValue, width, signed]
    have loaded := widen_two _ (length_readBytes table addr 2)
    rw [signExtend, if_pos (by omega)] at loaded
    exact loaded
  | i16 =>
    simp only [FieldType.value, FieldType.width, FieldType.signed] at width ⊢
    simp only [fieldValue, width, signed, if_true, show min 2 4 = 2 from rfl]
    exact widen_two _ (length_readBytes table addr 2)
  | i32 =>
    simp only [FieldType.value, FieldType.width, FieldType.signed] at width ⊢
    simp only [fieldValue, width, signed, if_true, show min 4 4 = 4 from rfl]
    exact widen_four _ (length_readBytes table addr 4)

theorem signExtend_lt {half value : Nat} (bound : value < 2 ^ (half + 1)) :
    signExtend (half + 1) value < 2 ^ half := by
  have double : (2 : Int) ^ (half + 1) = 2 * 2 ^ half := by rw [pow_succ, mul_comm]
  have wide : (value : Int) < 2 ^ (half + 1) := by exact_mod_cast bound
  simp only [signExtend, Nat.add_sub_cancel]
  split
  next low => exact_mod_cast low
  next => omega

theorem signed_value_lt {type : FieldType} (signed : type.signed = true) (table : ControlTable) (addr : Nat) :
    type.value table addr < 2 ^ (8 * type.width - 1) := by
  have bound := littleEndian_lt (readBytes table addr type.width)
  rw [length_readBytes] at bound
  cases type with
  | u16 => cases signed
  | i16 => exact signExtend_lt bound
  | i32 => exact signExtend_lt bound

/-- How the table declares its compare rules: every register read is inside the table, and where the
right-hand side is one, the left field is signed, of the shape the rule packs, and as wide as it. -/
theorem cmpRules_declared : ∀ rule ∈ controlTable.cmpRules, rule.Inside controlTable.size ∧
    match rule.rhs with
    | .imm _ => True
    | .reg reg =>
      rule.signed = true ∧ (declaredType rule.addr).signed = true ∧
        rule.width = (declaredType rule.addr).width ∧ rule.width = (declaredType reg).width := by
  simp [controlTable, configCmpRules, controlCmpRules, immRule, i32Rule, i16Rule, posMinPhysRule, posMaxPhysRule,
    posMinSoftRule, posMaxSoftRule, cutoffRule, recoverRule, CmpRule.Inside, tableSize, declaredType,
    FieldType.signed, FieldType.width, Addr.dutyMaxQ15, Addr.currentLimit, Addr.cutoffCc, Addr.recoverCc,
    Addr.goalDuty, Addr.goalCurrent, Addr.posMinPhys, Addr.posMaxPhys, Addr.posMinSoft, Addr.posMaxSoft,
    Addr.goalPosition, Addr.id, Addr.baudRateIdx, Addr.telMask]

theorem saturated_eq_magnitude {type : FieldType} (signed : type.signed = true) (value : Int) :
    min (saturatingAbs value) (satMax type.width) = magnitude type value := by
  cases type with
  | u16 => cases signed
  | i16 =>
    simp only [saturatingAbs, satMax, magnitude, FieldType.width, FieldType.max]
    omega
  | i32 =>
    simp only [saturatingAbs, satMax, magnitude, FieldType.width, FieldType.max]
    omega

theorem compare_eq_trueOutcome {rule : CmpRule} (signed : (declaredType rule.addr).signed = true)
    (width : rule.width = (declaredType rule.addr).width) (left right : Int) :
    rule.compare left right = trueOutcome rule left right := by
  simp only [CmpRule.compare, trueOutcome, width, saturated_eq_magnitude signed]

theorem max_lt {type : FieldType} (signed : type.signed = true) : type.max < 2 ^ (8 * type.width - 1) := by
  cases type with
  | u16 => cases signed
  | i16 => decide
  | i32 => decide

theorem holds_iff_trueOutcome {rule : CmpRule} (member : rule ∈ controlTable.cmpRules) {reg : Nat}
    (other : rule.rhs = .reg reg) (table : ControlTable)
    (fits : declaredValue table reg ≤ (declaredType rule.addr).max) :
    rule.Holds table ↔ trueOutcome rule (declaredValue table rule.addr) (declaredValue table reg) = true := by
  have declared := (cmpRules_declared rule member).2
  rw [other] at declared
  obtain ⟨signed, leftSigned, leftWidth, rightWidth⟩ := declared
  have left : fieldValue rule table rule.addr = declaredValue table rule.addr :=
    fieldValue_eq rule table rule.addr _ signed leftWidth (signed_value_lt leftSigned table rule.addr)
  have right : fieldValue rule table reg = declaredValue table reg := by
    apply fieldValue_eq rule table reg _ signed rightWidth
    rw [← rightWidth, leftWidth]
    exact Int.lt_of_le_of_lt fits (max_lt leftSigned)
  simp only [CmpRule.Holds, other, left, right, compare_eq_trueOutcome leftSigned leftWidth]

theorem controlTable_striped : controlTable.Striped where
  apart := by decide
  allowedSorted := by decide
  cmpSorted := by decide
  allowedInside := by decide
  cmpInside := by decide

theorem mem_of_mem_stripe {R : Type} {rules : List R} {range : Nat × Nat} {rule : R}
    (owned : rule ∈ stripe rules range) : rule ∈ rules := by
  simp only [stripe] at owned
  split at owned
  next =>
    rw [List.extract_eq_take_drop] at owned
    exact List.mem_of_mem_drop (List.mem_of_mem_take owned)
  next => cases owned

theorem controlTable_readable : ∀ rule ∈ controlTable.cmpInForce, rule.Inside controlTable.size := by
  intro rule member
  obtain ⟨sec, -, owned⟩ := (RegisterMap.mem_cmpInForce rule).mp member
  exact (cmpRules_declared rule (mem_of_mem_stripe owned)).1

theorem magnitude_of_nonneg {type : FieldType} {value : Int} (nonneg : 0 ≤ value) (fits : value ≤ type.max) :
    magnitude type value = value := by
  simp only [magnitude]
  omega

def goalCurrentRule : CmpRule :=
  i16Rule Addr.goalCurrent true .le Addr.currentLimit

theorem rulesHold_goalCurrent (table : ControlTable) :
    controlTable.RulesHold Addr.goalCurrent (Addr.goalCurrent + 2) table ↔ goalCurrentRule.Holds table := by
  have allowed : ∀ rule ∈ controlTable.allowedInForce,
      overlaps rule.addr 1 Addr.goalCurrent (Addr.goalCurrent + 2) = false := by decide
  have only : ∀ rule ∈ controlTable.cmpInForce,
      overlaps rule.addr rule.width Addr.goalCurrent (Addr.goalCurrent + 2) = true → rule = goalCurrentRule := by
    decide
  constructor
  next => exact fun holds => holds.2 goalCurrentRule (by decide) (by decide)
  next =>
    intro holds
    refine ⟨fun rule member touches => ?_, fun rule member touches => ?_⟩
    next => exact absurd touches (by rw [allowed rule member]; decide)
    next => rwa [only rule member touches]

/-- Register-to-register rules compare the values of their two fields in their own declared types, for
every right-hand value that the left field's type has. A current goal is accepted exactly when its
magnitude is within the limit. -/
theorem register_rules_true :
    (∀ (view : View controlTable.size), ∀ rule ∈ controlTable.cmpRules, ∀ reg, rule.rhs = .reg reg →
      declaredValue view.overlaid reg ≤ (declaredType rule.addr).max →
      (checkCmp view rule = .ok () ↔
        trueOutcome rule (declaredValue view.overlaid rule.addr) (declaredValue view.overlaid reg) = true)) ∧
      ∀ (live : ControlTable) (head tail : List UInt8), (head ++ tail).length = 2 →
        declaredValue live Addr.currentLimit ≤ FieldType.i16.max →
        (controlTable.validate live Addr.goalCurrent head tail = .ok () ↔
          magnitude .i16 (declaredValue (poke live Addr.goalCurrent (head ++ tail)) Addr.goalCurrent) ≤
            declaredValue live Addr.currentLimit) := by
  constructor
  next =>
    intro view rule member reg other fits
    rw [checkCmp_ok_iff, holds_iff_trueOutcome member other view.overlaid fits]
    exact and_iff_right (cmpRules_declared rule member).1
  next =>
    intro live head tail length fits
    have apart (data : List UInt8) : declaredValue (poke live Addr.goalCurrent data) Addr.currentLimit =
        declaredValue live Addr.currentLimit := by
      simp only [declaredValue, FieldType.value]
      rw [readBytes_poke_outside _ _ _ _ _ (.inl (by decide))]
    have writable : ∀ a, Addr.goalCurrent ≤ a → a < Addr.goalCurrent + 2 → controlTable.WritableByte a := by
      intro a low high
      obtain rfl | rfl : a = Addr.goalCurrent ∨ a = Addr.goalCurrent + 1 := by omega
      next => decide
      next => decide
    have accepted := RegisterMap.validate_ok_iff controlTable_striped controlTable_readable live Addr.goalCurrent
      head tail
    simp only [length, rulesHold_goalCurrent] at accepted
    rw [accepted, holds_iff_trueOutcome (by decide) rfl _ (by rw [apart]; exact fits), apart]
    have limit : magnitude .i16 (declaredValue live Addr.currentLimit) = declaredValue live Addr.currentLimit :=
      magnitude_of_nonneg (Int.natCast_nonneg _) fits
    have outcome (goal : Int) : trueOutcome goalCurrentRule goal (declaredValue live Addr.currentLimit) = true ↔
        magnitude .i16 goal ≤ declaredValue live Addr.currentLimit := by
      change decide (magnitude .i16 goal ≤ magnitude .i16 (declaredValue live Addr.currentLimit)) = true ↔ _
      rw [limit, decide_eq_true_iff]
    have nonempty : head ++ tail ≠ [] := List.ne_nil_of_length_pos (by omega)
    constructor
    next =>
      rintro (empty | ⟨-, -, holds⟩)
      next => exact absurd empty nonempty
      next => exact (outcome _).mp holds
    next => exact fun within => .inr ⟨by decide, writable, (outcome _).mpr within⟩

theorem register_rules_true_goal :
    controlTable.validate (poke (zeroStore controlTable.size) Addr.currentLimit [0xB0, 0x04]) Addr.goalCurrent
        [0x00] [0x80] = .ok () ↔
      magnitude .i16 (declaredValue (poke (poke (zeroStore controlTable.size) Addr.currentLimit [0xB0, 0x04])
        Addr.goalCurrent ([0x00] ++ [0x80])) Addr.goalCurrent) ≤
          declaredValue (poke (zeroStore controlTable.size) Addr.currentLimit [0xB0, 0x04]) Addr.currentLimit :=
  register_rules_true.2 _ [0x00] [0x80] rfl (by decide)

/-- A limit of 40000 counts refuses a goal of 30000: the rule loads the limit as a signed word. And a
goal of -32768 counts passes a limit of 32767, its magnitude saturating. -/
theorem goalCurrent_misread :
    (let live : ControlTable := poke (zeroStore controlTable.size) Addr.currentLimit [0x40, 0x9C]
     declaredValue live Addr.currentLimit = 40000 ∧
      declaredValue (poke live Addr.goalCurrent [0x30, 0x75]) Addr.goalCurrent = 30000 ∧
      controlTable.validate live Addr.goalCurrent [0x30, 0x75] [] = .error (.validationError .compare)) ∧
    (let live : ControlTable := poke (zeroStore controlTable.size) Addr.currentLimit [0xFF, 0x7F]
     declaredValue live Addr.currentLimit = 32767 ∧
      declaredValue (poke live Addr.goalCurrent [0x00, 0x80]) Addr.goalCurrent = -32768 ∧
      controlTable.validate live Addr.goalCurrent [0x00, 0x80] [] = .ok ()) := by
  decide

end OpenServo.Core
