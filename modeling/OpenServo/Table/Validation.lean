import OpenServo.Table.SplitWrite

set_option autoImplicit false

namespace OpenServo.Table

open OpenServo.Shared

theorem testBit_coveredMask_eq {lo hi wi b : Nat} (small : b < 32) (near : lo < wi * 32 + 32) :
    (coveredMask lo hi wi).toNat.testBit b = decide (lo ≤ wi * 32 + b ∧ wi * 32 + b < hi) := by
  have start : ((1 <<< UInt32.ofNat (lo - wi * 32)) - 1 : UInt32).toNat.testBit b =
      decide (wi * 32 + b < lo) := by
    rw [lowBits_toNat _ (by omega), Nat.testBit_two_pow_sub_one]
    exact decide_eq_decide.mpr (by omega)
  have stop : (if min (hi - wi * 32) 32 = 32 then ~~~0
      else (1 <<< UInt32.ofNat (min (hi - wi * 32) 32)) - 1 : UInt32).toNat.testBit b =
      decide (wi * 32 + b < hi) := by
    split
    next full =>
      rw [testBit_complement _ small]
      have within : wi * 32 + b < hi := by omega
      simp [within]
    next part =>
      rw [lowBits_toNat _ (by omega), Nat.testBit_two_pow_sub_one]
      exact decide_eq_decide.mpr (by omega)
  simp only [coveredMask, UInt32.toNat_and, Nat.testBit_and, testBit_complement _ small, start]
  rw [stop]
  by_cases low : lo ≤ wi * 32 + b <;> by_cases high : wi * 32 + b < hi <;> simp [low, high, Nat.not_lt.mpr]
  all_goals omega

theorem and_mask_eq_iff (word mask : UInt32) :
    word &&& mask = mask ↔
      ∀ b < 32, mask.toNat.testBit b = true → word.toNat.testBit b = true := by
  constructor
  next =>
    intro same b _ set
    rw [← same, UInt32.toNat_and, Nat.testBit_and, Bool.and_eq_true] at set
    exact set.1
  next =>
    intro holds
    apply UInt32.toNat_inj.mp
    apply Nat.eq_of_testBit_eq
    intro b
    rw [UInt32.toNat_and, Nat.testBit_and]
    by_cases small : b < 32
    next =>
      cases set : mask.toNat.testBit b with
      | false => simp
      | true => simp [holds b small set]
    next =>
      have bound : mask.toNat < 2 ^ b :=
        Nat.lt_of_lt_of_le mask.toNat_lt (Nat.pow_le_pow_right (by decide) (by omega))
      simp [Nat.testBit_lt_two_pow bound]

theorem writableSpan_iff {words : List UInt32} {lo hi : Nat} :
    writableSpan words lo hi = true ↔
      ∀ a, lo ≤ a → a < hi → (words.getD (a / 32) 0).toNat.testBit (a % 32) = true := by
  constructor
  next => exact fun writable a low high => writableSpan_testBit writable low high
  next =>
    intro bytes
    apply List.all_eq_true.mpr
    intro k within
    have inside := List.mem_range.mp within
    rw [beq_iff_eq, and_mask_eq_iff]
    intro b small set
    rw [testBit_coveredMask_eq small (by omega), decide_eq_true_eq] at set
    have byte := bytes ((lo / 32 + k) * 32 + b) set.1 set.2
    rwa [show ((lo / 32 + k) * 32 + b) / 32 = lo / 32 + k by omega,
      show ((lo / 32 + k) * 32 + b) % 32 = b by omega] at byte

section Scan

variable {R : Type} {addr width : R → Nat} {check : R → Except Error Unit} {lo hi : Nat}

theorem scan_ok_iff {rules : List R} (sorted : rules.Pairwise (fun a b => addr a ≤ addr b)) :
    scan addr width check lo hi rules = .ok () ↔
      ∀ rule ∈ rules, overlaps (addr rule) (width rule) lo hi = true → check rule = .ok () := by
  constructor
  next => exact scan_ok addr width check lo hi rules sorted
  next =>
    clear sorted
    intro passes
    induction rules with
    | nil => rfl
    | cons first rest ih =>
      have later := ih (fun rule member => passes rule (List.mem_cons_of_mem _ member))
      simp only [scan]
      split
      next => rfl
      next =>
        split
        next touches => rw [passes first List.mem_cons_self touches, later]
        next => exact later

theorem scan_error {rules : List R} {e : Error} (failed : scan addr width check lo hi rules = .error e) :
    ∃ rule ∈ rules, overlaps (addr rule) (width rule) lo hi = true ∧ check rule = .error e := by
  induction rules with
  | nil => simp [scan] at failed
  | cons first rest ih =>
    have later (failed : scan addr width check lo hi rest = .error e) :
        ∃ rule ∈ first :: rest, overlaps (addr rule) (width rule) lo hi = true ∧ check rule = .error e := by
      obtain ⟨rule, member, found⟩ := ih failed
      exact ⟨rule, List.mem_cons_of_mem _ member, found⟩
    simp only [scan] at failed
    split at failed
    next => cases failed
    next =>
      split at failed
      next touches =>
        split at failed
        next => exact later failed
        next other checked =>
          injection failed with same
          exact ⟨first, List.mem_cons_self, touches, by rw [checked, same]⟩
      next => exact later failed

end Scan

section Kinds

variable {size : Nat} {view : View size} {e : Error}

theorem checkAllowed_error {rule : AllowedRule} (inside : rule.addr + 1 ≤ size)
    (failed : checkAllowed view rule = .error e) : e = .validationError .enum := by
  simp only [checkAllowed, View.readFixed_eq, bind, Except.bind] at failed
  rw [if_neg (by omega)] at failed
  simp only at failed
  split at failed
  next => cases failed
  next => exact (Except.error.inj failed).symm

theorem checkCmp_error {rule : CmpRule} (inside : rule.Inside size) (failed : checkCmp view rule = .error e) :
    e = .validationError .compare := by
  obtain ⟨own, other⟩ := inside
  simp only [checkCmp, View.readFixed_eq, bind, Except.bind] at failed
  rw [if_neg (by omega)] at failed
  cases rhs : rule.rhs with
  | imm v =>
    simp only [rhs] at failed
    split at failed
    next => cases failed
    next => exact (Except.error.inj failed).symm
  | reg reg =>
    simp only [rhs] at other failed
    rw [if_neg (by omega)] at failed
    simp only [Except.map] at failed
    split at failed
    next => cases failed
    next => exact (Except.error.inj failed).symm

end Kinds

namespace RegisterMap

variable (m : RegisterMap)

def allowedInForce : List AllowedRule :=
  m.sections.flatMap (fun sec => stripe m.allowedRules sec.allowedRules)

def cmpInForce : List CmpRule :=
  m.sections.flatMap (fun sec => stripe m.cmpRules sec.cmpRules)

def WritableByte (a : Nat) : Prop :=
  (m.writable.getD (a / 32) 0).toNat.testBit (a % 32) = true

instance (a : Nat) : Decidable (m.WritableByte a) :=
  inferInstanceAs (Decidable (_ = true))

/-- Sections apart from each other, and stripes address-ordered and inside their section. -/
structure Striped : Prop where
  apart : m.sections.Pairwise (fun a b => a.base + a.size ≤ b.base ∨ b.base + b.size ≤ a.base)
  allowedSorted : ∀ sec ∈ m.sections,
    (stripe m.allowedRules sec.allowedRules).Pairwise (fun a b => a.addr ≤ b.addr)
  cmpSorted : ∀ sec ∈ m.sections,
    (stripe m.cmpRules sec.cmpRules).Pairwise (fun a b => a.addr ≤ b.addr)
  allowedInside : ∀ sec ∈ m.sections, ∀ rule ∈ stripe m.allowedRules sec.allowedRules,
    sec.base ≤ rule.addr ∧ rule.addr + 1 ≤ sec.base + sec.size
  cmpInside : ∀ sec ∈ m.sections, ∀ rule ∈ stripe m.cmpRules sec.cmpRules,
    sec.base ≤ rule.addr ∧ rule.addr + rule.width ≤ sec.base + sec.size

def RulesHold (lo hi : Nat) (table : Store m.size) : Prop :=
  (∀ rule ∈ m.allowedInForce, overlaps rule.addr 1 lo hi = true → rule.Holds table) ∧
    ∀ rule ∈ m.cmpInForce, overlaps rule.addr rule.width lo hi = true → rule.Holds table

variable {m} {view : View m.size} {lo hi : Nat}

theorem mem_allowedInForce (rule : AllowedRule) :
    rule ∈ m.allowedInForce ↔ ∃ sec ∈ m.sections, rule ∈ stripe m.allowedRules sec.allowedRules :=
  List.mem_flatMap

theorem mem_cmpInForce (rule : CmpRule) :
    rule ∈ m.cmpInForce ↔ ∃ sec ∈ m.sections, rule ∈ stripe m.cmpRules sec.cmpRules :=
  List.mem_flatMap

theorem checkSection_ok_iff (striped : m.Striped) {sec : SectionMeta} (known : sec ∈ m.sections) :
    m.checkSection view lo hi sec = .ok () ↔
      (∀ rule ∈ stripe m.allowedRules sec.allowedRules,
        overlaps rule.addr 1 lo hi = true → checkAllowed view rule = .ok ()) ∧
      ∀ rule ∈ stripe m.cmpRules sec.cmpRules,
        overlaps rule.addr rule.width lo hi = true → checkCmp view rule = .ok () := by
  simp only [checkSection]
  by_cases hit : overlaps sec.base sec.size lo hi = true
  next =>
    rw [if_pos hit, ← scan_ok_iff (striped.allowedSorted sec known), ← scan_ok_iff (striped.cmpSorted sec known)]
    split
    next allowed => simp [allowed]
    next e failed => simp [failed]
  next =>
    rw [if_neg hit]
    refine iff_of_true rfl ⟨?_, ?_⟩
    next =>
      intro rule member touches
      have inside := striped.allowedInside sec known rule member
      rw [overlaps_iff] at hit touches
      omega
    next =>
      intro rule member touches
      have inside := striped.cmpInside sec known rule member
      rw [overlaps_iff] at hit touches
      omega

theorem checkSections_ok_iff (sections : List SectionMeta) :
    m.checkSections view lo hi sections = .ok () ↔
      ∀ sec ∈ sections, m.checkSection view lo hi sec = .ok () := by
  induction sections with
  | nil => simp [checkSections]
  | cons sec rest ih =>
    simp only [checkSections, List.forall_mem_cons]
    split
    next passed => simp [passed, ih]
    next e failed => simp [failed]

theorem checkSections_error {sections : List SectionMeta} {e : Error}
    (failed : m.checkSections view lo hi sections = .error e) :
    ∃ sec ∈ sections, m.checkSection view lo hi sec = .error e := by
  induction sections with
  | nil => simp [checkSections] at failed
  | cons sec rest ih =>
    simp only [checkSections] at failed
    split at failed
    next =>
      obtain ⟨other, member, found⟩ := ih failed
      exact ⟨other, List.mem_cons_of_mem _ member, found⟩
    next found => exact ⟨sec, List.mem_cons_self, by rw [found, Except.error.inj failed]⟩

theorem checkSections_rules (striped : m.Striped) (readable : ∀ rule ∈ m.cmpInForce, rule.Inside m.size)
    (inside : hi ≤ m.size) :
    m.checkSections view lo hi m.sections = .ok () ↔ m.RulesHold lo hi view.overlaid := by
  rw [checkSections_ok_iff]
  constructor
  next =>
    intro passed
    constructor
    next =>
      intro rule member touches
      obtain ⟨sec, known, owned⟩ := (mem_allowedInForce rule).mp member
      have check := ((checkSection_ok_iff striped known).mp (passed sec known)).1 rule owned touches
      exact ((checkAllowed_ok_iff view rule).mp check).2
    next =>
      intro rule member touches
      obtain ⟨sec, known, owned⟩ := (mem_cmpInForce rule).mp member
      have check := ((checkSection_ok_iff striped known).mp (passed sec known)).2 rule owned touches
      exact ((checkCmp_ok_iff view rule).mp check).2
  next =>
    rintro ⟨allowed, cmp⟩ sec known
    apply (checkSection_ok_iff striped known).mpr
    constructor
    next =>
      intro rule owned touches
      have holds := allowed rule ((mem_allowedInForce rule).mpr ⟨sec, known, owned⟩) touches
      have within := (overlaps_iff _ _ _ _).mp touches
      exact (checkAllowed_ok_iff view rule).mpr ⟨by omega, holds⟩
    next =>
      intro rule owned touches
      have member := (mem_cmpInForce rule).mpr ⟨sec, known, owned⟩
      exact (checkCmp_ok_iff view rule).mpr ⟨readable rule member, cmp rule member touches⟩

theorem checkSections_kind (readable : ∀ rule ∈ m.cmpInForce, rule.Inside m.size) (inside : hi ≤ m.size) {e : Error}
    (failed : m.checkSections view lo hi m.sections = .error e) : ∃ kind, e = .validationError kind := by
  obtain ⟨sec, known, failed⟩ := checkSections_error failed
  simp only [checkSection] at failed
  split at failed
  next =>
    split at failed
    next =>
      obtain ⟨rule, owned, -, check⟩ := scan_error failed
      exact ⟨_, checkCmp_error (readable rule ((mem_cmpInForce rule).mpr ⟨sec, known, owned⟩)) check⟩
    next scanned =>
      obtain ⟨rule, -, touches, check⟩ := scan_error scanned
      have within := (overlaps_iff _ _ _ _).mp touches
      rw [Except.error.inj failed] at check
      exact ⟨_, checkAllowed_error (by omega) check⟩
  next => cases failed

/-- Validation by what it decides: the empty write passes, and any other is tested for its span, its
bytes and the rules over it, in that order. -/
theorem validate_spec (striped : m.Striped) (readable : ∀ rule ∈ m.cmpInForce, rule.Inside m.size)
    (live : Store m.size) (addr : Nat) (head tail : List UInt8) :
    let data := head ++ tail
    let hi := addr + data.length
    (data = [] ∧ m.validate live addr head tail = .ok ()) ∨
      data ≠ [] ∧ m.size < hi ∧ m.validate live addr head tail = .error .outOfRange ∨
      data ≠ [] ∧ hi ≤ m.size ∧ (¬ ∀ a, addr ≤ a → a < hi → m.WritableByte a) ∧
        m.validate live addr head tail = .error .accessError ∨
      data ≠ [] ∧ hi ≤ m.size ∧ (∀ a, addr ≤ a → a < hi → m.WritableByte a) ∧
        ((m.RulesHold addr hi (poke live addr data) ∧ m.validate live addr head tail = .ok ()) ∨
          ¬ m.RulesHold addr hi (poke live addr data) ∧
            ∃ kind, m.validate live addr head tail = .error (.validationError kind)) := by
  intro data hi
  have total : head.length + tail.length = data.length := (List.length_append).symm
  simp only [validate, total]
  -- In the order of the source: nothing to write, the span, the access of each byte, the rules.
  by_cases empty : data = []
  next => exact .inl ⟨empty, by simp [empty]⟩
  next =>
    have positive := List.length_pos_iff.mpr empty
    rw [if_neg (by omega)]
    refine .inr ?_
    by_cases outside : m.size < hi
    next => exact .inl ⟨empty, outside, if_pos outside⟩
    next =>
      rw [if_neg outside]
      refine .inr ?_
      have bytes := @writableSpan_iff m.writable addr hi
      by_cases writable : writableSpan m.writable addr hi = true
      next =>
        simp only [hi] at writable
        simp only [writable, Bool.not_true, Bool.false_eq_true, if_false]
        refine .inr ⟨empty, by omega, bytes.mp writable, ?_⟩
        have rules := @checkSections_rules m ⟨live, addr, head, tail⟩ addr hi striped readable
          (Nat.le_of_not_lt outside)
        cases checked : m.checkSections ⟨live, addr, head, tail⟩ addr hi m.sections with
        | ok => exact .inl ⟨rules.mp checked, rfl⟩
        | error e =>
          refine .inr ⟨fun holds => ?_, ?_⟩
          next => exact absurd (rules.mpr holds) (by rw [checked]; simp)
          next =>
            obtain ⟨kind, rfl⟩ := checkSections_kind readable (Nat.le_of_not_lt outside) checked
            exact ⟨kind, rfl⟩
      next =>
        refine .inl ⟨empty, by omega, fun all => writable (bytes.mpr all), ?_⟩
        simp only [hi] at writable
        simp [writable]

theorem validate_ok_iff (striped : m.Striped) (readable : ∀ rule ∈ m.cmpInForce, rule.Inside m.size)
    (live : Store m.size) (addr : Nat) (head tail : List UInt8) :
    let data := head ++ tail
    let hi := addr + data.length
    m.validate live addr head tail = .ok () ↔
      data = [] ∨ hi ≤ m.size ∧ (∀ a, addr ≤ a → a < hi → m.WritableByte a) ∧
        m.RulesHold addr hi (poke live addr data) := by
  intro data hi
  obtain ⟨empty, ok⟩ | ⟨nonempty, outside, refused⟩ | ⟨nonempty, -, blocked, refused⟩ |
    ⟨nonempty, inside, writable, ⟨holds, ok⟩ | ⟨broken, kind, refused⟩⟩ :=
      validate_spec striped readable live addr head tail
  next => exact iff_of_true ok (.inl empty)
  next =>
    refine iff_of_false (by rw [refused]; simp) ?_
    rintro (empty | ⟨inside, -⟩)
    next => exact nonempty empty
    next => exact Nat.not_lt.mpr inside outside
  next =>
    refine iff_of_false (by rw [refused]; simp) ?_
    rintro (empty | ⟨-, writable, -⟩)
    next => exact nonempty empty
    next => exact blocked writable
  next => exact iff_of_true ok (.inr ⟨inside, writable, holds⟩)
  next =>
    refine iff_of_false (by rw [refused]; simp) ?_
    rintro (empty | ⟨-, -, holds⟩)
    next => exact nonempty empty
    next => exact broken holds

/-- A write is accepted exactly when it is empty, or inside the map, on writable bytes only, and every
rule over it holds on the table it would leave; the error says which of these failed first. -/
theorem validate_exact (striped : m.Striped) (readable : ∀ rule ∈ m.cmpInForce, rule.Inside m.size)
    (live : Store m.size) (addr : Nat) (head tail : List UInt8) :
    let data := head ++ tail
    let hi := addr + data.length
    (m.validate live addr head tail = .ok () ↔
      data = [] ∨ hi ≤ m.size ∧ (∀ a, addr ≤ a → a < hi → m.WritableByte a) ∧
        m.RulesHold addr hi (poke live addr data)) ∧
      ∀ e, m.validate live addr head tail = .error e →
        m.writeSplit live addr head tail = (live, .error e) ∧
          (m.size < hi ∧ e = .outOfRange ∨
            hi ≤ m.size ∧ (¬ ∀ a, addr ≤ a → a < hi → m.WritableByte a) ∧ e = .accessError ∨
            hi ≤ m.size ∧ (∀ a, addr ≤ a → a < hi → m.WritableByte a) ∧ ∃ kind, e = .validationError kind) := by
  intro data hi
  refine ⟨validate_ok_iff striped readable live addr head tail, ?_⟩
  intro e failed
  refine ⟨by simp [writeSplit, failed], ?_⟩
  obtain ⟨-, ok⟩ | ⟨-, outside, refused⟩ | ⟨-, inside, blocked, refused⟩ |
    ⟨-, inside, writable, ⟨-, ok⟩ | ⟨-, kind, refused⟩⟩ :=
      validate_spec striped readable live addr head tail
  next => exact absurd (failed.symm.trans ok) (by simp)
  next => exact .inl ⟨outside, Except.error.inj (failed.symm.trans refused)⟩
  next => exact .inr (.inl ⟨inside, blocked, Except.error.inj (failed.symm.trans refused)⟩)
  next => exact absurd (failed.symm.trans ok) (by simp)
  next => exact .inr (.inr ⟨inside, writable, kind, Except.error.inj (failed.symm.trans refused)⟩)

theorem validate_exact_pair :
    let m : RegisterMap := ⟨6, [0x2F], [⟨0, 6, (0, 1), (0, 1)⟩], [⟨0, 2, true, false, .le, .reg 2⟩], [⟨5, [0, 1]⟩]⟩
    m.validate (poke (zeroStore 6) 2 [7, 0]) 0 [7] [0] = .ok () ↔
      [(7 : UInt8), 0] = [] ∨ 2 ≤ 6 ∧ (∀ a, 0 ≤ a → a < 2 → m.WritableByte a) ∧
        m.RulesHold 0 2 (poke (poke (zeroStore 6) 2 [7, 0]) 0 [7, 0]) := by
  intro m
  have striped : m.Striped := by
    constructor <;> simp [m, stripe]
  have readable : ∀ rule ∈ m.cmpInForce, rule.Inside m.size := by
    simp [m, cmpInForce, stripe, CmpRule.Inside]
  exact (validate_exact striped readable (poke (zeroStore 6) 2 [7, 0]) 0 [7] [0]).1

/-- A rule whose other register lies outside the map cannot be read: a write inside the map, on
writable bytes, is then refused as out of range. -/
theorem validate_unreadable_rule :
    let m : RegisterMap := ⟨4, [0xF], [⟨0, 4, (0, 1), (0, 0)⟩], [⟨0, 2, true, false, .le, .reg 8⟩], []⟩
    m.Striped ∧ 0 + [(1 : UInt8), 0].length ≤ m.size ∧ (∀ a, 0 ≤ a → a < 2 → m.WritableByte a) ∧
      m.validate (zeroStore 4) 0 [1] [0] = .error .outOfRange := by
  intro m
  refine ⟨by constructor <;> simp [m, stripe], by decide, ?_, by decide⟩
  intro a _ high
  obtain rfl | rfl : a = 0 ∨ a = 1 := by omega
  next => decide
  next => decide

end RegisterMap

end OpenServo.Table
