import OpenServo.Table.Stage

set_option autoImplicit false

namespace OpenServo.Table

open OpenServo.Shared

structure SectionMeta where
  base : Nat
  size : Nat
  cmpRules : Nat × Nat
  allowedRules : Nat × Nat
deriving DecidableEq, Repr

/-- A flat register map: `writable` is one bit a byte, and each section owns a stripe of the two
rule lists. -/
structure RegisterMap where
  size : Nat
  writable : List UInt32
  sections : List SectionMeta
  cmpRules : List CmpRule
  allowedRules : List AllowedRule

def overlaps (aLo aLen lo hi : Nat) : Bool :=
  aLo < hi && lo < aLo + aLen

def coveredMask (lo hi wi : Nat) : UInt32 :=
  let wordLo := wi * 32
  let startBit := lo - wordLo
  let endBit := min (hi - wordLo) 32
  let covered : UInt32 := if endBit = 32 then ~~~0 else (1 <<< UInt32.ofNat endBit) - 1
  covered &&& ~~~((1 <<< UInt32.ofNat startBit) - 1)

def writableSpan (words : List UInt32) (lo hi : Nat) : Bool :=
  let first := lo / 32
  let last := (hi - 1) / 32
  (List.range (last + 1 - first)).all (fun k =>
    let mask := coveredMask lo hi (first + k)
    words.getD (first + k) 0 &&& mask == mask)

def stripe {R : Type} (rules : List R) (range : Nat × Nat) : List R :=
  if range.1 ≤ range.2 ∧ range.2 ≤ rules.length then rules.extract range.1 range.2 else []

/-- One address-ordered rule stripe: the scan ends at the first rule past the write. -/
def scan {R : Type} (addr width : R → Nat) (check : R → Except Error Unit) (lo hi : Nat) :
    List R → Except Error Unit
  | [] => .ok ()
  | rule :: rest =>
    if hi ≤ addr rule then .ok ()
    else if overlaps (addr rule) (width rule) lo hi then
      match check rule with
      | .ok () => scan addr width check lo hi rest
      | .error e => .error e
    else scan addr width check lo hi rest

theorem lowBits_toNat : ∀ n < 32, ((1 <<< UInt32.ofNat n) - 1 : UInt32).toNat = 2 ^ n - 1 := by
  decide

theorem testBit_complement (x : UInt32) {b : Nat} (small : b < 32) :
    (~~~x).toNat.testBit b = !x.toNat.testBit b := by
  rw [UInt32.toNat_not]
  have bound := x.toNat_lt
  rw [show UInt32.size - 1 - x.toNat = 2 ^ 32 - (x.toNat + 1) by simp only [UInt32.size]; omega,
    Nat.testBit_two_pow_sub_succ bound]
  simp [small]

theorem testBit_coveredMask {lo hi wi b : Nat} (small : b < 32) (low : lo ≤ wi * 32 + b)
    (high : wi * 32 + b < hi) : (coveredMask lo hi wi).toNat.testBit b = true := by
  have below : ((1 <<< UInt32.ofNat (lo - wi * 32)) - 1 : UInt32).toNat.testBit b = false := by
    rw [lowBits_toNat _ (by omega), Nat.testBit_two_pow_sub_one]
    exact decide_eq_false (by omega)
  simp only [coveredMask, UInt32.toNat_and, Nat.testBit_and, testBit_complement _ small, below, Bool.not_false,
    Bool.and_true]
  split
  next => rw [testBit_complement _ small]; simp
  next part =>
    rw [lowBits_toNat _ (by omega), Nat.testBit_two_pow_sub_one]
    exact decide_eq_true (by omega)

theorem writableSpan_testBit {words : List UInt32} {lo hi a : Nat} (writable : writableSpan words lo hi = true)
    (low : lo ≤ a) (high : a < hi) : (words.getD (a / 32) 0).toNat.testBit (a % 32) = true := by
  have split : a / 32 * 32 + a % 32 = a := by omega
  have bit := @testBit_coveredMask lo hi (a / 32) (a % 32) (Nat.mod_lt _ (by decide)) (by omega) (by omega)
  have word := List.all_eq_true.mp writable (a / 32 - lo / 32) (List.mem_range.mpr (by omega))
  simp only [show lo / 32 + (a / 32 - lo / 32) = a / 32 by omega, beq_iff_eq] at word
  rw [← word, UInt32.toNat_and, Nat.testBit_and, Bool.and_eq_true] at bit
  exact bit.1

namespace RegisterMap

variable (m : RegisterMap)

def checkSection (view : View m.size) (lo hi : Nat) (sec : SectionMeta) : Except Error Unit :=
  if overlaps sec.base sec.size lo hi then
    match scan AllowedRule.addr (fun _ => 1) (checkAllowed view) lo hi
        (stripe m.allowedRules sec.allowedRules) with
    | .ok () =>
      scan CmpRule.addr CmpRule.width (checkCmp view) lo hi (stripe m.cmpRules sec.cmpRules)
    | .error e => .error e
  else
    .ok ()

def checkSections (view : View m.size) (lo hi : Nat) : List SectionMeta → Except Error Unit
  | [] => .ok ()
  | sec :: rest =>
    match m.checkSection view lo hi sec with
    | .ok () => checkSections view lo hi rest
    | .error e => .error e

def validate (live : Store m.size) (addr : Nat) (head tail : List UInt8) : Except Error Unit :=
  let total := head.length + tail.length
  if total = 0 then .ok ()
  else
    let hi := addr + total
    if m.size < hi then .error .outOfRange
    else if !writableSpan m.writable addr hi then .error .accessError
    else m.checkSections ⟨live, addr, head, tail⟩ addr hi m.sections

def applyWrite (live : Store m.size) (write : Nat × List UInt8) : Store m.size :=
  if m.size < write.1 + write.2.length then live else poke live write.1 write.2

def applyFrom (live : Store m.size) (staged : StagedWrites) (snap : Snapshot) : Store m.size :=
  (staged.iterFrom snap).foldl m.applyWrite live

def read (live : Store m.size) (addr len : Nat) : Except Error (List UInt8) :=
  if m.size < addr + len then .error .outOfRange else .ok (readBytes live addr len)

def stageSplit (live : Store m.size) (addr : Nat) (head tail : List UInt8) (staged : StagedWrites) :
    StagedWrites × Except Error Unit :=
  match m.validate live addr head tail with
  | .ok () => staged.pushSplit addr head tail
  | .error e => (staged, .error e)

def commitStaged (live : Store m.size) (staged : StagedWrites) : Store m.size × StagedWrites :=
  (m.applyFrom live staged Snapshot.zero, {})

def commitFrom (live : Store m.size) (staged : StagedWrites) (snap : Snapshot) :
    Store m.size × StagedWrites :=
  (m.applyFrom live staged snap, staged.revertTo snap)

def Lands (write : Nat × List UInt8) : Prop :=
  write.2 = [] ∨ write.1 + write.2.length ≤ m.size

/-- What the table derive lays out: every rule belongs to a section that owns its stripe and holds
its field, and stripes are address-ordered. -/
structure WellFormed : Prop where
  allowedOwned : ∀ rule ∈ m.allowedRules, ∃ sec ∈ m.sections,
    rule ∈ stripe m.allowedRules sec.allowedRules ∧
      sec.base ≤ rule.addr ∧ rule.addr + 1 ≤ sec.base + sec.size
  cmpOwned : ∀ rule ∈ m.cmpRules, ∃ sec ∈ m.sections,
    rule ∈ stripe m.cmpRules sec.cmpRules ∧
      sec.base ≤ rule.addr ∧ rule.addr + rule.width ≤ sec.base + sec.size
  allowedSorted : ∀ sec ∈ m.sections,
    (stripe m.allowedRules sec.allowedRules).Pairwise (fun a b => a.addr ≤ b.addr)
  cmpSorted : ∀ sec ∈ m.sections,
    (stripe m.cmpRules sec.cmpRules).Pairwise (fun a b => a.addr ≤ b.addr)

end RegisterMap

theorem overlaps_iff (aLo aLen lo hi : Nat) :
    overlaps aLo aLen lo hi = true ↔ aLo < hi ∧ lo < aLo + aLen := by
  simp [overlaps]

theorem scan_ok {R : Type} (addr width : R → Nat) (check : R → Except Error Unit) (lo hi : Nat)
    (rules : List R) (sorted : rules.Pairwise (fun a b => addr a ≤ addr b))
    (ok : scan addr width check lo hi rules = .ok ()) :
    ∀ rule ∈ rules, overlaps (addr rule) (width rule) lo hi = true → check rule = .ok () := by
  induction rules with
  | nil => simp
  | cons first rest ih =>
    obtain ⟨ordered, sorted⟩ := List.pairwise_cons.mp sorted
    intro rule member touches
    have before := ((overlaps_iff _ _ _ _).mp touches).1
    simp only [scan] at ok
    split at ok
    next past =>
      -- the scan stopped here, and every later rule starts at or after this one
      rcases List.mem_cons.mp member with rfl | later
      next => omega
      next => have := ordered rule later; omega
    next =>
      split at ok
      next =>
        split at ok
        next passed =>
          rcases List.mem_cons.mp member with rfl | later
          next => exact passed
          next => exact ih sorted ok rule later touches
        next => cases ok
      next apart =>
        rcases List.mem_cons.mp member with rfl | later
        next => exact absurd touches apart
        next => exact ih sorted ok rule later touches

namespace RegisterMap

variable {m : RegisterMap}

theorem checkSections_ok (view : View m.size) (lo hi : Nat) (sections : List SectionMeta)
    (ok : m.checkSections view lo hi sections = .ok ()) :
    ∀ sec ∈ sections, m.checkSection view lo hi sec = .ok () := by
  induction sections with
  | nil => simp
  | cons first rest ih =>
    simp only [checkSections] at ok
    split at ok
    next passed =>
      intro sec member
      rcases List.mem_cons.mp member with rfl | later
      next => exact passed
      next => exact ih ok sec later
    next => cases ok

theorem applyWrite_lands (live : Store m.size) (write : Nat × List UInt8) (lands : m.Lands write) :
    m.applyWrite live write = poke live write.1 write.2 := by
  simp only [applyWrite]
  rcases lands with empty | inside
  next => simp [empty]
  next => rw [if_neg (by omega)]

theorem foldl_applyWrite_lands (live : Store m.size) (writes : List (Nat × List UInt8))
    (lands : ∀ write ∈ writes, m.Lands write) :
    writes.foldl m.applyWrite live =
      writes.foldl (fun live write => poke live write.1 write.2) live := by
  induction writes generalizing live with
  | nil => rfl
  | cons write rest ih =>
    simp only [List.foldl_cons]
    rw [applyWrite_lands live write (lands write List.mem_cons_self)]
    exact ih _ (fun other later => lands other (List.mem_cons_of_mem _ later))

theorem validate_bound {live : Store m.size} {addr : Nat} {head tail : List UInt8}
    (ok : m.validate live addr head tail = .ok ()) (nonempty : head ++ tail ≠ []) :
    addr + (head ++ tail).length ≤ m.size := by
  have positive := List.length_pos_iff.mpr nonempty
  rw [List.length_append] at positive ⊢
  simp only [validate] at ok
  rw [if_neg (by omega)] at ok
  split at ok
  next => cases ok
  next => omega

theorem validate_lands {live : Store m.size} {addr : Nat} {head tail : List UInt8}
    (ok : m.validate live addr head tail = .ok ()) : m.Lands (addr, head ++ tail) := by
  by_cases empty : head ++ tail = []
  next => exact .inl empty
  next => exact .inr (validate_bound ok empty)

theorem validate_writable {live : Store m.size} {addr : Nat} {head tail : List UInt8}
    (ok : m.validate live addr head tail = .ok ()) {a : Nat} (low : addr ≤ a)
    (high : a < addr + (head ++ tail).length) : (m.writable.getD (a / 32) 0).toNat.testBit (a % 32) = true := by
  rw [List.length_append] at high
  simp only [validate] at ok
  rw [if_neg (by omega)] at ok
  split at ok
  next => cases ok
  next =>
    split at ok
    next => cases ok
    next writable => exact writableSpan_testBit (by simpa using writable) low high

theorem validate_sections {live : Store m.size} {addr : Nat} {head tail : List UInt8}
    (ok : m.validate live addr head tail = .ok ()) (nonempty : head ++ tail ≠ []) :
    m.checkSections ⟨live, addr, head, tail⟩ addr (addr + (head ++ tail).length) m.sections = .ok () := by
  have positive := List.length_pos_iff.mpr nonempty
  rw [List.length_append] at positive ⊢
  simp only [validate] at ok
  rw [if_neg (by omega)] at ok
  split at ok
  next => cases ok
  next =>
    split at ok
    next => cases ok
    next => exact ok

theorem validate_allowed (wf : m.WellFormed) {live : Store m.size} {addr : Nat} {head tail : List UInt8}
    (ok : m.validate live addr head tail = .ok ()) (rule : AllowedRule) (member : rule ∈ m.allowedRules)
    (touches : overlaps rule.addr 1 addr (addr + (head ++ tail).length) = true) :
    rule.Holds (poke live addr (head ++ tail)) := by
  have within := (overlaps_iff _ _ _ _).mp touches
  have nonempty : head ++ tail ≠ [] := by
    intro empty
    rw [empty] at within
    simp at within
    omega
  obtain ⟨sec, known, owned, low, high⟩ := wf.allowedOwned rule member
  have passed := checkSections_ok _ _ _ _ (validate_sections ok nonempty) sec known
  have hit : overlaps sec.base sec.size addr (addr + (head ++ tail).length) = true := by
    rw [overlaps_iff]; omega
  simp only [checkSection, hit, if_true] at passed
  split at passed
  next allowed =>
    have check := scan_ok _ _ _ _ _ _ (wf.allowedSorted sec known) allowed rule owned touches
    exact ((checkAllowed_ok_iff _ rule).mp check).2
  next => cases passed

def allowedByte (m : RegisterMap) (addr : Nat) (b : UInt8) : Prop :=
  ∀ rule ∈ m.allowedRules, rule.addr = addr → b ∈ rule.allowed

/-- Allowed-set rules are about single bytes, so whether a write keeps them does not depend on the
table it was checked against. -/
theorem validate_fits_allowed (wf : m.WellFormed) {live : Store m.size} {addr : Nat}
    {head tail : List UInt8} (ok : m.validate live addr head tail = .ok ()) :
    Fits m.allowedByte (addr, head ++ tail) := by
  intro i within rule member same
  simp only at within same
  have nonempty : head ++ tail ≠ [] := List.ne_nil_of_length_pos (by omega)
  have bound := validate_bound ok nonempty
  have holds := validate_allowed wf ok rule member (by rw [overlaps_iff]; omega)
  rw [AllowedRule.Holds, peek_poke_inside _ _ _ _ (by omega) (by omega) (by omega)] at holds
  rwa [same, Nat.add_sub_cancel_left] at holds

theorem validate_cmp (wf : m.WellFormed) {live : Store m.size} {addr : Nat} {head tail : List UInt8}
    (ok : m.validate live addr head tail = .ok ()) (nonempty : head ++ tail ≠ []) (rule : CmpRule)
    (member : rule ∈ m.cmpRules)
    (touches : overlaps rule.addr rule.width addr (addr + (head ++ tail).length) = true) :
    rule.Holds (poke live addr (head ++ tail)) := by
  have within := (overlaps_iff _ _ _ _).mp touches
  obtain ⟨sec, known, owned, low, high⟩ := wf.cmpOwned rule member
  have passed := checkSections_ok _ _ _ _ (validate_sections ok nonempty) sec known
  have hit : overlaps sec.base sec.size addr (addr + (head ++ tail).length) = true := by
    rw [overlaps_iff]; omega
  simp only [checkSection, hit, if_true] at passed
  split at passed
  next =>
    have check := scan_ok _ _ _ _ _ _ (wf.cmpSorted sec known) passed rule owned touches
    exact ((checkCmp_ok_iff _ rule).mp check).2
  next => cases passed

end RegisterMap

end OpenServo.Table
