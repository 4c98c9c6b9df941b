import OpenServo.Table.Map

set_option autoImplicit false

namespace OpenServo.Table

open OpenServo.Shared

namespace View

variable {size : Nat} (live : Store size) (addr : Nat) (head tail : List UInt8)

theorem overlaid_split :
    View.overlaid ⟨live, addr, head, tail⟩ = View.overlaid ⟨live, addr, head ++ tail, []⟩ := by
  simp [overlaid]

theorem readFixed_split :
    readFixed ⟨live, addr, head, tail⟩ = readFixed ⟨live, addr, head ++ tail, []⟩ := by
  funext lo len
  rw [readFixed_eq, readFixed_eq, overlaid_split]

theorem readFixed_eq_readMixed (view : View size) (lo len : Nat) :
    view.readFixed lo len =
      if size < lo + len then .error .outOfRange else .ok (view.readMixed lo len) := by
  rw [readFixed_eq]
  split
  next => rfl
  next fits => rw [readMixed_eq view lo len (by omega)]

end View

section Check

variable {size : Nat} {left right : View size}

theorem checkAllowed_congr (same : left.readFixed = right.readFixed) : checkAllowed left = checkAllowed right := by
  funext rule
  simp only [checkAllowed, same]

theorem checkCmp_congr (same : left.readFixed = right.readFixed) : checkCmp left = checkCmp right := by
  funext rule
  simp only [checkCmp, same]

end Check

theorem StagedWrites.pushSplit_split (staged : StagedWrites) (addr : Nat) (head tail : List UInt8) :
    staged.pushSplit addr head tail = staged.pushSplit addr (head ++ tail) [] := by
  simp only [pushSplit, List.length_append, List.length_nil, Nat.add_zero, List.append_nil, List.append_assoc]

namespace RegisterMap

variable (m : RegisterMap)

def writeSplit (live : Store m.size) (addr : Nat) (head tail : List UInt8) :
    Store m.size × Except Error Unit :=
  match m.validate live addr head tail with
  | .ok () => (poke (poke live addr head) (addr + head.length) tail, .ok ())
  | .error e => (live, .error e)

def write (live : Store m.size) (addr : Nat) (src : List UInt8) : Store m.size × Except Error Unit :=
  m.writeSplit live addr src []

def stage (live : Store m.size) (addr : Nat) (src : List UInt8) (staged : StagedWrites) :
    StagedWrites × Except Error Unit :=
  m.stageSplit live addr src [] staged

variable {m}

theorem checkSection_congr {left right : View m.size} (same : left.readFixed = right.readFixed) (lo hi : Nat)
    (sec : SectionMeta) : m.checkSection left lo hi sec = m.checkSection right lo hi sec := by
  simp only [checkSection, checkAllowed_congr same, checkCmp_congr same]

theorem checkSections_congr {left right : View m.size} (same : left.readFixed = right.readFixed) (lo hi : Nat)
    (sections : List SectionMeta) : m.checkSections left lo hi sections = m.checkSections right lo hi sections := by
  induction sections with
  | nil => rfl
  | cons sec rest ih => simp only [checkSections, checkSection_congr same, ih]

theorem validate_split (live : Store m.size) (addr : Nat) (head tail : List UInt8) :
    m.validate live addr head tail = m.validate live addr (head ++ tail) [] := by
  simp only [validate, List.length_append, List.length_nil, Nat.add_zero,
    checkSections_congr (View.readFixed_split live addr head tail)]

theorem writeSplit_eq_write (live : Store m.size) (addr : Nat) (head tail : List UInt8) :
    m.writeSplit live addr head tail = m.write live addr (head ++ tail) := by
  simp only [write, writeSplit, ← validate_split, poke_append, List.append_nil]

theorem stageSplit_eq_stage (live : Store m.size) (addr : Nat) (head tail : List UInt8) (staged : StagedWrites) :
    m.stageSplit live addr head tail staged = m.stage live addr (head ++ tail) staged := by
  simp only [stage, stageSplit, ← validate_split, ← StagedWrites.pushSplit_split]

/-- Where the bytes of a write are split shows nowhere: not in what is stored at once, in what is
staged and committed later, in the error, or in any read a check makes on the way. -/
theorem split_invisible (m : RegisterMap) (live : Store m.size) (addr : Nat) (head tail : List UInt8)
    (staged : StagedWrites) :
    m.writeSplit live addr head tail = m.write live addr (head ++ tail) ∧
      m.stageSplit live addr head tail staged = m.stage live addr (head ++ tail) staged ∧
      m.commitStaged live (m.stageSplit live addr head tail staged).1 =
        m.commitStaged live (m.stage live addr (head ++ tail) staged).1 ∧
      (∀ snap, m.commitFrom live (m.stageSplit live addr head tail staged).1 snap =
        m.commitFrom live (m.stage live addr (head ++ tail) staged).1 snap) ∧
      ∀ lo len,
        View.readFixed ⟨live, addr, head, tail⟩ lo len = View.readFixed ⟨live, addr, head ++ tail, []⟩ lo len ∧
          View.readFixed ⟨live, addr, head, tail⟩ lo len =
            if m.size < lo + len then .error .outOfRange
            else .ok (View.readMixed ⟨live, addr, head, tail⟩ lo len) := by
  have staging := stageSplit_eq_stage live addr head tail staged
  refine ⟨writeSplit_eq_write live addr head tail, staging, by rw [staging], fun snap => by rw [staging], ?_⟩
  intro lo len
  exact ⟨by rw [View.readFixed_split], View.readFixed_eq_readMixed _ lo len⟩

end RegisterMap

end OpenServo.Table
