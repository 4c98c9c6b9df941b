import OpenServo.Protocol.Bytes
import OpenServo.Shared.ByteStore
import OpenServo.Shared.Ring

set_option autoImplicit false

namespace OpenServo.Table

open OpenServo.Protocol OpenServo.Shared

inductive ValidationKind where
  | enum
  | compare
deriving DecidableEq, Repr

inductive Error where
  | outOfRange
  | accessError
  | stagingFull
  | validationError (kind : ValidationKind)
deriving DecidableEq, Repr

inductive Op where
  | lt
  | le
  | gt
  | ge
  | eq
  | ne
deriving DecidableEq, Repr

inductive Rhs where
  | imm (value : Int)
  | reg (addr : Nat)
deriving DecidableEq, Repr

/-- The source packs the shape of a compare rule into one spec word; here it is unpacked. -/
structure CmpRule where
  addr : Nat
  width : Nat
  signed : Bool
  abs : Bool
  op : Op
  rhs : Rhs
deriving DecidableEq, Repr

structure AllowedRule where
  addr : Nat
  allowed : List UInt8
deriving DecidableEq, Repr

/-- Live storage under one pending overlay, which a ring seam may split in two. -/
structure View (size : Nat) where
  live : Store size
  overlayAddr : Nat
  head : List UInt8
  tail : List UInt8

def pad4 (bytes : List UInt8) : List UInt8 :=
  (bytes ++ [0, 0, 0, 0]).take 4

namespace View

variable {size : Nat}

def readMixed (view : View size) (lo len : Nat) : List UInt8 :=
  let split := view.overlayAddr + view.head.length
  let high := split + view.tail.length
  pad4 ((List.range (min len 4)).map (fun i =>
    let a := lo + i
    if view.overlayAddr ≤ a ∧ a < split then view.head.getD (a - view.overlayAddr) 0
    else if split ≤ a ∧ a < high then view.tail.getD (a - split) 0
    else peek view.live a))

def readFixed (view : View size) (addr len : Nat) : Except Error (List UInt8) :=
  if size < addr + len then
    .error .outOfRange
  else
    let split := view.overlayAddr + view.head.length
    let high := split + view.tail.length
    if addr + len ≤ view.overlayAddr ∨ high ≤ addr then
      .ok (pad4 (readBytes view.live addr (min len 4)))
    else if view.overlayAddr ≤ addr ∧ addr + len ≤ split then
      .ok (pad4 (view.head.extract (addr - view.overlayAddr) (addr - view.overlayAddr + min len 4)))
    else
      .ok (view.readMixed addr len)

def overlaid (view : View size) : Store size :=
  poke view.live view.overlayAddr (view.head ++ view.tail)

theorem overlaid_eq (view : View size) :
    view.overlaid =
      poke (poke view.live view.overlayAddr view.head) (view.overlayAddr + view.head.length) view.tail :=
  (poke_append view.live view.overlayAddr view.head view.tail).symm

theorem readMixed_eq (view : View size) (addr len : Nat) (fits : addr + len ≤ size) :
    view.readMixed addr len = pad4 (readBytes view.overlaid addr (min len 4)) := by
  simp only [readMixed, readBytes]
  congr 1
  apply List.map_congr_left
  intro i within
  have bound := List.mem_range.mp within
  have inside : addr + i < size := by omega
  rw [overlaid_eq, peek_poke _ _ _ _ inside, peek_poke _ _ _ _ inside]
  split
  next first => rw [if_neg (by omega)]
  next => split <;> simp_all

/-- Every read a check makes is a read of the table the write would leave: the fast paths and the
byte picks agree. -/
theorem readFixed_eq (view : View size) (addr len : Nat) :
    view.readFixed addr len =
      if size < addr + len then .error .outOfRange
      else .ok (pad4 (readBytes view.overlaid addr (min len 4))) := by
  simp only [readFixed]
  split
  next => rfl
  next fits =>
    split
    next apart =>
      have same : readBytes view.overlaid addr (min len 4) = readBytes view.live addr (min len 4) :=
        readBytes_poke_outside _ _ _ _ _ (by simp only [List.length_append]; omega)
      rw [same]
    next =>
      split
      next inner =>
        congr 2
        rw [extract_eq_range view.head 0 _ _ (by omega), Nat.add_sub_cancel_left]
        apply List.map_congr_left
        intro i within
        have bound := List.mem_range.mp within
        rw [overlaid_eq, peek_poke _ _ _ _ (by omega), if_neg (by omega),
          peek_poke _ _ _ _ (by omega), if_pos (by omega)]
        congr 1
        omega
      next => rw [readMixed_eq view addr len (by omega)]

end View

def signExtend (bits : Nat) (value : Nat) : Int :=
  if value < 2 ^ (bits - 1) then value else value - 2 ^ bits

def widen (bytes : List UInt8) (width : Nat) (signed : Bool) : Int :=
  let b (i : Nat) : Nat := (bytes.getD i 0).toNat
  match width, signed with
  | 1, false => b 0
  | 1, true => signExtend 8 (b 0)
  | 2, false => b 0 + 256 * b 1
  | 2, true => signExtend 16 (b 0 + 256 * b 1)
  | _, _ => signExtend 32 (b 0 + 256 * (b 1 + 256 * (b 2 + 256 * b 3)))

def saturatingAbs (value : Int) : Int :=
  min (value.natAbs : Int) (2 ^ 31 - 1)

def satMax : Nat → Int
  | 1 => 2 ^ 7 - 1
  | 2 => 2 ^ 15 - 1
  | _ => 2 ^ 31 - 1

def Op.holds : Op → Int → Int → Bool
  | .lt, a, r => a < r
  | .le, a, r => a ≤ r
  | .gt, a, r => a > r
  | .ge, a, r => a ≥ r
  | .eq, a, r => a = r
  | .ne, a, r => a ≠ r

def CmpRule.compare (rule : CmpRule) (a r : Int) : Bool :=
  if rule.abs then
    rule.op.holds (min (saturatingAbs a) (satMax rule.width)) (min (saturatingAbs r) (satMax rule.width))
  else
    rule.op.holds a r

section Check

variable {size : Nat}

def checkAllowed (view : View size) (rule : AllowedRule) : Except Error Unit := do
  let b ← view.readFixed rule.addr 1
  if rule.allowed.contains (b.getD 0 0) then .ok () else .error (.validationError .enum)

def checkCmp (view : View size) (rule : CmpRule) : Except Error Unit := do
  let a ← view.readFixed rule.addr rule.width
  let r ←
    match rule.rhs with
    | .imm v => .ok v
    | .reg reg => (view.readFixed reg rule.width).map (fun b => widen b rule.width rule.signed)
  if rule.compare (widen a rule.width rule.signed) r then .ok ()
  else .error (.validationError .compare)

def fieldValue (rule : CmpRule) (table : Store size) (addr : Nat) : Int :=
  widen (pad4 (readBytes table addr (min rule.width 4))) rule.width rule.signed

def AllowedRule.Holds (rule : AllowedRule) (table : Store size) : Prop :=
  peek table rule.addr ∈ rule.allowed

instance (rule : AllowedRule) (table : Store size) : Decidable (rule.Holds table) :=
  inferInstanceAs (Decidable (_ ∈ _))

def CmpRule.Holds (rule : CmpRule) (table : Store size) : Prop :=
  rule.compare (fieldValue rule table rule.addr)
    (match rule.rhs with
      | .imm v => v
      | .reg reg => fieldValue rule table reg) = true

instance (rule : CmpRule) (table : Store size) : Decidable (rule.Holds table) :=
  inferInstanceAs (Decidable (_ = true))

def CmpRule.Inside (rule : CmpRule) (size : Nat) : Prop :=
  rule.addr + rule.width ≤ size ∧
    match rule.rhs with
    | .imm _ => True
    | .reg reg => reg + rule.width ≤ size

theorem checkAllowed_ok_iff (view : View size) (rule : AllowedRule) :
    checkAllowed view rule = .ok () ↔ rule.addr + 1 ≤ size ∧ rule.Holds view.overlaid := by
  simp only [checkAllowed, View.readFixed_eq, AllowedRule.Holds]
  by_cases beyond : size < rule.addr + 1
  next => exact iff_of_false (by simp [beyond, bind, Except.bind]) fun holds => absurd holds.1 (by omega)
  next =>
    have first : (pad4 (readBytes view.overlaid rule.addr (min 1 4))).getD 0 0 =
        peek view.overlaid rule.addr := by
      simp [pad4, readBytes]
    simp only [beyond, if_false, bind, Except.bind, first, List.contains_iff_mem]
    split <;> simp_all

theorem checkCmp_ok_iff (view : View size) (rule : CmpRule) :
    checkCmp view rule = .ok () ↔ rule.Inside size ∧ rule.Holds view.overlaid := by
  simp only [checkCmp, View.readFixed_eq, CmpRule.Holds, CmpRule.Inside, fieldValue]
  by_cases beyond : size < rule.addr + rule.width
  next => simp [beyond, bind, Except.bind]
  next =>
    cases rule.rhs with
    | imm v =>
      simp only [beyond, if_false, bind, Except.bind]
      split <;> simp_all
    | reg reg =>
      by_cases outside : size < reg + rule.width
      next => simp [beyond, outside, bind, Except.bind, Except.map]
      next =>
        simp only [beyond, outside, if_false, bind, Except.bind, Except.map]
        split <;> simp_all

end Check

end OpenServo.Table
