import OpenServo.Table.Rules

set_option autoImplicit false

namespace OpenServo.Table

def stageDataCap : Nat := 256

def stageEntryCap : Nat := 16

structure StagedEntry where
  addr : Nat
  len : Nat
  dataOff : Nat
deriving DecidableEq, Repr

structure Snapshot where
  data : Nat
  entries : Nat
deriving DecidableEq, Repr

def Snapshot.zero : Snapshot :=
  ⟨0, 0⟩

structure StagedWrites where
  data : List UInt8 := []
  entries : List StagedEntry := []
deriving DecidableEq, Repr

namespace StagedWrites

def snapshot (staged : StagedWrites) : Snapshot :=
  ⟨staged.data.length, staged.entries.length⟩

def revertTo (staged : StagedWrites) (snap : Snapshot) : StagedWrites :=
  ⟨staged.data.take snap.data, staged.entries.take snap.entries⟩

def pushSplit (staged : StagedWrites) (addr : Nat) (head tail : List UInt8) :
    StagedWrites × Except Error Unit :=
  let dataOff := staged.data.length
  let total := head.length + tail.length
  if stageDataCap < dataOff + total then
    (staged, .error .stagingFull)
  else
    let data := staged.data ++ head ++ tail
    if staged.entries.length < stageEntryCap then
      (⟨data, staged.entries ++ [⟨addr, total, dataOff⟩]⟩, .ok ())
    else
      (⟨data.take dataOff, staged.entries⟩, .error .stagingFull)

def iterFrom (staged : StagedWrites) (snap : Snapshot) : List (Nat × List UInt8) :=
  (staged.entries.drop snap.entries).map
    (fun e => (e.addr, staged.data.extract e.dataOff (e.dataOff + e.len)))

def iterAll (staged : StagedWrites) : List (Nat × List UInt8) :=
  staged.iterFrom Snapshot.zero

def layout : Nat → List (Nat × List UInt8) → List StagedEntry
  | _, [] => []
  | off, (addr, data) :: rest => ⟨addr, data.length, off⟩ :: layout (off + data.length) rest

def ofWrites (writes : List (Nat × List UInt8)) : StagedWrites :=
  ⟨(writes.map Prod.snd).flatten, layout 0 writes⟩

def Room (staged : StagedWrites) (count : Nat) : Prop :=
  staged.data.length + count ≤ stageDataCap ∧ staged.entries.length < stageEntryCap

@[simp] theorem layout_length (off : Nat) (writes : List (Nat × List UInt8)) :
    (layout off writes).length = writes.length := by
  induction writes generalizing off with
  | nil => rfl
  | cons write rest ih => simp [layout, ih]

theorem layout_append (off : Nat) (first second : List (Nat × List UInt8)) :
    layout off (first ++ second) =
      layout off first ++ layout (off + (first.map Prod.snd).flatten.length) second := by
  induction first generalizing off with
  | nil => simp [layout]
  | cons write rest ih => simp [layout, ih, Nat.add_assoc]

@[simp] theorem ofWrites_nil : ofWrites [] = {} := rfl

theorem ofWrites_snapshot (writes : List (Nat × List UInt8)) :
    (ofWrites writes).snapshot = ⟨(writes.map Prod.snd).flatten.length, writes.length⟩ := by
  simp [snapshot, ofWrites]

theorem ofWrites_revertTo (first second : List (Nat × List UInt8)) :
    (ofWrites (first ++ second)).revertTo (ofWrites first).snapshot = ofWrites first := by
  rw [ofWrites_snapshot]
  simp only [ofWrites, revertTo, layout_append, List.map_append, List.flatten_append]
  simp

theorem layout_read (base : List UInt8) (writes : List (Nat × List UInt8)) :
    (layout base.length writes).map (fun e =>
        (e.addr, (base ++ (writes.map Prod.snd).flatten).extract e.dataOff (e.dataOff + e.len))) =
      writes := by
  induction writes generalizing base with
  | nil => rfl
  | cons write rest ih =>
    have tail := ih (base ++ write.2)
    rw [List.length_append] at tail
    have first : ((base ++ write.2) ++ (rest.map Prod.snd).flatten).extract base.length
        (base.length + write.2.length) = write.2 := by
      simp [List.extract_eq_take_drop]
    rw [layout, List.map_cons, List.map_cons, List.flatten_cons, ← List.append_assoc, tail, first]

theorem ofWrites_iterFrom (first second : List (Nat × List UInt8)) :
    (ofWrites (first ++ second)).iterFrom (ofWrites first).snapshot = second := by
  rw [ofWrites_snapshot]
  have tail := layout_read (first.map Prod.snd).flatten second
  simpa [iterFrom, ofWrites, layout_append] using tail

theorem ofWrites_iterAll (writes : List (Nat × List UInt8)) : (ofWrites writes).iterAll = writes :=
  ofWrites_iterFrom [] writes

theorem pushSplit_ok (staged : StagedWrites) (addr : Nat) (head tail : List UInt8)
    (room : staged.Room (head.length + tail.length)) :
    staged.pushSplit addr head tail =
      (⟨staged.data ++ head ++ tail,
        staged.entries ++ [⟨addr, head.length + tail.length, staged.data.length⟩]⟩, .ok ()) := by
  obtain ⟨dataRoom, entryRoom⟩ := room
  simp only [pushSplit]
  rw [if_neg (by omega), if_pos entryRoom]

theorem ofWrites_pushSplit (writes : List (Nat × List UInt8)) (addr : Nat) (head tail : List UInt8)
    (room : (ofWrites writes).Room (head.length + tail.length)) :
    (ofWrites writes).pushSplit addr head tail =
      (ofWrites (writes ++ [(addr, head ++ tail)]), .ok ()) := by
  rw [pushSplit_ok (ofWrites writes) addr head tail room]
  simp [ofWrites, layout_append, layout, List.append_assoc]

theorem pushSplit_refused (staged : StagedWrites) (addr : Nat) (head tail : List UInt8)
    (full : ¬ staged.Room (head.length + tail.length)) :
    staged.pushSplit addr head tail = (staged, .error .stagingFull) := by
  simp only [pushSplit]
  split
  next => rfl
  next dataRoom =>
    rw [if_neg (fun entryRoom => full ⟨by omega, entryRoom⟩)]
    simp [List.append_assoc]

end StagedWrites

end OpenServo.Table
