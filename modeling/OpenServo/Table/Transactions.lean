import OpenServo.Shared.Run
import OpenServo.Table.Map

set_option autoImplicit false

namespace OpenServo.Table

open OpenServo.Shared

def tile : Nat → List StagedEntry → Nat → Prop
  | first, [], last => first = last
  | first, entry :: rest, last => entry.dataOff = first ∧ tile (first + entry.len) rest last

theorem tile_append {first middle last : Nat} {front back : List StagedEntry} (front_tiles : tile first front middle)
    (back_tiles : tile middle back last) : tile first (front ++ back) last := by
  induction front generalizing first with
  | nil =>
    rw [show first = middle from front_tiles]
    exact back_tiles
  | cons entry rest ih => exact ⟨front_tiles.1, ih front_tiles.2⟩

theorem tile_le {first last : Nat} {entries : List StagedEntry} (tiles : tile first entries last) :
    first ≤ last := by
  induction entries generalizing first with
  | nil => exact Nat.le_of_eq tiles
  | cons entry rest ih =>
    have later := ih tiles.2
    omega

theorem tile_inside {first last : Nat} {entries : List StagedEntry} (tiles : tile first entries last) :
    ∀ entry ∈ entries, first ≤ entry.dataOff ∧ entry.dataOff + entry.len ≤ last := by
  induction entries generalizing first with
  | nil => simp
  | cons entry rest ih =>
    intro other member
    have next := tile_le tiles.2
    have starts := tiles.1
    rcases List.mem_cons.mp member with rfl | later
    next => omega
    next =>
      have inside := ih tiles.2 other later
      omega

namespace StagedWrites

def clear (_ : StagedWrites) : StagedWrites :=
  {}

/-- The entries tile the data, and both vectors are within their capacity, so that no length or offset
loses bits. -/
structure Laid (staged : StagedWrites) : Prop where
  tiles : tile 0 staged.entries staged.data.length
  dataCap : staged.data.length ≤ stageDataCap
  entryCap : staged.entries.length ≤ stageEntryCap

structure OnPrefix (earlier staged : StagedWrites) : Prop where
  data : earlier.data <+: staged.data
  entries : earlier.entries <+: staged.entries

variable {staged earlier later : StagedWrites}

theorem onPrefix_refl (staged : StagedWrites) : staged.OnPrefix staged :=
  ⟨List.prefix_rfl, List.prefix_rfl⟩

theorem OnPrefix.trans (first : earlier.OnPrefix staged) (second : staged.OnPrefix later) :
    earlier.OnPrefix later :=
  ⟨first.data.trans second.data, first.entries.trans second.entries⟩

theorem onPrefix_empty (staged : StagedWrites) : ({} : StagedWrites).OnPrefix staged :=
  ⟨List.nil_prefix, List.nil_prefix⟩

theorem OnPrefix.revertTo_eq (front : earlier.OnPrefix staged) : staged.revertTo earlier.snapshot = earlier := by
  have data := List.prefix_iff_eq_take.mp front.data
  have entries := List.prefix_iff_eq_take.mp front.entries
  simp only [revertTo, snapshot]
  rw [← data, ← entries]

theorem onPrefix_pushSplit (addr : Nat) (head tail : List UInt8) :
    staged.OnPrefix (staged.pushSplit addr head tail).1 := by
  by_cases room : staged.Room (head.length + tail.length)
  next =>
    rw [pushSplit_ok staged addr head tail room]
    exact ⟨by rw [List.append_assoc]; exact List.prefix_append _ _, List.prefix_append _ _⟩
  next =>
    rw [pushSplit_refused staged addr head tail room]
    exact onPrefix_refl staged

theorem pushSplit_error_eq (addr : Nat) (head tail : List UInt8)
    (refused : (staged.pushSplit addr head tail).2 ≠ .ok ()) :
    staged.pushSplit addr head tail = (staged, .error .stagingFull) := by
  by_cases room : staged.Room (head.length + tail.length)
  next => exact absurd (by rw [pushSplit_ok staged addr head tail room]) refused
  next => exact pushSplit_refused staged addr head tail room

theorem laid_empty : Laid {} :=
  ⟨rfl, Nat.zero_le _, Nat.zero_le _⟩

theorem Laid.pushSplit (laid : staged.Laid) (addr : Nat) (head tail : List UInt8) :
    (staged.pushSplit addr head tail).1.Laid := by
  by_cases room : staged.Room (head.length + tail.length)
  next =>
    rw [pushSplit_ok staged addr head tail room]
    obtain ⟨dataRoom, entryRoom⟩ := room
    constructor
    next =>
      simp only [List.length_append]
      exact tile_append laid.tiles ⟨rfl, by simp only [tile]; omega⟩
    next => simpa only [List.length_append, Nat.add_assoc] using dataRoom
    next => simpa only [List.length_append, List.length_singleton] using Nat.succ_le_of_lt entryRoom
  next => rwa [pushSplit_refused staged addr head tail room]

end StagedWrites

inductive StageOp where
  | pushSplit (addr : Nat) (head tail : List UInt8)
  | snapshot
  | revertTo (snap : Snapshot)
  | commitFrom (snap : Snapshot)
  | commitStaged
  | clear

structure Staging (size : Nat) where
  live : Store size
  staged : StagedWrites
  taken : List (Snapshot × StagedWrites)

namespace Staging

def start {size : Nat} (live : Store size) : Staging size :=
  ⟨live, {}, []⟩

variable (m : RegisterMap)

def step (s : Staging m.size) : StageOp → Staging m.size
  | .pushSplit addr head tail => { s with staged := (s.staged.pushSplit addr head tail).1 }
  | .snapshot => { s with taken := (s.staged.snapshot, s.staged) :: s.taken }
  | .revertTo snap => { s with staged := s.staged.revertTo snap }
  | .commitFrom snap =>
    let (live, staged) := m.commitFrom s.live s.staged snap
    { s with live, staged }
  | .commitStaged =>
    let (live, staged) := m.commitStaged s.live s.staged
    { s with live, staged }
  | .clear => { s with staged := s.staged.clear }

/-- A caller truncates to a snapshot it took, while what the buffer held then is still in front, and
never below `floor`. -/
def Legal (floor : StagedWrites) (s : Staging m.size) : StageOp → Prop
  | .pushSplit _ _ _ => True
  | .snapshot => True
  | .revertTo snap =>
    ∃ buffer, (snap, buffer) ∈ s.taken ∧ buffer.OnPrefix s.staged ∧ floor.OnPrefix buffer
  | .commitFrom snap =>
    ∃ buffer, (snap, buffer) ∈ s.taken ∧ buffer.OnPrefix s.staged ∧ floor.OnPrefix buffer
  | .commitStaged => floor.OnPrefix {}
  | .clear => floor.OnPrefix {}

structure Sound (s : Staging m.size) : Prop where
  staged : s.staged.Laid
  taken : ∀ snap buffer, (snap, buffer) ∈ s.taken → snap = buffer.snapshot ∧ buffer.Laid

variable {m} {s : Staging m.size} {floor : StagedWrites}

theorem start_sound (live : Store m.size) : (start live).Sound :=
  ⟨StagedWrites.laid_empty, by simp [start]⟩

theorem Sound.revertTo_eq (sound : s.Sound) {snap : Snapshot} {buffer : StagedWrites}
    (taken : (snap, buffer) ∈ s.taken) (front : buffer.OnPrefix s.staged) : s.staged.revertTo snap = buffer := by
  rw [(sound.taken snap buffer taken).1]
  exact front.revertTo_eq

theorem step_sound (s : Staging m.size) (op : StageOp) (sound : s.Sound) (legal : Legal m floor s op) :
    (step m s op).Sound := by
  cases op with
  | pushSplit addr head tail => exact ⟨sound.staged.pushSplit addr head tail, sound.taken⟩
  | snapshot =>
    refine ⟨sound.staged, ?_⟩
    intro snap buffer member
    rcases List.mem_cons.mp member with same | before
    next =>
      obtain ⟨rfl, rfl⟩ := Prod.mk.inj same
      exact ⟨rfl, sound.staged⟩
    next => exact sound.taken snap buffer before
  | revertTo snap =>
    obtain ⟨buffer, taken, front, -⟩ := legal
    refine ⟨?_, sound.taken⟩
    rw [show (step m s (.revertTo snap)).staged = buffer from sound.revertTo_eq taken front]
    exact (sound.taken snap buffer taken).2
  | commitFrom snap =>
    obtain ⟨buffer, taken, front, -⟩ := legal
    refine ⟨?_, sound.taken⟩
    rw [show (step m s (.commitFrom snap)).staged = buffer from sound.revertTo_eq taken front]
    exact (sound.taken snap buffer taken).2
  | commitStaged => exact ⟨StagedWrites.laid_empty, sound.taken⟩
  | clear => exact ⟨StagedWrites.laid_empty, sound.taken⟩

theorem step_onFloor (s : Staging m.size) (op : StageOp) (sound : s.Sound) (legal : Legal m floor s op)
    (above : floor.OnPrefix s.staged) : floor.OnPrefix (step m s op).staged := by
  cases op with
  | pushSplit addr head tail => exact above.trans (StagedWrites.onPrefix_pushSplit addr head tail)
  | snapshot => exact above
  | revertTo snap =>
    obtain ⟨buffer, taken, front, kept⟩ := legal
    rwa [show (step m s (.revertTo snap)).staged = buffer from sound.revertTo_eq taken front]
  | commitFrom snap =>
    obtain ⟨buffer, taken, front, kept⟩ := legal
    rwa [show (step m s (.commitFrom snap)).staged = buffer from sound.revertTo_eq taken front]
  | commitStaged => exact legal
  | clear => exact legal

theorem run_sound_onFloor (sound : s.Sound) (above : floor.OnPrefix s.staged) (ops : List StageOp)
    (legal : Meets (step m) (Legal m floor) s ops) :
    (run (step m) s ops).Sound ∧ floor.OnPrefix (run (step m) s ops).staged := by
  apply run_invariant (step m) (Legal m floor) (fun s => s.Sound ∧ floor.OnPrefix s.staged) ?_ s ⟨sound, above⟩
    ops legal
  intro s op ⟨sound, above⟩ legal
  exact ⟨step_sound s op sound legal, step_onFloor s op sound legal above⟩

/-- In every run the entries tile the data, a refused push changes nothing, and truncation to any
snapshot still in front restores the buffer it was taken of. A snapshot stays in front through
whatever is pushed after it and any nested truncation. -/
theorem transactions (live : Store m.size) (ops : List StageOp)
    (legal : Meets (step m) (Legal m {}) (start live) ops) :
    let s := run (step m) (start live) ops
    tile 0 s.staged.entries s.staged.data.length ∧
      (∀ entry ∈ s.staged.entries, entry.dataOff + entry.len ≤ s.staged.data.length) ∧
      (∀ addr head tail, (s.staged.pushSplit addr head tail).2 ≠ .ok () →
        s.staged.pushSplit addr head tail = (s.staged, .error .stagingFull)) ∧
      (∀ snap buffer, (snap, buffer) ∈ s.taken → buffer.OnPrefix s.staged →
        snap.entries ≤ s.staged.entries.length ∧ s.staged.revertTo snap = buffer ∧
          (m.commitFrom s.live s.staged snap).2 = buffer) ∧
      ∀ nested, Meets (step m) (Legal m s.staged) s nested →
        s.staged.OnPrefix (run (step m) s nested).staged ∧
          (run (step m) s nested).staged.revertTo s.staged.snapshot = s.staged := by
  intro s
  obtain ⟨sound, -⟩ :=
    run_sound_onFloor (start_sound live) (StagedWrites.onPrefix_empty _) ops legal
  refine ⟨sound.staged.tiles, ?_, ?_, ?_, ?_⟩
  next => exact fun entry member => (tile_inside sound.staged.tiles entry member).2
  next => exact fun addr head tail refused => StagedWrites.pushSplit_error_eq addr head tail refused
  next =>
    intro snap buffer taken front
    have restored := sound.revertTo_eq taken front
    refine ⟨?_, restored, restored⟩
    rw [(sound.taken snap buffer taken).1]
    exact front.entries.length_le
  next =>
    intro nested inside
    have front := (run_sound_onFloor sound (StagedWrites.onPrefix_refl _) nested inside).2
    exact ⟨front, front.revertTo_eq⟩

theorem transactions_reverted :
    tile 0 (run (step ⟨4, [0xF], [], [], []⟩) (start (zeroStore 4))
      [.pushSplit 0 [1] [2], .snapshot, .pushSplit 2 [3] [], .revertTo ⟨2, 1⟩]).staged.entries 2 := by
  have front : StagedWrites.OnPrefix ⟨[1, 2], [⟨0, 2, 0⟩]⟩ ⟨[1, 2, 3], [⟨0, 2, 0⟩, ⟨2, 1, 2⟩]⟩ :=
    ⟨by decide, by decide⟩
  have legal : Meets (step ⟨4, [0xF], [], [], []⟩) (Legal ⟨4, [0xF], [], [], []⟩ {}) (start (zeroStore 4))
      [.pushSplit 0 [1] [2], .snapshot, .pushSplit 2 [3] [], .revertTo ⟨2, 1⟩] := by
    refine ⟨trivial, trivial, trivial, ⟨⟨[1, 2], [⟨0, 2, 0⟩]⟩, ?_, front, StagedWrites.onPrefix_empty _⟩, trivial⟩
    exact List.mem_singleton_self _
  exact (@transactions ⟨4, [0xF], [], [], []⟩ (zeroStore 4) _ legal).1

end Staging

end OpenServo.Table
