import OpenServo.Core.Dispatch
import OpenServo.Shared.Run

set_option autoImplicit false

namespace OpenServo.Core

open OpenServo.Protocol OpenServo.Shared OpenServo.Table

inductive Verdict where
  | pass
  | fail
  | dangling
deriving DecidableEq, Repr

structure Frame where
  store : Option StoreAnswer := none
  req : Request
  mayReply : Bool
  verdict : Verdict

def settle (s : Session) : Verdict → Session
  | .pass => (commit s).1
  | .fail => revert s
  | .dangling => s

def frameStep (s : Session) (frame : Frame) : Session :=
  settle (dispatch s frame.store frame.req frame.mayReply).1 frame.verdict

/-- What staging is for: a table, and the writes held for the next COMMIT. -/
structure Machine where
  table : ControlTable
  held : List (Nat × List UInt8)

structure Bookkeeping where
  landed : ControlTable → Nat → Nat → ControlTable
  saved : ControlTable → ControlTable

def noBookkeeping : Bookkeeping :=
  ⟨fun table _ _ => table, fun table => table⟩

def dirtyBit : Bookkeeping :=
  ⟨markDirtyIfPersistent, clearDirty⟩

namespace Machine

def land (keep : Bookkeeping) (table : ControlTable) (writes : List (Nat × List UInt8)) : ControlTable :=
  writes.foldl (fun table write => keep.landed table write.1 write.2.length)
    (writes.foldl (fun table write => poke table write.1 write.2) table)

def accepts (m : Machine) (addr : Nat) (data : FrameBytes) : Prop :=
  controlTable.validate m.table addr data.head data.tail = .ok () ∧
    (StagedWrites.ofWrites m.held).Room data.len

instance (m : Machine) (addr : Nat) (data : FrameBytes) : Decidable (m.accepts addr data) :=
  inferInstanceAs (Decidable (_ ∧ _ ∧ _))

def step (keep : Bookkeeping) (uid : List UInt8) (m : Machine) (frame : Frame) : Machine :=
  match frame.req with
  | .write addr data hold =>
    if m.accepts addr data ∧ frame.verdict = .pass then
      if hold then { m with held := m.held ++ [(addr, data.bytes)] }
      else { m with table := land keep m.table [(addr, data.bytes)] }
    else m
  | .commit => ⟨land keep m.table m.held, []⟩
  | .assign target newId =>
    if target = uid ∧ isUnicast newId = true then
      { m with table := land keep m.table [(Addr.id, [newId])] }
    else m
  | .mgmt .save _ =>
    if peek m.table Addr.torqueEnable = 0 ∧ frame.store.any StoreAnswer.save then
      { m with table := keep.saved m.table }
    else m
  | _ => m

end Machine

/-- The writes held for COMMIT: what the buffer keeps once a dangling write is reclaimed. -/
def held (s : Session) : List (Nat × List UInt8) :=
  s.revertDangling.staged.iterAll

def abstraction (s : Session) : Machine :=
  ⟨s.table, held s⟩

/-- The session stages exactly the held writes of the machine, and above them at most the one write
that awaits its verdict. -/
structure Stages (device : List UInt8) (s : Session) (m : Machine) : Prop where
  uid : s.uid = device
  table : s.table = m.table
  lands : ∀ write ∈ m.held, controlTable.Lands write
  buffer :
    match s.pending with
    | none => s.staged = StagedWrites.ofWrites m.held
    | some pending =>
      pending.snap = (StagedWrites.ofWrites m.held).snapshot ∧
        ∃ data, pending.len = data.length ∧ controlTable.Lands (pending.addr, data) ∧
          s.staged = StagedWrites.ofWrites (m.held ++ [(pending.addr, data)])

section Session

variable {device : List UInt8} {s : Session} {m : Machine}

theorem Stages.revertDangling_eq (stages : Stages device s m) :
    s.revertDangling = { s with staged := StagedWrites.ofWrites m.held, pending := none } := by
  have buffer := stages.buffer
  simp only [Session.revertDangling]
  split
  next pending present =>
    simp only [present] at buffer
    obtain ⟨snap, data, -, -, staged⟩ := buffer
    rw [staged, snap, StagedWrites.ofWrites_revertTo]
  next absent =>
    simp only [absent] at buffer
    rw [← buffer, ← absent]

theorem Stages.revertDangling (stages : Stages device s m) : Stages device s.revertDangling m := by
  rw [stages.revertDangling_eq]
  exact ⟨stages.uid, stages.table, stages.lands, rfl⟩

theorem Stages.held_eq (stages : Stages device s m) : held s = m.held := by
  rw [held, stages.revertDangling_eq]
  exact StagedWrites.ofWrites_iterAll m.held

theorem settle_idle (idle : s.pending = none) (verdict : Verdict) : settle s verdict = s := by
  cases verdict <;> simp [settle, commit, revert, idle]

theorem write_refused (staged : s.staged = StagedWrites.ofWrites m.held) (table : s.table = m.table)
    (mayReply : Bool) (addr : Nat) (data : FrameBytes) (hold : Bool) (refused : ¬ m.accepts addr data) :
    (write s mayReply addr data hold).1 = s := by
  have unchanged : ∃ e, controlTable.stageSplit s.table addr data.head data.tail s.staged =
      (s.staged, .error e) := by
    simp only [RegisterMap.stageSplit]
    split
    next ok =>
      have full : ¬ s.staged.Room data.len := by
        intro room
        exact refused ⟨table ▸ ok, staged ▸ room⟩
      exact ⟨_, StagedWrites.pushSplit_refused s.staged addr data.head data.tail full⟩
    next e _ => exact ⟨e, rfl⟩
  obtain ⟨e, refusal⟩ := unchanged
  simp only [write, refusal]
  cases e <;> rfl

theorem write_accepted (staged : s.staged = StagedWrites.ofWrites m.held) (table : s.table = m.table)
    (mayReply : Bool) (addr : Nat) (data : FrameBytes) (hold : Bool) (accepted : m.accepts addr data) :
    (write s mayReply addr data hold).1 =
      { s with
        staged := StagedWrites.ofWrites (m.held ++ [(addr, data.bytes)])
        pending := some ⟨(StagedWrites.ofWrites m.held).snapshot, hold, addr, data.len⟩ } := by
  have pushed : controlTable.stageSplit s.table addr data.head data.tail s.staged =
      (StagedWrites.ofWrites (m.held ++ [(addr, data.bytes)]), .ok ()) := by
    rw [RegisterMap.stageSplit, table, accepted.1, staged]
    exact StagedWrites.ofWrites_pushSplit m.held addr data.head data.tail accepted.2
  rw [staged] at pushed
  simp only [write, staged, pushed]

theorem Stages.settle_write (stages : Stages device s m) (addr : Nat)
    (data : FrameBytes) (hold : Bool) (accepted : m.accepts addr data) (verdict : Verdict) :
    Stages device
      (settle { s with
        staged := StagedWrites.ofWrites (m.held ++ [(addr, data.bytes)])
        pending := some ⟨(StagedWrites.ofWrites m.held).snapshot, hold, addr, data.len⟩ } verdict)
      (if verdict = .pass then
        if hold then { m with held := m.held ++ [(addr, data.bytes)] }
        else { m with table := Machine.land dirtyBit m.table [(addr, data.bytes)] }
      else m) := by
  have lands : controlTable.Lands (addr, data.bytes) := RegisterMap.validate_lands accepted.1
  have length : data.len = data.bytes.length := (FrameBytes.length_bytes data).symm
  cases verdict with
  | fail =>
    refine ⟨stages.uid, stages.table, stages.lands, ?_⟩
    simp [settle, revert, StagedWrites.ofWrites_revertTo]
  | dangling =>
    exact ⟨stages.uid, stages.table, stages.lands, rfl, data.bytes, length, lands, rfl⟩
  | pass =>
    cases hold with
    | true =>
      refine ⟨stages.uid, stages.table, ?_, rfl⟩
      intro write member
      rcases List.mem_append.mp member with earlier | new
      next => exact stages.lands write earlier
      next => exact List.mem_singleton.mp new ▸ lands
    | false =>
      refine ⟨stages.uid, ?_, stages.lands, ?_⟩
      next =>
        simp only [settle, commit, RegisterMap.commitFrom, RegisterMap.applyFrom,
          StagedWrites.ofWrites_iterFrom, List.foldl_cons, List.foldl_nil,
          RegisterMap.applyWrite_lands _ _ lands, Machine.land, dirtyBit, stages.table, length]
        rfl
      next => simp [settle, commit, RegisterMap.commitFrom, StagedWrites.ofWrites_revertTo]

end Session

theorem commitSpans_table (table : ControlTable) (spans : List (Nat × Nat)) :
    (commitSpans table spans).1 =
      spans.foldl (fun table span => markDirtyIfPersistent table span.1 span.2) table := by
  induction spans generalizing table with
  | nil => rfl
  | cons span rest ih => simp [commitSpans, ih]

theorem applyCommit_table {s : Session} {writes : List (Nat × List UInt8)}
    (staged : s.staged = StagedWrites.ofWrites writes) (lands : ∀ write ∈ writes, controlTable.Lands write)
    (mayReply : Bool) :
    (applyCommit s mayReply).1 =
      { s with table := Machine.land dirtyBit s.table writes, staged := {} } := by
  have all : s.staged.iterFrom Snapshot.zero = writes := staged ▸ StagedWrites.ofWrites_iterAll writes
  simp only [applyCommit, RegisterMap.commitStaged, RegisterMap.applyFrom, StagedWrites.iterAll, all,
    commitSpans_table, List.foldl_map, Machine.land, dirtyBit,
    RegisterMap.foldl_applyWrite_lands _ _ lands]

theorem assign_table (s : Session) (mayReply : Bool) (target : List UInt8) (newId : UInt8) :
    (assign s mayReply target newId).1 =
      if target = s.uid ∧ isUnicast newId = true then
        { s with table := Machine.land dirtyBit s.table [(Addr.id, [newId])] }
      else s := by
  simp only [assign]
  by_cases matching : target = s.uid
  next =>
    by_cases unicast : isUnicast newId = true
    next => simp [matching, unicast, Machine.land, dirtyBit, markDirtyIfPersistent, hitsPersistent,
      Addr.id, configBase, configSize]
    next => simp [matching, unicast]
  next => simp [matching]

theorem save_table (s : Session) (store : Option StoreAnswer) (mayReply : Bool) :
    (save s store mayReply).1 =
      if peek s.table Addr.torqueEnable = 0 ∧ store.any StoreAnswer.save then
        { s with table := clearDirty s.table }
      else s := by
  simp only [save, Session.torqueEnabled]
  by_cases torque : peek s.table Addr.torqueEnable = 0
  next =>
    cases store with
    | none => simp [torque]
    | some answer => cases saved : answer.save <;> simp [torque, saved]
  next => simp [torque]

theorem mgmt_session (s : Session) (store : Option StoreAnswer) (mayReply : Bool) (op : MgmtOp)
    (other : op ≠ .save) : (mgmt s store mayReply op).1 = s := by
  cases op with
  | save => exact absurd rfl other
  | factory =>
    simp only [mgmt, factory]
    split
    next => rfl
    next =>
      split
      next => rfl
      next => split <;> rfl
  | enum | assign | reboot | cal => rfl

/-- One frame, whatever its verdict, is one step of the machine. -/
theorem frameStep_stages {device : List UInt8} {s : Session} {m : Machine}
    (stages : Stages device s m) (frame : Frame) :
    Stages device (frameStep s frame) (m.step dirtyBit device frame) := by
  have clean := stages.revertDangling
  have idle : s.revertDangling.pending = none := by rw [stages.revertDangling_eq]
  have buffer : s.revertDangling.staged = StagedWrites.ofWrites m.held := by
    rw [stages.revertDangling_eq]
  have untouched (calls : List Call) (verdict : Verdict) :
      Stages device (settle (s.revertDangling, calls, Dispatched.done).1 verdict) m := by
    rw [settle_idle idle]
    exact clean
  obtain ⟨store, req, mayReply, verdict⟩ := frame
  -- Only WRITE, COMMIT, ASSIGN and SAVE touch the table or what is held.
  cases req with
  | ping | read | readProfile | enumerate | calibrate | unsupported => exact untouched _ verdict
  | write addr data hold =>
    simp only [frameStep, dispatch, Machine.step]
    by_cases accepted : m.accepts addr data
    next =>
      simp only [write_accepted buffer clean.table mayReply addr data hold accepted, accepted, true_and]
      exact clean.settle_write addr data hold accepted verdict
    next =>
      simp only [write_refused buffer clean.table mayReply addr data hold accepted, accepted,
        false_and, if_false, settle_idle idle]
      exact clean
  | commit =>
    simp only [frameStep, dispatch, Machine.step, applyCommit_table buffer stages.lands]
    rw [settle_idle (by exact idle), clean.table]
    exact ⟨clean.uid, rfl, by simp, by simp [idle]⟩
  | assign target newId =>
    simp only [frameStep, dispatch, Machine.step, assign_table, clean.uid]
    split
    next =>
      rw [settle_idle (by exact idle), clean.table]
      exact ⟨rfl, rfl, clean.lands, clean.buffer⟩
    next =>
      rw [settle_idle idle]
      exact clean
  | mgmt op args =>
    by_cases other : op = .save
    next =>
      subst other
      simp only [frameStep, dispatch, Machine.step, mgmt, save_table, clean.table]
      split
      next =>
        rw [settle_idle (by exact idle)]
        exact ⟨clean.uid, rfl, clean.lands, clean.buffer⟩
      next =>
        rw [settle_idle idle]
        exact clean
    next =>
      simp only [frameStep, dispatch, Machine.step, mgmt_session _ store mayReply op other]
      rw [settle_idle idle]
      cases op with
      | save => exact absurd rfl other
      | enum | assign | reboot | factory | cal => exact clean

def boot (table : ControlTable) (uid : List UInt8) : Session :=
  { table := table, uid := uid }

theorem run_stages (table : ControlTable) (uid : List UInt8) (frames : List Frame) :
    Stages uid (run frameStep (boot table uid) frames)
      (run (Machine.step dirtyBit uid) ⟨table, []⟩ frames) := by
  apply run_simulation frameStep (Machine.step dirtyBit uid) (Stages uid)
  next => exact fun s m frame stages => frameStep_stages stages frame
  next => exact ⟨rfl, rfl, by simp, rfl⟩

theorem dispatcher_refines_machine (table : ControlTable) (uid : List UInt8) (frames : List Frame) :
    abstraction (run frameStep (boot table uid) frames) =
      run (Machine.step dirtyBit uid) ⟨table, []⟩ frames := by
  have stages := run_stages table uid frames
  rw [abstraction, stages.table, stages.held_eq]

def idWrite : Frame where
  req := .write Addr.id (.ofList [7]) false
  mayReply := true
  verdict := .pass

theorem dispatcher_exceeds_plain_machine :
    ¬ ∀ (table : ControlTable) (uid : List UInt8) (frames : List Frame),
      abstraction (run frameStep (boot table uid) frames) =
        run (Machine.step noBookkeeping uid) ⟨table, []⟩ frames := by
  intro refines
  have same := congrArg (fun m => peek m.table Addr.statusFlags)
    (refines (zeroStore _) [] [idWrite])
  revert same
  decide +kernel

end OpenServo.Core
