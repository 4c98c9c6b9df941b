import OpenServo.Core.Speculation

set_option autoImplicit false

namespace OpenServo.Core

open OpenServo.Protocol OpenServo.Shared OpenServo.Table

/-- A register the bus keeps a copy of: its cell, the calls that carry it and what a byte of it means. -/
structure Hook (V : Type) where
  cell : Nat
  told : Call → Option V
  value : UInt8 → Option V

def idHook : Hook UInt8 where
  cell := Addr.id
  told
    | .stageId id | .setId id => some id
    | _ => none
  value := some

def baudHook : Hook BaudRate where
  cell := Addr.baudRateIdx
  told
    | .stageBaud baud => some baud
    | _ => none
  value := BaudRate.fromIdx

namespace Hook

variable {V : Type}

def read (hook : Hook V) (table : ControlTable) : Option V :=
  hook.value (peek table hook.cell)

def Mute (hook : Hook V) (calls : List Call) : Prop :=
  ∀ call ∈ calls, hook.told call = none

/-- The calls carry what the table holds after them; without one the register still means what it meant, or nothing. -/
structure Tells (hook : Hook V) (before after : ControlTable) (calls : List Call) : Prop where
  right : ∀ call ∈ calls, ∀ v, hook.told call = some v → hook.read after = some v
  still : hook.Mute calls → hook.read after = hook.read before ∨ hook.read after = none

def last (hook : Hook V) (calls : List Call) (old : V) : V :=
  calls.foldl (fun v call => (hook.told call).getD v) old

theorem last_of_mute {hook : Hook V} {calls : List Call} (mute : hook.Mute calls) (old : V) :
    hook.last calls old = old := by
  induction calls with
  | nil => rfl
  | cons call rest ih =>
    have silent : hook.told call = none := mute call List.mem_cons_self
    rw [last, List.foldl_cons, silent]
    exact ih fun later member => mute later (List.mem_cons_of_mem call member)

theorem last_of_told {hook : Hook V} {calls : List Call} {v : V}
    (all : ∀ call ∈ calls, ∀ w, hook.told call = some w → w = v) (told : ¬ hook.Mute calls) (old : V) :
    hook.last calls old = v := by
  induction calls generalizing old with
  | nil => exact absurd (by simp [Mute]) told
  | cons call rest ih =>
    have later : ∀ call ∈ rest, ∀ w, hook.told call = some w → w = v :=
      fun later member => all later (List.mem_cons_of_mem call member)
    by_cases mute : hook.Mute rest
    next =>
      rw [last, List.foldl_cons]
      refine (last_of_mute mute _).trans ?_
      cases here : hook.told call with
      | none =>
        refine absurd (fun c member => ?_) told
        rcases List.mem_cons.mp member with rfl | member
        next => exact here
        next => exact mute c member
      | some w => exact all call List.mem_cons_self w here
    next => exact ih later mute _

theorem Tells.last {hook : Hook V} {before after : ControlTable} {calls : List Call}
    (tells : hook.Tells before after calls) {old v : V} (now : hook.read after = some v)
    (right : hook.Mute calls → hook.read before = some v → old = v) : hook.last calls old = v := by
  by_cases mute : hook.Mute calls
  next =>
    rw [last_of_mute mute]
    apply right mute
    rcases tells.still mute with same | lost
    next => rw [← same, now]
    next =>
      rw [now] at lost
      cases lost
  next =>
    refine last_of_told (fun call member w told => ?_) mute old
    have read := tells.right call member w told
    rw [now] at read
    exact (Option.some.inj read).symm

structure Sound (hook : Hook V) : Prop where
  fires : ∀ (table : ControlTable) (addr len : Nat), ∀ call ∈ dispatchEvents table addr len, ∀ v,
    hook.told call = some v → hook.read table = some v
  touched : ∀ (table : ControlTable) (addr len : Nat), hookTouched hook.cell 1 addr len = true →
    hook.Mute (dispatchEvents table addr len) → hook.read table = none
  sends : ∀ result alert data, hook.told (.sendStatus result alert data) = none
  gathers : ∀ result alert spans, hook.told (.sendStatusGather result alert spans) = none
  assigns : ∀ (table : ControlTable) (newId : UInt8),
    hook.Tells table (setDirty (poke table Addr.id [newId])) [.setId newId]
  calibrates : ∀ gapUs gaps, hook.told (.beginClockCal gapUs gaps) = none
  saves : ∀ config profile calib, hook.told (.save config profile calib) = none
  wipes : hook.told .wipe = none
  reboots : ∀ mode, hook.told (.stageReboot mode) = none
  apart : hook.cell ≠ Addr.statusFlags

theorem read_congr (hook : Hook V) {before after : ControlTable}
    (same : peek after hook.cell = peek before hook.cell) : hook.read after = hook.read before := by
  rw [read, same, read]

theorem Tells.of_mute {hook : Hook V} {before after : ControlTable} {calls : List Call}
    (same : hook.read after = hook.read before) (mute : hook.Mute calls) : hook.Tells before after calls :=
  ⟨fun call member v told => by simp [mute call member] at told, fun _ => .inl same⟩

theorem Tells.append_mute {hook : Hook V} {before after : ControlTable} {calls more : List Call}
    (tells : hook.Tells before after calls) (mute : hook.Mute more) : hook.Tells before after (calls ++ more) := by
  constructor
  next =>
    intro call member v told
    rcases List.mem_append.mp member with early | late
    next => exact tells.right call early v told
    next =>
      rw [mute call late] at told
      cases told
  next => exact fun silent => tells.still fun call member => silent call (List.mem_append_left _ member)

theorem Tells.mute_append {hook : Hook V} {before after : ControlTable} {calls more : List Call}
    (tells : hook.Tells before after calls) (mute : hook.Mute more) : hook.Tells before after (more ++ calls) := by
  constructor
  next =>
    intro call member v told
    rcases List.mem_append.mp member with early | late
    next =>
      rw [mute call early] at told
      cases told
    next => exact tells.right call late v told
  next => exact fun silent => tells.still fun call member => silent call (List.mem_append_right _ member)

end Hook

theorem peek_markDirty (table : ControlTable) (addr len cell : Nat) (apart : cell ≠ Addr.statusFlags) :
    peek (markDirtyIfPersistent table addr len) cell = peek table cell := by
  unfold markDirtyIfPersistent
  split
  next => exact peek_poke_outside _ _ _ _ (by simp only [List.length_singleton]; omega)
  next => rfl

theorem peek_foldl_poke (writes : List (Nat × List UInt8)) (table : ControlTable) (cell : Nat)
    (outside : ∀ write ∈ writes, hookTouched cell 1 write.1 write.2.length = false) :
    peek (writes.foldl (fun table write => poke table write.1 write.2) table) cell = peek table cell := by
  induction writes generalizing table with
  | nil => rfl
  | cons write rest ih =>
    rw [List.foldl_cons, ih _ fun later member => outside later (List.mem_cons_of_mem write member)]
    apply peek_poke_outside
    have apart := outside write List.mem_cons_self
    simp only [hookTouched, Bool.and_eq_false_iff, decide_eq_false_iff_not] at apart
    omega

theorem idHook_sound : idHook.Sound where
  fires := by
    intro table addr len call member v told
    simp only [dispatchEvents, List.mem_append] at member
    rcases member with (id | baud) | deadline
    next =>
      split at id
      next =>
        rw [List.mem_singleton] at id
        subst id
        exact told
      next => cases id
    next =>
      split at baud
      next => split at baud <;> simp_all [idHook]
      next => cases baud
    next => split at deadline <;> simp_all [idHook]
  touched := by
    intro table addr len touches mute
    have named := mute (.stageId (peek table Addr.id))
    simp only [dispatchEvents, show hookTouched Addr.id 1 addr len = true from touches, if_true] at named
    exact absurd (named (by simp)) (by simp [idHook])
  sends := fun _ _ _ => rfl
  gathers := fun _ _ _ => rfl
  assigns := by
    intro table newId
    have landed : idHook.read (setDirty (poke table Addr.id [newId])) = some newId := by
      simp only [Hook.read, idHook, setDirty, Option.some.injEq]
      rw [peek_poke_outside _ _ _ _ (.inl (by decide)),
        peek_poke_inside _ _ _ _ (by decide) (Nat.le_refl _) (Nat.lt_succ_self _)]
      rfl
    constructor
    next =>
      intro call member v told
      rw [List.mem_singleton] at member
      subst member
      rw [landed]
      exact told
    next => exact fun mute => absurd (mute _ List.mem_cons_self) (by simp [idHook])
  calibrates := fun _ _ => rfl
  saves := fun _ _ _ => rfl
  wipes := rfl
  reboots := fun _ => rfl
  apart := by decide

theorem baudHook_sound : baudHook.Sound where
  fires := by
    intro table addr len call member v told
    simp only [dispatchEvents, List.mem_append] at member
    rcases member with (id | baud) | deadline
    next => split at id <;> simp_all [baudHook]
    next =>
      split at baud
      next =>
        split at baud
        next named =>
          rw [List.mem_singleton] at baud
          subst baud
          exact named.trans told
        next => cases baud
      next => cases baud
    next => split at deadline <;> simp_all [baudHook]
  touched := by
    intro table addr len touches mute
    rw [← Option.not_isSome_iff_eq_none, Option.isSome_iff_exists]
    rintro ⟨baud, named⟩
    have staged := mute (.stageBaud baud)
    have named : BaudRate.fromIdx (peek table Addr.baudRateIdx) = some baud := named
    simp only [dispatchEvents, show hookTouched Addr.baudRateIdx 1 addr len = true from touches, if_true, named]
      at staged
    exact absurd (staged (by simp)) (by simp [baudHook])
  sends := fun _ _ _ => rfl
  gathers := fun _ _ _ => rfl
  assigns := by
    intro table newId
    refine .of_mute (Hook.read_congr _ ?_) (by simp [Hook.Mute, baudHook])
    simp only [setDirty, baudHook]
    rw [peek_poke_outside _ _ _ _ (.inl (by decide))]
    exact peek_poke_outside _ _ _ _ (.inr (Nat.le_refl _))
  calibrates := fun _ _ => rfl
  saves := fun _ _ _ => rfl
  wipes := rfl
  reboots := fun _ => rfl
  apart := by decide

section Tells

variable {V : Type} {hook : Hook V} {device : List UInt8} {s : Session} {m : Machine}

theorem Hook.Sound.read_markDirty (sound : hook.Sound) (table : ControlTable) (addr len : Nat) :
    hook.read (markDirtyIfPersistent table addr len) = hook.read table :=
  hook.read_congr (peek_markDirty table addr len hook.cell sound.apart)

theorem Hook.Sound.mute_ackCode (sound : hook.Sound) (alert mayReply : Bool) (code : ResultCode) :
    hook.Mute (ackCode alert mayReply code) := by
  intro call member
  unfold ackCode at member
  split at member
  next =>
    rw [List.mem_singleton] at member
    subst member
    exact sound.sends _ _ _
  next => cases member

/-- The spans of a COMMIT fire on one table, but for its dirty bit. -/
theorem Hook.Sound.commitSpans (sound : hook.Sound) (spans : List (Nat × Nat)) (table : ControlTable) :
    hook.read (commitSpans table spans).1 = hook.read table ∧
      (∀ call ∈ (commitSpans table spans).2, ∀ v, hook.told call = some v → hook.read table = some v) ∧
      ((∃ span ∈ spans, hookTouched hook.cell 1 span.1 span.2 = true) →
        hook.Mute (commitSpans table spans).2 → hook.read table = none) := by
  induction spans generalizing table with
  | nil => exact ⟨rfl, by simp [Core.commitSpans], by simp⟩
  | cons span rest ih =>
    obtain ⟨last, fires, touched⟩ := ih (markDirtyIfPersistent table span.1 span.2)
    rw [sound.read_markDirty] at last fires touched
    refine ⟨last, ?_, ?_⟩
    next =>
      intro call member v told
      rcases List.mem_append.mp member with here | later
      next =>
        rw [← sound.read_markDirty table span.1 span.2]
        exact sound.fires _ _ _ call here v told
      next => exact fires call later v told
    next =>
      rintro ⟨hit, member, touches⟩ mute
      rcases List.mem_cons.mp member with rfl | later
      next =>
        rw [← sound.read_markDirty table hit.1 hit.2]
        exact sound.touched _ _ _ touches fun call here => mute call (List.mem_append_left _ here)
      next => exact touched ⟨hit, later, touches⟩ fun call there => mute call (List.mem_append_right _ there)

theorem Hook.Sound.lands (sound : hook.Sound) (table : ControlTable) (writes : List (Nat × List UInt8)) :
    hook.Tells table
      (Core.commitSpans (writes.foldl (fun table write => poke table write.1 write.2) table)
        (writes.map fun write => (write.1, write.2.length))).1
      (Core.commitSpans (writes.foldl (fun table write => poke table write.1 write.2) table)
        (writes.map fun write => (write.1, write.2.length))).2 := by
  obtain ⟨last, fires, touched⟩ := sound.commitSpans (writes.map fun write => (write.1, write.2.length))
    (writes.foldl (fun table write => poke table write.1 write.2) table)
  constructor
  next =>
    intro call member v told
    rw [last]
    exact fires call member v told
  next =>
    intro mute
    rw [last]
    by_cases hit : ∃ write ∈ writes, hookTouched hook.cell 1 write.1 write.2.length = true
    next =>
      obtain ⟨write, member, touches⟩ := hit
      exact .inr (touched ⟨_, List.mem_map_of_mem member, touches⟩ mute)
    next =>
      left
      apply hook.read_congr
      apply peek_foldl_poke
      exact fun write member => Bool.eq_false_iff.mpr fun touches => hit ⟨write, member, touches⟩

theorem revert_eq (s : Session) : revert s = s.revertDangling := by
  cases waits : s.pending <;> simp [revert, Session.revertDangling, waits]

theorem Stages.commit (stages : Stages device s m) : ∃ after, Stages device (commit s).1 after := by
  have buffer := stages.buffer
  unfold Core.commit
  split
  next => exact ⟨m, stages⟩
  next pending waits =>
    simp only [waits] at buffer
    obtain ⟨snap, data, len, lands, staged⟩ := buffer
    dsimp only
    split
    next =>
      refine ⟨⟨m.table, m.held ++ [(pending.addr, data)]⟩, stages.uid, stages.table, ?_, staged⟩
      intro write member
      rcases List.mem_append.mp member with earlier | new
      next => exact stages.lands write earlier
      next => exact List.mem_singleton.mp new ▸ lands
    next =>
      refine ⟨⟨_, m.held⟩, stages.uid, rfl, stages.lands, ?_⟩
      simp [RegisterMap.commitFrom, staged, snap, StagedWrites.ofWrites_revertTo]

theorem Hook.Sound.commit (sound : hook.Sound) (stages : Stages device s m) :
    hook.Tells s.table (commit s).1.table (commit s).2 := by
  have buffer := stages.buffer
  unfold Core.commit
  split
  next => exact .of_mute rfl (by simp [Mute])
  next pending waits =>
    simp only [waits] at buffer
    obtain ⟨snap, data, len, lands, staged⟩ := buffer
    dsimp only
    split
    next => exact .of_mute rfl (by simp [Mute])
    next =>
      have landed : controlTable.commitFrom s.table s.staged pending.snap =
          (poke s.table pending.addr data, StagedWrites.ofWrites m.held) := by
        simp only [RegisterMap.commitFrom, RegisterMap.applyFrom, staged, snap, StagedWrites.ofWrites_iterFrom,
          List.foldl_cons, List.foldl_nil, RegisterMap.applyWrite_lands _ _ lands, StagedWrites.ofWrites_revertTo]
      have tells := sound.lands s.table [(pending.addr, data)]
      simp only [List.foldl_cons, List.foldl_nil, List.map_cons, List.map_nil, Core.commitSpans,
        List.append_nil, ← len] at tells
      rw [landed]
      exact tells

theorem Hook.Sound.applyCommit (sound : hook.Sound) (staged : s.staged = StagedWrites.ofWrites m.held)
    (lands : ∀ write ∈ m.held, controlTable.Lands write) (mayReply : Bool) :
    hook.Tells s.table (applyCommit s mayReply).1.table (applyCommit s mayReply).2 := by
  have all : s.staged.iterFrom Snapshot.zero = m.held := staged ▸ StagedWrites.ofWrites_iterAll m.held
  have tells := sound.lands s.table m.held
  simp only [Core.applyCommit, RegisterMap.commitStaged, RegisterMap.applyFrom, StagedWrites.iterAll, all,
    RegisterMap.foldl_applyWrite_lands _ _ lands]
  exact tells.mute_append (sound.mute_ackCode _ _ _)

theorem Hook.Sound.mgmt (sound : hook.Sound) (store : Option StoreAnswer) (mayReply : Bool) (op : MgmtOp) :
    hook.Tells s.table (mgmt s store mayReply op).1.table (mgmt s store mayReply op).2 := by
  have mute := sound.mute_ackCode s.alert mayReply
  have cleared : hook.read (clearDirty s.table) = hook.read s.table := by
    apply hook.read_congr
    exact peek_poke_outside _ _ _ _ (by have := sound.apart; simp only [List.length_singleton]; omega)
  have wiped : hook.Mute [.wipe] := by simp [Mute, sound.wipes]
  have rebooted (mode : BootMode) : hook.Mute [.stageReboot mode] := by simp [Mute, sound.reboots]
  have saved (table : ControlTable) : hook.Mute [saveCall table] := by simp [Mute, saveCall, sound.saves]
  cases op with
  | enum | assign | cal => exact .of_mute rfl (mute _)
  | reboot => exact Tells.append_mute (.of_mute rfl (mute _)) (rebooted _)
  | save =>
    simp only [Core.mgmt, Core.save]
    split
    next => exact .of_mute rfl (mute _)
    next =>
      split
      next => exact .of_mute rfl (mute _)
      next =>
        split
        next => exact Tells.mute_append (.of_mute cleared (mute _)) (saved _)
        next => exact Tells.mute_append (.of_mute rfl (mute _)) (saved _)
  | factory =>
    simp only [Core.mgmt, Core.factory]
    split
    next => exact .of_mute rfl (mute _)
    next =>
      split
      next => exact .of_mute rfl (mute _)
      next =>
        split
        next =>
          have acked : hook.Tells s.table s.table (ack s.alert mayReply (.ok ()) ++ [.stageReboot s.bootMode]) :=
            Tells.append_mute (.of_mute rfl (mute _)) (rebooted _)
          exact acked.mute_append wiped
        next => exact Tells.mute_append (.of_mute rfl (mute _)) wiped

theorem Hook.Sound.dispatch (sound : hook.Sound) (stages : Stages device s m) (store : Option StoreAnswer)
    (req : Request) (mayReply : Bool) :
    hook.Tells s.table (dispatch s store req mayReply).1.table (dispatch s store req mayReply).2.1 := by
  have same : s.revertDangling.table = s.table := by rw [stages.revertDangling_eq]
  have buffer : s.revertDangling.staged = StagedWrites.ofWrites m.held := by rw [stages.revertDangling_eq]
  unfold Core.dispatch
  rw [← same]
  generalize s.revertDangling = s at buffer
  have mute := sound.mute_ackCode s.alert mayReply
  have sent (result : ResultCode) (data : List UInt8) : hook.Mute [.sendStatus result s.alert data] := by
    simp [Mute, sound.sends]
  have nothing : hook.Mute [] := by simp [Mute]
  -- Only COMMIT, ASSIGN and the MGMT operations can reach the register.
  cases req with
  | ping =>
    refine .of_mute rfl ?_
    simp only [ping]
    split
    next => exact sent _ _
    next => exact nothing
  | read addr count =>
    refine .of_mute rfl ?_
    simp only [Core.read]
    split
    next => exact nothing
    next =>
      split
      next => exact sent _ _
      next =>
        split
        next => exact sent _ _
        next => split <;> exact sent _ _
  | readProfile slot =>
    refine .of_mute rfl ?_
    simp only [readProfile]
    split
    next => exact nothing
    next =>
      split
      next => exact sent _ _
      next =>
        split
        next => exact sent _ _
        next =>
          split
          next => exact sent _ _
          next =>
            split
            next => exact sent _ _
            next => simp [Mute, sound.gathers]
  | write addr data hold =>
    simp only [write]
    split <;> exact .of_mute rfl (mute _)
  | commit => exact sound.applyCommit buffer stages.lands mayReply
  | enumerate prefixLen prefixBits =>
    refine .of_mute rfl ?_
    simp only [enumerate]
    split
    next => exact sent _ _
    next => exact nothing
  | assign uid newId =>
    simp only [assign]
    split
    next => exact .of_mute rfl nothing
    next =>
      split
      next => exact .of_mute rfl (mute _)
      next => exact (sound.assigns s.table newId).append_mute (mute _)
  | calibrate gapUs gaps => exact .of_mute rfl (by simp [Mute, sound.calibrates])
  | mgmt op args => exact sound.mgmt store mayReply op
  | unsupported => exact .of_mute rfl (mute _)

end Tells

end OpenServo.Core
