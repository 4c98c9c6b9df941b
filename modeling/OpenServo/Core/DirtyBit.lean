import OpenServo.Core.PowerSafe
import OpenServo.Core.Hooks

set_option autoImplicit false

namespace OpenServo.Core

open OpenServo.Protocol OpenServo.Shared OpenServo.Table

structure CalibSense where
  shuntRMohm : UInt16
  gainMilli : UInt16
  vmotorDivTop : UInt16
  vmotorDivBot : UInt16
  vddMv : UInt16
  tickHz : UInt16
  iWindowMinTicks : UInt16
  vWindowMinTicks : UInt16
deriving DecidableEq, Repr

def CalibSense.bytes (sense : CalibSense) : List UInt8 :=
  [sense.shuntRMohm, sense.gainMilli, sense.vmotorDivTop, sense.vmotorDivBot, sense.vddMv, sense.tickHz,
    sense.iWindowMinTicks, sense.vWindowMinTicks].flatMap u16ToLe

def senseOffset : Nat := 114

def senseLen : Nat := 16

def seedCalibSense (sense : CalibSense) (table : ControlTable) : ControlTable :=
  poke table (calibBase + senseOffset) sense.bytes

def firmwareVersion : UInt8 := 1

def seedIdentity (model : UInt16) (hwRev : UInt8) (table : ControlTable) : ControlTable :=
  poke table Addr.modelNumber (u16ToLe model ++ [firmwareVersion, hwRev])

structure Board where
  defaults : ConfigDefaults
  sense : CalibSense
  model : UInt16
  hwRev : UInt8

def bringup (board : Board) (flash : Flash) : ControlTable :=
  let table := seedIdentity board.model board.hwRev (seedConfigDefaults board.defaults (zeroStore _))
  seedCalibSense board.sense (ConfigStore.bootLoad table flash).1

@[ext]
structure Kept where
  config : List UInt8
  profile : List UInt8
  calib : List UInt8
deriving DecidableEq, Repr

def keptBytes (table : ControlTable) : Kept where
  config := readBytes table (configBase + Addr.id) (configSize - Addr.id)
  profile := readBytes table profileBase profileSize
  calib := readBytes table calibBase calibSize

def loadedBytes (board : Board) (flash : Flash) : Kept :=
  let live := keptBytes (bringup board flash)
  { config := (flash.newest.map fun image => image.config.drop Addr.id).getD live.config
    profile := (flash.newest.map Image.profile).getD live.profile
    calib := (flash.newestCalib.map CalibImage.calib).getD live.calib }

def Call.saved : Call → Option Kept
  | .save config profile calib => some ⟨config.drop Addr.id, profile, calib⟩
  | _ => none

/-- The bytes a frame's SAVE hands the store, where the store reports success. -/
def savedBytes (s : Session) (frame : Frame) : Option Kept :=
  match frame.req with
  | .mgmt .save _ =>
    if frame.store.any StoreAnswer.save then
      (mgmt s.revertDangling frame.store frame.mayReply .save).2.findSome? Call.saved
    else none
  | _ => none

structure Device where
  session : Session
  image : Kept

def Device.boot (board : Board) (flash : Flash) (uid : List UInt8) : Device :=
  ⟨Core.boot (bringup board flash) uid, loadedBytes board flash⟩

def Device.step (d : Device) (frame : Frame) : Device :=
  ⟨frameStep d.session frame, (savedBytes d.session frame).getD d.image⟩

def isDirty (table : ControlTable) : Bool :=
  peek table Addr.statusFlags &&& 0x01 != 0

def Device.Truthful (d : Device) : Prop :=
  isDirty d.session.table = false → keptBytes d.session.table = d.image

def Machine.landing (uid : List UInt8) (m : Machine) (frame : Frame) : List (Nat × List UInt8) :=
  match frame.req with
  | .write addr data hold =>
    if m.accepts addr data ∧ frame.verdict = .pass ∧ hold = false then [(addr, data.bytes)] else []
  | .commit => m.held
  | .assign target newId => if target = uid ∧ isUnicast newId = true then [(Addr.id, [newId])] else []
  | _ => []

def pokeAll (table : ControlTable) (writes : List (Nat × List UInt8)) : ControlTable :=
  writes.foldl (fun table write => poke table write.1 write.2) table

/-- The frame's writes leave CALIB as it is, unless the bit is set already or one of them sets it. -/
def Device.Marks (d : Device) (frame : Frame) : Prop :=
  let writes := (abstraction d.session).landing d.session.uid frame
  isDirty d.session.table = true ∨ (∃ write ∈ writes, hitsPersistent write.1 write.2.length = true) ∨
    readBytes (pokeAll d.session.table writes) calibBase calibSize =
      readBytes d.session.table calibBase calibSize

theorem readBytes_drop {size : Nat} (store : Store size) (addr count skip : Nat) :
    (readBytes store addr count).drop skip = readBytes store (addr + skip) (count - skip) := by
  apply List.ext_getElem
  next => simp
  next =>
    intro i low high
    simp [readBytes, Nat.add_assoc]

theorem keptBytes_congr {left right : ControlTable}
    (same : ∀ a, a < Addr.faultFlags ∨ profileBase ≤ a → peek left a = peek right a) :
    keptBytes left = keptBytes right := by
  have sizes : configBase = 0 ∧ configSize = 128 ∧ profileBase = 640 ∧ calibBase = 128 ∧ calibSize = 256 ∧
      Addr.id = 16 ∧ Addr.faultFlags = 512 := by decide
  simp only [keptBytes, Kept.mk.injEq]
  refine ⟨?_, ?_, ?_⟩
  next => exact readBytes_congr (fun a low high => same a (.inl (by omega)))
  next => exact readBytes_congr (fun a low high => same a (.inr (by omega)))
  next => exact readBytes_congr (fun a low high => same a (.inl (by omega)))

theorem isDirty_setDirty (table : ControlTable) : isDirty (setDirty table) = true := by
  have bit (x : UInt8) : (x ||| 0x01) &&& 0x01 = 0x01 := by
    rw [UInt8.and_comm, UInt8.or_comm]
    apply UInt8.toBitVec_inj.mp
    apply BitVec.eq_of_getLsbD_eq
    intro i inside
    simp only [UInt8.toBitVec_and, UInt8.toBitVec_ofNat, UInt8.toBitVec_or, BitVec.getLsbD_and, BitVec.getLsbD_or]
    cases BitVec.getLsbD 1#8 i <;> simp
  rw [isDirty, setDirty, peek_poke_inside _ _ _ _ (by decide) (Nat.le_refl _) (Nat.lt_succ_self _), Nat.sub_self]
  simp [bit]

theorem keptBytes_setDirty (table : ControlTable) : keptBytes (setDirty table) = keptBytes table :=
  keptBytes_congr (fun a apart => peek_poke_outside _ _ _ _ (by
    simp only [Addr.faultFlags, profileBase, Addr.statusFlags, List.length_singleton] at apart ⊢; omega))

theorem keptBytes_clearDirty (table : ControlTable) : keptBytes (clearDirty table) = keptBytes table :=
  keptBytes_congr (fun a apart => peek_poke_outside _ _ _ _ (by
    simp only [Addr.faultFlags, profileBase, Addr.statusFlags, List.length_singleton] at apart ⊢; omega))

def Avoids (write : Nat × List UInt8) : Prop :=
  hookTouched Addr.statusFlags 1 write.1 write.2.length = false

theorem validate_avoids {table : ControlTable} {addr : Nat} {head tail : List UInt8}
    (ok : controlTable.validate table addr head tail = .ok ()) : Avoids (addr, head ++ tail) := by
  have locked : (controlTable.writable.getD (Addr.statusFlags / 32) 0).toNat.testBit (Addr.statusFlags % 32) =
      false := by
    decide +kernel
  by_contra touches
  simp only [Avoids, hookTouched, Bool.not_eq_false, Bool.and_eq_true, decide_eq_true_eq] at touches
  have writable := RegisterMap.validate_writable ok (show addr ≤ Addr.statusFlags by omega) touches.2
  rw [locked] at writable
  cases writable

theorem peek_pokeAll_status {writes : List (Nat × List UInt8)} (avoid : ∀ write ∈ writes, Avoids write)
    (table : ControlTable) : isDirty (pokeAll table writes) = isDirty table := by
  rw [isDirty, pokeAll, peek_foldl_poke writes table Addr.statusFlags avoid, isDirty]

theorem isDirty_mark (table : ControlTable) (addr len : Nat) :
    isDirty (markDirtyIfPersistent table addr len) = (isDirty table || hitsPersistent addr len) := by
  unfold markDirtyIfPersistent
  split
  next hits => rw [isDirty_setDirty, hits, Bool.or_true]
  next misses => rw [Bool.eq_false_iff.mpr misses, Bool.or_false]

theorem keptBytes_mark (table : ControlTable) (addr len : Nat) :
    keptBytes (markDirtyIfPersistent table addr len) = keptBytes table := by
  unfold markDirtyIfPersistent
  split
  next => exact keptBytes_setDirty table
  next => rfl

theorem isDirty_land {writes : List (Nat × List UInt8)} (avoid : ∀ write ∈ writes, Avoids write)
    (table : ControlTable) :
    isDirty (Machine.land dirtyBit table writes) =
      (isDirty table || writes.any fun write => hitsPersistent write.1 write.2.length) := by
  have marks (spans : List (Nat × List UInt8)) (table : ControlTable) :
      isDirty (spans.foldl (fun table write => markDirtyIfPersistent table write.1 write.2.length) table) =
        (isDirty table || spans.any fun write => hitsPersistent write.1 write.2.length) := by
    induction spans generalizing table with
    | nil => simp
    | cons span rest ih => rw [List.foldl_cons, ih, isDirty_mark, List.any_cons, Bool.or_assoc]
  rw [← peek_pokeAll_status avoid table]
  exact marks writes _

theorem keptBytes_land (table : ControlTable) (writes : List (Nat × List UInt8)) :
    keptBytes (Machine.land dirtyBit table writes) = keptBytes (pokeAll table writes) := by
  have marks (spans : List (Nat × List UInt8)) (table : ControlTable) :
      keptBytes (spans.foldl (fun table write => markDirtyIfPersistent table write.1 write.2.length) table) =
        keptBytes table := by
    induction spans generalizing table with
    | nil => rfl
    | cons span rest ih => rw [List.foldl_cons, ih, keptBytes_mark]
  exact marks writes _

theorem kept_of_unmarked {writes : List (Nat × List UInt8)}
    (unmarked : ∀ write ∈ writes, hitsPersistent write.1 write.2.length = false) (table : ControlTable) :
    keptBytes (pokeAll table writes) =
      { keptBytes table with calib := readBytes (pokeAll table writes) calibBase calibSize } := by
  have same (a : Nat) (persisted : a < configBase + configSize ∨ profileBase ≤ a ∧ a < profileBase + profileSize) :
      peek (pokeAll table writes) a = peek table a := by
    apply peek_foldl_poke
    intro write member
    have misses := unmarked write member
    simp only [hitsPersistent, Bool.or_eq_false_iff, Bool.and_eq_false_iff, decide_eq_false_iff_not] at misses
    simp only [configBase, configSize, profileBase, profileSize] at misses persisted
    simp only [hookTouched, Bool.and_eq_false_iff, decide_eq_false_iff_not]
    omega
  simp only [keptBytes, Kept.mk.injEq, and_true]
  constructor
  next =>
    apply readBytes_congr
    intro a low high
    exact same a (.inl (by simp only [configBase, configSize, Addr.id] at high ⊢; omega))
  next =>
    apply readBytes_congr
    intro a low high
    exact same a (.inr ⟨low, high⟩)

def Machine.saves (m : Machine) (frame : Frame) : Bool :=
  match frame.req with
  | .mgmt .save _ => peek m.table Addr.torqueEnable == 0 && frame.store.any StoreAnswer.save
  | _ => false

section Step

variable {device : List UInt8} {s : Session} {m : Machine}

theorem Machine.step_table (m : Machine) (uid : List UInt8) (frame : Frame) :
    (m.step dirtyBit uid frame).table =
      if m.saves frame then clearDirty m.table else land dirtyBit m.table (m.landing uid frame) := by
  obtain ⟨store, req, mayReply, verdict⟩ := frame
  cases req with
  | write addr data hold =>
    by_cases accepted : m.accepts addr data
    next =>
      by_cases passed : verdict = .pass
      next => cases hold <;> simp [step, saves, landing, accepted, passed, land]
      next => simp [step, saves, landing, accepted, passed, land]
    next => simp [step, saves, landing, accepted, land]
  | commit => simp [step, saves, landing]
  | assign target newId =>
    simp only [step, saves, landing]
    split
    next => rfl
    next => rfl
  | mgmt op args =>
    cases op with
    | save =>
      simp only [step, saves, Bool.and_eq_true, beq_iff_eq]
      split
      next => rfl
      next => rfl
    | enum | assign | reboot | factory | cal => rfl
  | ping | read | readProfile | enumerate | calibrate | unsupported => rfl

theorem Stages.savedBytes_eq (stages : Stages device s m) (frame : Frame) :
    savedBytes s frame = if m.saves frame then some (keptBytes m.table) else none := by
  have table : s.revertDangling.table = m.table := stages.revertDangling.table
  obtain ⟨store, req, mayReply, verdict⟩ := frame
  cases req with
  | mgmt op args =>
    cases op with
    | save =>
      simp only [savedBytes, Machine.saves, mgmt, Core.save, Session.torqueEnabled, table]
      cases store with
      | none => simp
      | some answer =>
        by_cases torque : peek m.table Addr.torqueEnable = 0
        next =>
          cases saved : answer.save with
          | false => simp [saved]
          | true =>
            simp [saved, torque, saveCall, Call.saved, keptBytes, readBytes_drop]
        next =>
          have answered : (ack s.revertDangling.alert mayReply (.error .accessError)).findSome? Call.saved =
              none := by
            cases mayReply <;> rfl
          simp [torque, answered]
    | enum | assign | reboot | factory | cal => rfl
  | ping | read | readProfile | write | commit | enumerate | assign | calibrate | unsupported => rfl

theorem Machine.landing_of_saves {frame : Frame} (saves : m.saves frame = true) (uid : List UInt8) :
    m.landing uid frame = [] := by
  obtain ⟨store, req, mayReply, verdict⟩ := frame
  cases req with
  | mgmt => rfl
  | ping | read | readProfile | write | commit | enumerate | assign | calibrate | unsupported => cases saves

theorem Machine.landing_avoids (held : ∀ write ∈ m.held, Avoids write) (uid : List UInt8) (frame : Frame) :
    ∀ write ∈ m.landing uid frame, Avoids write := by
  intro write member
  obtain ⟨store, req, mayReply, verdict⟩ := frame
  cases req with
  | write addr data hold =>
    simp only [landing] at member
    split at member
    next passed =>
      obtain rfl := List.mem_singleton.mp member
      exact validate_avoids passed.1.1
    next => cases member
  | commit => exact held write member
  | assign target newId =>
    simp only [landing] at member
    split at member
    next =>
      obtain rfl := List.mem_singleton.mp member
      rfl
    next => cases member
  | mgmt | ping | read | readProfile | enumerate | calibrate | unsupported => cases member

theorem Machine.step_held_avoids (held : ∀ write ∈ m.held, Avoids write) (uid : List UInt8) (frame : Frame) :
    ∀ write ∈ (m.step dirtyBit uid frame).held, Avoids write := by
  obtain ⟨store, req, mayReply, verdict⟩ := frame
  cases req with
  | write addr data hold =>
    simp only [step]
    split
    next passed =>
      cases hold with
      | false => exact held
      | true =>
        intro write member
        rcases List.mem_append.mp member with earlier | new
        next => exact held write earlier
        next =>
          obtain rfl := List.mem_singleton.mp new
          exact validate_avoids passed.1.1
    next => exact held
  | commit => exact fun write member => absurd member List.not_mem_nil
  | assign target newId =>
    simp only [step]
    split
    next => exact held
    next => exact held
  | mgmt op args =>
    cases op with
    | save =>
      simp only [step]
      split
      next => exact held
      next => exact held
    | enum | assign | reboot | factory | cal => exact held
  | ping | read | readProfile | enumerate | calibrate | unsupported => exact held

end Step

def Device.Staged (d : Device) : Prop :=
  ∃ m, Stages d.session.uid d.session m ∧ ∀ write ∈ m.held, Avoids write

theorem Device.step_staged {d : Device} (staged : d.Staged) (frame : Frame) : (d.step frame).Staged := by
  obtain ⟨m, stages, held⟩ := staged
  have after := frameStep_stages stages frame
  have uid : (d.step frame).session.uid = d.session.uid := after.uid
  exact ⟨_, uid ▸ after, m.step_held_avoids held _ frame⟩

theorem Device.step_truthful_iff {d : Device} (staged : d.Staged) (truthful : d.Truthful) (frame : Frame) :
    (d.step frame).Truthful ↔ d.Marks frame := by
  obtain ⟨m, stages, held⟩ := staged
  have table : d.session.table = m.table := stages.table
  have after : (d.step frame).session.table = (m.step dirtyBit d.session.uid frame).table :=
    (frameStep_stages stages frame).table
  have image : (d.step frame).image = ((if m.saves frame then some (keptBytes m.table) else none).getD d.image) := by
    rw [← stages.savedBytes_eq frame]
    rfl
  rw [Truthful, Marks, after, image, m.step_table, table, stages.abstraction_eq]
  rw [Truthful, table] at truthful
  -- A SAVE makes the two equal; without one the writes of the frame decide.
  by_cases saves : m.saves frame = true
  next =>
    rw [if_pos saves, if_pos saves, Option.getD_some, keptBytes_clearDirty, m.landing_of_saves saves]
    exact iff_of_true (fun _ => rfl) (.inr (.inr rfl))
  next =>
    rw [if_neg saves, if_neg saves, Option.getD_none, keptBytes_land, isDirty_land (m.landing_avoids held _ frame)]
    generalize m.landing d.session.uid frame = writes
    by_cases dirty : isDirty m.table = true
    next => simp [dirty]
    next =>
      by_cases hits : (writes.any fun write => hitsPersistent write.1 write.2.length) = true
      next =>
        have marked : ∃ write ∈ writes, hitsPersistent write.1 write.2.length = true := List.any_eq_true.mp hits
        simp [hits, marked]
      next =>
        have unmarked : ∀ write ∈ writes, hitsPersistent write.1 write.2.length = false := by
          intro write member
          by_contra marked
          exact hits (List.any_eq_true.mpr ⟨write, member, by simpa using marked⟩)
        have clean := truthful (by simpa using dirty)
        have calib : d.image.calib = readBytes m.table calibBase calibSize := (congrArg Kept.calib clean).symm
        rw [kept_of_unmarked unmarked, clean]
        constructor
        next =>
          intro kept
          have same := congrArg Kept.calib (kept (by simp [dirty, hits]))
          exact .inr (.inr (same.trans calib))
        next =>
          rintro (set | ⟨write, member, marked⟩ | same)
          next => exact absurd set dirty
          next => rw [unmarked write member] at marked; cases marked
          next => intro _; rw [same, ← calib]

theorem Device.boot_staged (board : Board) (flash : Flash) (uid : List UInt8) :
    (Device.boot board flash uid).Staged :=
  ⟨⟨bringup board flash, []⟩, ⟨rfl, rfl, by simp, rfl⟩, fun write member => (nomatch member)⟩

section Boot

variable (board : Board) (flash : Flash)

theorem readBytes_eq {size : Nat} {store : Store size} {addr count : Nat} {bytes : List UInt8}
    (length : bytes.length = count) (same : ∀ i < count, peek store (addr + i) = bytes.getD i 0) :
    readBytes store addr count = bytes := by
  apply List.ext_getElem
  next => rw [length_readBytes, length]
  next =>
    intro i low high
    simp only [readBytes, List.getElem_map, List.getElem_range]
    rw [same i (by omega), List.getD_eq_getElem?_getD, List.getElem?_eq_getElem high, Option.getD_some]

theorem readBytes_take {size : Nat} (store : Store size) (addr count len : Nat) (fits : len ≤ count) :
    (readBytes store addr count).take len = readBytes store addr len := by
  apply List.ext_getElem
  next => simp [fits]
  next =>
    intro i low high
    simp [readBytes]

theorem CalibSense.length_bytes (sense : CalibSense) : sense.bytes.length = senseLen := rfl

theorem Flash.newest_sizes {flash : Flash} {image : Image} (newest : flash.newest = some image) :
    image.config.length = configSize ∧ image.profile.length = profileSize :=
  (pickNewest_mem newest).elim Image.parse_sizes Image.parse_sizes

theorem Flash.newestCalib_size {flash : Flash} {image : CalibImage} (newest : flash.newestCalib = some image) :
    image.calib.length = calibSize :=
  (pickNewest_mem newest).elim CalibImage.parse_size CalibImage.parse_size

theorem peek_bootLoad (table : ControlTable) {addr : Nat} (inside : addr < tableSize) :
    peek (ConfigStore.bootLoad table flash).1 addr =
      if calibBase ≤ addr ∧ addr < calibBase + calibSize then
        (flash.newestCalib.map fun image => image.calib.getD (addr - calibBase) 0).getD (peek table addr)
      else if configBase + Addr.id ≤ addr ∧ addr < configBase + configSize then
        (flash.newest.map fun image => image.config.getD (addr - configBase) 0).getD (peek table addr)
      else if profileBase ≤ addr ∧ addr < profileBase + profileSize then
        (flash.newest.map fun image => image.profile.getD (addr - profileBase) 0).getD (peek table addr)
      else peek table addr := by
  have config : peek (bootOverlay table (flash.slotBytes .a) (flash.slotBytes .b)).1 addr =
      if configBase + Addr.id ≤ addr ∧ addr < configBase + configSize then
        (flash.newest.map fun image => image.config.getD (addr - configBase) 0).getD (peek table addr)
      else if profileBase ≤ addr ∧ addr < profileBase + profileSize then
        (flash.newest.map fun image => image.profile.getD (addr - profileBase) 0).getD (peek table addr)
      else peek table addr := by
    cases newest : flash.newest with
    | none =>
      have kept : (bootOverlay table (flash.slotBytes .a) (flash.slotBytes .b)).1 = table := by
        rw [Flash.newest] at newest
        simp only [bootOverlay, newest]
      simp [kept]
    | some image =>
      obtain ⟨configLen, profileLen⟩ := Flash.newest_sizes newest
      have loaded : (bootOverlay table (flash.slotBytes .a) (flash.slotBytes .b)).1 =
          overlayPersistent table image.config image.profile := by
        rw [Flash.newest] at newest
        simp only [bootOverlay, newest]
      rw [loaded, peek_overlayPersistent table configLen profileLen inside]
      rfl
  have calib : peek (ConfigStore.bootLoad table flash).1 addr =
      if calibBase ≤ addr ∧ addr < calibBase + calibSize then
        (flash.newestCalib.map fun image => image.calib.getD (addr - calibBase) 0).getD
          (peek (bootOverlay table (flash.slotBytes .a) (flash.slotBytes .b)).1 addr)
      else peek (bootOverlay table (flash.slotBytes .a) (flash.slotBytes .b)).1 addr := by
    cases newest : flash.newestCalib with
    | none =>
      rw [Flash.newestCalib] at newest
      simp [ConfigStore.bootLoad, bootOverlayCalib, newest]
    | some image =>
      have length := Flash.newestCalib_size newest
      have loaded : (ConfigStore.bootLoad table flash).1 =
          overlayPersistentCalib (bootOverlay table (flash.slotBytes .a) (flash.slotBytes .b)).1 image.calib := by
        rw [Flash.newestCalib] at newest
        simp only [ConfigStore.bootLoad, bootOverlayCalib, newest]
      rw [loaded, peek_overlayPersistentCalib _ length inside]
      rfl
  -- The regions lie apart, so the CALIB overlay leaves the other two alone.
  rw [calib, config]
  have apart : calibBase = 128 ∧ calibSize = 256 ∧ configBase = 0 ∧ configSize = 128 ∧ profileBase = 640 := by
    decide
  split
  next own => rw [if_neg (by omega), if_neg (by omega)]
  next => rfl

theorem peek_seedCalibSense (sense : CalibSense) (table : ControlTable) {addr : Nat} (inside : addr < tableSize) :
    peek (seedCalibSense sense table) addr =
      if calibBase + senseOffset ≤ addr ∧ addr < calibBase + senseOffset + senseLen then
        sense.bytes.getD (addr - (calibBase + senseOffset)) 0
      else peek table addr := by
  have within : addr < controlTable.size := inside
  rw [seedCalibSense, peek_poke _ _ _ _ within, CalibSense.length_bytes]

theorem bringup_clean : isDirty (bringup board flash) = false := by
  have seeded : ∀ write ∈ seedWrites board.defaults, hookTouched Addr.statusFlags 1 write.1 write.2.length = false := by
    have all : (seedWrites board.defaults).all
        (fun write => !hookTouched Addr.statusFlags 1 write.1 write.2.length) = true := by rfl
    intro write member
    simpa using List.all_eq_true.mp all write member
  have zero : peek (bringup board flash) Addr.statusFlags = 0 := by
    rw [bringup, peek_seedCalibSense _ _ (by decide), if_neg (by decide), peek_bootLoad _ _ (by decide),
      if_neg (by decide), if_neg (by decide), if_neg (by decide), seedIdentity,
      peek_poke_outside _ _ _ _ (.inr (by simp [Addr.modelNumber, Addr.statusFlags, u16ToLe])),
      seedConfigDefaults, peek_foldl_poke _ _ _ seeded, peek_zeroStore]
  rw [isDirty, zero]
  rfl

/-- The calib image the boot loads holds the board's own facts. -/
def SenseKept : Prop :=
  ∀ image, flash.newestCalib = some image → (image.calib.drop senseOffset).take senseLen = board.sense.bytes

theorem bringup_config : (keptBytes (bringup board flash)).config = (loadedBytes board flash).config := by
  cases newest : flash.newest with
  | none => simp [loadedBytes, newest]
  | some image =>
    obtain ⟨length, -⟩ := Flash.newest_sizes newest
    simp only [loadedBytes, newest, Option.map_some, Option.getD_some, keptBytes]
    have sizes : configBase = 0 ∧ configSize = 128 ∧ Addr.id = 16 ∧ calibBase = 128 ∧ tableSize = 1024 := by decide
    apply readBytes_eq
    next => rw [List.length_drop, length]
    next =>
      intro i within
      rw [bringup, peek_seedCalibSense _ _ (by omega), if_neg (by omega), peek_bootLoad _ _ (by omega),
        if_neg (by omega), if_pos (by omega), newest, Option.map_some, Option.getD_some,
        List.getD_eq_getElem?_getD, List.getD_eq_getElem?_getD, List.getElem?_drop,
        show configBase + Addr.id + i - configBase = Addr.id + i by omega]

theorem bringup_profile : (keptBytes (bringup board flash)).profile = (loadedBytes board flash).profile := by
  cases newest : flash.newest with
  | none => simp [loadedBytes, newest]
  | some image =>
    obtain ⟨-, length⟩ := Flash.newest_sizes newest
    simp only [loadedBytes, newest, Option.map_some, Option.getD_some, keptBytes]
    have sizes : profileBase = 640 ∧ profileSize = 64 ∧ configBase = 0 ∧ configSize = 128 ∧ calibBase = 128 ∧
        calibSize = 256 ∧ tableSize = 1024 ∧ senseOffset = 114 ∧ senseLen = 16 := by decide
    apply readBytes_eq length
    intro i within
    rw [bringup, peek_seedCalibSense _ _ (by omega), if_neg (by omega), peek_bootLoad _ _ (by omega),
      if_neg (by omega), if_neg (by omega), if_pos (by omega), newest, Option.map_some, Option.getD_some,
      Nat.add_sub_cancel_left]

theorem bringup_calib_iff :
    (keptBytes (bringup board flash)).calib = (loadedBytes board flash).calib ↔ SenseKept board flash := by
  cases newest : flash.newestCalib with
  | none => simp [loadedBytes, newest, SenseKept]
  | some image =>
    have length := Flash.newestCalib_size newest
    simp only [loadedBytes, newest, Option.map_some, Option.getD_some, keptBytes, SenseKept, Option.some.injEq,
      forall_eq']
    have sizes : calibBase = 128 ∧ calibSize = 256 ∧ tableSize = 1024 ∧ senseOffset = 114 ∧ senseLen = 16 := by
      decide
    constructor
    next =>
      intro same
      have front : readBytes (bringup board flash) (calibBase + senseOffset) senseLen = board.sense.bytes := by
        have poked := readBytes_poke (ConfigStore.bootLoad
          (seedIdentity board.model board.hwRev (seedConfigDefaults board.defaults (zeroStore _))) flash).1
          (calibBase + senseOffset) board.sense.bytes (by rw [CalibSense.length_bytes]; decide)
        exact poked
      rw [← same, readBytes_drop, readBytes_take _ _ _ _ (by omega), front]
    next =>
      intro kept
      apply readBytes_eq length
      intro i within
      rw [bringup, peek_seedCalibSense _ _ (by omega)]
      split
      next sense =>
        rw [← kept, List.getD_eq_getElem?_getD, List.getElem?_take_of_lt (by omega), List.getElem?_drop,
          List.getD_eq_getElem?_getD,
          show senseOffset + (calibBase + i - (calibBase + senseOffset)) = i by omega]
      next =>
        rw [peek_bootLoad _ _ (by omega), if_pos (by omega), newest, Option.map_some, Option.getD_some,
          Nat.add_sub_cancel_left]

theorem Device.boot_truthful_iff (uid : List UInt8) :
    (Device.boot board flash uid).Truthful ↔ SenseKept board flash := by
  rw [← bringup_calib_iff, Device.Truthful]
  have clean : isDirty (Device.boot board flash uid).session.table = false := bringup_clean board flash
  have split : keptBytes (bringup board flash) = loadedBytes board flash ↔
      (keptBytes (bringup board flash)).calib = (loadedBytes board flash).calib := by
    constructor
    next => exact fun same => congrArg Kept.calib same
    next => exact fun same => Kept.ext (bringup_config board flash) (bringup_profile board flash) same
  exact ⟨fun truthful => split.mp (truthful clean), fun same _ => split.mpr same⟩

end Boot

/-- The dirty bit tells the truth throughout a run exactly when the boot's calib image holds the board's
facts and each frame that changes CALIB finds the bit set or sets it. -/
theorem dirtyBit_truthful_iff (board : Board) (flash : Flash) (uid : List UInt8) (frames : List Frame) :
    (∀ n, (run Device.step (Device.boot board flash uid) (frames.take n)).Truthful) ↔
      SenseKept board flash ∧ Meets Device.step Device.Marks (Device.boot board flash uid) frames := by
  rw [← Device.boot_truthful_iff board flash uid]
  exact run_invariant_iff Device.step Device.Marks Device.Staged Device.Truthful
    (fun _ frame staged => Device.step_staged staged frame)
    (fun _ frame staged truthful => Device.step_truthful_iff staged truthful frame)
    (Device.boot board flash uid) (Device.boot_staged board flash uid) frames

def blankBoard : Board where
  defaults :=
    { posMinPhysCounts := 0, posMaxPhysCounts := 100, id := 1, baud := .b1000000, responseDeadlineUs := 60 }
  sense := ⟨33, 15000, 10000, 10000, 3300, 20000, 240, 300⟩
  model := 0x0101
  hwRev := 3

def calibWrite : Frame where
  req := .write calibBase (.ofList [1]) false
  mayReply := true
  verdict := .pass

theorem calibWrite_unmarked :
    ¬ ((Device.boot blankBoard erasedFlash []).step calibWrite).Truthful := by
  intro truthful
  have clean : isDirty ((Device.boot blankBoard erasedFlash []).step calibWrite).session.table = false := by
    decide +kernel
  have same := congrArg (fun kept => kept.calib.head?) (truthful clean)
  revert same
  decide +kernel

end OpenServo.Core
