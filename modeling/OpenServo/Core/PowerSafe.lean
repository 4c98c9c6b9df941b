import OpenServo.Core.ConfigStore
import OpenServo.Shared.TwoSlot
import Mathlib.Data.List.Induction

set_option autoImplicit false

namespace OpenServo.Core

open OpenServo.Protocol OpenServo.Shared OpenServo.Table

def Slot.side : Slot → Side
  | .a => .a
  | .b => .b

def Slot.ofSide : Side → Slot
  | .a => .a
  | .b => .b

@[simp] theorem Slot.ofSide_side (slot : Slot) : Slot.ofSide slot.side = slot := by
  cases slot <;> rfl

@[simp] theorem Slot.ofSide_other (side : Side) : Slot.ofSide side.other = (Slot.ofSide side).other := by
  cases side <;> rfl

theorem Slot.ofSide_inj {side other : Side} : Slot.ofSide side = Slot.ofSide other ↔ side = other := by
  cases side <;> cases other <;> decide

section Alternation

variable {T : Type} {parse : List UInt8 → Option T} {seq : T → UInt16} {bytes : Slot → List UInt8}

def ahead (seq : T → UInt16) (a b : T) : Bool :=
  decide (0 < seq a - seq b ∧ seq a - seq b < 0x8000)

theorem ahead_succ {a b : T} (next : seq a = seq b + 1) : ahead seq a b = true ∧ ahead seq b a = false := by
  have forth : seq b + 1 - seq b = 1 := by
    rw [UInt16.add_comm, UInt16.add_sub_cancel]
  have back : seq b - (seq b + 1) = 0xFFFF := by
    apply UInt16.toBitVec_inj.mp
    show (seq b).toBitVec - ((seq b).toBitVec + 1#16) = 0xFFFF#16
    bv_omega
  simp only [ahead, next, forth, back]
  decide

def readSlots (parse : List UInt8 → Option T) (bytes : Slot → List UInt8) : Slots T :=
  fun side => parse (bytes (.ofSide side))

theorem pickNewest_eq :
    pickNewest (parse (bytes .a)) (parse (bytes .b)) seq =
      ((readSlots parse bytes).current (ahead seq),
        Slot.ofSide ((readSlots parse bytes).spare (ahead seq))) := by
  simp only [pickNewest, Slots.current, Slots.spare, Slots.pick, readSlots, Slot.ofSide, ahead]
  cases parse (bytes .a) with
  | none => rfl
  | some a =>
    cases parse (bytes .b) with
    | none => rfl
    | some b =>
      simp only [decide_eq_true_eq]
      split <;> rfl

/-- The state the store keeps of one image kind: the spare slot, and the number after the newest. -/
structure Turn (seq : T → UInt16) (slots : Slots T) (nextSlot : Slot) (nextSeq : UInt16) : Prop where
  slot : nextSlot = Slot.ofSide (slots.spare (ahead seq))
  seq : nextSeq = (slots.current (ahead seq)).elim 1 (fun image => seq image + 1)

theorem Turn.boot :
    Turn seq (readSlots parse bytes)
      (bootPick ((pickNewest (parse (bytes .a)) (parse (bytes .b)) seq).1.map seq)
        (pickNewest (parse (bytes .a)) (parse (bytes .b)) seq).2).nextSlot
      (bootPick ((pickNewest (parse (bytes .a)) (parse (bytes .b)) seq).1.map seq)
        (pickNewest (parse (bytes .a)) (parse (bytes .b)) seq).2).nextSeq := by
  rw [pickNewest_eq]
  cases found : (readSlots parse bytes).current (ahead seq) with
  | some image => exact ⟨rfl, by simp [found, bootPick]⟩
  | none =>
    refine ⟨?_, by simp [found, bootPick]⟩
    have empty := Slots.spare_of_none found
    simp [bootPick, empty, Slot.ofSide]

variable {nextSlot : Slot} {nextSeq : UInt16}

/-- What is left of a slot by a write that a cut or a fault stopped: what it held, nothing valid, or the
whole image. -/
def Leaves (parse : List UInt8 → Option T) (old whole left : List UInt8) : Prop :=
  left = old ∨ parse left = none ∨ left = whole

theorem Leaves.missed {old whole left : List UInt8} (leaves : Leaves parse old whole left)
    (short : left ≠ whole) : left = old ∨ parse left = none := by
  rcases leaves with spared | torn | landed
  next => exact .inl spared
  next => exact .inr torn
  next => exact absurd landed short

theorem readSlots_leave (left : List UInt8) (slot : Slot) :
    readSlots parse (fun other => if other = slot then left else bytes other) =
      (readSlots parse bytes).set slot.side (parse left) := by
  funext side
  cases side <;> cases slot <;> rfl

theorem Turn.missed (turn : Turn seq (readSlots parse bytes) nextSlot nextSeq) {left : List UInt8}
    (missed : left = bytes nextSlot ∨ parse left = none) :
    ((readSlots parse (fun other => if other = nextSlot then left else bytes other)).pick (ahead seq)) =
      (readSlots parse bytes).pick (ahead seq) := by
  rw [readSlots_leave]
  rcases missed with rfl | torn
  next =>
    have same : parse (bytes nextSlot) = readSlots parse bytes nextSlot.side := by
      simp [readSlots]
    rw [same, Slots.set_self]
  next =>
    have spare : nextSlot.side = (readSlots parse bytes).spare (ahead seq) := by
      rw [← Slot.ofSide_inj, Slot.ofSide_side, turn.slot]
    rw [torn, spare]
    exact Slots.pick_torn

theorem Turn.landed (turn : Turn seq (readSlots parse bytes) nextSlot nextSeq) {left : List UInt8} {image : T}
    (whole : parse left = some image) (numbered : seq image = nextSeq) :
    (readSlots parse (fun other => if other = nextSlot then left else bytes other)).current (ahead seq) =
        some image ∧
      Turn seq (readSlots parse (fun other => if other = nextSlot then left else bytes other))
        nextSlot.other (nextSeq + 1) := by
  have spare : nextSlot.side = (readSlots parse bytes).spare (ahead seq) := by
    rw [← Slot.ofSide_inj, Slot.ofSide_side, turn.slot]
  have beats (standing : T) (stands : (readSlots parse bytes).current (ahead seq) = some standing) :
      ahead seq image standing = true ∧ ahead seq standing image = false := by
    apply ahead_succ
    rw [numbered, turn.seq, stands, Option.elim_some]
  have picked := Slots.pick_landed beats
  rw [readSlots_leave, whole, spare]
  refine ⟨congrArg Prod.fst picked, ?_, ?_⟩
  next => rw [Slots.spare, picked, Slot.ofSide_other, ← turn.slot]
  next => rw [Slots.current, picked, Option.elim_some, numbered]

end Alternation

def Flash.newest (flash : Flash) : Option Image :=
  (pickNewest (Image.parse (flash.slotBytes .a)) (Image.parse (flash.slotBytes .b)) Image.seq).1

def Flash.newestCalib (flash : Flash) : Option CalibImage :=
  (pickNewest (CalibImage.parse (flash.calibSlotBytes .a)) (CalibImage.parse (flash.calibSlotBytes .b))
    CalibImage.seq).1

theorem Flash.newest_eq (flash : Flash) :
    flash.newest = (readSlots Image.parse flash.slotBytes).current (ahead Image.seq) :=
  congrArg Prod.fst pickNewest_eq

theorem Flash.newestCalib_eq (flash : Flash) :
    flash.newestCalib = (readSlots CalibImage.parse flash.calibSlotBytes).current (ahead CalibImage.seq) :=
  congrArg Prod.fst pickNewest_eq

def Flash.ConfigTurn (flash : Flash) (state : StoreState) : Prop :=
  Turn Image.seq (readSlots Image.parse flash.slotBytes) state.nextSlot state.nextSeq

def Flash.CalibTurn (flash : Flash) (state : StoreState) : Prop :=
  Turn CalibImage.seq (readSlots CalibImage.parse flash.calibSlotBytes) state.calibNextSlot state.calibNextSeq

theorem bootLoad_configTurn (table : ControlTable) (flash : Flash) :
    flash.ConfigTurn (ConfigStore.bootLoad table flash).2.state := by
  have turn := @Turn.boot Image Image.parse Image.seq flash.slotBytes
  exact turn

theorem bootLoad_calibTurn (table : ControlTable) (flash : Flash) :
    flash.CalibTurn (ConfigStore.bootLoad table flash).2.state := by
  have turn := @Turn.boot CalibImage CalibImage.parse CalibImage.seq flash.calibSlotBytes
  exact turn

theorem Flash.slotBytes_leave (flash : Flash) (slot : Slot) (left : List UInt8) :
    (flash.leave slot left).slotBytes =
      fun other => if other = slot then left.take imageLen else flash.slotBytes other := by
  funext other
  by_cases same : other = slot <;> simp [Flash.slotBytes, Flash.leave, same]

theorem Flash.calibSlotBytes_leaveCalib (flash : Flash) (slot : Slot) (left : List UInt8) :
    (flash.leaveCalib slot left).calibSlotBytes =
      fun other => if other = slot then left.take calibImageLen else flash.calibSlotBytes other := by
  funext other
  by_cases same : other = slot <;> simp [Flash.calibSlotBytes, Flash.leaveCalib, same]

def ConfigStore.image (store : ConfigStore) (saved : Persisted) : List UInt8 :=
  assemble store.state.nextSeq saved.config saved.profile

def ConfigStore.calibImage (store : ConfigStore) (saved : Persisted) : List UInt8 :=
  calibAssemble store.state.calibNextSeq saved.calib

structure Persisted.Allowed (saved : Persisted) : Prop where
  config : Fits controlTable.allowedByte (configBase, saved.config)
  profile : Fits controlTable.allowedByte (profileBase, saved.profile)
  calib : Fits controlTable.allowedByte (calibBase, saved.calib)

theorem readback_iff {stored header body : List UInt8} {len : Nat} (size : header.length = len) :
    stored.take len = header ∧ stored.drop len = body ↔ stored = header ++ body := by
  constructor
  next =>
    rintro ⟨front, rest⟩
    rw [← front, ← rest, List.take_append_drop]
  next =>
    rintro rfl
    rw [← size]
    exact ⟨List.take_left, List.drop_left⟩

theorem ConfigStore.saveConfig_eq (store : ConfigStore) (saved : Persisted) (left : List UInt8) :
    store.saveConfig saved left =
      if left.take imageLen = store.image saved then
        (⟨store.flash.leave store.state.nextSlot left,
          { store.state with nextSlot := store.state.nextSlot.other,
                             nextSeq := store.state.nextSeq + 1 }⟩, .ok ())
      else (⟨store.flash.leave store.state.nextSlot left, store.state⟩, .error .notIntact) := by
  have split (stored : List UInt8) :
      stored.take headerLen = header store.state.nextSeq saved.config saved.profile ∧
          (stored.drop headerLen).take configSize = saved.config ∧
          stored.drop (headerLen + configSize) = saved.profile ↔ stored = store.image saved := by
    rw [← List.drop_drop, readback_iff saved.configLen, header, readback_iff (length_slotHeader _ _),
      ← List.append_assoc]
    rfl
  simp only [saveConfig, Flash.slotBytes_leave, ↓reduceIte, split]

theorem ConfigStore.saveCalib_eq (store : ConfigStore) (saved : Persisted) (left : List UInt8) :
    store.saveCalib saved left =
      if left.take calibImageLen = store.calibImage saved then
        (⟨store.flash.leaveCalib store.state.calibNextSlot left,
          { store.state with calibNextSlot := store.state.calibNextSlot.other,
                             calibNextSeq := store.state.calibNextSeq + 1 }⟩, .ok ())
      else (⟨store.flash.leaveCalib store.state.calibNextSlot left, store.state⟩, .error .notIntact) := by
  have split (stored : List UInt8) :
      stored.take headerLen = calibHeader store.state.calibNextSeq saved.calib ∧
          stored.drop headerLen = saved.calib ↔ stored = store.calibImage saved := by
    rw [calibHeader, readback_iff (length_slotHeader _ _)]
    rfl
  simp only [saveCalib, Flash.calibSlotBytes_leaveCalib, ↓reduceIte, split]

theorem ConfigStore.parse_image (store : ConfigStore) {saved : Persisted} (allowed : saved.Allowed) :
    Image.parse (store.image saved) = some ⟨store.state.nextSeq, saved.config, saved.profile⟩ := by
  have read := @Image.parse_assemble ⟨store.state.nextSeq, saved.config, saved.profile⟩ saved.configLen
    saved.profileLen []
  rw [List.append_nil] at read
  exact read.mpr ⟨allowed.config, allowed.profile⟩

theorem ConfigStore.parse_calibImage (store : ConfigStore) {saved : Persisted} (allowed : saved.Allowed) :
    CalibImage.parse (store.calibImage saved) = some ⟨store.state.calibNextSeq, saved.calib⟩ := by
  have read := @CalibImage.parse_calibAssemble ⟨store.state.calibNextSeq, saved.calib⟩ saved.calibLen []
  rw [List.append_nil] at read
  exact read.mpr allowed.calib

/-- Does the save's write land the whole image? -/
def ConfigStore.wrote (store : ConfigStore) (saved : Persisted) (left : List UInt8) : Bool :=
  decide (left.take imageLen = store.image saved)

def ConfigStore.wroteCalib (store : ConfigStore) (saved : Persisted) (left : List UInt8) : Bool :=
  decide (left.take calibImageLen = store.calibImage saved)

structure Sound (store : ConfigStore) : Prop where
  config : store.flash.ConfigTurn store.state
  calib : store.flash.CalibTurn store.state

structure SavedConfig (store : ConfigStore) (saved : Persisted) (left : List UInt8)
    (after : ConfigStore × Except StoreError Unit) : Prop where
  turn : after.1.flash.ConfigTurn after.1.state
  newest : after.1.flash.newest =
    if store.wrote saved left then some ⟨store.state.nextSeq, saved.config, saved.profile⟩
    else store.flash.newest
  reported : after.2 = if store.wrote saved left then .ok () else .error .notIntact
  calibSlots : after.1.flash.calibSlots = store.flash.calibSlots
  calibNextSlot : after.1.state.calibNextSlot = store.state.calibNextSlot
  calibNextSeq : after.1.state.calibNextSeq = store.state.calibNextSeq

theorem ConfigStore.saveConfig_saved {store : ConfigStore} (turn : store.flash.ConfigTurn store.state)
    {saved : Persisted} (allowed : saved.Allowed) {left : List UInt8}
    (leaves : Leaves Image.parse (store.flash.slotBytes store.state.nextSlot) (store.image saved)
      (left.take imageLen)) :
    SavedConfig store saved left (store.saveConfig saved left) := by
  rw [saveConfig_eq]
  by_cases landed : left.take imageLen = store.image saved
  next =>
    have whole := store.parse_image allowed
    rw [← landed] at whole
    obtain ⟨stands, passed⟩ := Turn.landed turn whole rfl
    rw [if_pos landed]
    refine ⟨?_, ?_, by simp [wrote, landed], rfl, rfl, rfl⟩
    next =>
      rw [Flash.ConfigTurn, Flash.slotBytes_leave]
      exact passed
    next => rw [Flash.newest_eq, Flash.slotBytes_leave, stands, wrote, decide_eq_true landed, if_pos rfl]
  next =>
    have missed := Turn.missed turn (leaves.missed landed)
    rw [if_neg landed]
    refine ⟨⟨?_, ?_⟩, ?_, by simp [wrote, landed], rfl, rfl, rfl⟩
    next => rw [Flash.slotBytes_leave, Slots.spare, missed]; exact turn.slot
    next => rw [Flash.slotBytes_leave, Slots.current, missed]; exact turn.seq
    next => rw [Flash.newest_eq, Flash.newest_eq, Flash.slotBytes_leave, Slots.current, missed, wrote,
      decide_eq_false landed, if_neg (by simp)]

structure SavedCalib (store : ConfigStore) (saved : Persisted) (left : List UInt8)
    (after : ConfigStore × Except StoreError Unit) : Prop where
  turn : after.1.flash.CalibTurn after.1.state
  newest : after.1.flash.newestCalib =
    if store.wroteCalib saved left then some ⟨store.state.calibNextSeq, saved.calib⟩
    else store.flash.newestCalib
  reported : after.2 = if store.wroteCalib saved left then .ok () else .error .notIntact
  slots : after.1.flash.slots = store.flash.slots
  nextSlot : after.1.state.nextSlot = store.state.nextSlot
  nextSeq : after.1.state.nextSeq = store.state.nextSeq

theorem ConfigStore.saveCalib_saved {store : ConfigStore} (turn : store.flash.CalibTurn store.state)
    {saved : Persisted} (allowed : saved.Allowed) {left : List UInt8}
    (leaves : Leaves CalibImage.parse (store.flash.calibSlotBytes store.state.calibNextSlot)
      (store.calibImage saved) (left.take calibImageLen)) :
    SavedCalib store saved left (store.saveCalib saved left) := by
  rw [saveCalib_eq]
  by_cases landed : left.take calibImageLen = store.calibImage saved
  next =>
    have whole := store.parse_calibImage allowed
    rw [← landed] at whole
    obtain ⟨stands, passed⟩ := Turn.landed turn whole rfl
    rw [if_pos landed]
    refine ⟨?_, ?_, by simp [wroteCalib, landed], rfl, rfl, rfl⟩
    next =>
      rw [Flash.CalibTurn, Flash.calibSlotBytes_leaveCalib]
      exact passed
    next =>
      rw [Flash.newestCalib_eq, Flash.calibSlotBytes_leaveCalib, stands, wroteCalib, decide_eq_true landed,
        if_pos rfl]
  next =>
    have missed := Turn.missed turn (leaves.missed landed)
    rw [if_neg landed]
    refine ⟨⟨?_, ?_⟩, ?_, by simp [wroteCalib, landed], rfl, rfl, rfl⟩
    next => rw [Flash.calibSlotBytes_leaveCalib, Slots.spare, missed]; exact turn.slot
    next => rw [Flash.calibSlotBytes_leaveCalib, Slots.current, missed]; exact turn.seq
    next =>
      rw [Flash.newestCalib_eq, Flash.newestCalib_eq, Flash.calibSlotBytes_leaveCalib, Slots.current, missed,
        wroteCalib, decide_eq_false landed, if_neg (by simp)]

/-- One save of a history: what it was handed, whether it reported success, and which images it left
whole in flash. -/
structure SaveRecord where
  saved : Persisted
  reported : Bool
  configWritten : Bool
  calibWritten : Bool

inductive StoreEvent where
  | save (saved : Persisted) (config calib : List UInt8)
  | cutConfig (saved : Persisted) (config : List UInt8)
  | cutCalib (saved : Persisted) (config calib : List UInt8)
  | reboot

def StoreEvent.step (table : ControlTable) (store : ConfigStore) : StoreEvent → ConfigStore
  | .save saved config calib => (store.save saved config calib).1
  | .cutConfig saved config => (ConfigStore.bootLoad table (store.saveConfig saved config).1.flash).2
  | .cutCalib saved config calib => (ConfigStore.bootLoad table (store.save saved config calib).1.flash).2
  | .reboot => (ConfigStore.bootLoad table store.flash).2

/-- The CALIB half runs only after the CONFIG half's readback. -/
def StoreEvent.records (store : ConfigStore) : StoreEvent → List SaveRecord
  | .save saved config calib =>
    [⟨saved, decide ((store.save saved config calib).2 = .ok ()), store.wrote saved config,
      store.wrote saved config && store.wroteCalib saved calib⟩]
  | .cutConfig saved config => [⟨saved, false, store.wrote saved config, false⟩]
  | .cutCalib saved config calib =>
    [⟨saved, false, store.wrote saved config, store.wrote saved config && store.wroteCalib saved calib⟩]
  | .reboot => []

def ConfigStore.Leaves (store : ConfigStore) (saved : Persisted) (config : List UInt8) : Prop :=
  Core.Leaves Image.parse (store.flash.slotBytes store.state.nextSlot) (store.image saved)
    (config.take imageLen)

def ConfigStore.LeavesCalib (store : ConfigStore) (saved : Persisted) (calib : List UInt8) : Prop :=
  Core.Leaves CalibImage.parse (store.flash.calibSlotBytes store.state.calibNextSlot)
    (store.calibImage saved) (calib.take calibImageLen)

/-- Saved bytes are allowed values, and a write that was cut or failed leaves its slot as it was, with
nothing valid in it, or with the whole image. -/
def StoreEvent.Fair (store : ConfigStore) : StoreEvent → Prop
  | .save saved config calib | .cutCalib saved config calib =>
    saved.Allowed ∧ store.Leaves saved config ∧ store.LeavesCalib saved calib
  | .cutConfig saved config => saved.Allowed ∧ store.Leaves saved config
  | .reboot => True

/-- Saves and reboots in any order, from a boot on any flash. -/
inductive History (table : ControlTable) : ConfigStore → List SaveRecord → Prop where
  | boot (flash : Flash) : History table (ConfigStore.bootLoad table flash).2 []
  | step {store : ConfigStore} {records : List SaveRecord} {event : StoreEvent} :
    History table store records → event.Fair store →
      History table (event.step table store) (records ++ event.records store)

theorem Flash.newest_congr {flash other : Flash} (same : flash.slots = other.slots) :
    flash.newest = other.newest := by
  simp only [newest, slotBytes, same]

theorem Flash.newestCalib_congr {flash other : Flash} (same : flash.calibSlots = other.calibSlots) :
    flash.newestCalib = other.newestCalib := by
  simp only [newestCalib, calibSlotBytes, same]

theorem Flash.configTurn_congr {flash other : Flash} {state next : StoreState} (same : flash.slots = other.slots)
    (slot : state.nextSlot = next.nextSlot) (seq : state.nextSeq = next.nextSeq) :
    flash.ConfigTurn state ↔ other.ConfigTurn next := by
  simp only [ConfigTurn, show flash.slotBytes = other.slotBytes from by funext slot; simp only [slotBytes, same],
    slot, seq]

theorem Flash.calibTurn_congr {flash other : Flash} {state next : StoreState}
    (same : flash.calibSlots = other.calibSlots) (slot : state.calibNextSlot = next.calibNextSlot)
    (seq : state.calibNextSeq = next.calibNextSeq) : flash.CalibTurn state ↔ other.CalibTurn next := by
  simp only [CalibTurn, slot, seq,
    show flash.calibSlotBytes = other.calibSlotBytes from by funext slot; simp only [calibSlotBytes, same]]

structure SavedBoth (store : ConfigStore) (saved : Persisted) (config calib : List UInt8)
    (after : ConfigStore × Except StoreError Unit) : Prop where
  sound : Sound after.1
  newest : after.1.flash.newest =
    if store.wrote saved config then some ⟨store.state.nextSeq, saved.config, saved.profile⟩
    else store.flash.newest
  newestCalib : after.1.flash.newestCalib =
    if store.wrote saved config && store.wroteCalib saved calib then
      some ⟨store.state.calibNextSeq, saved.calib⟩
    else store.flash.newestCalib
  reported : after.2 = .ok () → store.wrote saved config = true ∧ store.wroteCalib saved calib = true

theorem ConfigStore.save_saved {store : ConfigStore} (sound : Sound store) {saved : Persisted}
    {config calib : List UInt8} (allowed : saved.Allowed) (leaves : store.Leaves saved config)
    (leavesCalib : store.LeavesCalib saved calib) :
    SavedBoth store saved config calib (store.save saved config calib) := by
  have first := saveConfig_saved sound.config allowed leaves
  have calibTurn : (store.saveConfig saved config).1.flash.CalibTurn (store.saveConfig saved config).1.state :=
    (Flash.calibTurn_congr first.calibSlots first.calibNextSlot first.calibNextSeq).mpr sound.calib
  simp only [save]
  by_cases wrote : store.wrote saved config = true
  next =>
    rw [first.reported, if_pos wrote]
    have whole : (store.saveConfig saved config).1.calibImage saved = store.calibImage saved := by
      rw [calibImage, calibImage, first.calibNextSeq]
    have slot : (store.saveConfig saved config).1.flash.calibSlotBytes
        (store.saveConfig saved config).1.state.calibNextSlot =
          store.flash.calibSlotBytes store.state.calibNextSlot := by
      rw [first.calibNextSlot, Flash.calibSlotBytes, Flash.calibSlotBytes, first.calibSlots]
    have second : SavedCalib _ saved calib ((store.saveConfig saved config).1.saveCalib saved calib) :=
      saveCalib_saved calibTurn allowed (by rw [slot, whole]; exact leavesCalib)
    have landed : (store.saveConfig saved config).1.wroteCalib saved calib = store.wroteCalib saved calib := by
      rw [wroteCalib, wroteCalib, whole]
    refine ⟨⟨?_, second.turn⟩, ?_, ?_, ?_⟩
    next => exact (Flash.configTurn_congr second.slots second.nextSlot second.nextSeq).mpr first.turn
    next => rw [Flash.newest_congr second.slots, first.newest]
    next =>
      rw [second.newest, landed, first.calibNextSeq, Flash.newestCalib_congr first.calibSlots, wrote,
        Bool.true_and]
    next =>
      intro reported
      rw [second.reported, landed] at reported
      refine ⟨wrote, ?_⟩
      by_contra missed
      rw [if_neg missed] at reported
      cases reported
  next =>
    rw [first.reported, if_neg wrote]
    refine ⟨⟨first.turn, calibTurn⟩, first.newest, ?_, ?_⟩
    next => rw [Flash.newestCalib_congr first.calibSlots, Bool.eq_false_iff.mpr wrote, Bool.false_and,
      if_neg (by decide)]
    next => intro reported; cases reported

def lastWritten (written : SaveRecord → Bool) (records : List SaveRecord) : Option SaveRecord :=
  (records.filter written).getLast?

theorem lastWritten_snoc (written : SaveRecord → Bool) (records : List SaveRecord) (record : SaveRecord) :
    lastWritten written (records ++ [record]) =
      if written record then some record else lastWritten written records := by
  by_cases whole : written record = true <;> simp [lastWritten, List.filter_append, whole]

theorem lastWritten_of_written {written : SaveRecord → Bool} {earlier later : List SaveRecord}
    {save : SaveRecord} (whole : written save = true) :
    ∃ standing ∈ save :: later, written standing = true ∧
      lastWritten written (earlier ++ save :: later) = some standing := by
  induction later using List.reverseRecOn with
  | nil =>
    refine ⟨save, List.mem_singleton_self _, whole, ?_⟩
    rw [lastWritten_snoc, if_pos whole]
  | append_singleton later last ih =>
    obtain ⟨standing, member, stands, found⟩ := ih
    rw [← List.cons_append, ← List.append_assoc, lastWritten_snoc]
    by_cases newer : written last = true
    next => exact ⟨last, by simp, newer, if_pos newer⟩
    next => exact ⟨standing, List.mem_append_left _ member, stands, by rw [if_neg newer, found]⟩

/-- What flash and the store's state owe to the saves so far. -/
structure Account (store : ConfigStore) (records : List SaveRecord) : Prop where
  sound : Sound store
  config : ∀ record, lastWritten (·.configWritten) records = some record →
    ∃ seq, store.flash.newest = some ⟨seq, record.saved.config, record.saved.profile⟩
  calib : ∀ record, lastWritten (·.calibWritten) records = some record →
    ∃ seq, store.flash.newestCalib = some ⟨seq, record.saved.calib⟩
  reported : ∀ record ∈ records, record.reported = true →
    record.configWritten = true ∧ record.calibWritten = true

theorem sound_boot (table : ControlTable) (flash : Flash) : Sound (ConfigStore.bootLoad table flash).2 :=
  ⟨bootLoad_configTurn table flash, bootLoad_calibTurn table flash⟩

theorem Account.snoc {store after : ConfigStore} {records : List SaveRecord} {record : SaveRecord}
    (account : Account store records) (sound : Sound after)
    (newest : ∃ seq, after.flash.newest =
      if record.configWritten then some ⟨seq, record.saved.config, record.saved.profile⟩
      else store.flash.newest)
    (newestCalib : ∃ seq, after.flash.newestCalib =
      if record.calibWritten then some ⟨seq, record.saved.calib⟩ else store.flash.newestCalib)
    (reported : record.reported = true → record.configWritten = true ∧ record.calibWritten = true) :
    Account after (records ++ [record]) where
  sound := sound
  config := by
    intro last found
    obtain ⟨seq, stands⟩ := newest
    rw [lastWritten_snoc] at found
    split at found
    next whole =>
      obtain rfl := Option.some.inj found
      exact ⟨seq, by rw [stands, if_pos whole]⟩
    next missed =>
      obtain ⟨seq, before⟩ := account.config last found
      exact ⟨seq, by rw [stands, if_neg missed, before]⟩
  calib := by
    intro last found
    obtain ⟨seq, stands⟩ := newestCalib
    rw [lastWritten_snoc] at found
    split at found
    next whole =>
      obtain rfl := Option.some.inj found
      exact ⟨seq, by rw [stands, if_pos whole]⟩
    next missed =>
      obtain ⟨seq, before⟩ := account.calib last found
      exact ⟨seq, by rw [stands, if_neg missed, before]⟩
  reported := by
    intro other member claims
    rcases List.mem_append.mp member with earlier | new
    next => exact account.reported other earlier claims
    next =>
      obtain rfl := List.mem_singleton.mp new
      exact reported claims

theorem Account.step {store : ConfigStore} {records : List SaveRecord} (account : Account store records)
    {table : ControlTable} {event : StoreEvent} (fair : event.Fair store) :
    Account (event.step table store) (records ++ event.records store) := by
  cases event with
  | save saved config calib =>
    obtain ⟨allowed, leaves, leavesCalib⟩ := fair
    have both := ConfigStore.save_saved account.sound allowed leaves leavesCalib
    refine account.snoc both.sound ⟨_, both.newest⟩ ⟨_, both.newestCalib⟩ ?_
    intro reported
    obtain ⟨wrote, wroteCalib⟩ := both.reported (of_decide_eq_true reported)
    simp [wrote, wroteCalib]
  | cutCalib saved config calib =>
    obtain ⟨allowed, leaves, leavesCalib⟩ := fair
    have both := ConfigStore.save_saved account.sound allowed leaves leavesCalib
    exact account.snoc (sound_boot table _) ⟨_, both.newest⟩ ⟨_, both.newestCalib⟩
      (fun reported => Bool.noConfusion reported)
  | cutConfig saved config =>
    obtain ⟨allowed, leaves⟩ := fair
    have first := ConfigStore.saveConfig_saved account.sound.config allowed leaves
    exact account.snoc (sound_boot table _) ⟨_, first.newest⟩ ⟨0, Flash.newestCalib_congr first.calibSlots⟩
      (fun reported => Bool.noConfusion reported)
  | reboot =>
    rw [StoreEvent.records, List.append_nil]
    exact ⟨sound_boot table _, account.config, account.calib, account.reported⟩

theorem History.account {table : ControlTable} {store : ConfigStore} {records : List SaveRecord}
    (history : History table store records) : Account store records := by
  induction history with
  | boot flash =>
    exact ⟨sound_boot table flash, fun _ found => (nomatch found), fun _ found => (nomatch found),
      fun _ member => (nomatch member)⟩
  | step before fair ih => exact ih.step fair

def Flash.newestSlot (flash : Flash) : Option Slot :=
  flash.newest.map fun _ =>
    (pickNewest (Image.parse (flash.slotBytes .a)) (Image.parse (flash.slotBytes .b)) Image.seq).2.other

def Flash.newestCalibSlot (flash : Flash) : Option Slot :=
  flash.newestCalib.map fun _ =>
    (pickNewest (CalibImage.parse (flash.calibSlotBytes .a)) (CalibImage.parse (flash.calibSlotBytes .b))
      CalibImage.seq).2.other

theorem Slot.ne_other (slot : Slot) : slot ≠ slot.other := by
  cases slot <;> decide

theorem Sound.spares {store : ConfigStore} (sound : Sound store) {slot : Slot}
    (holds : store.flash.newestSlot = some slot) : store.state.nextSlot ≠ slot := by
  obtain ⟨image, -, rfl⟩ := Option.map_eq_some_iff.mp holds
  rw [pickNewest_eq, sound.config.slot]
  exact Slot.ne_other _

theorem Sound.spares_calib {store : ConfigStore} (sound : Sound store) {slot : Slot}
    (holds : store.flash.newestCalibSlot = some slot) : store.state.calibNextSlot ≠ slot := by
  obtain ⟨image, -, rfl⟩ := Option.map_eq_some_iff.mp holds
  rw [pickNewest_eq, sound.calib.slot]
  exact Slot.ne_other _

theorem bootLoad_table {table : ControlTable} {flash : Flash} {image : Image} {calib : CalibImage}
    (newest : flash.newest = some image) (newestCalib : flash.newestCalib = some calib) :
    (ConfigStore.bootLoad table flash).1 =
      overlayPersistentCalib (overlayPersistent table image.config image.profile) calib.calib := by
  simp only [Flash.newest, Flash.newestCalib] at newest newestCalib
  simp only [ConfigStore.bootLoad, bootOverlay, bootOverlayCalib, newest, newestCalib]

/-- Power-safe saves: whatever the saves and cuts so far, a boot loads the images of the last save that
reported success or of later ones that were left whole, and neither half of the next save writes the slot
that holds the newest. -/
theorem saves_powerSafe {table : ControlTable} {store : ConfigStore} {records : List SaveRecord}
    (history : History table store records) :
    (∀ earlier save later, records = earlier ++ save :: later → save.reported = true →
      ∃ config ∈ save :: later, ∃ calib ∈ save :: later,
        (config = save ∨ config.configWritten = true) ∧ (calib = save ∨ calib.calibWritten = true) ∧
        ∀ seeded, (ConfigStore.bootLoad seeded store.flash).1 =
          overlayPersistentCalib (overlayPersistent seeded config.saved.config config.saved.profile)
            calib.saved.calib) ∧
    (∀ slot, store.flash.newestSlot = some slot → store.state.nextSlot ≠ slot) ∧
    (∀ slot, store.flash.newestCalibSlot = some slot → store.state.calibNextSlot ≠ slot) := by
  have account := history.account
  refine ⟨?_, fun _ holds => account.sound.spares holds, fun _ holds => account.sound.spares_calib holds⟩
  rintro earlier save later rfl reported
  obtain ⟨wrote, wroteCalib⟩ := account.reported save (by simp) reported
  obtain ⟨config, later_config, written, last⟩ :=
    @lastWritten_of_written (·.configWritten) earlier later save wrote
  obtain ⟨calib, later_calib, writtenCalib, lastCalib⟩ :=
    @lastWritten_of_written (·.calibWritten) earlier later save wroteCalib
  obtain ⟨seq, newest⟩ := account.config config last
  obtain ⟨calibSeq, newestCalib⟩ := account.calib calib lastCalib
  exact ⟨config, later_config, calib, later_calib, .inr written, .inr writtenCalib,
    fun seeded => bootLoad_table newest newestCalib⟩

theorem ConfigStore.take_image (store : ConfigStore) (saved : Persisted) :
    (store.image saved).take imageLen = store.image saved :=
  List.take_of_length_le (by
    simp [image, assemble, header, saved.configLen, saved.profileLen, imageLen, Nat.add_assoc])

theorem ConfigStore.take_calibImage (store : ConfigStore) (saved : Persisted) :
    (store.calibImage saved).take calibImageLen = store.calibImage saved :=
  List.take_of_length_le (by simp [calibImage, calibAssemble, calibHeader, saved.calibLen, calibImageLen])

theorem ConfigStore.save_whole (store : ConfigStore) (saved : Persisted) :
    (store.save saved (store.image saved) (store.calibImage saved)).2 = .ok () := by
  have takenCalib := store.take_calibImage saved
  rw [calibImage] at takenCalib
  rw [save, saveConfig_eq, if_pos (store.take_image saved)]
  simp only [saveCalib_eq, calibImage, takenCalib, ↓reduceIte]

theorem History.save_whole {table : ControlTable} {store : ConfigStore} {records : List SaveRecord}
    (history : History table store records) {saved : Persisted} (allowed : saved.Allowed) :
    History table (store.save saved (store.image saved) (store.calibImage saved)).1
      (records ++ [⟨saved, true, true, true⟩]) := by
  have kept : (StoreEvent.save saved (store.image saved) (store.calibImage saved)).records store =
      [⟨saved, true, true, true⟩] := by
    simp [StoreEvent.records, store.save_whole, ConfigStore.wrote, store.take_image, ConfigStore.wroteCalib,
      store.take_calibImage]
  have fair : (StoreEvent.save saved (store.image saved) (store.calibImage saved)).Fair store :=
    ⟨allowed, .inr (.inr (store.take_image saved)), .inr (.inr (store.take_calibImage saved))⟩
  rw [← kept]
  exact history.step fair

/-- A save that loses power once its CONFIG slot is erased. -/
theorem History.cut_config {table : ControlTable} {store : ConfigStore} {records : List SaveRecord}
    (history : History table store records) {saved : Persisted} (allowed : saved.Allowed) :
    History table
      (ConfigStore.bootLoad table (store.saveConfig saved (List.replicate imageLen 0xFF)).1.flash).2
      (records ++ [⟨saved, false, false, false⟩]) := by
  have torn : Image.parse ((List.replicate imageLen 0xFF).take imageLen) = none := by decide +kernel
  have missed : store.wrote saved (List.replicate imageLen 0xFF) = false := by
    refine decide_eq_false fun whole => ?_
    have first : some (0xFF : UInt8) = some imageMagic := congrArg List.head? whole
    exact absurd first (by decide)
  have kept : (StoreEvent.cutConfig saved (List.replicate imageLen 0xFF)).records store =
      [⟨saved, false, false, false⟩] := by
    rw [StoreEvent.records, missed]
  have fair : (StoreEvent.cutConfig saved (List.replicate imageLen 0xFF)).Fair store := ⟨allowed, .inr (.inl torn)⟩
  rw [← kept]
  exact history.step fair

def erasedFlash : Flash :=
  ⟨fun _ => List.replicate imageLen 0xFF, fun _ => List.replicate calibImageLen 0xFF⟩

def settings (byte : UInt8) : Persisted :=
  ⟨List.replicate configSize byte, List.replicate profileSize byte, List.replicate calibSize byte, by simp, by simp, by simp⟩

theorem settings_allowed {byte : UInt8} (fits : ∀ rule ∈ controlTable.allowedRules, byte ∈ rule.allowed) :
    (settings byte).Allowed := by
  have all (base count : Nat) : Fits controlTable.allowedByte (base, List.replicate count byte) := by
    intro i within rule member same
    have inside : i < count := by simpa using within
    simpa [List.getD_eq_getElem?_getD, List.getElem?_replicate, inside] using fits rule member
  exact ⟨all _ _, all _ _, all _ _⟩

def zeroSettings : Persisted :=
  settings 0

theorem zeroSettings_allowed : zeroSettings.Allowed :=
  settings_allowed (by decide)

/-- A whole save, one of other settings that is cut short, and a whole one of those. -/
theorem saves_powerSafe_cut :
    ∃ cut whole,
      History (zeroStore controlTable.size) cut [⟨settings 1, true, true, true⟩, ⟨zeroSettings, false, false, false⟩] ∧
      (ConfigStore.bootLoad (zeroStore controlTable.size) cut.flash).1 =
        overlayPersistentCalib
          (overlayPersistent (zeroStore controlTable.size) (settings 1).config (settings 1).profile) (settings 1).calib ∧
      History (zeroStore controlTable.size) whole
        [⟨settings 1, true, true, true⟩, ⟨zeroSettings, false, false, false⟩, ⟨zeroSettings, true, true, true⟩] ∧
      (ConfigStore.bootLoad (zeroStore controlTable.size) whole.flash).1 =
        overlayPersistentCalib
          (overlayPersistent (zeroStore controlTable.size) zeroSettings.config zeroSettings.profile) zeroSettings.calib := by
  have booted : History (zeroStore controlTable.size)
      (ConfigStore.bootLoad (zeroStore controlTable.size) erasedFlash).2 [] := .boot erasedFlash
  have cut := (booted.save_whole (@settings_allowed 1 (by decide))).cut_config
    zeroSettings_allowed
  have whole := cut.save_whole zeroSettings_allowed
  refine ⟨_, _, cut, ?_, whole, ?_⟩
  next =>
    obtain ⟨config, here, calib, here', written, written', loaded⟩ := (saves_powerSafe cut).1 [] _ [_] rfl rfl
    have stands {record : SaveRecord} (member : record ∈ [⟨settings 1, true, true, true⟩, ⟨zeroSettings, false, false, false⟩])
        {written : SaveRecord → Bool} (not : written ⟨zeroSettings, false, false, false⟩ = false)
        (stood : record = ⟨settings 1, true, true, true⟩ ∨ written record = true) :
        record = ⟨settings 1, true, true, true⟩ := by
      rcases stood with same | stood
      next => exact same
      next =>
        simp only [List.mem_cons, List.not_mem_nil, or_false] at member
        rcases member with rfl | rfl
        next => rfl
        next => rw [not] at stood; cases stood
    obtain rfl := stands here rfl written
    obtain rfl := stands here' rfl written'
    exact loaded _
  next =>
    obtain ⟨config, here, calib, here', -, -, loaded⟩ := (saves_powerSafe whole).1 [_, _] _ [] rfl rfl
    obtain rfl := List.mem_singleton.mp here
    obtain rfl := List.mem_singleton.mp here'
    exact loaded _

end OpenServo.Core
