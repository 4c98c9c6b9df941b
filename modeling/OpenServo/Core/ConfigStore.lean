import OpenServo.Core.SavedImage

set_option autoImplicit false

namespace OpenServo.Core

open OpenServo.Protocol OpenServo.Shared OpenServo.Table

structure Persisted where
  config : List UInt8
  profile : List UInt8
  calib : List UInt8
  configLen : config.length = configSize
  profileLen : profile.length = profileSize
  calibLen : calib.length = calibSize

structure Flash where
  slots : Slot → List UInt8
  calibSlots : Slot → List UInt8

def Flash.slotBytes (flash : Flash) (slot : Slot) : List UInt8 :=
  (flash.slots slot).take imageLen

def Flash.calibSlotBytes (flash : Flash) (slot : Slot) : List UInt8 :=
  (flash.calibSlots slot).take calibImageLen

def Flash.leave (flash : Flash) (slot : Slot) (left : List UInt8) : Flash :=
  { flash with slots := fun other => if other = slot then left else flash.slots other }

def Flash.leaveCalib (flash : Flash) (slot : Slot) (left : List UInt8) : Flash :=
  { flash with calibSlots := fun other => if other = slot then left else flash.calibSlots other }

structure StoreState where
  nextSlot : Slot
  nextSeq : UInt16
  calibNextSlot : Slot
  calibNextSeq : UInt16
deriving DecidableEq, Repr

def StoreState.erased : StoreState :=
  ⟨.a, 1, .a, 1⟩

structure ConfigStore where
  flash : Flash
  state : StoreState

def ConfigStore.bootLoad (table : ControlTable) (flash : Flash) : ControlTable × ConfigStore :=
  let config := bootOverlay table (flash.slotBytes .a) (flash.slotBytes .b)
  let calib := bootOverlayCalib config.1 (flash.calibSlotBytes .a) (flash.calibSlotBytes .b)
  (calib.1, ⟨flash, ⟨config.2.nextSlot, config.2.nextSeq, calib.2.nextSlot, calib.2.nextSeq⟩⟩)

inductive StoreError where
  | notIntact
deriving DecidableEq, Repr

def ConfigStore.saveConfig (store : ConfigStore) (saved : Persisted) (left : List UInt8) :
    ConfigStore × Except StoreError Unit :=
  let state := store.state
  let header := header state.nextSeq saved.config saved.profile
  let flash := store.flash.leave state.nextSlot left
  let stored := flash.slotBytes state.nextSlot
  if stored.take headerLen = header ∧ (stored.drop headerLen).take configSize = saved.config ∧
      stored.drop (headerLen + configSize) = saved.profile then
    (⟨flash, { state with nextSlot := state.nextSlot.other, nextSeq := state.nextSeq + 1 }⟩, .ok ())
  else (⟨flash, state⟩, .error .notIntact)

/-- The CALIB half; its image spans two pages, and `left` is what both hold in the end. -/
def ConfigStore.saveCalib (store : ConfigStore) (saved : Persisted) (left : List UInt8) :
    ConfigStore × Except StoreError Unit :=
  let state := store.state
  let header := calibHeader state.calibNextSeq saved.calib
  let flash := store.flash.leaveCalib state.calibNextSlot left
  let stored := flash.calibSlotBytes state.calibNextSlot
  if stored.take headerLen = header ∧ stored.drop headerLen = saved.calib then
    (⟨flash, { state with calibNextSlot := state.calibNextSlot.other,
                          calibNextSeq := state.calibNextSeq + 1 }⟩, .ok ())
  else (⟨flash, state⟩, .error .notIntact)

def ConfigStore.save (store : ConfigStore) (saved : Persisted) (config calib : List UInt8) :
    ConfigStore × Except StoreError Unit :=
  let first := store.saveConfig saved config
  match first.2 with
  | .ok () => first.1.saveCalib saved calib
  | .error e => (first.1, .error e)

inductive Page where
  | config (slot : Slot)
  | calibFront (slot : Slot)
  | calibTail (slot : Slot)
deriving DecidableEq, Repr

def wipePages : List Page :=
  [.config .a, .config .b, .calibFront .a, .calibTail .a, .calibFront .b, .calibTail .b]

inductive Erasure where
  | failed
  | left (bytes : List UInt8)
deriving DecidableEq, Repr

def Flash.erase (flash : Flash) (page : Page) : Erasure → Flash
  | .failed => flash
  | .left bytes =>
    match page with
    | .config slot => flash.leave slot bytes
    | .calibFront slot | .calibTail slot => flash.leaveCalib slot bytes

/-- The erases of a wipe as far as it gets; a power cut ends them early. -/
def Flash.wipe (flash : Flash) (erasures : List Erasure) : Flash :=
  (wipePages.zip erasures).foldl (fun flash erase => flash.erase erase.1 erase.2) flash

/-- A wipe that runs to its end: no erase reports anything, so the readback decides. -/
def ConfigStore.wipe (store : ConfigStore) (erasures : List Erasure) : ConfigStore × Except StoreError Unit :=
  let flash := store.flash.wipe erasures
  if [Slot.a, Slot.b].any (fun slot =>
      (flash.slotBytes slot).any (· != 0xFF) || (flash.calibSlotBytes slot).any (· != 0xFF)) then
    (⟨flash, store.state⟩, .error .notIntact)
  else (⟨flash, .erased⟩, .ok ())

end OpenServo.Core
