import OpenServo.Core.Regions
import OpenServo.Protocol.Crc

set_option autoImplicit false

namespace OpenServo.Core

open OpenServo.Protocol OpenServo.Shared OpenServo.Table

def headerLen : Nat := 8

def imageLen : Nat := headerLen + configSize + profileSize

def calibImageLen : Nat := headerLen + calibSize

def imageMagic : UInt8 := 0x43

def imageVersion : UInt8 := 3

def calibImageMagic : UInt8 := 0x4B

def calibImageVersion : UInt8 := 1

inductive Slot where
  | a
  | b
deriving DecidableEq, Repr

def Slot.other : Slot → Slot
  | .a => .b
  | .b => .a

structure BootPick where
  nextSlot : Slot
  nextSeq : UInt16
  loaded : Bool
deriving DecidableEq, Repr

structure Image where
  seq : UInt16
  config : List UInt8
  profile : List UInt8
deriving DecidableEq, Repr

structure CalibImage where
  seq : UInt16
  calib : List UInt8
deriving DecidableEq, Repr

/-- The header both image kinds share. The CRC sits in it, after the six bytes it covers, and runs
on over the body's segments. -/
def slotHeader (magic version : UInt8) (bodyLen : Nat) (seq : UInt16) (segments : List (List UInt8)) :
    List UInt8 :=
  let front := [magic, version] ++ u16ToLe seq ++ u16ToLe (UInt16.ofNat bodyLen)
  front ++ u16ToLe (segments.foldl oscCrcContinue (oscCrc front))

def header (seq : UInt16) (config profile : List UInt8) : List UInt8 :=
  slotHeader imageMagic imageVersion (configSize + profileSize) seq [config, profile]

def assemble (seq : UInt16) (config profile : List UInt8) : List UInt8 :=
  header seq config profile ++ config ++ profile

def calibHeader (seq : UInt16) (calib : List UInt8) : List UInt8 :=
  slotHeader calibImageMagic calibImageVersion calibSize seq [calib]

def calibAssemble (seq : UInt16) (calib : List UInt8) : List UInt8 :=
  calibHeader seq calib ++ calib

def Image.persistedByte (image : Image) (addr : Nat) : Option UInt8 :=
  if configBase ≤ addr ∧ addr < configBase + configSize then
    some (image.config.getD (addr - configBase) 0)
  else if profileBase ≤ addr ∧ addr < profileBase + profileSize then
    some (image.profile.getD (addr - profileBase) 0)
  else none

def CalibImage.persistedByte (image : CalibImage) (addr : Nat) : Option UInt8 :=
  if calibBase ≤ addr ∧ addr < calibBase + calibSize then some (image.calib.getD (addr - calibBase) 0)
  else none

def fieldsAllowed (persistedByte : Nat → Option UInt8) : Bool :=
  controlTable.allowedRules.all (fun rule =>
    match persistedByte rule.addr with
    | some b => rule.allowed.contains b
    | none => true)

/-- The header gates both image kinds share: length, magic, version, body length and CRC. -/
def parseSlot (slot : List UInt8) (len bodyLen : Nat) (magic version : UInt8) :
    Option (UInt16 × List UInt8) :=
  if slot.length < len then none
  else
    let bytes := slot.take len
    let word (i : Nat) : UInt16 := u16FromLe (bytes.getD i 0) (bytes.getD (i + 1) 0)
    if bytes.getD 0 0 ≠ magic ∨ bytes.getD 1 0 ≠ version then none
    else if (word 4).toNat ≠ bodyLen then none
    else if oscCrcContinue (oscCrc (bytes.take 6)) (bytes.drop headerLen) ≠ word 6 then none
    else some (word 2, bytes.drop headerLen)

def Image.parse (slot : List UInt8) : Option Image := do
  let (seq, body) ← parseSlot slot imageLen (configSize + profileSize) imageMagic imageVersion
  let image : Image := ⟨seq, body.take configSize, body.drop configSize⟩
  if fieldsAllowed image.persistedByte then some image else none

def CalibImage.parse (slot : List UInt8) : Option CalibImage := do
  let (seq, body) ← parseSlot slot calibImageLen calibSize calibImageMagic calibImageVersion
  let image : CalibImage := ⟨seq, body⟩
  if fieldsAllowed image.persistedByte then some image else none

/-- The wrapping-newest of two validated images, and the slot the next save takes. -/
def pickNewest {T : Type} (a b : Option T) (seq : T → UInt16) : Option T × Slot :=
  match a, b with
  | some a, some b =>
    let ahead := seq a - seq b
    if 0 < ahead ∧ ahead < 0x8000 then (some a, .b) else (some b, .a)
  | some a, none => (some a, .b)
  | none, b => (b, .a)

def overlayPersistent (table : ControlTable) (config profile : List UInt8) : ControlTable :=
  let skip := Addr.id
  poke (poke table (configBase + skip) (config.drop skip)) profileBase profile

def overlayPersistentCalib (table : ControlTable) (calib : List UInt8) : ControlTable :=
  poke table calibBase calib

def bootPick (seq : Option UInt16) (nextSlot : Slot) : BootPick :=
  match seq with
  | some seq => ⟨nextSlot, seq + 1, true⟩
  | none => ⟨.a, 1, false⟩

def bootOverlay (table : ControlTable) (slotA slotB : List UInt8) : ControlTable × BootPick :=
  let (image, nextSlot) := pickNewest (Image.parse slotA) (Image.parse slotB) Image.seq
  let table :=
    match image with
    | some image => overlayPersistent table image.config image.profile
    | none => table
  (table, bootPick (image.map Image.seq) nextSlot)

def bootOverlayCalib (table : ControlTable) (slotA slotB : List UInt8) : ControlTable × BootPick :=
  let (image, nextSlot) := pickNewest (CalibImage.parse slotA) (CalibImage.parse slotB) CalibImage.seq
  let table :=
    match image with
    | some image => overlayPersistentCalib table image.calib
    | none => table
  (table, bootPick (image.map CalibImage.seq) nextSlot)

end OpenServo.Core
