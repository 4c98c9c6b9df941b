import OpenServo.Protocol.Wire
import OpenServo.Table.Map

set_option autoImplicit false

namespace OpenServo.Core

open OpenServo.Protocol OpenServo.Shared OpenServo.Table

def tableSize : Nat := 1024

def configBase : Nat := 0x000
def configSize : Nat := 128
def calibBase : Nat := 0x080
def calibSize : Nat := 256
def controlBase : Nat := 0x180
def controlSize : Nat := 128
def telemetryBase : Nat := 0x200
def telemetrySize : Nat := 128
def profileBase : Nat := 0x280
def profileSize : Nat := 64

namespace Addr

def modelNumber : Nat := 0
def id : Nat := 16
def baudRateIdx : Nat := 17
def responseDeadlineUs : Nat := 18
def posMinPhys : Nat := 32
def posMaxPhys : Nat := 36
def posMinSoft : Nat := 40
def posMaxSoft : Nat := 44
def dutyMaxQ15 : Nat := 54
def currentLimit : Nat := 72
def cutoffCc : Nat := 92
def recoverCc : Nat := 94
def torqueEnable : Nat := 384
def telMask : Nat := 386
def goalDuty : Nat := 390
def goalPosition : Nat := 392
def goalCurrent : Nat := 400
def bootMode : Nat := 404
def faultFlags : Nat := 512
def statusFlags : Nat := 513

end Addr

/-- Maximal runs of host-writable fields, as address and length. -/
def writableRuns : List (Nat × Nat) :=
  [(16, 4), (32, 85), (128, 114), (250, 2), (258, 30), (384, 5), (390, 12), (404, 1), (516, 8),
    (640, 64)]

def writableWord (wi : Nat) : UInt32 :=
  (List.range 32).foldl (fun word bit =>
    let a := wi * 32 + bit
    if writableRuns.any (fun run => run.1 ≤ a && a < run.1 + run.2) then
      word ||| (1 <<< UInt32.ofNat bit)
    else word) 0

def allowedRules : List AllowedRule :=
  [⟨74, [0, 1]⟩, ⟨75, [0, 1]⟩, ⟨89, [0, 1]⟩, ⟨384, [0, 1]⟩, ⟨385, [0, 1]⟩, ⟨388, [0, 1, 2, 3]⟩,
    ⟨404, [0, 1]⟩]

def i32Rule (addr : Nat) (op : Op) (reg : Nat) : CmpRule :=
  ⟨addr, 4, true, false, op, .reg reg⟩

def i16Rule (addr : Nat) (abs : Bool) (op : Op) (reg : Nat) : CmpRule :=
  ⟨addr, 2, true, abs, op, .reg reg⟩

def immRule (addr width : Nat) (op : Op) (value : Int) : CmpRule :=
  ⟨addr, width, false, false, op, .imm value⟩

def posMinPhysRule : CmpRule := i32Rule Addr.posMinPhys .lt Addr.posMaxPhys
def posMaxPhysRule : CmpRule := i32Rule Addr.posMaxPhys .gt Addr.posMinPhys
def posMinSoftRule : CmpRule := i32Rule Addr.posMinSoft .lt Addr.posMaxSoft
def posMaxSoftRule : CmpRule := i32Rule Addr.posMaxSoft .gt Addr.posMinSoft
def cutoffRule : CmpRule := i16Rule Addr.cutoffCc false .gt Addr.recoverCc
def recoverRule : CmpRule := i16Rule Addr.recoverCc false .lt Addr.cutoffCc

def configCmpRules : List CmpRule :=
  [immRule Addr.id 1 .ge 1,
    immRule Addr.id 1 .le 249,
    immRule Addr.baudRateIdx 1 .le 3,
    posMinPhysRule,
    posMaxPhysRule,
    i32Rule Addr.posMinSoft .ge Addr.posMinPhys,
    i32Rule Addr.posMinSoft .le Addr.posMaxPhys,
    posMinSoftRule,
    i32Rule Addr.posMaxSoft .ge Addr.posMinPhys,
    i32Rule Addr.posMaxSoft .le Addr.posMaxPhys,
    posMaxSoftRule,
    immRule Addr.dutyMaxQ15 2 .le 32767,
    cutoffRule,
    recoverRule]

def controlCmpRules : List CmpRule :=
  [immRule Addr.telMask 2 .le 0x3F,
    i16Rule Addr.goalDuty true .le Addr.dutyMaxQ15,
    i32Rule Addr.goalPosition .ge Addr.posMinPhys,
    i32Rule Addr.goalPosition .le Addr.posMaxPhys,
    i16Rule Addr.goalCurrent true .le Addr.currentLimit]

def sections : List SectionMeta :=
  [⟨configBase, configSize, (0, 14), (0, 3)⟩,
    ⟨calibBase, calibSize, (14, 14), (3, 3)⟩,
    ⟨controlBase, controlSize, (14, 19), (3, 7)⟩,
    ⟨telemetryBase, telemetrySize, (19, 19), (7, 7)⟩,
    ⟨profileBase, profileSize, (19, 19), (7, 7)⟩]

def controlTable : RegisterMap where
  size := tableSize
  writable := (List.range 32).map writableWord
  sections := sections
  cmpRules := configCmpRules ++ controlCmpRules
  allowedRules := allowedRules

abbrev ControlTable := Store controlTable.size

theorem controlTable_wellFormed : controlTable.WellFormed where
  allowedOwned := by decide
  cmpOwned := by decide
  allowedSorted := by decide
  cmpSorted := by decide

inductive BootMode where
  | app
  | bootloader
deriving DecidableEq, Repr

def BootMode.ofByte (b : UInt8) : BootMode :=
  if b = 1 then .bootloader else .app

structure ConfigDefaults where
  posMinPhysCounts : Int
  posMaxPhysCounts : Int
  id : UInt8
  baud : BaudRate
  responseDeadlineUs : UInt16

def leBytes : Nat → Nat → List UInt8
  | 0, _ => []
  | count + 1, value => UInt8.ofNat value :: leBytes count (value / 256)

@[simp] theorem leBytes_length (count value : Nat) : (leBytes count value).length = count := by
  induction count generalizing value with
  | zero => rfl
  | succ count ih => simp [leBytes, ih]

def i32Bytes (value : Int) : List UInt8 :=
  leBytes 4 (value % 2 ^ 32).toNat

def seedWrites (defaults : ConfigDefaults) : List (Nat × List UInt8) :=
  [(32, i32Bytes defaults.posMinPhysCounts),
    (36, i32Bytes defaults.posMaxPhysCounts),
    (40, i32Bytes defaults.posMinPhysCounts),
    (44, i32Bytes defaults.posMaxPhysCounts),
    (16, [defaults.id]),
    (17, [defaults.baud.asIdx]),
    (18, leBytes 2 defaults.responseDeadlineUs.toNat),
    (54, leBytes 2 32767),
    (68, leBytes 2 1500),
    (70, leBytes 2 3840),
    (66, leBytes 2 12),
    (72, leBytes 2 1200),
    (75, [1]),
    (76, leBytes 2 500),
    (78, leBytes 2 500),
    (80, leBytes 2 300),
    (82, leBytes 2 150),
    (84, leBytes 2 1200),
    (86, leBytes 2 2400),
    (88, [8]),
    (90, leBytes 2 8000),
    (92, leBytes 2 10000),
    (94, leBytes 2 9000),
    (96, leBytes 2 2200),
    (98, leBytes 2 300),
    (100, leBytes 2 400),
    (110, leBytes 2 400),
    (112, leBytes 2 500),
    (114, leBytes 2 256),
    (116, [4])]

def seedConfigDefaults (defaults : ConfigDefaults) (table : ControlTable) : ControlTable :=
  (seedWrites defaults).foldl (fun table write => poke table write.1 write.2) table

end OpenServo.Core
