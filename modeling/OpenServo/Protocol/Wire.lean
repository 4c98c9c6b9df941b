import Mathlib.Data.List.Basic

set_option autoImplicit false

namespace OpenServo.Protocol

def broadcast : UInt8 := 0xFE

def isUnicast (id : UInt8) : Bool :=
  0x01 ≤ id && id ≤ 0xF9

def isBroadcast (id : UInt8) : Bool :=
  id == broadcast

inductive BaudRate where
  | b500000
  | b1000000
  | b2000000
  | b3000000
deriving DecidableEq, Repr

def BaudRate.asIdx : BaudRate → UInt8
  | .b500000 => 0
  | .b1000000 => 1
  | .b2000000 => 2
  | .b3000000 => 3

def BaudRate.asHz : BaudRate → UInt32
  | .b500000 => 500000
  | .b1000000 => 1000000
  | .b2000000 => 2000000
  | .b3000000 => 3000000

def BaudRate.fromIdx (idx : UInt8) : Option BaudRate :=
  if idx = 0 then some .b500000
  else if idx = 1 then some .b1000000
  else if idx = 2 then some .b2000000
  else if idx = 3 then some .b3000000
  else none

inductive Opcode where
  | ping
  | read
  | write
  | commit
  | gread
  | gwrite
  | mgmt
deriving DecidableEq, Repr

def Opcode.fromBits (b : UInt8) : Option Opcode :=
  if b = 0x1 then some .ping
  else if b = 0x2 then some .read
  else if b = 0x3 then some .write
  else if b = 0x4 then some .commit
  else if b = 0x5 then some .gread
  else if b = 0x6 then some .gwrite
  else if b = 0x7 then some .mgmt
  else none

inductive ResultCode where
  | ok
  | instruction
  | range
  | access
  | validation
  | busy
  | limit
  | predecessorSilent
  | hardware
deriving DecidableEq, Repr

def ResultCode.bits : ResultCode → UInt8
  | .ok => 0
  | .instruction => 1
  | .range => 2
  | .access => 3
  | .validation => 4
  | .busy => 5
  | .limit => 6
  | .predecessorSilent => 7
  | .hardware => 8

inductive MgmtOp where
  | enum
  | assign
  | save
  | reboot
  | factory
  | cal
deriving DecidableEq, Repr

def MgmtOp.fromByte (b : UInt8) : Option MgmtOp :=
  if b = 0x01 then some .enum
  else if b = 0x02 then some .assign
  else if b = 0x03 then some .save
  else if b = 0x04 then some .reboot
  else if b = 0x05 then some .factory
  else if b = 0x06 then some .cal
  else none

/-- The packed `INST` byte: bit 7 selects the instruction or the status layout. -/
abbrev Inst := UInt8

namespace Inst

def isStatus (inst : Inst) : Bool :=
  inst &&& 0x80 != 0

def opcode (inst : Inst) : Option Opcode :=
  if isStatus inst then none else Opcode.fromBits ((inst >>> 4) &&& 0x07)

def hold (inst : Inst) : Bool :=
  inst &&& 0x01 != 0

/-- Bit 0 again: on READ and GREAD the payload names a profile slot. -/
def profile (inst : Inst) : Bool :=
  hold inst

def noreply (inst : Inst) : Bool :=
  inst &&& 0x04 != 0

def perTarget (inst : Inst) : Bool :=
  inst &&& 0x08 != 0

def status (result : ResultCode) (alert : Bool) : Inst :=
  let b := (0x80 : UInt8) ||| (result.bits <<< (2 : UInt8))
  if alert then b ||| 0x01 else b

end Inst

def maxPayload : Nat := 252

def uidLen : Nat := 16

def enumReplySlots : UInt8 := 16

def starveHorizonByteTimes : UInt32 := 64

def alignByte : UInt8 := 0x00

def lenFor (p : Nat) : Nat :=
  3 + p

/-- Ring bytes of a frame, the break byte included. -/
def footprint (len : UInt8) : Nat :=
  3 + len.toNat

def coveredLen (len : Nat) : Nat :=
  1 + len

theorem footprint_le (len : UInt8) : footprint len ≤ 258 := by
  have bound := len.toNat_lt
  simp only [footprint]
  omega

end OpenServo.Protocol
