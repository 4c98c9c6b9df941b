import Mathlib.Data.List.Basic

set_option autoImplicit false

namespace OpenServo.Protocol

def polyReflected : UInt16 := 0xA001

def shiftStep (crc : UInt16) : UInt16 :=
  if crc &&& 1 ≠ 0 then (crc >>> 1) ^^^ polyReflected else crc >>> 1

def update (crc : UInt16) (byte : UInt8) : UInt16 :=
  Nat.repeat shiftStep 8 (crc ^^^ byte.toUInt16)

def oscCrcContinue (crc : UInt16) (chunk : List UInt8) : UInt16 :=
  chunk.foldl update crc

def oscCrc (covered : List UInt8) : UInt16 :=
  oscCrcContinue 0 covered

@[simp] theorem oscCrcContinue_nil (crc : UInt16) : oscCrcContinue crc [] = crc := rfl

@[simp] theorem oscCrcContinue_cons (crc : UInt16) (byte : UInt8) (chunk : List UInt8) :
    oscCrcContinue crc (byte :: chunk) = oscCrcContinue (update crc byte) chunk := rfl

theorem oscCrcContinue_append (crc : UInt16) (first second : List UInt8) :
    oscCrcContinue crc (first ++ second) = oscCrcContinue (oscCrcContinue crc first) second := by
  simp [oscCrcContinue, List.foldl_append]

@[simp] theorem update_zero_zero : update 0 0 = 0 := by
  decide

/-- The break byte at the anchor is a no-op, which lets a receiver feed the span from either parity. -/
theorem oscCrc_break_cons (covered : List UInt8) : oscCrc (0 :: covered) = oscCrc covered := by
  simp [oscCrc]

example : oscCrc [0x31, 0x32, 0x33, 0x34, 0x35, 0x36, 0x37, 0x38, 0x39] = 0xBB3D := by
  decide +kernel

end OpenServo.Protocol
