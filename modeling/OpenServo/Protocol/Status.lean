import OpenServo.Protocol.Frame
import OpenServo.Protocol.Reply

set_option autoImplicit false

namespace OpenServo.Protocol

def ResultCode.fromBits (b : UInt8) : Option ResultCode :=
  if b = 0 then some .ok
  else if b = 1 then some .instruction
  else if b = 2 then some .range
  else if b = 3 then some .access
  else if b = 4 then some .validation
  else if b = 5 then some .busy
  else if b = 6 then some .limit
  else if b = 7 then some .predecessorSilent
  else if b = 8 then some .hardware
  else none

namespace Inst

def result (inst : Inst) : Option ResultCode :=
  if !isStatus inst then none else ResultCode.fromBits ((inst >>> 2) &&& 0x1F)

def alert (inst : Inst) : Bool :=
  inst &&& 0x01 != 0

end Inst

inductive FrameError where
  | shortLen
  | badId
  | badOpcode
deriving DecidableEq

def Header.validate (header : Header) : Except FrameError Unit :=
  if header.len < 3 then .error .shortLen
  else if !(isUnicast header.id || isBroadcast header.id) then .error .badId
  else if !header.inst.isStatus && header.inst.opcode.isNone then .error .badOpcode
  else .ok ()

end OpenServo.Protocol
