import OpenServo.Protocol.Bytes
import OpenServo.Protocol.Wire

set_option autoImplicit false

namespace OpenServo.Protocol

structure Header where
  brk : UInt8
  id : UInt8
  len : UInt8
  inst : Inst
deriving DecidableEq, Repr

def Header.size : Nat := 4

/-- The framer lets no `LEN` under 3 through, so the source's subtraction does not wrap. -/
def Header.payloadLen (header : Header) : Nat :=
  header.len.toNat - 3

def addresses (frameId own : UInt8) : Bool :=
  isBroadcast frameId || frameId == own

structure ReadReq where
  addr : UInt16
  count : UInt16
deriving DecidableEq, Repr

def ReadReq.parse (payload : FrameBytes) : Option ReadReq := do
  guard (payload.len = 4)
  return ⟨← payload.u16LeAt 0, ← payload.u16LeAt 2⟩

def ProfileReq.parse (payload : FrameBytes) : Option UInt8 := do
  guard (payload.len = 1)
  payload.u8At 0

structure WriteReq where
  addr : UInt16
  data : FrameBytes
deriving DecidableEq, Repr

def WriteReq.parse (payload : FrameBytes) : Option WriteReq := do
  let addr ← payload.u16LeAt 0
  guard (2 ≤ payload.len)
  return ⟨addr, ← payload.sub 2 (payload.len - 2)⟩

structure MgmtReq where
  op : MgmtOp
  args : FrameBytes
deriving DecidableEq, Repr

def MgmtReq.parse (payload : FrameBytes) : Option MgmtReq := do
  let op ← MgmtOp.fromByte (← payload.u8At 0)
  guard (1 ≤ payload.len)
  return ⟨op, ← payload.sub 1 (payload.len - 1)⟩

structure EnumReq where
  prefixLen : UInt8
  prefixBits : List UInt8
deriving DecidableEq, Repr

def EnumReq.maxPrefixBits : Nat :=
  uidLen * 8

def EnumReq.parse (args : FrameBytes) : Option EnumReq := do
  let prefixLen ← args.u8At 0
  guard (prefixLen.toNat ≤ maxPrefixBits)
  let n := (prefixLen.toNat + 7) / 8
  guard (args.len = 1 + n)
  let body ← args.sub 1 n
  -- The rest of the sixteen bytes stays zero.
  return ⟨prefixLen, body.bytes ++ List.replicate (uidLen - n) 0⟩

structure AssignReq where
  uid : List UInt8
  newId : UInt8
deriving DecidableEq, Repr

def AssignReq.parse (args : FrameBytes) : Option AssignReq := do
  guard (args.len = uidLen + 1)
  let uid ← args.sub 0 uidLen
  return ⟨uid.bytes, ← args.u8At uidLen⟩

structure CalReq where
  gapUs : UInt16
  gaps : UInt8
deriving DecidableEq, Repr

def CalReq.parse (args : FrameBytes) : Option CalReq := do
  guard (args.len = 3)
  let gapUs ← args.u16LeAt 0
  let gaps ← args.u8At 2
  guard (gapUs ≠ 0 ∧ gaps ≠ 0)
  return ⟨gapUs, gaps⟩

end OpenServo.Protocol
