import OpenServo.Host.HostBus

set_option autoImplicit false

namespace OpenServo.Link

open OpenServo.Protocol OpenServo.Host

def u32ToLe (value : UInt32) : List UInt8 :=
  [value.toUInt8, (value >>> 8).toUInt8, (value >>> 16).toUInt8, (value >>> 24).toUInt8]

def u32FromLe (a b c d : UInt8) : UInt32 :=
  a.toUInt32 ||| (b.toUInt32 <<< 8) ||| (c.toUInt32 <<< 16) ||| (d.toUInt32 <<< 24)

theorem or_shiftLeft {low : Nat} (shift : Nat) (small : low < 1 <<< shift) (high : Nat) :
    low ||| high <<< shift = low + high <<< shift := by
  rw [Nat.one_shiftLeft] at small
  rw [Nat.or_comm, ← Nat.shiftLeft_add_eq_or_of_lt small, Nat.add_comm]

theorem u32FromLe_toNat (a b c d : UInt8) :
    (u32FromLe a b c d).toNat = a.toNat + b.toNat * 256 + c.toNat * 65536 + d.toNat * 16777216 := by
  have first := a.toNat_lt
  have second := b.toNat_lt
  have third := c.toNat_lt
  have fourth := d.toNat_lt
  have shift8 : b.toNat <<< 8 = b.toNat * 256 := Nat.shiftLeft_eq _ 8
  have shift16 : c.toNat <<< 16 = c.toNat * 65536 := Nat.shiftLeft_eq _ 16
  have shift24 : d.toNat <<< 24 = d.toNat * 16777216 := Nat.shiftLeft_eq _ 24
  simp only [u32FromLe, UInt32.toNat_or, UInt32.toNat_shiftLeft, UInt8.toNat_toUInt32]
  rw [show UInt32.toNat 8 % 32 = 8 from rfl, show UInt32.toNat 16 % 32 = 16 from rfl,
    show UInt32.toNat 24 % 32 = 24 from rfl, Nat.mod_eq_of_lt (by omega), Nat.mod_eq_of_lt (by omega),
    Nat.mod_eq_of_lt (by omega), or_shiftLeft 8 (by omega), or_shiftLeft 16 (by omega), or_shiftLeft 24 (by omega),
    shift8, shift16, shift24]

theorem u32FromLe_toLe (value : UInt32) :
    u32FromLe value.toUInt8 (value >>> 8).toUInt8 (value >>> 16).toUInt8 (value >>> 24).toUInt8 = value := by
  have bound := value.toNat_lt
  apply UInt32.toNat_inj.mp
  simp only [u32FromLe_toNat, UInt32.toNat_toUInt8, UInt32.toNat_shiftRight]
  rw [show UInt32.toNat 8 % 32 = 8 from rfl, show UInt32.toNat 16 % 32 = 16 from rfl,
    show UInt32.toNat 24 % 32 = 24 from rfl]
  simp only [Nat.shiftRight_eq_div_pow]
  omega
def recHello : UInt8 := 0x00
def recSubmit : UInt8 := 0x01
def recEnterBootloader : UInt8 := 0x40
def recSetRails : UInt8 := 0x60
def recWireSend : UInt8 := 0x61
def recWireBurst : UInt8 := 0x62
def recWirePulse : UInt8 := 0x63
def recEdgeDrain : UInt8 := 0x64
def recCaptureReset : UInt8 := 0x65
def recWireTrain : UInt8 := 0x66
def recWireBaud : UInt8 := 0x67

def recInfo : UInt8 := 0x80
def recStatus : UInt8 := 0x81
def recTerminal : UInt8 := 0x82
def recRejected : UInt8 := 0x83
def recUnknown : UInt8 := 0x84
def recBootloaderAck : UInt8 := 0x48
def recRailsAck : UInt8 := 0x68
def recWireDone : UInt8 := 0x69
def recEdges : UInt8 := 0x6C
def recCaptureAck : UInt8 := 0x6D

def railsBootState : UInt8 := 0b11

def drainMax : Nat := 64

def verbExchange : UInt8 := 0x00
def verbRescue : UInt8 := 0x01
def verbHostBaud : UInt8 := 0x02
def verbSetResponseDeadline : UInt8 := 0x03

def reasonBadId : UInt8 := 0x00
def reasonBadInst : UInt8 := 0x01
def reasonBadPayload : UInt8 := 0x02
def reasonTooLong : UInt8 := 0x03
def reasonBusy : UInt8 := 0x04
def reasonMalformed : UInt8 := 0x05

def outcomeSent : UInt8 := 0x00
def outcomeComplete : UInt8 := 0x01
def outcomeTimeout : UInt8 := 0x02

def flagGarbleAfterLastFrame : UInt8 := 1

def linkVersion : UInt8 := 1

/-- What a record carries that no command owns. -/
def seqNone : UInt16 := 0xFFFF

def reasonCode : InvalidReason → UInt8
  | .badId => reasonBadId
  | .badInst => reasonBadInst
  | .badPayload => reasonBadPayload
  | .tooLong => reasonTooLong

def sealed (body : List UInt8) : List UInt8 :=
  u16ToLe (UInt16.ofNat body.length) ++ body

def info (ticksPerUs : UInt32) : List UInt8 :=
  sealed ([recInfo, linkVersion] ++ u32ToLe ticksPerUs)

def rejected (seq : UInt16) (reason : UInt8) : List UInt8 :=
  sealed ([recRejected] ++ u16ToLe seq ++ [reason])

def unknown (rtype : UInt8) : List UInt8 :=
  sealed [recUnknown, rtype]

def bootloaderAck : List UInt8 :=
  sealed [recBootloaderAck]

def railsAck (state : UInt8) : List UInt8 :=
  sealed [recRailsAck, state]

def wireDone (seq : UInt16) (tick : UInt32) : List UInt8 :=
  sealed ([recWireDone] ++ u16ToLe seq ++ u32ToLe tick)

def edges (overflow : Bool) (now : UInt32) (falls rises : List UInt16) : List UInt8 :=
  sealed ([recEdges, overflow.toUInt8] ++ u32ToLe now ++
    [UInt8.ofNat falls.length, UInt8.ofNat rises.length] ++ (falls ++ rises).flatMap u16ToLe)

def captureAck : List UInt8 :=
  sealed [recCaptureAck]

def status (seq : UInt16) (slot id : UInt8) (inst : Inst) (payload : FrameBytes) : List UInt8 :=
  sealed ([recStatus] ++ u16ToLe seq ++ [slot, id, inst] ++ payload.head ++ payload.tail)

def terminal (seq : UInt16) (t : Terminal) : List UInt8 :=
  let (outcome, slot) : UInt8 × UInt8 :=
    match t.outcome with
    | .sent => (outcomeSent, 0)
    | .complete => (outcomeComplete, 0)
    | .timeout slot => (outcomeTimeout, slot)
  sealed ([recTerminal] ++ u16ToLe seq ++ [outcome, slot] ++ u32ToLe t.tick ++ [t.evidence.statuses] ++
    u16ToLe t.evidence.garble ++ [if t.evidence.garbleAfterLastFrame then flagGarbleAfterLastFrame else 0])

inductive Reply where
  | info (ticksPerUs : UInt32)
  | status (seq : UInt16) (slot id : UInt8) (inst : Inst) (payload : FrameBytes)
  | terminal (seq : UInt16) (t : Terminal)
  | rejected (seq : UInt16) (reason : UInt8)
  | unknown (rtype : UInt8)
  | bootloaderAck
  | railsAck (state : UInt8)
  | wireDone (seq : UInt16) (tick : UInt32)
  | edges (overflow : Bool) (now : UInt32) (falls rises : List UInt16)
  | captureAck
deriving DecidableEq

def Reply.record : Reply → List UInt8
  | .info ticksPerUs => Link.info ticksPerUs
  | .status seq slot id inst payload => Link.status seq slot id inst payload
  | .terminal seq t => Link.terminal seq t
  | .rejected seq reason => Link.rejected seq reason
  | .unknown rtype => Link.unknown rtype
  | .bootloaderAck => Link.bootloaderAck
  | .railsAck state => Link.railsAck state
  | .wireDone seq tick => Link.wireDone seq tick
  | .edges overflow now falls rises => Link.edges overflow now falls rises
  | .captureAck => Link.captureAck

def Reply.body (reply : Reply) : List UInt8 :=
  reply.record.drop 2

theorem Reply.record_sealed (reply : Reply) : reply.record = sealed reply.body := by
  cases reply <;> rfl

/-- The scratch a record is written to; a longer one panics. -/
def outCap : Nat := 300

end OpenServo.Link
