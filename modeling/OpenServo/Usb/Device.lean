import OpenServo.Protocol.Bytes
import OpenServo.Shared.ByteStore

set_option autoImplicit false

namespace OpenServo.Usb

open OpenServo.Protocol OpenServo.Shared

section Descriptors

def ep0Mps : Nat := 64
def bulkMpsHs : Nat := 512
def bulkMpsFs : Nat := 64

def vid : UInt16 := 0x1209
def pid : UInt16 := 0x0001

def msVendorCode : UInt8 := 0x20

def descDevice : UInt8 := 1
def descConfig : UInt8 := 2
def descString : UInt8 := 3
def descQualifier : UInt8 := 6
def descOtherSpeed : UInt8 := 7
def descBos : UInt8 := 0x0F

def deviceDesc : List UInt8 :=
  [18, descDevice, 0x10, 0x02, 0x00, 0x00, 0x00, .ofNat ep0Mps] ++ u16ToLe vid ++ u16ToLe pid ++
    [0x00, 0x01, 1, 2, 3, 1]

def qualifierDesc : List UInt8 :=
  [10, descQualifier, 0x00, 0x02, 0x00, 0x00, 0x00, .ofNat ep0Mps, 1, 0]

def configDesc (mps : Nat) : List UInt8 :=
  [9, descConfig, 32, 0, 1, 1, 0, 0x80, 250] ++ [9, 4, 0, 0, 2, 0xFF, 0x00, 0x00, 4] ++
    ([7, 5, 0x01, 0x02] ++ u16ToLe (.ofNat mps) ++ [0]) ++ ([7, 5, 0x81, 0x02] ++ u16ToLe (.ofNat mps) ++ [0])

def msOsDescLen : Nat := 10 + 20 + 132

def bosDesc : List UInt8 :=
  [5, descBos, 33, 0, 1, 28, 0x10, 0x05, 0x00, 0xDF, 0x60, 0xDD, 0xD8, 0x89, 0x45, 0xC7, 0x4C, 0x9C, 0xD2, 0x65, 0x9D,
    0x9E, 0x64, 0x8A, 0x9F, 0x00, 0x00, 0x03, 0x06] ++ u16ToLe (.ofNat msOsDescLen) ++ [msVendorCode, 0]

def ascii (text : String) : List UInt8 :=
  text.toList.map fun c => .ofNat c.toNat

def widened (text : List UInt8) : List UInt8 :=
  text.flatMap fun c => [c, 0]

def msOsDesc : List UInt8 :=
  [10, 0, 0x00, 0x00, 0x00, 0x00, 0x03, 0x06] ++ u16ToLe (.ofNat msOsDescLen) ++ [20, 0, 0x03, 0x00] ++
    (ascii "WINUSB" ++ [0, 0]) ++ List.replicate 8 0 ++ u16ToLe 132 ++ [0x04, 0x00, 0x07, 0x00, 42, 0] ++
    widened (ascii "DeviceInterfaceGUIDs" ++ [0]) ++ u16ToLe 80 ++
    widened (ascii "\x7b9db9fbf2-52f6-4e87-9d3d-6e8e29ef6b5e\x7d" ++ [0, 0])

def strManufacturer : List UInt8 := ascii "OpenServoCore"
def strProduct : List UInt8 := ascii "osc-adapter-wchlinke"
def strInterface : List UInt8 := ascii "osc-host"

end Descriptors

section Controller

inductive Response where
  | ack
  | nak
  | stall
deriving DecidableEq

/-- The control registers of one endpoint; a toggle is set for DATA1. A `write` of a control register takes the toggle
back to DATA0 unless it names it, a `modify` keeps it. -/
structure EpCtrl where
  tLen : Nat := 0
  tTog : Bool := false
  tRes : Response := .ack
  rTog : Bool := false
  rRes : Response := .ack

def EpCtrl.writeTx (ep : EpCtrl) (tog : Bool) (res : Response) : EpCtrl :=
  { ep with tTog := tog, tRes := res }

def EpCtrl.writeRx (ep : EpCtrl) (tog : Bool) (res : Response) : EpCtrl :=
  { ep with rTog := tog, rRes := res }

inductive UsbToken where
  | out
  | sof
  | «in»
  | setup
deriving DecidableEq

structure Transfer where
  endp : Nat
  token : UsbToken
  togOk : Bool
deriving DecidableEq

structure Regs where
  highSpeed : Bool
  devAd : UInt8 := 0
  ep0 : EpCtrl := {}
  ep1 : EpCtrl := {}
  ep1En : Bool := false
  ep0Buf : Store ep0Mps := zeroStore ep0Mps
  ep1Rx : Store bulkMpsHs := zeroStore bulkMpsHs
  ep1Tx : Store bulkMpsHs := zeroStore bulkMpsHs
  rxLen : Nat := 0
  busRst : Bool := false
  setupAct : Bool := false
  transfer : Option Transfer := none
  suspend : Bool := false

end Controller

inductive Ep0 where
  | idle
  -- Streaming `stage[pos..len]` to the host, 64 B per IN.
  | dataIn (pos len : Nat)
  -- A zero-length OUT closes an IN data phase.
  | statusOut
  -- A zero-length IN closes a request without data.
  | statusIn
deriving DecidableEq

structure UsbDevice where
  ep0 : Ep0 := .idle
  ep0Tog : Bool := true
  addressPending : Option UInt8 := none
  configured : Bool := false
  txBusy : Bool := false
  txTog : Bool := false
  rxTog : Bool := false
  rxPending : Option Nat := none
  stage : Store 256 := zeroStore 256
  serial : Store 24
  regs : Regs

structure Setup where
  reqType : UInt8
  request : UInt8
  value : UInt16
  index : UInt16
  length : UInt16

def Setup.read (buf : Store ep0Mps) : Setup :=
  { reqType := peek buf 0
    request := peek buf 1
    value := u16FromLe (peek buf 2) (peek buf 3)
    index := u16FromLe (peek buf 4) (peek buf 5)
    length := u16FromLe (peek buf 6) (peek buf 7) }

def hexDigits : List UInt8 := ascii "0123456789abcdef"

namespace UsbDevice

/-- The unique id of the chip is three words, written as text the high nibble first. -/
def new (uid : List UInt32) (regs : Regs) : UsbDevice :=
  { serial := fun i => hexDigits.getD (((uid.getD (i.val / 8) 0).toNat >>> (28 - 4 * (i.val % 8))) % 16) 0
    regs := regs }

def mps (dev : UsbDevice) : Nat :=
  if dev.regs.highSpeed then bulkMpsHs else bulkMpsFs

section Bulk

def rx (dev : UsbDevice) : Option (List UInt8) :=
  dev.rxPending.map fun n => readBytes dev.regs.ep1Rx 0 n

def rxConsume (dev : UsbDevice) : UsbDevice :=
  match dev.rxPending with
  | none => dev
  | some _ => { dev with rxPending := none, regs.ep1.rRes := .ack }

def txReady (dev : UsbDevice) : Bool :=
  dev.configured && !dev.txBusy

def tx (dev : UsbDevice) (bytes : List UInt8) : UsbDevice :=
  { dev with
    regs.ep1Tx := poke dev.regs.ep1Tx 0 bytes
    regs.ep1.tLen := bytes.length
    regs.ep1.tTog := dev.txTog
    regs.ep1.tRes := .ack
    txBusy := true }

def configureEp1 (dev : UsbDevice) : UsbDevice :=
  { dev with
    regs.ep1En := true
    regs.ep1 := (dev.regs.ep1.writeRx false .ack).writeTx false .nak
    rxTog := false
    txTog := false
    txBusy := false
    rxPending := none
    configured := true }

def onEp1Transfer (dev : UsbDevice) (token : UsbToken) (togOk : Bool) : UsbDevice :=
  match token with
  | .out =>
    -- A repeated packet, whose handshake was lost, leaves the endpoint armed as it is.
    if !togOk then dev
    else
      { dev with
        rxTog := !dev.rxTog
        regs.ep1 := dev.regs.ep1.writeRx (!dev.rxTog) .nak
        rxPending := some dev.regs.rxLen }
  | .in => { dev with txTog := !dev.txTog, regs.ep1.tRes := .nak, txBusy := false }
  | .sof | .setup => dev

end Bulk

section Control

def setStage (dev : UsbDevice) (bytes : List UInt8) : UsbDevice :=
  { dev with stage := poke dev.stage 0 bytes }

def utf16String (dev : UsbDevice) (text : List UInt8) : UsbDevice × Nat :=
  ({ dev with stage := poke dev.stage 2 (widened text) }, 2 + 2 * text.length)

def stringBody (dev : UsbDevice) (idx : UInt8) : Option (UsbDevice × Nat) :=
  if idx = 0 then some ({ dev with stage := poke dev.stage 2 [0x09, 0x04] }, 4)
  else if idx = 1 then some (dev.utf16String strManufacturer)
  else if idx = 2 then some (dev.utf16String strProduct)
  else if idx = 3 then some (dev.utf16String (readBytes dev.serial 0 24))
  else if idx = 4 then some (dev.utf16String strInterface)
  else none

def loadDescriptor (dev : UsbDevice) (kind idx : UInt8) : UsbDevice × Option Nat :=
  if kind = descDevice then (dev.setStage deviceDesc, some 18)
  else if kind = descConfig then (dev.setStage (configDesc dev.mps), some 32)
  else if kind = descQualifier then (dev.setStage qualifierDesc, some 10)
  else if kind = descOtherSpeed then (dev, none)
  else if kind = descBos then (dev.setStage bosDesc, some 33)
  else if kind = descString then
    match dev.stringBody idx with
    | none => (dev, none)
    | some (dev, n) => (dev.setStage [.ofNat n, descString], some n)
  else (dev, none)

/-- CLEAR_FEATURE(ENDPOINT_HALT) resets the toggle of the endpoint that it names. -/
def clearHalt (dev : UsbDevice) (index : UInt8) : UsbDevice :=
  if index = 0x01 then { dev with rxTog := false }
  else if index = 0x81 then { dev with txTog := false }
  else dev

def serve (dev : UsbDevice) (setup : Setup) : UsbDevice × Option Nat :=
  if setup.reqType = 0x80 ∧ setup.request = 6 then
    dev.loadDescriptor (setup.value >>> 8).toUInt8 (setup.value &&& 0xFF).toUInt8
  else if 0x80 ≤ setup.reqType ∧ setup.reqType ≤ 0x82 ∧ setup.request = 0 then (dev.setStage [0, 0], some 2)
  else if setup.reqType = 0x00 ∧ setup.request = 5 then
    ({ dev with addressPending := some (setup.value &&& 0x7F).toUInt8 }, some 0)
  else if setup.reqType = 0x00 ∧ setup.request = 9 then
    if setup.value = 0 then ({ dev with configured := false }, some 0)
    else if setup.value = 1 then (dev.configureEp1, some 0)
    else (dev, none)
  else if setup.reqType = 0x80 ∧ setup.request = 8 then (dev.setStage [if dev.configured then 1 else 0], some 1)
  else if setup.reqType = 0x81 ∧ setup.request = 10 then (dev.setStage [0], some 1)
  else if setup.reqType = 0x01 ∧ setup.request = 11 ∧ setup.value = 0 then (dev, some 0)
  else if setup.reqType = 0x02 ∧ setup.request = 1 ∧ setup.value = 0 then (dev.clearHalt setup.index.toUInt8, some 0)
  else if setup.reqType = 0xC0 ∧ setup.request = msVendorCode ∧ setup.index = 7 then
    (dev.setStage msOsDesc, some msOsDescLen)
  else (dev, none)

def ep0SendChunk (dev : UsbDevice) : UsbDevice :=
  match dev.ep0 with
  | .dataIn pos len =>
    let n := min (len - pos) ep0Mps
    { dev with
      regs.ep0Buf := poke dev.regs.ep0Buf 0 (readBytes dev.stage pos n)
      regs.ep0 := { dev.regs.ep0 with tLen := n }.writeTx dev.ep0Tog .ack
      ep0 := .dataIn (pos + n) len
      ep0Tog := !dev.ep0Tog }
  | _ => dev

def ep0Stall (dev : UsbDevice) : UsbDevice :=
  { dev with regs.ep0 := (dev.regs.ep0.writeTx false .stall).writeRx false .stall, ep0 := .idle }

/-- Both directions of the control pipe answer NAK until the request has been served. -/
def park (dev : UsbDevice) : UsbDevice :=
  { dev with regs.ep0 := (dev.regs.ep0.writeRx false .nak).writeTx false .nak, ep0 := .idle }

/-- A request without data is answered with a zero-length packet, another with what it left in the stage. -/
def reply (dev : UsbDevice) (length n : Nat) : UsbDevice :=
  if n = 0 ∧ length = 0 then
    { dev with regs.ep0 := { dev.regs.ep0 with tLen := 0 }.writeTx true .ack, ep0 := .statusIn }
  else { dev with ep0 := .dataIn 0 (min n length), ep0Tog := true }.ep0SendChunk

/-- A SETUP in the middle of a transfer aborts the old one. -/
def onSetup (dev : UsbDevice) : UsbDevice :=
  let setup := Setup.read dev.regs.ep0Buf
  match dev.park.serve setup with
  | (dev, none) => dev.ep0Stall
  | (dev, some n) => dev.reply setup.length.toNat n

def onEp0Transfer (dev : UsbDevice) (token : UsbToken) : UsbDevice :=
  match token, dev.ep0 with
  | .in, .dataIn pos len =>
    if pos < len then dev.ep0SendChunk
    else { dev with regs.ep0 := (dev.regs.ep0.writeTx false .nak).writeRx true .ack, ep0 := .statusOut }
  | .in, .statusIn =>
    let parked := { dev with regs.ep0 := dev.regs.ep0.writeTx false .nak, ep0 := .idle, addressPending := none }
    match dev.addressPending with
    | none => parked
    | some addr => { parked with regs.devAd := addr }
  | .out, .statusOut => { dev with regs.ep0 := dev.regs.ep0.writeRx false .nak, ep0 := .idle }
  | _, _ => dev

end Control

def onBusReset (dev : UsbDevice) : UsbDevice :=
  { dev with
    regs.devAd := 0
    regs.ep0 := (dev.regs.ep0.writeRx false .nak).writeTx false .nak
    regs.ep1En := false
    regs.ep1 := (dev.regs.ep1.writeTx false .nak).writeRx false .nak
    ep0 := .idle
    addressPending := none
    configured := false
    txBusy := false
    rxPending := none }

def onTransfer (dev : UsbDevice) (transfer : Transfer) : UsbDevice :=
  if transfer.endp = 0 then dev.onEp0Transfer transfer.token
  else if transfer.endp = 1 then dev.onEp1Transfer transfer.token transfer.togOk
  else dev

/-- Services the flags of the controller, at most one in a call. -/
def poll (dev : UsbDevice) : UsbDevice :=
  if dev.regs.busRst then { dev.onBusReset with regs.busRst := false }
  else if dev.regs.setupAct then { dev.onSetup with regs.setupAct := false, regs.transfer := none }
  else
    match dev.regs.transfer with
    | some transfer => { dev.onTransfer transfer with regs.transfer := none }
    | none => { dev with regs.suspend := false }

end UsbDevice

end OpenServo.Usb
