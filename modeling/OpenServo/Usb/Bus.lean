import OpenServo.Shared.Run
import OpenServo.Usb.Device

set_option autoImplicit false

namespace OpenServo.Usb

open OpenServo.Protocol OpenServo.Shared

inductive Hop where
  | lost
  -- The data arrive, the handshake does not.
  | unacked
  | whole
deriving DecidableEq

section Controller

/-- While a flag waits for service, the controller holds the host off. -/
def Regs.waiting (regs : Regs) : Bool :=
  regs.busRst || regs.setupAct || regs.transfer.isSome

def Setup.bytes (setup : Setup) : List UInt8 :=
  [setup.reqType, setup.request] ++ u16ToLe setup.value ++ u16ToLe setup.index ++ u16ToLe setup.length

def Regs.takeSetup (regs : Regs) (setup : Setup) : Regs :=
  { regs with ep0Buf := poke regs.ep0Buf 0 setup.bytes, setupAct := true }

/-- A packet to EP1, if it is acknowledged: also one whose toggle is not the expected. -/
def Regs.takeOut (regs : Regs) (tog : Bool) (packet : List UInt8) : Option Regs :=
  if regs.waiting || !regs.ep1En || regs.ep1.rRes ≠ .ack then none
  else
    some { regs with
      ep1Rx := poke regs.ep1Rx 0 packet
      rxLen := packet.length
      transfer := some ⟨1, .out, tog == regs.ep1.rTog⟩ }

def Regs.giveIn (regs : Regs) : Option (Bool × List UInt8) :=
  if regs.waiting || !regs.ep1En || regs.ep1.tRes ≠ .ack then none
  else some (regs.ep1.tTog, readBytes regs.ep1Tx 0 regs.ep1.tLen)

def Regs.inAcked (regs : Regs) (endp : Nat) : Regs :=
  { regs with transfer := some ⟨endp, .in, true⟩ }

def Regs.takeStatus (regs : Regs) : Regs :=
  { regs with rxLen := 0, transfer := some ⟨0, .out, true == regs.ep0.rTog⟩ }

end Controller

inductive Phase where
  | idle
  | data
  | statusOut
  | statusIn
  | done
  | stalled
deriving DecidableEq

structure Ctl where
  phase : Phase := .idle
  want : Nat := 0
  tog : Bool := true
  got : List (List UInt8) := []

/-- A request that moves data to the device is not followed up. -/
def Ctl.begin (setup : Setup) : Ctl :=
  if setup.length = 0 then { phase := .statusIn }
  else if 0x80 ≤ setup.reqType then { phase := .data, want := setup.length.toNat }
  else {}

/-- A data packet of a control read. The read is over with a short packet, or when it has all that it asked for. -/
def Ctl.receive (ctl : Ctl) (tog : Bool) (packet : List UInt8) : Ctl :=
  if tog ≠ ctl.tog then ctl
  else
    { ctl with
      got := ctl.got ++ [packet]
      tog := !ctl.tog
      phase := if packet.length < ep0Mps ∨ ctl.want ≤ (ctl.got ++ [packet]).flatten.length then .statusOut else .data }

/-- The device, and what the two sides of each pipe hold: the packets the host has handed over and knows delivered,
those the main loop took; the packets the main loop sent, those the host took. -/
structure Wire where
  dev : UsbDevice
  outTog : Bool := false
  outNow : Option (List UInt8) := none
  outDone : List (List UInt8) := []
  fed : List (List UInt8) := []
  sent : List (List UInt8) := []
  inTog : Bool := false
  inGot : List (List UInt8) := []
  ctl : Ctl := {}

inductive Event where
  | offer (packet : List UInt8)
  | out (hop : Hop)
  | «in» (hop : Hop)
  | setup (setup : Setup) (hop : Hop)
  | in0 (hop : Hop)
  | out0 (hop : Hop)
  | suspend
  | busReset
  | poll
  | consume
  | send (packet : List UInt8)

namespace Wire

def offer (w : Wire) (packet : List UInt8) : Wire :=
  if w.outNow.isSome ∨ w.dev.mps < packet.length then w else { w with outNow := some packet }

def out (w : Wire) (hop : Hop) : Wire :=
  match w.outNow, hop with
  | none, _ | _, .lost => w
  | some packet, hop =>
    match w.dev.regs.takeOut w.outTog packet with
    | none => w
    | some regs =>
      if hop = .whole then
        { w with dev.regs := regs, outTog := !w.outTog, outNow := none, outDone := w.outDone ++ [packet] }
      else { w with dev.regs := regs }

def takeIn (w : Wire) (tog : Bool) (packet : List UInt8) : Wire :=
  if tog ≠ w.inTog then w else { w with inTog := !w.inTog, inGot := w.inGot ++ [packet] }

def «in» (w : Wire) (hop : Hop) : Wire :=
  match w.dev.regs.giveIn, hop with
  | none, _ | _, .lost => w
  | some (tog, packet), hop =>
    if hop = .whole then { w.takeIn tog packet with dev.regs := w.dev.regs.inAcked 1 } else w.takeIn tog packet

/-- Without the handshake the host does not know that its request was taken, and repeats it. -/
def setup (w : Wire) (setup : Setup) (hop : Hop) : Wire :=
  if hop = .lost ∨ w.dev.regs.waiting then w
  else { w with dev.regs := w.dev.regs.takeSetup setup, ctl := if hop = .whole then Ctl.begin setup else {} }

def in0 (w : Wire) (hop : Hop) : Wire :=
  if w.dev.regs.waiting then w
  else
    match w.ctl.phase, w.dev.regs.ep0.tRes with
    | .data, .ack =>
      if hop = .lost then w
      else
        let heard := { w with ctl := w.ctl.receive w.dev.regs.ep0.tTog (readBytes w.dev.regs.ep0Buf 0 w.dev.regs.ep0.tLen) }
        if hop = .whole then { heard with dev.regs := w.dev.regs.inAcked 0 } else heard
    | .statusIn, .ack =>
      if hop = .lost then w
      else if hop = .whole then { w with ctl.phase := .done, dev.regs := w.dev.regs.inAcked 0 }
      else { w with ctl.phase := .done }
    | .data, .stall | .statusIn, .stall => { w with ctl.phase := .stalled }
    | _, _ => w

def out0 (w : Wire) (hop : Hop) : Wire :=
  if w.dev.regs.waiting ∨ w.ctl.phase ≠ .statusOut then w
  else
    match w.dev.regs.ep0.rRes with
    | .ack =>
      if hop = .lost then w
      else if hop = .whole then { w with ctl.phase := .done, dev.regs := w.dev.regs.takeStatus }
      else { w with dev.regs := w.dev.regs.takeStatus }
    | .nak => w
    | .stall => { w with ctl.phase := .stalled }

def consume (w : Wire) : Wire :=
  { w with dev := w.dev.rxConsume, fed := w.fed ++ w.dev.rx.toList }

def send (w : Wire) (packet : List UInt8) : Wire :=
  if !w.dev.txReady ∨ w.dev.mps < packet.length then w
  else { w with dev := w.dev.tx packet, sent := w.sent ++ [packet] }

def step (w : Wire) : Event → Wire
  | .offer packet => w.offer packet
  | .out hop => w.out hop
  | .in hop => w.in hop
  | .setup setup hop => w.setup setup hop
  | .in0 hop => w.in0 hop
  | .out0 hop => w.out0 hop
  | .suspend => { w with dev.regs.suspend := true }
  | .busReset => { w with dev.regs.busRst := true }
  | .poll => { w with dev := w.dev.poll }
  | .consume => w.consume
  | .send packet => w.send packet

end Wire

section Requests

theorem Setup.read_takeSetup (regs : Regs) (setup : Setup) : Setup.read (regs.takeSetup setup).ep0Buf = setup := by
  have cell (k : Nat) (few : k < 8) : peek (regs.takeSetup setup).ep0Buf k = setup.bytes.getD k 0 := by
    rw [Regs.takeSetup, peek_poke_inside _ _ _ _ (Nat.lt_trans few (by decide)) (Nat.zero_le k)]
    next => rfl
    next => simpa [Setup.bytes, u16ToLe] using few
  rw [Setup.read, cell 0 (by decide), cell 1 (by decide), cell 2 (by decide), cell 3 (by decide), cell 4 (by decide),
    cell 5 (by decide), cell 6 (by decide), cell 7 (by decide)]
  simp [Setup.bytes, u16ToLe, u16FromLe_toLe]

end Requests

end OpenServo.Usb
