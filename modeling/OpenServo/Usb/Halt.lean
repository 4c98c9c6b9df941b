import OpenServo.Usb.Bulk

set_option autoImplicit false

namespace OpenServo.Usb

open OpenServo.Protocol OpenServo.Shared

namespace Wire

def deliver (packet : List UInt8) : List Event :=
  [.offer packet, .out .whole, .poll, .consume]

structure Rests (w : Wire) (host ctrl firmware : Bool) : Prop where
  ready : w.dev.regs.waiting = false
  live : w.dev.regs.ep1En = true
  armed : w.dev.regs.ep1.rRes = .ack
  empty : w.dev.rxPending = none
  idle : w.outNow = none
  host : w.outTog = host
  ctrl : w.dev.regs.ep1.rTog = ctrl
  firmware : w.dev.rxTog = firmware

variable {w : Wire} {host ctrl firmware : Bool}

/-- What became of some packets: the host knows all of them delivered, and the main loop has got these. -/
structure Delivered (w after : Wire) (packets got : List (List UInt8)) : Prop where
  outDone : after.outDone = w.outDone ++ packets
  fed : after.fed = w.fed ++ got
  mps : after.dev.mps = w.dev.mps

theorem Delivered.trans {next after : Wire} {packets got more taken : List (List UInt8)}
    (first : Delivered w next packets got) (second : Delivered next after more taken) :
    Delivered w after (packets ++ more) (got ++ taken) where
  outDone := by rw [second.outDone, first.outDone, List.append_assoc]
  fed := by rw [second.fed, first.fed, List.append_assoc]
  mps := second.mps.trans first.mps

/-- What arrives of the packets that the host sends to a controller whose toggle was left behind. -/
def arriving : List (List UInt8) → List (List UInt8)
  | _ :: second :: _ :: fourth :: rest => second :: fourth :: rest
  | _ :: second :: _ => [second]
  | _ => []

def restart (w : Wire) : Wire :=
  { w with outTog := false, outDone := [], fed := [] }

def single : List Event :=
  [.poll, .in0 .whole, .poll] ++ deliver [0x0A]

end Wire

end OpenServo.Usb
