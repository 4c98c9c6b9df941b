import OpenServo.Link.Headroom
import OpenServo.Link.Reassembly
import OpenServo.Usb.Bulk
import Mathlib.Data.List.Infix

set_option autoImplicit false

namespace OpenServo.Usb

open OpenServo.Link OpenServo.Shared

def said (log : List Entry) : List UInt8 :=
  ((log.filterMap Entry.reply).map Reply.record).flatten

structure Station where
  wire : Wire
  port : Port

inductive Turn where
  | wire (event : Event)
  | feed (reads : Nat → Reads)
  | act (act : Act)
  | flush

namespace Station

def onWire (s : Station) (event : Event) : Station :=
  match event with
  | .consume | .send _ => s
  | event => { s with wire := s.wire.step event }

def feed (s : Station) (reads : Nat → Reads) : Station :=
  match s.wire.dev.rx with
  | none => s
  | some bytes =>
    match s.port.move (.act (.pipe reads bytes)) with
    | none => s
    | some port => { wire := s.wire.step .consume, port := port }

def act (s : Station) (act : Act) : Station :=
  match act with
  | .pipe _ _ => s
  | act =>
    match s.port.move (.act act) with
    | none => s
    | some port => { s with port := port }

def flush (s : Station) : Station :=
  if !s.wire.dev.txReady || s.port.txq.buf.isEmpty then s
  else
    match s.port.move (.drain s.wire.dev.mps) with
    | none => s
    | some port => { wire := s.wire.step (.send (s.port.txq.popInto s.wire.dev.mps).2), port := port }

def step (s : Station) : Turn → Station
  | .wire event => s.onWire event
  | .feed reads => s.feed reads
  | .act act => s.act act
  | .flush => s.flush

end Station

def Turn.Quiet : Turn → Prop
  | .wire event => event.Quiet
  | .feed _ | .act _ | .flush => True

def Wire.passed (w : Wire) : List (List UInt8) × List (List UInt8) :=
  (w.fed, w.sent)

section Queue

end Queue

namespace Station

variable {s : Station}

def started (dev : UsbDevice) (ctl : Ctl) (ticksPerUs : UInt32) (rate : Protocol.BaudRate) : Station :=
  { wire := Wire.fresh dev.poll ctl, port := { link := { bus := .new ticksPerUs rate } } }

def hello : List Turn :=
  [.wire (.offer (framed [[recHello]])), .wire (.out .unacked), .wire .poll, .feed still, .wire (.out .whole), .wire .poll,
    .flush, .wire (.in .unacked), .wire (.in .whole), .wire .poll]

end Station

end OpenServo.Usb
