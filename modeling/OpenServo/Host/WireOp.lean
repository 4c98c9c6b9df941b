import OpenServo.Host.HostBus

set_option autoImplicit false

namespace OpenServo.Host

open OpenServo.Protocol

def wireCap : Nat := 640

def absDiff (a b : UInt32) : UInt32 :=
  if a < b then b - a else a - b

def nearestRate (bps : UInt32) : BaudRate :=
  [BaudRate.b1000000, .b2000000, .b3000000].foldl
    (fun best rate => if absDiff rate.asHz bps < absDiff best.asHz bps then rate else best) .b500000

def framesFit : Nat → List UInt8 → Bool
  | _, [] => true
  | 0, _ :: _ => false
  | fuel + 1, flen :: rest => flen ≠ 0 && flen.toNat ≤ rest.length && framesFit fuel (rest.drop flen.toNat)

namespace HostBus

def wireSend (bus : HostBus) (bytes : List UInt8) : HostBus × Except SubmitError Unit :=
  if !bus.ready then (bus, .error .busy)
  else if bytes.isEmpty then (bus, .error (.invalid .badPayload))
  else if wireCap < bytes.length then (bus, .error (.invalid .tooLong))
  else
    ({ bus.drive [.claim, .sendBreak, .send bytes] with
        wireJob := { bus.wireJob with bytes, mode := .single, train := none }
        state := .wireTx }, .ok ())

/-- A break train behind an announce the engine does not look into. -/
def wireTrain (bus : HostBus) (announce : List UInt8) (gapUs : UInt16) (breaks : UInt8) :
    HostBus × Except SubmitError Unit :=
  if !bus.ready then (bus, .error .busy)
  else if announce.isEmpty || gapUs = 0 || breaks = 0 then (bus, .error (.invalid .badPayload))
  else if wireCap < announce.length then (bus, .error (.invalid .tooLong))
  else
    ({ bus.drive [.claim, .sendBreak, .send announce] with
        wireJob := { bus.wireJob with
          bytes := announce
          mode := .single
          train := some (breaks, gapUs.toUInt32 * bus.ticksPerUs) }
        state := .wireTx }, .ok ())

def wireBaud (bus : HostBus) (bps : UInt32) (clock : Nat → UInt32) : HostBus × Except SubmitError Unit :=
  if !bus.ready then (bus, .error .busy)
  else if bps = 0 then (bus, .error (.invalid .badPayload))
  else
    ({ ({ bus with uart := .applyRaw bps, rate := nearestRate bps } : HostBus).pace (clock 0) with
        pendingWireDone := some (clock 1) }, .ok ())

def wireNextFrame (bus : HostBus) : HostBus :=
  let start := bus.wireJob.cursor
  let flen := (bus.wireJob.bytes.getD start 0).toNat
  { bus.drive [.sendBreak, .send (bus.wireJob.bytes.extract (start + 1) (start + 1 + flen))] with
    wireJob := { bus.wireJob with cursor := start + 1 + flen } }

def wireBurst (bus : HostBus) (stream : List UInt8) : HostBus × Except SubmitError Unit :=
  if !bus.ready then (bus, .error .busy)
  else if wireCap < stream.length then (bus, .error (.invalid .tooLong))
  else if stream.isEmpty || !framesFit stream.length stream then (bus, .error (.invalid .badPayload))
  else
    let bus := { bus with wireJob := { bus.wireJob with bytes := stream, cursor := 0, mode := .stream } }
    ({ (bus.drive [.claim]).wireNextFrame with state := .wireTx }, .ok ())

def wirePulseLow (bus : HostBus) (us : UInt16) (clock : Nat → UInt32) : HostBus × Except SubmitError Unit :=
  if !bus.ready then (bus, .error .busy)
  else if us = 0 then (bus, .error (.invalid .badPayload))
  else
    (({ bus.drive [.claim, .holdLow] with state := .wirePulse } : HostBus).arm
      (clock 0 + us.toUInt32 * bus.ticksPerUs), .ok ())

def wireFinish (bus : HostBus) (clock : Nat → UInt32) : HostBus :=
  { bus.drive [.release] with state := .idle, pendingWireDone := some (clock 0) }

def wireAdvance (bus : HostBus) (clock : Nat → UInt32) : HostBus :=
  match bus.wireJob.train with
  | some (left, gap) =>
    ({ bus with wireJob := { bus.wireJob with train := none }, state := .wireTrain left gap } : HostBus).arm
      (clock 0 + gap)
  | none =>
    if bus.wireJob.mode = .stream ∧ bus.wireJob.cursor < bus.wireJob.bytes.length then bus.wireNextFrame
    else bus.wireFinish clock

end HostBus

end OpenServo.Host
