import OpenServo.Bus.Moves

set_option autoImplicit false

namespace OpenServo.Bus

inductive Site where
  | look (servo : Servo)
  | due (servo : Servo)

section Sites

variable (wake : Wake)

def Servo.driveSites : Nat → Servo → List Site
  | 0, _ => []
  | fuel + 1, servo =>
    .look servo ::
      match (servo.resolve wake).2 with
      | .frame span => driveSites fuel ((servo.looked wake).onFrameEnd wake span)
      | _ => []

def Servo.breakSites (servo : Servo) : List Site :=
  let (now, bus) := servo.bus.readNow wake
  if bus.clock.calActive then []
  else driveSites wake framesPerWake { servo with bus := (Servo.wireFault bus wake now).1 }

def Servo.framerSites (servo : Servo) (now : UInt32) : List Site :=
  if due now servo.bus.framerAt then
    let bus := { servo.bus with framerAt := none, clock := servo.bus.clock.abandonCal }
    driveSites wake framesPerWake { servo with bus := bus.note .calAbandoned }
  else []

def Servo.chainSites (servo : Servo) (now : UInt32) : List Site :=
  if due now servo.bus.chainAt then [.due servo] else []

def Servo.drainSites : Nat → Servo → List Site
  | 0, _ => []
  | fuel + 1, servo =>
    let (now, bus) := servo.bus.readNow wake
    let servo := { servo with bus := bus }
    let framed := servo.framerSlot wake now
    servo.framerSites wake now ++ framed.chainSites now ++
      if due now servo.bus.framerAt || due now framed.bus.chainAt then drainSites fuel (framed.chainSlot wake now)
      else []

end Sites

end OpenServo.Bus
