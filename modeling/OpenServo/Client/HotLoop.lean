import OpenServo.Bus.Decode
import OpenServo.Client.Cyclic
import OpenServo.Core.StagedRefinement
import OpenServo.Host.Sealed
import OpenServo.Protocol.GroupForms
import OpenServo.Table.SplitWrite

set_option autoImplicit false

namespace OpenServo.Client.Cyclic

open OpenServo.Bus OpenServo.Core OpenServo.Host OpenServo.Protocol OpenServo.Shared OpenServo.Table

def Sent.wire (frame : Sent) : List UInt8 :=
  sealedBytes frame.id frame.inst frame.payload

def answer (s : Core.Session) (frame : FrameBytes) : Option (UInt8 × List Core.Call) :=
  match Bus.decode frame (peek s.table Addr.id) with
  | .own req mayReply slot => some (slot, (dispatch s none req mayReply).2.1)
  | _ => none

def hold (m : Machine) (write : Nat × List UInt8) : Machine :=
  if m.accepts write.1 (.ofList write.2) then { m with held := m.held ++ [write] } else m

/-- The share of one servo in a group; an id that is listed twice gets the first. -/
def Batch.share (own : UInt8) (batch : Batch) : Option (Nat × List UInt8) :=
  (batch.2.find? fun entry => entry.1 == own).map fun entry => (batch.1.addr.toNat, entry.2)

def Command.effect (m : Machine) : Command → Machine
  | .hold batch =>
    match batch.share (peek m.table Addr.id) with
    | some write => Cyclic.hold m write
    | none => m
  | .commit => ⟨Machine.land dirtyBit m.table m.held, []⟩
  | .read _ => m

def shares (own : UInt8) (cycle : Cycle) (payloads : List (List UInt8)) : List (Nat × List UInt8) :=
  (batches cycle.groups payloads).filterMap (Batch.share own)

def routed (op : Opcode) (inst : Inst) (id : UInt8) (pay : FrameBytes) (own : UInt8) : Decoded :=
  match op with
  | .gread => Bus.gread inst pay own
  | .gwrite => gwrite inst pay own
  | _ => plain op inst id pay own

section Frames

variable {frame : FrameBytes} {id : UInt8} {inst : Inst} {payload : List UInt8}

end Frames

section Servo

variable {device : List UInt8} {s : Core.Session} {m : Machine} {frame : FrameBytes}

end Servo

section Effects

variable (m : Machine)

def landed (cycle : Cycle) (payloads : List (List UInt8)) : Machine :=
  ⟨Machine.land dirtyBit m.table (run hold m (shares (peek m.table Addr.id) cycle payloads)).held, []⟩

end Effects

theorem Stages.abstraction_eq {device : List UInt8} {s : Core.Session} {m : Machine} (stages : Stages device s m) :
    abstraction s = m := by
  rw [abstraction, stages.table, stages.held_eq]

def Telemetry.ids : Telemetry → List UInt8
  | .span ids _ _ => ids
  | .profile ids _ => ids

def Telemetry.reads (s : Core.Session) : Telemetry → List Core.Call
  | .span _ addr count => Core.read s true addr.toNat count.toNat
  | .profile _ slot => Core.readProfile s true slot

def goals : List (List UInt8) :=
  [[5, 0, 0, 0], [7, 0, 0, 0]]

end OpenServo.Client.Cyclic
