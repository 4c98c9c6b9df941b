import OpenServo.Bench.Exchange
import OpenServo.Bus.CalTrain
import OpenServo.Bus.ChainFleet
import OpenServo.Bus.ChainSlot
import OpenServo.Bus.CrcSpan
import OpenServo.Bus.Deadlines
import OpenServo.Bus.DriftRuns
import OpenServo.Bus.FramerDrive
import OpenServo.Bus.FramerHunt
import OpenServo.Bus.FramerWakes
import OpenServo.Bus.Identity
import OpenServo.Bus.Pipeline
import OpenServo.Bus.ProfileRead
import OpenServo.Bus.Progress
import OpenServo.Bus.Rescue
import OpenServo.Bus.Seam
import OpenServo.Bus.Sites
import OpenServo.Bus.TrimPlant
import OpenServo.Bus.TxFrames
import OpenServo.Client.Burst
import OpenServo.Client.Dialog
import OpenServo.Client.Discovery
import OpenServo.Client.Edges
import OpenServo.Client.HotLoop
import OpenServo.Core.CompareRules
import OpenServo.Core.DirtyBit
import OpenServo.Core.TrueValues
import OpenServo.Core.Wipe
import OpenServo.Host.CalGrid
import OpenServo.Host.CaptureLedger
import OpenServo.Host.Evidence
import OpenServo.Host.Pacing
import OpenServo.Host.Progress
import OpenServo.Host.Scan
import OpenServo.Host.Sealed
import OpenServo.Host.Slots
import OpenServo.Host.Stale
import OpenServo.Ident.TelStream
import OpenServo.Link.Accounts
import OpenServo.Link.AdapterRequests
import OpenServo.Link.Overrun
import OpenServo.Motion.Bridge
import OpenServo.Motion.Derate
import OpenServo.Motion.DetectorHistory
import OpenServo.Motion.DutyCap
import OpenServo.Motion.Evidence
import OpenServo.Motion.Hover
import OpenServo.Motion.Retarget
import OpenServo.Motion.Safety
import OpenServo.Motion.StallHistory
import OpenServo.Protocol.CrcStrength
import OpenServo.Protocol.GroupForms
import OpenServo.Protocol.RoundTrip
import OpenServo.Table.Transactions
import OpenServo.Table.Validation
import OpenServo.Usb.ControlRuns
import OpenServo.Usb.Halt
import OpenServo.Usb.Station
