import OpenServo.Bench.Edges
import OpenServo.Client.Edges
import OpenServo.Protocol.Status

set_option autoImplicit false

namespace OpenServo.Bench

open OpenServo.Client OpenServo.Protocol OpenServo.Shared

def brk : UInt8 := 0x00

section Parse

end Parse

section Measured

end Measured

end OpenServo.Bench
