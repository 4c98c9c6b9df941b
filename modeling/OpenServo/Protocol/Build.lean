import OpenServo.Protocol.Frame
import OpenServo.Protocol.Group
import OpenServo.Shared.Format

set_option autoImplicit false

namespace OpenServo.Protocol

open OpenServo.Shared

abbrev Uid := Fin uidLen → UInt8

def MgmtOp.asByte : MgmtOp → UInt8
  | .enum => 0x01
  | .assign => 0x02
  | .save => 0x03
  | .reboot => 0x04
  | .factory => 0x05
  | .cal => 0x06

namespace Build

abbrev Built := Option (Nat × List UInt8)

def cap (dst : List UInt8) : Nat :=
  min dst.length maxPayload

def read (dst : List UInt8) (addr count : UInt16) : Built :=
  if cap dst < 4 then none
  else some (4, copyAt (copyAt dst 0 (u16ToLe addr)) 2 (u16ToLe count))

def readProfile (dst : List UInt8) (slot : UInt8) : Built :=
  if cap dst < 1 then none else some (1, copyAt dst 0 [slot])

def write (dst : List UInt8) (addr : UInt16) (data : List UInt8) : Built :=
  let total := 2 + data.length
  if cap dst < total then none
  else some (total, copyAt (copyAt dst 0 (u16ToLe addr)) 2 data)

def greadUniform (dst : List UInt8) (addr count : UInt16) (ids : List UInt8) : Built :=
  let total := 4 + ids.length
  if ids.isEmpty || cap dst < total then none
  else do
    let (_, dst) ← read dst addr count
    return (total, copyAt dst 4 ids)

def entries {T : Type} (encode : T → List UInt8) (stride : Nat) (dst : List UInt8) (targets : List T) : Built :=
  let total := stride * targets.length
  if targets.isEmpty || cap dst < total then none
  else some (total, copyAt dst 0 (targets.flatMap encode))

def greadPerTarget (dst : List UInt8) (targets : List GreadTarget) : Built :=
  entries (fun t => t.id :: u16ToLe t.addr ++ u16ToLe t.count) 5 dst targets

def greadProfileUniform (dst : List UInt8) (slot : UInt8) (ids : List UInt8) : Built :=
  let total := 1 + ids.length
  if ids.isEmpty || cap dst < total then none
  else some (total, copyAt (copyAt dst 0 [slot]) 1 ids)

def greadProfilePerTarget (dst : List UInt8) (targets : List GreadProfileTarget) : Built :=
  entries (fun t => [t.id, t.slot]) 2 dst targets

structure Gwrite where
  dst : List UInt8
  len : Nat

def GwriteUniform.new (dst : List UInt8) (addr : UInt16) (count : UInt8) : Option Gwrite :=
  if count = 0 ∨ cap dst < 3 then none
  else some ⟨copyAt (copyAt dst 0 (u16ToLe addr)) 2 [count], 3⟩

def GwriteUniform.push (count : UInt8) (g : Gwrite) (entry : UInt8 × List UInt8) : Option Gwrite :=
  let (id, data) := entry
  if data.length ≠ count.toNat then none
  else
    let stop := g.len + 1 + data.length
    if cap g.dst < stop then none
    else some ⟨copyAt (copyAt g.dst g.len [id]) (g.len + 1) data, stop⟩

def GwriteUniform.finish (g : Gwrite) : Built :=
  if 3 < g.len then some (g.len, g.dst) else none

def gwriteUniform (dst : List UInt8) (addr : UInt16) (count : UInt8) (targets : List (UInt8 × List UInt8)) :
    Built := do
  let g ← GwriteUniform.new dst addr count
  let g ← targets.foldlM (GwriteUniform.push count) g
  GwriteUniform.finish g

def GwritePerTarget.new (dst : List UInt8) : Gwrite :=
  ⟨dst, 0⟩

def GwritePerTarget.push (g : Gwrite) (entry : UInt8 × UInt16 × List UInt8) : Option Gwrite :=
  let (id, addr, data) := entry
  if 255 < data.length then none
  else
    let stop := g.len + 4 + data.length
    if cap g.dst < stop then none
    else some ⟨copyAt g.dst g.len ([id] ++ u16ToLe addr ++ [UInt8.ofNat data.length] ++ data), stop⟩

def GwritePerTarget.finish (g : Gwrite) : Built :=
  if 0 < g.len then some (g.len, g.dst) else none

def gwritePerTarget (dst : List UInt8) (targets : List (UInt8 × UInt16 × List UInt8)) : Built := do
  let g ← targets.foldlM GwritePerTarget.push (GwritePerTarget.new dst)
  GwritePerTarget.finish g

def mgmt (dst : List UInt8) (op : MgmtOp) : Built :=
  if cap dst < 1 then none else some (1, copyAt dst 0 [op.asByte])

def mgmtEnum (dst : List UInt8) (prefixLen : UInt8) (prefixBits : Uid) : Built :=
  if uidLen * 8 < prefixLen.toNat then none
  else
    let n := (prefixLen.toNat + 7) / 8
    let total := 2 + n
    if cap dst < total then none
    else
      some (total,
        copyAt (copyAt (copyAt dst 0 [MgmtOp.enum.asByte]) 1 [prefixLen]) 2 ((List.ofFn prefixBits).take n))

def mgmtAssign (dst : List UInt8) (uid : Uid) (newId : UInt8) : Built :=
  let total := 2 + uidLen
  if cap dst < total then none
  else
    some (total,
      copyAt (copyAt (copyAt dst 0 [MgmtOp.assign.asByte]) 1 (List.ofFn uid)) (1 + uidLen) [newId])

def mgmtCal (dst : List UInt8) (gapUs : UInt16) (gaps : UInt8) : Built :=
  if gapUs = 0 ∨ gaps = 0 ∨ cap dst < 4 then none
  else some (4, copyAt (copyAt (copyAt dst 0 [MgmtOp.cal.asByte]) 1 (u16ToLe gapUs)) 3 [gaps])

end Build

def GwriteUniform.iter (g : GwriteUniform) : List (UInt8 × FrameBytes) :=
  entriesOf (next (1 + g.count.toNat)) g.entries.len g.entries

def GwritePerTarget.iter (entries : FrameBytes) : List GwriteTarget :=
  entriesOf next entries.len entries

/-- The instruction payloads, each with the arguments its builder takes and its parser gives. -/
inductive Form where
  | read
  | profile
  | write
  | greadUniform
  | greadPerTarget
  | greadProfileUniform
  | greadProfilePerTarget
  | gwriteUniform
  | gwritePerTarget
  | mgmt
  | mgmtEnum
  | mgmtAssign
  | mgmtCal
deriving DecidableEq, Repr

namespace Form

def Args : Form → Type
  | read => UInt16 × UInt16
  | profile => UInt8
  | write => UInt16 × List UInt8
  | greadUniform => UInt16 × UInt16 × List UInt8
  | greadPerTarget => List GreadTarget
  | greadProfileUniform => UInt8 × List UInt8
  | greadProfilePerTarget => List GreadProfileTarget
  | gwriteUniform => UInt16 × UInt8 × List (UInt8 × List UInt8)
  | gwritePerTarget => List (UInt8 × UInt16 × List UInt8)
  | mgmt => MgmtOp
  | mgmtEnum => UInt8 × Uid
  | mgmtAssign => Uid × UInt8
  | mgmtCal => UInt16 × UInt8

def build : (form : Form) → List UInt8 → form.Args → Build.Built
  | read => fun dst (addr, count) => Build.read dst addr count
  | profile => fun dst slot => Build.readProfile dst slot
  | write => fun dst (addr, data) => Build.write dst addr data
  | greadUniform => fun dst (addr, count, ids) => Build.greadUniform dst addr count ids
  | greadPerTarget => fun dst targets => Build.greadPerTarget dst targets
  | greadProfileUniform => fun dst (slot, ids) => Build.greadProfileUniform dst slot ids
  | greadProfilePerTarget => fun dst targets => Build.greadProfilePerTarget dst targets
  | gwriteUniform => fun dst (addr, count, targets) => Build.gwriteUniform dst addr count targets
  | gwritePerTarget => fun dst targets => Build.gwritePerTarget dst targets
  | mgmt => fun dst op => Build.mgmt dst op
  | mgmtEnum => fun dst (prefixLen, prefixBits) => Build.mgmtEnum dst prefixLen prefixBits
  | mgmtAssign => fun dst (uid, newId) => Build.mgmtAssign dst uid newId
  | mgmtCal => fun dst (gapUs, gaps) => Build.mgmtCal dst gapUs gaps

def uidOf (bytes : List UInt8) : Uid :=
  fun i => bytes.getD i 0

def subArgs (op : MgmtOp) (payload : FrameBytes) : Option FrameBytes := do
  let m ← MgmtReq.parse payload
  guard (m.op = op)
  return m.args

def parse : (form : Form) → FrameBytes → Option form.Args
  | read => fun payload => (ReadReq.parse payload).map fun r => (r.addr, r.count)
  | profile => fun payload => ProfileReq.parse payload
  | write => fun payload => (WriteReq.parse payload).map fun w => (w.addr, w.data.bytes)
  | greadUniform => fun payload => (GreadUniform.parse payload).map fun g => (g.addr, g.count, g.ids.bytes)
  | greadPerTarget => fun payload => (GreadPerTarget.parse payload).map GreadPerTarget.iter
  | greadProfileUniform => fun payload => (GreadProfileUniform.parse payload).map fun g => (g.slot, g.ids.bytes)
  | greadProfilePerTarget => fun payload => (GreadProfilePerTarget.parse payload).map GreadProfilePerTarget.iter
  | gwriteUniform => fun payload => (GwriteUniform.parse payload).map fun g =>
      (g.addr, g.count, g.iter.map fun entry => (entry.1, entry.2.bytes))
  | gwritePerTarget => fun payload => (GwritePerTarget.parse payload).map fun entries =>
      (GwritePerTarget.iter entries).map fun t => (t.id, t.addr, t.data.bytes)
  | mgmt => fun payload => (MgmtReq.parse payload).map MgmtReq.op
  | mgmtEnum => fun payload => (subArgs .enum payload).bind fun args =>
      (EnumReq.parse args).map fun e => (e.prefixLen, uidOf e.prefixBits)
  | mgmtAssign => fun payload => (subArgs .assign payload).bind fun args =>
      (AssignReq.parse args).map fun a => (uidOf a.uid, a.newId)
  | mgmtCal => fun payload => (subArgs .cal payload).bind fun args =>
      (CalReq.parse args).map fun c => (c.gapUs, c.gaps)

/-- The prefix bytes past the `prefix_len` bits are not sent. -/
def used : (form : Form) → form.Args → form.Args
  | mgmtEnum => fun (prefixLen, prefixBits) =>
    (prefixLen, fun i => if i.val < (prefixLen.toNat + 7) / 8 then prefixBits i else 0)
  | _ => id

def Meant : Form → FrameBytes → Prop
  | mgmt => fun payload => payload.len = 1
  | _ => fun _ => True

end Form

end OpenServo.Protocol
