import OpenServo.Protocol.Bytes
import OpenServo.Shared.Settle

set_option autoImplicit false

namespace OpenServo.Ident

open OpenServo.Protocol OpenServo.Shared

def telSync : UInt8 := 0xA7

def telHdrLen : Nat := 3

def telFlagWindowValid : UInt8 := 1

def telBitPos : UInt16 := 0x01
def telBitCurrent : UInt16 := 0x02
def telBitCurrentTrough : UInt16 := 0x04
def telBitDuty : UInt16 := 0x08
def telBitVdiff : UInt16 := 0x10
def telBitVbus : UInt16 := 0x20
def telMaskAll : UInt16 := 0x3F

def telFrameLen (mask : UInt16) : Nat :=
  telHdrLen + 2 * (List.range 16).countP (mask &&& telMaskAll).toNat.testBit

structure TelFrame where
  seq : UInt8
  windowValid : Bool
  pos : Option UInt16
  current : Option Int16
  currentTrough : Option UInt16
  dutyQ15 : Option Int16
  vdiff : Option Int16
  vbus : Option UInt16
deriving DecidableEq

structure TelStats where
  frames : Nat := 0
  realigns : Nat := 0
  seqGaps : Nat := 0
deriving DecidableEq, Repr

def lockFrames : Nat := 4

/-- Deframer for one fixed mask. `rest` is the buffer from the cursor on; what lies before the cursor is
never read again. -/
structure TelDeframer where
  mask : UInt16
  rest : List UInt8 := []
  locked : Bool := false
  lastSeq : Option UInt8 := none
  stats : TelStats := {}
deriving DecidableEq

def takeField (mask bit : UInt16) (bytes : List UInt8) (off : Nat) : Option UInt16 × Nat :=
  if mask &&& bit ≠ 0 then
    (some (u16FromLe (bytes.getD off 0) (bytes.getD (off + 1) 0)), off + 2)
  else (none, off)

def decodeAt (mask : UInt16) (bytes : List UInt8) : TelFrame :=
  let (pos, off) := takeField mask telBitPos bytes telHdrLen
  let (current, off) := takeField mask telBitCurrent bytes off
  let (currentTrough, off) := takeField mask telBitCurrentTrough bytes off
  let (dutyQ15, off) := takeField mask telBitDuty bytes off
  let (vdiff, off) := takeField mask telBitVdiff bytes off
  let (vbus, _) := takeField mask telBitVbus bytes off
  { seq := bytes.getD 1 0
    windowValid := bytes.getD 2 0 &&& telFlagWindowValid ≠ 0
    pos
    current := current.map UInt16.toInt16
    currentTrough
    dutyQ15 := dutyQ15.map UInt16.toInt16
    vdiff := vdiff.map UInt16.toInt16
    vbus }

/-- `lockFrames` frames in a row with the sync byte and consecutive sequence numbers. -/
def aligned (flen : Nat) (bytes : List UInt8) : Bool :=
  (List.range lockFrames).all (fun k => bytes.getD (k * flen) 0 == telSync) &&
    (List.range (lockFrames - 1)).all (fun k =>
      bytes.getD ((k + 1) * flen + 1) 0 == bytes.getD (k * flen + 1) 0 + 1)

def slide (flen : Nat) : List UInt8 → Bool × List UInt8
  | [] => (false, [])
  | b :: tail =>
    if lockFrames * flen ≤ (b :: tail).length then
      if aligned flen (b :: tail) then (true, b :: tail) else slide flen tail
    else (false, b :: tail)

namespace TelDeframer

def new (mask : UInt16) : Option TelDeframer :=
  if mask &&& ~~~telMaskAll ≠ 0 ∨ mask = 0 then none else some { mask }

def flen (d : TelDeframer) : Nat :=
  telFrameLen d.mask

def acquire (d : TelDeframer) : Bool × TelDeframer :=
  match slide d.flen d.rest with
  | (true, rest) => (true, { d with rest, locked := true })
  | (false, rest) =>
    let keep := lockFrames * d.flen - 1
    (false, { d with rest := if keep < rest.length then rest.drop (rest.length - keep) else rest })

def unlocked (d : TelDeframer) : TelDeframer :=
  { d with locked := false, lastSeq := none, stats.realigns := d.stats.realigns + 1 }

/-- The bookkeeping of one decoded frame: a step of the sequence number other than one is a gap. -/
def accept (d : TelDeframer) (frame : TelFrame) : TelDeframer :=
  let gap : Nat :=
    match d.lastSeq with
    | some last =>
      let step := frame.seq - last
      if step ≠ 1 then (step - 1).toNat else 0
    | none => 0
  { d with
    rest := d.rest.drop d.flen
    lastSeq := some frame.seq
    stats := { d.stats with frames := d.stats.frames + 1, seqGaps := d.stats.seqGaps + gap } }

theorem flen_pos (d : TelDeframer) : 0 < d.flen :=
  Nat.lt_of_lt_of_le (by decide) (Nat.le_add_right telHdrLen _)

end TelDeframer

theorem slide_length (flen : Nat) (bytes : List UInt8) : (slide flen bytes).2.length ≤ bytes.length := by
  induction bytes with
  | nil => simp [slide]
  | cons b tail ih =>
    simp only [slide]
    split
    next =>
      split
      next => exact Nat.le_refl _
      next => exact Nat.le_succ_of_le ih
    next => exact Nat.le_refl _

theorem slide_aligned {flen : Nat} {bytes rest : List UInt8} (found : slide flen bytes = (true, rest)) :
    aligned flen rest = true := by
  induction bytes with
  | nil => simp [slide] at found
  | cons b tail ih =>
    simp only [slide] at found
    split at found
    next =>
      split at found
      next locks =>
        injection found with _ same
        rwa [← same]
      next => exact ih found
    next => simp at found

theorem aligned_sync {flen : Nat} {bytes : List UInt8} (locks : aligned flen bytes = true) :
    bytes.getD 0 0 = telSync := by
  simp only [aligned, Bool.and_eq_true] at locks
  simpa using List.all_eq_true.mp locks.1 0 (by decide)

theorem acquire_sync {d ready : TelDeframer} (found : d.acquire = (true, ready)) :
    ready.rest.getD 0 0 = telSync ∧ ready.rest.length ≤ d.rest.length ∧ ready.locked = true := by
  simp only [TelDeframer.acquire] at found
  have short := slide_length d.flen d.rest
  split at found
  next rest slid =>
    injection found with _ same
    subst same
    rw [slid] at short
    exact ⟨aligned_sync (slide_aligned slid), short, rfl⟩
  next => simp at found

namespace TelDeframer

def ready (d : TelDeframer) : Bool × TelDeframer :=
  if d.locked then (true, d) else d.acquire

theorem ready_spec {d d' : TelDeframer} (ready : d.ready = (true, d')) :
    d'.locked = true ∧ d'.rest.length ≤ d.rest.length ∧ (d = d' ∨ d'.rest.getD 0 0 = telSync) := by
  simp only [TelDeframer.ready] at ready
  split at ready
  next locked =>
    injection ready with _ same
    subst same
    exact ⟨locked, Nat.le_refl _, .inl rfl⟩
  next =>
    obtain ⟨sync, short, locked⟩ := acquire_sync ready
    exact ⟨locked, short, .inr sync⟩

def drain (d : TelDeframer) (out : List TelFrame) : TelDeframer × List TelFrame :=
  match _ : d.ready with
  | (false, d') => (d', out)
  | (true, d') =>
    if d'.rest.length < d'.flen then (d', out)
    else if d'.rest.getD 0 0 ≠ telSync then d'.unlocked.drain out
    else
      let frame := decodeAt d'.mask (d'.rest.take d'.flen)
      (d'.accept frame).drain (out ++ [frame])
termination_by 2 * d.rest.length + d.locked.toNat
decreasing_by
  next ready _ mismatch =>
    obtain ⟨locked, -, same | sync⟩ := ready_spec ready
    next =>
      subst same
      simp only [unlocked, locked, Bool.toNat_false, Bool.toNat_true]
      omega
    next => exact absurd sync mismatch
  next ready long _ =>
    have short := (ready_spec ready).2.1
    have step := flen_pos d'
    have flag := Bool.toNat_le (d'.accept (decodeAt d'.mask (d'.rest.take d'.flen))).locked
    simp only [accept, List.length_drop] at flag ⊢
    omega

def push (d : TelDeframer) (bytes : List UInt8) (out : List TelFrame) : TelDeframer × List TelFrame :=
  { d with rest := d.rest ++ bytes }.drain out

end TelDeframer

end OpenServo.Ident
