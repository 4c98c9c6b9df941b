import OpenServo.Bus.FrameView
import OpenServo.Bus.ServoBus
import OpenServo.Shared.Run

set_option autoImplicit false

namespace OpenServo.Bus

open OpenServo.Core OpenServo.Protocol OpenServo.Shared

structure DriftTally where
  prev : Option (UInt32 × Nat)
  seen : VerifiedSpan
  base : Option Int32
  baseErr : Int32
  baseN : UInt8
  winErr : Int32
  winSpan : UInt32
  winN : UInt8
deriving DecidableEq, Repr

namespace ClockTracker

def tally (clock : ClockTracker) : DriftTally :=
  ⟨clock.driftPrev, clock.driftSeen, clock.driftBase, clock.driftBaseErr, clock.driftBaseN, clock.driftWinErr,
    clock.driftWinSpan, clock.driftWinN⟩

def pairing (clock : ClockTracker) (now : UInt32) (cursor len : Nat) (tpb : UInt32) : Option (Int32 × UInt32) :=
  match clock.driftPrev, clock.driftSeen with
  | some (t1, c1), .one footprint true =>
    if len = 0 ∨ ringWrap (cursor + len - c1) len % 65536 ≠ footprint then none
    else
      let span := UInt32.ofNat footprint * tpb
      let err := (now - t1 - span).toInt32
      if span >>> trimGateShift < unsignedAbs err then none else some (err, span)
  | _, _ => none

def stamped (clock : ClockTracker) (now : UInt32) (cursor : Nat) : ClockTracker :=
  { clock with driftPrev := some (now, cursor), driftSeen := .none }

theorem onDriftBreak_eq (clock : ClockTracker) (now : UInt32) (cursor len : Nat) (tpb : UInt32) :
    clock.onDriftBreak now cursor len tpb =
      match clock.pairing now cursor len tpb with
      | some (err, span) => (clock.stamped now cursor).driftPair err span
      | none => clock.stamped now cursor := by
  unfold onDriftBreak pairing
  cases prev : clock.driftPrev with
  | none => rfl
  | some stamp =>
    cases seen : clock.driftSeen with
    | none | many => rfl
    | one footprint silent =>
      cases silent with
      | false => rfl
      | true =>
        by_cases exact : len = 0 ∨ ringWrap (cursor + len - stamp.2) len % 65536 ≠ footprint
        next => simp only [if_pos exact]; rfl
        next =>
          by_cases gated : (UInt32.ofNat footprint * tpb) >>> trimGateShift <
              unsignedAbs (now - stamp.1 - UInt32.ofNat footprint * tpb).toInt32
          next => simp only [if_neg exact, if_pos gated]; rfl
          next => simp only [if_neg exact, if_neg gated]; rfl

theorem pairing_tally {clock other : ClockTracker} (same : other.tally = clock.tally) (now : UInt32)
    (cursor len : Nat) (tpb : UInt32) : other.pairing now cursor len tpb = clock.pairing now cursor len tpb := by
  have prev : other.driftPrev = clock.driftPrev := congrArg DriftTally.prev same
  have seen : other.driftSeen = clock.driftSeen := congrArg DriftTally.seen same
  rw [pairing, prev, seen, pairing]

theorem driftPair_tally {clock other : ClockTracker} (same : other.tally = clock.tally) (err : Int32)
    (span : UInt32) : (other.driftPair err span).tally = (clock.driftPair err span).tally := by
  simp only [tally, DriftTally.mk.injEq] at same
  obtain ⟨prev, seen, base, baseErr, baseN, winErr, winSpan, winN⟩ := same
  unfold driftPair
  rw [base]
  split
  next => simp only [tally, prev, seen, baseErr, baseN, winErr, winSpan, winN]
  next =>
    simp only [winErr, winSpan, winN]
    split
    next => simp only [tally, prev, seen, baseErr, baseN]
    next => split <;> split <;> simp only [tally, prev, seen, base, baseErr, baseN]

theorem onDriftBreak_tally {clock other : ClockTracker} (same : other.tally = clock.tally) (now : UInt32)
    (cursor len : Nat) (tpb : UInt32) :
    (other.onDriftBreak now cursor len tpb).tally = (clock.onDriftBreak now cursor len tpb).tally := by
  have stamped : (other.stamped now cursor).tally = (clock.stamped now cursor).tally := by
    simp only [tally, DriftTally.mk.injEq] at same
    simp only [tally, ClockTracker.stamped, same]
  rw [onDriftBreak_eq, onDriftBreak_eq, pairing_tally same]
  split
  next => exact driftPair_tally stamped _ _
  next => exact stamped

theorem noteVerified_tally {clock other : ClockTracker} (same : other.tally = clock.tally) (footprint : Nat)
    (silent : Bool) : (other.noteVerified footprint silent).tally = (clock.noteVerified footprint silent).tally := by
  simp only [tally, DriftTally.mk.injEq] at same
  simp only [tally, noteVerified, same]

theorem driftPair_prev (clock : ClockTracker) (err : Int32) (span : UInt32) :
    (clock.driftPair err span).driftPrev = clock.driftPrev ∧
      (clock.driftPair err span).driftSeen = clock.driftSeen := by
  unfold driftPair
  split
  next => exact ⟨rfl, rfl⟩
  next =>
    dsimp only
    split
    next => exact ⟨rfl, rfl⟩
    next => split <;> exact ⟨rfl, rfl⟩

theorem onDriftBreak_prev (clock : ClockTracker) (now : UInt32) (cursor len : Nat) (tpb : UInt32) :
    (clock.onDriftBreak now cursor len tpb).driftPrev = some (now, cursor) ∧
      (clock.onDriftBreak now cursor len tpb).driftSeen = .none := by
  rw [onDriftBreak_eq]
  split
  next => exact driftPair_prev _ _ _
  next => exact ⟨rfl, rfl⟩

end ClockTracker

/-- An instruction that nothing answers. -/
def silentInstruction (view : FrameBytes) : Bool :=
  let inst : Inst := view.bytes.getD 3 0
  match inst.opcode with
  | some .gwrite => true
  | some .write | some .commit => inst.noreply || view.bytes.getD 1 0 == broadcast
  | _ => false

theorem driftShape_tally {ring : List UInt8} {span : FrameSpan} (shape : RingShape ring.length)
    (candidate : Candidate ring span) (clock : ClockTracker) :
    (ServoBus.driftShape clock ring span.anchor span.footprint).tally =
      (clock.noteVerified span.footprint
        (silentInstruction (frameView ring span.anchor span.footprint))).tally := by
  have low := candidate.low
  have high := candidate.high
  have large := shape.large
  have byte (i : Nat) (below : i < span.footprint) :
      (frameView ring span.anchor span.footprint).bytes.getD i 0 = ring.getD ((span.anchor + i) % ring.length) 0 := by
    rw [frameView_bytes candidate.inside (by omega), around]
    simp [List.getD_eq_getElem?_getD, List.getElem?_map, List.getElem?_range below]
  have some : ring.length ≠ 0 := by omega
  unfold ServoBus.driftShape
  by_cases paired : clock.pairOpen = true
  next =>
    rw [if_neg (by simp [paired]), if_neg some]
    dsimp only
    rw [silentInstruction, byte 3 (by omega), byte 1 (by omega), shape.wrap_eq]
    rfl
  next =>
    rw [if_pos (by simp [paired])]
    have held : clock.driftSeen ≠ .none := by
      intro none
      exact paired (by rw [ClockTracker.pairOpen, none]; rfl)
    unfold ClockTracker.noteVerified ClockTracker.tally
    cases seen : clock.driftSeen with
    | none => exact absurd seen held
    | one | many => rfl

/-- A break wake's stamp: its tick, and how much of the stream had rung when its newest byte was looked at and when
its cursor was taken. -/
structure BreakStamp where
  tick : UInt32
  newest : Nat
  place : Nat
deriving DecidableEq, Repr

structure VerifiedFrame where
  place : Nat
  view : FrameBytes
deriving DecidableEq, Repr

structure DriftPair where
  first : Option BreakStamp
  second : BreakStamp
  seen : List VerifiedFrame
deriving DecidableEq, Repr

inductive PairOp where
  | stamp (stamp : BreakStamp) (tpb : UInt32)
  | verified (frame : VerifiedFrame)
  | restart
deriving DecidableEq, Repr

structure PairLedger where
  clock : ClockTracker := {}
  stamp : Option BreakStamp := none
  seen : List VerifiedFrame := []
  pairs : List DriftPair := []

namespace PairLedger

def step (len : Nat) (ledger : PairLedger) : PairOp → PairLedger
  | .stamp stamp tpb =>
    let added := (ledger.clock.pairing stamp.tick (stamp.place % len) len tpb).isSome
    { clock := ledger.clock.onDriftBreak stamp.tick (stamp.place % len) len tpb
      stamp := some stamp
      seen := []
      pairs := ledger.pairs ++ if added then [⟨ledger.stamp, stamp, ledger.seen⟩] else [] }
  | .verified frame =>
    { ledger with
      clock := ledger.clock.noteVerified frame.view.bytes.length (silentInstruction frame.view)
      seen := ledger.seen ++ [frame] }
  | .restart => { ledger with clock := ledger.clock.restart, stamp := none, seen := [] }

end PairLedger

/-- One silent frame passed between the stamps, and it fills what rang from the one break byte to the other. -/
structure DriftPair.Exact (pair : DriftPair) (first : BreakStamp) (frame : VerifiedFrame) : Prop where
  begun : pair.first = some first
  alone : pair.seen = [frame]
  silent : silentInstruction frame.view = true
  opens : first.newest = frame.place + 1 ∧ first.place = frame.place + 1
  closes : pair.second.newest = frame.place + frame.view.bytes.length + 1 ∧
    pair.second.place = frame.place + frame.view.bytes.length + 1

/-- No byte rings inside a stamp and no lap between two of them, and a silent frame that passes first after a stamp is
the one whose break was stamped. -/
def PairOp.Clear (len : Nat) (ledger : PairLedger) : PairOp → Prop
  | .stamp mark _ =>
    mark.newest = mark.place ∧ ∀ first, ledger.stamp = some first → mark.place < first.place + len
  | .verified frame =>
    ledger.seen = [] → silentInstruction frame.view = true →
      ∀ first, ledger.stamp = some first → first.place = frame.place + 1
  | .restart => True

/-- The stream does not run backwards. -/
def PairOp.Ordered (ledger : PairLedger) : PairOp → Prop
  | .stamp mark _ => ∀ first, ledger.stamp = some first → first.place ≤ mark.place
  | .verified _ | .restart => True

def recordOf : List VerifiedFrame → VerifiedSpan
  | [] => .none
  | [frame] => .one frame.view.bytes.length (silentInstruction frame.view)
  | _ => .many

structure Bracketed (len : Nat) (ledger : PairLedger) : Prop where
  prev : ledger.clock.driftPrev = ledger.stamp.map fun stamp => (stamp.tick, stamp.place % len)
  record : ledger.clock.driftSeen = recordOf ledger.seen
  settled : ∀ stamp, ledger.stamp = some stamp → stamp.newest = stamp.place
  own : ∀ frame, ledger.seen = [frame] → silentInstruction frame.view = true →
    ∀ stamp, ledger.stamp = some stamp → stamp.place = frame.place + 1
  exact : ∀ pair ∈ ledger.pairs, ∃ first frame, pair.Exact first frame

section Ledger

variable {len : Nat} {ledger : PairLedger}

theorem recordOf_append (seen : List VerifiedFrame) (frame : VerifiedFrame) :
    recordOf (seen ++ [frame]) =
      match recordOf seen with
      | .none => .one frame.view.bytes.length (silentInstruction frame.view)
      | _ => .many := by
  cases seen with
  | nil => rfl
  | cons first rest =>
    cases rest with
    | nil => rfl
    | cons => rfl

theorem Bracketed.paired (shape : RingShape len) (bracketed : Bracketed len ledger) {stamp : BreakStamp}
    {tpb : UInt32} (clear : (PairOp.stamp stamp tpb).Clear len ledger)
    (ordered : (PairOp.stamp stamp tpb).Ordered ledger)
    (added : (ledger.clock.pairing stamp.tick (stamp.place % len) len tpb).isSome = true) :
    ∃ first frame, (DriftPair.mk ledger.stamp stamp ledger.seen).Exact first frame := by
  obtain ⟨settled, lap⟩ := clear
  have large := shape.large
  unfold ClockTracker.pairing at added
  split at added
  next t1 c1 footprint prev record =>
    rw [bracketed.prev] at prev
    obtain ⟨first, begun, rfl, rfl⟩ : ∃ first, ledger.stamp = some first ∧ first.tick = t1 ∧ first.place % len = c1 := by
      simpa [Option.map_eq_some_iff, Prod.mk.injEq] using prev
    have late := ordered first begun
    have near := lap first begun
    rw [bracketed.record] at record
    obtain ⟨frame, alone, size, silent⟩ : ∃ frame, ledger.seen = [frame] ∧
        frame.view.bytes.length = footprint ∧ silentInstruction frame.view = true := by
      match seen : ledger.seen with
      | [] => rw [seen] at record; cases record
      | [frame] =>
        rw [seen, recordOf, VerifiedSpan.one.injEq] at record
        exact ⟨frame, rfl, record⟩
      | _ :: _ :: _ => rw [seen] at record; cases record
    have opens := bracketed.own frame alone silent first begun
    split at added
    next => cases added
    next exact' =>
      have span : ringWrap (stamp.place % len + len - first.place % len) len % 65536 = footprint :=
        Decidable.not_not.mp fun other => exact' (.inr other)
      rw [shape.wrap_u16, shape.wrap_eq, wrapped_distance late (by omega)] at span
      have settles := bracketed.settled first begun
      have ends : stamp.place = frame.place + frame.view.bytes.length + 1 := by omega
      exact ⟨first, frame, begun, alone, silent, ⟨settles.trans opens, opens⟩, ⟨settled.trans ends, ends⟩⟩
  next => cases added

theorem Bracketed.step (shape : RingShape len) (bracketed : Bracketed len ledger) (op : PairOp)
    (clear : op.Clear len ledger) (ordered : op.Ordered ledger) : Bracketed len (ledger.step len op) := by
  cases op with
  | stamp stamp tpb =>
    obtain ⟨prev, record⟩ := ledger.clock.onDriftBreak_prev stamp.tick (stamp.place % len) len tpb
    refine ⟨prev, record, ?_, nofun, ?_⟩
    next =>
      rintro _ ⟨rfl⟩
      exact clear.1
    next =>
      intro pair member
      obtain before | last := List.mem_append.mp member
      next => exact bracketed.exact pair before
      next =>
        split at last
        next added =>
          rw [List.mem_singleton.mp last]
          exact bracketed.paired shape clear ordered added
        next => cases last
  | verified frame =>
    refine ⟨bracketed.prev, ?_, bracketed.settled, ?_, bracketed.exact⟩
    next =>
      refine Eq.trans ?_ (recordOf_append ledger.seen frame).symm
      rw [← bracketed.record]
      rfl
    next =>
      intro own alone silent stamp held
      obtain ⟨none, rfl⟩ : ledger.seen = [] ∧ frame = own := by
        simpa [PairLedger.step, List.append_eq_singleton_iff] using alone
      exact clear none silent stamp held
  | restart => exact ⟨rfl, rfl, nofun, nofun, bracketed.exact⟩

end Ledger

end OpenServo.Bus
