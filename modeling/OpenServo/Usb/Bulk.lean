import OpenServo.Shared.AlternatingBit
import OpenServo.Usb.Bus

set_option autoImplicit false

namespace OpenServo.Usb

open OpenServo.Protocol OpenServo.Shared

/-- The requests that leave the bulk pair alone. -/
def Setup.Quiet (setup : Setup) : Prop :=
  ¬ (setup.reqType = 0x00 ∧ setup.request = 9) ∧ ¬ (setup.reqType = 0x02 ∧ setup.request = 1)

def Setup.Configures (setup : Setup) : Prop :=
  setup.reqType = 0x00 ∧ setup.request = 9 ∧ setup.value = 1

def Event.Quiet : Event → Prop
  | .setup request _ => request.Quiet
  | .busReset => False
  | _ => True

theorem Regs.waiting_eq_false {regs : Regs} :
    regs.waiting = false ↔ regs.busRst = false ∧ regs.setupAct = false ∧ regs.transfer = none := by
  simp [Regs.waiting, and_assoc]

theorem Regs.takeOut_eq_some {regs after : Regs} {tog : Bool} {packet : List UInt8}
    (taken : regs.takeOut tog packet = some after) :
    regs.waiting = false ∧ regs.ep1.rRes = .ack ∧
      after = { regs with
        ep1Rx := poke regs.ep1Rx 0 packet, rxLen := packet.length, transfer := some ⟨1, .out, tog == regs.ep1.rTog⟩ } := by
  unfold Regs.takeOut at taken
  split_ifs at taken with refused
  simp only [Bool.or_eq_true, Bool.not_eq_true', decide_eq_true_eq, not_or, Bool.not_eq_true, ne_eq, not_not] at refused
  exact ⟨refused.1.1, refused.2, (Option.some.inj taken).symm⟩

theorem Regs.giveIn_eq_some {regs : Regs} {tog : Bool} {packet : List UInt8} (given : regs.giveIn = some (tog, packet)) :
    regs.waiting = false ∧ regs.ep1.tRes = .ack ∧ tog = regs.ep1.tTog ∧ packet = readBytes regs.ep1Tx 0 regs.ep1.tLen := by
  unfold Regs.giveIn at given
  split_ifs at given with refused
  simp only [Bool.or_eq_true, Bool.not_eq_true', decide_eq_true_eq, not_or, Bool.not_eq_true, ne_eq, not_not] at refused
  cases given
  exact ⟨refused.1.1, refused.2, rfl, rfl⟩

section Frame

structure Bulk where
  configured : Bool
  txBusy : Bool
  txTog : Bool
  rxTog : Bool
  rxPending : Option Nat
  ep1En : Bool
  ep1 : EpCtrl
  ep1Rx : Store bulkMpsHs
  ep1Tx : Store bulkMpsHs
  rxLen : Nat
  highSpeed : Bool
  busRst : Bool
  setupAct : Bool

namespace UsbDevice

variable {dev : UsbDevice}

def bulk (dev : UsbDevice) : Bulk :=
  { configured := dev.configured
    txBusy := dev.txBusy
    txTog := dev.txTog
    rxTog := dev.rxTog
    rxPending := dev.rxPending
    ep1En := dev.regs.ep1En
    ep1 := dev.regs.ep1
    ep1Rx := dev.regs.ep1Rx
    ep1Tx := dev.regs.ep1Tx
    rxLen := dev.regs.rxLen
    highSpeed := dev.regs.highSpeed
    busRst := dev.regs.busRst
    setupAct := dev.regs.setupAct }

@[simp] theorem setStage_bulk (bytes : List UInt8) : (dev.setStage bytes).bulk = dev.bulk := rfl

theorem stringBody_bulk {idx : UInt8} {after : UsbDevice} {n : Nat} (body : dev.stringBody idx = some (after, n)) :
    after.bulk = dev.bulk := by
  unfold stringBody utf16String at body
  split_ifs at body <;> cases body <;> rfl

theorem loadDescriptor_bulk (kind idx : UInt8) : (dev.loadDescriptor kind idx).1.bulk = dev.bulk := by
  unfold loadDescriptor
  split_ifs
  all_goals try rfl
  split
  next => rfl
  next after n body => rw [setStage_bulk, stringBody_bulk body]

theorem serve_bulk {setup : Setup} (quiet : setup.Quiet) : (dev.serve setup).1.bulk = dev.bulk := by
  have plain := quiet.1
  have unhalted : ¬ (setup.reqType = 0x02 ∧ setup.request = 1 ∧ setup.value = 0) := fun same => quiet.2 ⟨same.1, same.2.1⟩
  rw [serve, if_neg plain, if_neg unhalted]
  split_ifs
  all_goals try rfl
  exact loadDescriptor_bulk _ _

theorem ep0SendChunk_bulk : dev.ep0SendChunk.bulk = dev.bulk := by
  unfold ep0SendChunk
  split <;> rfl

theorem reply_bulk (length n : Nat) : (dev.reply length n).bulk = dev.bulk := by
  unfold reply
  split
  next => rfl
  next => exact ep0SendChunk_bulk

theorem onSetup_bulk (quiet : (Setup.read dev.regs.ep0Buf).Quiet) : dev.onSetup.bulk = dev.bulk := by
  have served := @serve_bulk dev.park _ quiet
  rw [onSetup]
  generalize dev.park.serve (Setup.read dev.regs.ep0Buf) = out at served ⊢
  rcases out with ⟨after, none | n⟩
  next => exact served
  next => exact Eq.trans (reply_bulk _ n) served

theorem onEp0Transfer_bulk (token : UsbToken) : (dev.onEp0Transfer token).bulk = dev.bulk := by
  unfold onEp0Transfer
  split
  next =>
    split
    next => exact ep0SendChunk_bulk
    next => rfl
  next => split <;> rfl
  next => rfl
  next => rfl

theorem mps_le : dev.mps ≤ bulkMpsHs := by
  unfold mps
  split <;> decide

/-- No transfer of the bulk pair waits for service, but for a repeated packet. -/
def Free (dev : UsbDevice) : Prop :=
  dev.regs.transfer ≠ some ⟨1, .out, true⟩ ∧ dev.regs.transfer ≠ some ⟨1, .in, true⟩

theorem poll_transfer (up : dev.regs.busRst = false) : dev.poll.regs.transfer = none := by
  rw [poll, if_neg (by simp [up])]
  split
  next => rfl
  next => split <;> simp_all

theorem poll_cases (up : dev.regs.busRst = false)
    (quiet : dev.regs.setupAct = true → (Setup.read dev.regs.ep0Buf).Quiet ∧ dev.Free)
    (acked : ∀ ok, dev.regs.transfer = some ⟨1, .in, ok⟩ → ok = true) :
    (dev.poll.bulk = { dev.bulk with setupAct := false } ∧ dev.Free) ∨
      (dev.regs.setupAct = false ∧
        (dev.regs.transfer = some ⟨1, .out, true⟩ ∨ dev.regs.transfer = some ⟨1, .in, true⟩)) := by
  cases asked : dev.regs.setupAct with
  | true =>
    refine .inl ⟨?_, (quiet asked).2⟩
    have same := onSetup_bulk (quiet asked).1
    rw [poll, if_neg (by simp [up]), if_pos asked]
    exact congrArg (fun pair : Bulk => { pair with setupAct := false }) same
  | false =>
    have flag : { dev.bulk with setupAct := false } = dev.bulk := by
      rw [← asked]
      rfl
    rw [flag, poll, if_neg (by simp [up]), if_neg (by simp [asked])]
    rcases served : dev.regs.transfer with _ | ⟨endp, token, ok⟩
    next => exact .inl ⟨rfl, by simp [Free, served]⟩
    next =>
      by_cases ours : endp = 1
      next =>
        subst ours
        cases token with
        | out =>
          cases ok with
          | true => exact .inr ⟨rfl, .inl rfl⟩
          | false => exact .inl ⟨rfl, by simp [Free, served]⟩
        | sof => exact .inl ⟨rfl, by simp [Free, served]⟩
        | «in» =>
          obtain rfl := acked ok served
          exact .inr ⟨rfl, .inr rfl⟩
        | setup => exact .inl ⟨rfl, by simp [Free, served]⟩
      next =>
        refine .inl ⟨?_, by simp [Free, served, ours]⟩
        by_cases control : endp = 0
        next =>
          subst control
          exact onEp0Transfer_bulk token
        next =>
          simp only [onTransfer, control, ours, if_false]
          rfl

end UsbDevice

end Frame

/-- What holds of a configured device between any two steps, once it has been given packets to send. -/
structure UsbDevice.Sound (dev : UsbDevice) (sent : List (List UInt8)) : Prop where
  up : dev.regs.busRst = false
  asked : dev.regs.setupAct = true → (Setup.read dev.regs.ep0Buf).Quiet ∧ dev.Free
  live : dev.configured = true ∧ dev.regs.ep1En = true
  rTog : dev.regs.ep1.rTog = dev.rxTog
  rRes : dev.regs.ep1.rRes = if dev.rxPending.isSome then .nak else .ack
  tRes : dev.regs.ep1.tRes = if dev.txBusy then .ack else .nak
  held : ∀ n, dev.rxPending = some n → n ≤ bulkMpsHs
  busy : dev.txBusy = true → dev.regs.ep1.tTog = dev.txTog ∧
    sent.getLast? = some (readBytes dev.regs.ep1Tx 0 dev.regs.ep1.tLen)
  taken : ∀ ok, dev.regs.transfer = some ⟨1, .out, ok⟩ → dev.rxPending = none ∧ dev.regs.rxLen ≤ bulkMpsHs
  acked : ∀ ok, dev.regs.transfer = some ⟨1, .in, ok⟩ → ok = true ∧ dev.txBusy = true

namespace UsbDevice.Sound

variable {dev dev' : UsbDevice} {sent : List (List UInt8)}

theorem aside (sound : dev.Sound sent) {n : Nat} {flag : Bool}
    (same : dev'.bulk = { dev.bulk with rxLen := n, setupAct := flag })
    (after : ∀ transfer, dev'.regs.transfer = some transfer → transfer.endp ≠ 1)
    (asked : flag = true → (Setup.read dev'.regs.ep0Buf).Quiet) : dev'.Sound sent := by
  have setupAct : dev'.regs.setupAct = flag := congrArg Bulk.setupAct same
  have ep1 : dev'.regs.ep1 = dev.regs.ep1 := congrArg Bulk.ep1 same
  have rxTog : dev'.rxTog = dev.rxTog := congrArg Bulk.rxTog same
  have txTog : dev'.txTog = dev.txTog := congrArg Bulk.txTog same
  have txBusy : dev'.txBusy = dev.txBusy := congrArg Bulk.txBusy same
  have rxPending : dev'.rxPending = dev.rxPending := congrArg Bulk.rxPending same
  have ep1Tx : dev'.regs.ep1Tx = dev.regs.ep1Tx := congrArg Bulk.ep1Tx same
  exact {
    up := (congrArg Bulk.busRst same).trans sound.up
    asked := fun on => ⟨asked (setupAct.symm.trans on), fun served => after _ served rfl, fun served => after _ served rfl⟩
    live := ⟨(congrArg Bulk.configured same).trans sound.live.1, (congrArg Bulk.ep1En same).trans sound.live.2⟩
    rTog := by rw [ep1, rxTog, sound.rTog]
    rRes := by rw [ep1, rxPending, sound.rRes]
    tRes := by rw [ep1, txBusy, sound.tRes]
    held := by rw [rxPending]; exact sound.held
    busy := by rw [ep1, txBusy, txTog, ep1Tx]; exact sound.busy
    taken := fun ok served => absurd rfl (after _ served)
    acked := fun ok served => absurd rfl (after _ served) }

end UsbDevice.Sound

namespace Wire

section Views

def unserved (w : Wire) : Option (List UInt8) :=
  if w.dev.regs.transfer = some ⟨1, .out, true⟩ then some (readBytes w.dev.regs.ep1Rx 0 w.dev.regs.rxLen) else none

def completing (w : Wire) : Bool :=
  w.dev.regs.transfer = some ⟨1, .in, true⟩

def outView (w : Wire) : StopWait (List UInt8) :=
  { sends := w.outTog
    expects := xor w.dev.rxTog w.unserved.isSome
    delivered := w.outDone
    underWay := w.outNow
    taken := w.fed ++ w.dev.rx.toList ++ w.unserved.toList }

def inView (w : Wire) : StopWait (List UInt8) :=
  { sends := xor w.dev.txTog w.completing
    expects := w.inTog
    delivered := if w.dev.txBusy && !w.completing then w.sent.dropLast else w.sent
    underWay := if w.dev.txBusy && !w.completing then w.sent.getLast? else none
    taken := w.inGot }

end Views

structure Sound (w : Wire) : Prop where
  dev : w.dev.Sound w.sent
  offered : ∀ packet, w.outNow = some packet → packet.length ≤ bulkMpsHs
  fed : ∀ packet ∈ w.fed, packet.length ≤ bulkMpsHs

section Steps

variable {w : Wire}

theorem aside_views {dev : UsbDevice} {n : Nat} {flag : Bool}
    (same : dev.bulk = { w.dev.bulk with rxLen := n, setupAct := flag }) (before : w.dev.Free) (after : dev.Free)
    (ctl : Ctl) :
    outView { w with dev := dev, ctl := ctl } = w.outView ∧ inView { w with dev := dev, ctl := ctl } = w.inView := by
  have rxTog : dev.rxTog = w.dev.rxTog := congrArg Bulk.rxTog same
  have txTog : dev.txTog = w.dev.txTog := congrArg Bulk.txTog same
  have txBusy : dev.txBusy = w.dev.txBusy := congrArg Bulk.txBusy same
  have rxPending : dev.rxPending = w.dev.rxPending := congrArg Bulk.rxPending same
  have ep1Rx : dev.regs.ep1Rx = w.dev.regs.ep1Rx := congrArg Bulk.ep1Rx same
  constructor
  next => simp [outView, unserved, UsbDevice.rx, rxTog, rxPending, ep1Rx, before.1, after.1]
  next => simp [inView, completing, txTog, txBusy, before.2, after.2]

structure Kept (w w' : Wire) : Prop where
  sound : w'.Sound
  outMove : w.outView.Move w'.outView
  inMove : w.inView.Move w'.inView

theorem Kept.refl (sound : w.Sound) : w.Kept w :=
  ⟨sound, .stay, .stay⟩

theorem Kept.aside (sound : w.Sound) {dev : UsbDevice} {n : Nat} {flag : Bool}
    (same : dev.bulk = { w.dev.bulk with rxLen := n, setupAct := flag }) (before : w.dev.Free)
    (after : ∀ transfer, dev.regs.transfer = some transfer → transfer.endp ≠ 1)
    (asked : flag = true → (Setup.read dev.regs.ep0Buf).Quiet) (ctl : Ctl) :
    w.Kept { w with dev := dev, ctl := ctl } := by
  have free : dev.Free := ⟨fun served => after _ served rfl, fun served => after _ served rfl⟩
  obtain ⟨out, in_⟩ := aside_views same before free ctl
  exact ⟨⟨sound.dev.aside same after asked, sound.offered, sound.fed⟩, by rw [out]; exact .stay, by rw [in_]; exact .stay⟩

theorem free_of_ready (ready : w.dev.regs.waiting = false) : w.dev.Free := by
  simp [UsbDevice.Free, (Regs.waiting_eq_false.mp ready).2.2]

theorem offer_kept (sound : w.Sound) (packet : List UInt8) : w.Kept (w.offer packet) := by
  unfold offer
  split_ifs with refused
  next => exact .refl sound
  next =>
    rw [not_or, Bool.not_eq_true, Option.isSome_eq_false_iff, Option.isNone_iff_eq_none, Nat.not_lt] at refused
    refine ⟨⟨sound.dev, ?_, sound.fed⟩, .load refused.1 packet, .stay⟩
    rintro _ ⟨⟩
    exact Nat.le_trans refused.2 w.dev.mps_le

theorem setup_kept (sound : w.Sound) {request : Setup} (quiet : request.Quiet) (hop : Hop) :
    w.Kept (w.setup request hop) := by
  unfold setup
  split_ifs with refused
  next => exact .refl sound
  all_goals
    rw [not_or, Bool.not_eq_true] at refused
    have idle := (Regs.waiting_eq_false.mp refused.2).2.2
    refine @Kept.aside w sound { w.dev with regs := w.dev.regs.takeSetup request } w.dev.regs.rxLen true rfl
      (free_of_ready refused.2) ?_ ?_ _
    next => simp [Regs.takeSetup, idle]
    next => intro _; rw [Setup.read_takeSetup]; exact quiet

theorem control_kept (sound : w.Sound) (ready : w.dev.regs.waiting = false) (n : Nat) (transfer : Transfer)
    (control : transfer.endp = 0) (ctl : Ctl) :
    w.Kept { w with dev.regs := { w.dev.regs with rxLen := n, transfer := some transfer }, ctl := ctl } := by
  have asked := (Regs.waiting_eq_false.mp ready).2.1
  refine @Kept.aside w sound { w.dev with regs := { w.dev.regs with rxLen := n, transfer := some transfer } } n
    w.dev.regs.setupAct rfl (free_of_ready ready) ?_ (by simp [asked]) ctl
  rintro _ ⟨⟩
  simp [control]

theorem ctl_kept (sound : w.Sound) (ctl : Ctl) : w.Kept { w with ctl := ctl } :=
  ⟨⟨sound.dev, sound.offered, sound.fed⟩, .stay, .stay⟩

theorem in0_kept (sound : w.Sound) (hop : Hop) : w.Kept (w.in0 hop) := by
  unfold in0
  split
  next => exact .refl sound
  next busy =>
    rw [Bool.not_eq_true] at busy
    have acked (ctl : Ctl) : w.Kept { w with dev.regs := w.dev.regs.inAcked 0, ctl := ctl } :=
      control_kept sound busy w.dev.regs.rxLen ⟨0, .in, true⟩ rfl ctl
    split
    next =>
      split_ifs
      next => exact .refl sound
      next => exact acked _
      next => exact ctl_kept sound _
    next =>
      split_ifs
      next => exact .refl sound
      next => exact acked _
      next => exact ctl_kept sound _
    next => exact ctl_kept sound _
    next => exact ctl_kept sound _
    next => exact .refl sound

theorem out0_kept (sound : w.Sound) (hop : Hop) : w.Kept (w.out0 hop) := by
  unfold out0
  split
  next => exact .refl sound
  next busy =>
    rw [not_or, Bool.not_eq_true] at busy
    have acked (ctl : Ctl) : w.Kept { w with dev.regs := w.dev.regs.takeStatus, ctl := ctl } :=
      control_kept sound busy.1 0 ⟨0, .out, true == w.dev.regs.ep0.rTog⟩ rfl ctl
    split
    next =>
      split_ifs
      next => exact .refl sound
      next => exact acked _
      next => exact acked _
    next => exact .refl sound
    next => exact ctl_kept sound _

theorem suspend_kept (sound : w.Sound) : w.Kept { w with dev.regs.suspend := true } := by
  obtain ⟨⟨up, asked, live, rTog, rRes, tRes, held, busy, taken, acked⟩, offered, fed⟩ := sound
  exact ⟨⟨⟨up, asked, live, rTog, rRes, tRes, held, busy, taken, acked⟩, offered, fed⟩, .stay, .stay⟩

theorem consume_spec (sound : w.Sound) :
    w.consume.Sound ∧ w.consume.outView = w.outView ∧ w.consume.inView = w.inView := by
  unfold consume UsbDevice.rxConsume
  cases pending : w.dev.rxPending with
  | none =>
    have same : w.fed ++ w.dev.rx.toList = w.fed := by simp [UsbDevice.rx, pending]
    rw [same]
    exact ⟨sound, rfl, rfl⟩
  | some n =>
    obtain ⟨⟨up, asked, live, rTog, rRes, tRes, held, busy, taken, acked⟩, offered, fed⟩ := sound
    have free (ok : Bool) : w.dev.regs.transfer ≠ some ⟨1, .out, ok⟩ := by
      intro served
      have := (taken ok served).1
      simp [pending] at this
    refine ⟨⟨⟨up, asked, live, rTog, rfl, tRes, ?_, busy, ?_, acked⟩, offered, ?_⟩, ?_, rfl⟩
    next => rintro _ ⟨⟩
    next => intro ok served; exact absurd served (free ok)
    next =>
      intro packet member
      rcases List.mem_append.mp member with old | new
      next => exact fed packet old
      next =>
        simp only [UsbDevice.rx, pending, Option.map_some, Option.toList_some, List.mem_singleton] at new
        rw [new, length_readBytes]
        exact held n pending
    next => simp [outView, unserved, UsbDevice.rx, pending, free true]

theorem consume_kept (sound : w.Sound) : w.Kept w.consume := by
  obtain ⟨after, out, in_⟩ := consume_spec sound
  exact ⟨after, by rw [out]; exact .stay, by rw [in_]; exact .stay⟩

theorem send_kept (sound : w.Sound) (packet : List UInt8) : w.Kept (w.send packet) := by
  unfold send
  split
  next => exact .refl sound
  next refused =>
    rw [not_or, Nat.not_lt] at refused
    have short := Nat.le_trans refused.2 w.dev.mps_le
    have ready : w.dev.txBusy = false := by
      have := refused.1
      simp only [UsbDevice.txReady] at this
      simp_all
    obtain ⟨⟨up, asked, live, rTog, rRes, tRes, held, busy, taken, acked⟩, offered, fed⟩ := sound
    have free : w.dev.regs.transfer ≠ some ⟨1, .in, true⟩ := by
      intro served
      have := (acked true served).2
      simp [ready] at this
    refine ⟨⟨⟨up, asked, live, rTog, rRes, rfl, held, fun _ => ⟨rfl, ?_⟩, taken, ?_⟩, offered, fed⟩, .stay, ?_⟩
    next =>
      have stored := readBytes_poke w.dev.regs.ep1Tx 0 packet (by omega)
      exact List.getLast?_concat.trans (congrArg some stored.symm)
    next => intro ok served; exact ⟨(acked ok served).1, rfl⟩
    next =>
      have loaded : inView { w with dev := w.dev.tx packet, sent := w.sent ++ [packet] } = w.inView.load packet := by
        simp [inView, completing, UsbDevice.tx, ready, free, StopWait.load]
      rw [loaded]
      exact .load (by simp [inView, ready]) packet

theorem out_arrives (sound : w.Sound) {packet : List UInt8} (offer : w.outNow = some packet) {regs : Regs}
    (taken : w.dev.regs.takeOut w.outTog packet = some regs) :
    ({ w.dev with regs := regs }).Sound w.sent ∧ outView { w with dev.regs := regs } = w.outView.arrive ∧
      inView { w with dev.regs := regs } = w.inView := by
  obtain ⟨ready, armed, rfl⟩ := Regs.takeOut_eq_some taken
  obtain ⟨-, quiet, idle⟩ := Regs.waiting_eq_false.mp ready
  obtain ⟨⟨up, asked, live, rTog, rRes, tRes, held, busy, -, -⟩, offered, fed⟩ := sound
  have short := offered packet offer
  have empty : w.dev.rxPending = none := by
    rw [armed] at rRes
    cases pending : w.dev.rxPending with
    | none => rfl
    | some n => simp [pending] at rRes
  refine ⟨⟨up, ?_, live, rTog, rRes, tRes, held, busy, ?_, ?_⟩, ?_, ?_⟩
  next => intro on; rw [quiet] at on; cases on
  next => intro _ _; exact ⟨empty, short⟩
  next => rintro ok ⟨⟩
  next =>
    have stored := readBytes_poke w.dev.regs.ep1Rx 0 packet (by omega)
    by_cases fresh : w.outTog = w.dev.rxTog
    next => simp [outView, unserved, StopWait.arrive, offer, idle, rTog, fresh, stored, UsbDevice.rx, empty]
    next => simp [outView, unserved, StopWait.arrive, offer, idle, rTog, fresh, UsbDevice.rx, empty]
  next => simp [inView, completing, idle]

theorem out_learns {packet : List UInt8} (offer : w.outNow = some packet) {regs : Regs} :
    outView { w with dev.regs := regs, outTog := !w.outTog, outNow := none, outDone := w.outDone ++ [packet] } =
      (outView { w with dev.regs := regs }).learn := by
  simp only [outView, StopWait.learn, offer]
  rfl

theorem out_kept (sound : w.Sound) (hop : Hop) : w.Kept (w.out hop) := by
  unfold out
  split
  next => exact .refl sound
  next => exact .refl sound
  next offer arrives =>
    split
    next => exact .refl sound
    next regs taken =>
      obtain ⟨dev, arrived, aside⟩ := out_arrives sound offer taken
      split
      next =>
        refine ⟨⟨dev, by rintro _ ⟨⟩, sound.fed⟩, ?_, ?_⟩
        next => rw [out_learns offer, arrived]; exact .pass
        next => exact (congrArg (StopWait.Move w.inView) aside).mpr .stay
      next =>
        refine ⟨⟨dev, sound.offered, sound.fed⟩, ?_, ?_⟩
        next => rw [arrived]; exact .arrive
        next => rw [aside]; exact .stay

theorem takeIn_view (sound : w.Sound) {tog : Bool} {packet : List UInt8}
    (given : w.dev.regs.giveIn = some (tog, packet)) :
    w.inView.underWay = some packet ∧ inView (w.takeIn tog packet) = w.inView.arrive ∧
      inView { w.takeIn tog packet with dev.regs := w.dev.regs.inAcked 1 } = w.inView.arrive.learn := by
  obtain ⟨ready, armed, rfl, rfl⟩ := Regs.giveIn_eq_some given
  obtain ⟨-, -, idle⟩ := Regs.waiting_eq_false.mp ready
  have loaded : w.dev.txBusy = true := by
    have tRes := sound.dev.tRes
    rw [armed] at tRes
    cases busy : w.dev.txBusy with
    | true => rfl
    | false => simp [busy] at tRes
  obtain ⟨tTog, last⟩ := sound.dev.busy loaded
  have sent := List.dropLast_append_getLast? _ last
  have pending : w.completing = false := by simp [completing, idle]
  have under : w.inView.underWay = some (readBytes w.dev.regs.ep1Tx 0 w.dev.regs.ep1.tLen) := by
    simp [inView, loaded, pending, last]
  refine ⟨under, ?_, ?_⟩
  next =>
    unfold takeIn
    by_cases fresh : w.dev.txTog = w.inTog
    next => simp [inView, completing, StopWait.arrive, loaded, idle, last, tTog, fresh]
    next => simp [inView, completing, StopWait.arrive, loaded, idle, last, tTog, fresh]
  next =>
    unfold takeIn
    by_cases fresh : w.dev.txTog = w.inTog
    next => simp [inView, completing, StopWait.arrive, StopWait.learn, Regs.inAcked, loaded, idle, last, tTog, fresh, sent]
    next => simp [inView, completing, StopWait.arrive, StopWait.learn, Regs.inAcked, loaded, idle, last, tTog, fresh, sent]

theorem takeIn_cases (tog : Bool) (packet : List UInt8) :
    ∃ expects got, w.takeIn tog packet = { w with inTog := expects, inGot := got } := by
  unfold takeIn
  split
  next => exact ⟨w.inTog, w.inGot, rfl⟩
  next => exact ⟨_, _, rfl⟩

theorem in_kept (sound : w.Sound) (hop : Hop) : w.Kept (w.in hop) := by
  unfold Wire.in
  split
  next => exact .refl sound
  next => exact .refl sound
  next _ tog packet given arrives =>
    obtain ⟨under, arrived, learnt⟩ := takeIn_view sound given
    obtain ⟨ready, armed, -, -⟩ := Regs.giveIn_eq_some given
    obtain ⟨-, quiet, idle⟩ := Regs.waiting_eq_false.mp ready
    obtain ⟨expects, got, same⟩ := @takeIn_cases w tog packet
    rw [same] at arrived learnt ⊢
    obtain ⟨⟨up, asked, live, rTog, rRes, tRes, held, busy, taken, acked⟩, offered, fed⟩ := sound
    have loaded : w.dev.txBusy = true := by
      by_contra idle
      simp [inView, idle] at under
    split
    next =>
      have free : ({ w.dev with regs := w.dev.regs.inAcked 1 } : UsbDevice).regs.transfer ≠ some ⟨1, .out, true⟩ := by
        rintro ⟨⟩
      refine ⟨⟨⟨up, ?_, live, rTog, rRes, tRes, held, busy, ?_, ?_⟩, offered, fed⟩, ?_, ?_⟩
      next => intro on; exact absurd (quiet.symm.trans on) (by decide)
      next => rintro ok ⟨⟩
      next => rintro ok ⟨⟩; exact ⟨rfl, loaded⟩
      next =>
        have aside : outView { w with dev.regs := w.dev.regs.inAcked 1, inTog := expects, inGot := got } = w.outView := by
          simp [outView, unserved, Regs.inAcked, idle, UsbDevice.rx]
        rw [aside]
        exact .stay
      next => rw [learnt]; exact .pass
    next =>
      exact ⟨⟨⟨up, asked, live, rTog, rRes, tRes, held, busy, taken, acked⟩, offered, fed⟩, .stay,
        by rw [arrived]; exact .arrive⟩

theorem poll_spec (sound : w.Sound) :
    w.dev.poll.Sound w.sent ∧ w.dev.poll.regs.setupAct = false ∧ outView { w with dev := w.dev.poll } = w.outView ∧
      inView { w with dev := w.dev.poll } = w.inView := by
  have up := sound.dev.up
  rcases UsbDevice.poll_cases up sound.dev.asked (fun ok served => (sound.dev.acked ok served).1) with
    ⟨same, free⟩ | ⟨quiet, served⟩
  next =>
    have after : w.dev.poll.regs.transfer = none := UsbDevice.poll_transfer up
    have same : w.dev.poll.bulk = { w.dev.bulk with rxLen := w.dev.regs.rxLen, setupAct := false } := same
    refine ⟨sound.dev.aside same ?_ (fun on => by cases on), congrArg Bulk.setupAct same,
      aside_views same free (by simp [UsbDevice.Free, after]) w.ctl⟩
    intro transfer served
    rw [after] at served
    cases served
  next =>
    obtain ⟨⟨-, asked, live, rTog, rRes, tRes, held, busy, taken, acked⟩, offered, fed⟩ := sound
    have quiet_after (on : w.dev.regs.setupAct = true) {P : Prop} : P := absurd (quiet.symm.trans on) (by decide)
    -- An OUT, and then an IN.
    rcases served with served | served
    next =>
      have turn : w.dev.poll = { w.dev with
          rxTog := !w.dev.rxTog, rxPending := some w.dev.regs.rxLen
          regs := { w.dev.regs with ep1 := w.dev.regs.ep1.writeRx (!w.dev.rxTog) .nak, transfer := none } } := by
        rw [UsbDevice.poll, if_neg (by simp [up]), if_neg (by simp [quiet]), served]
        rfl
      obtain ⟨empty, short⟩ := taken true served
      rw [turn]
      refine ⟨⟨up, fun on => quiet_after on, live, rfl, rfl, tRes, ?_, busy, ?_, ?_⟩, quiet, ?_, ?_⟩
      next => rintro _ ⟨⟩; exact short
      next => rintro ok ⟨⟩
      next => rintro ok ⟨⟩
      next => simp [outView, unserved, served, UsbDevice.rx, empty]
      next => simp [inView, completing, served]
    next =>
      have turn : w.dev.poll = { w.dev with
          txTog := !w.dev.txTog, txBusy := false
          regs := { w.dev.regs with ep1 := { w.dev.regs.ep1 with tRes := .nak }, transfer := none } } := by
        rw [UsbDevice.poll, if_neg (by simp [up]), if_neg (by simp [quiet]), served]
        rfl
      rw [turn]
      refine ⟨⟨up, fun on => quiet_after on, live, rTog, rRes, rfl, held, ?_, ?_, ?_⟩, quiet, ?_, ?_⟩
      next => rintro ⟨⟩
      next => rintro ok ⟨⟩
      next => rintro ok ⟨⟩
      next => simp [outView, unserved, served, UsbDevice.rx]
      next => simp [inView, completing, served, (acked true served).2]

theorem poll_kept (sound : w.Sound) : w.Kept { w with dev := w.dev.poll } := by
  obtain ⟨dev, -, out, in_⟩ := poll_spec sound
  exact ⟨⟨dev, sound.offered, sound.fed⟩, by rw [out]; exact .stay, by rw [in_]; exact .stay⟩

theorem step_kept (sound : w.Sound) {event : Event} (quiet : event.Quiet) : w.Kept (w.step event) := by
  cases event with
  | offer packet => exact offer_kept sound packet
  | out hop => exact out_kept sound hop
  | «in» hop => exact in_kept sound hop
  | setup request hop => exact setup_kept sound quiet hop
  | in0 hop => exact in0_kept sound hop
  | out0 hop => exact out0_kept sound hop
  | suspend => exact suspend_kept sound
  | busReset => exact absurd quiet id
  | poll => exact poll_kept sound
  | consume => exact consume_kept sound
  | send packet => exact send_kept sound packet

end Steps

section Runs

def fresh (dev : UsbDevice) (ctl : Ctl) : Wire :=
  { dev := dev, ctl := ctl }

/-- A device in whatever state is configured; what comes after is any traffic without another configuration, the
clearing of a halt, or a reset. -/
def Reached (w : Wire) : Prop :=
  ∃ (dev : UsbDevice) (ctl : Ctl) (events : List Event), dev.regs.busRst = false ∧ dev.regs.setupAct = true ∧
    (Setup.read dev.regs.ep0Buf).Configures ∧ (∀ event ∈ events, event.Quiet) ∧ run step (fresh dev.poll ctl) events = w

variable {w : Wire}

theorem Reached.onward (reached : w.Reached) {event : Event} (quiet : event.Quiet) : (w.step event).Reached := by
  obtain ⟨dev, ctl, events, up, asked, configures, quiets, rfl⟩ := reached
  refine ⟨dev, ctl, events ++ [event], up, asked, configures, ?_, by rw [run_append]; rfl⟩
  intro one member
  rcases List.mem_append.mp member with old | new
  next => exact quiets one old
  next => exact List.mem_singleton.mp new ▸ quiet

theorem fresh_sound {dev : UsbDevice} (up : dev.regs.busRst = false) (asked : dev.regs.setupAct = true)
    (configures : (Setup.read dev.regs.ep0Buf).Configures) (ctl : Ctl) :
    (fresh dev.poll ctl).Sound ∧ (fresh dev.poll ctl).outView.InStep ∧ (fresh dev.poll ctl).inView.InStep := by
  obtain ⟨out, request, one⟩ := configures
  have served : dev.park.serve (Setup.read dev.regs.ep0Buf) = (dev.park.configureEp1, some 0) := by
    simp [UsbDevice.serve, out, request, one]
  have same : dev.poll.bulk = { dev.park.configureEp1.bulk with setupAct := false } := by
    have replied : dev.onSetup.bulk = dev.park.configureEp1.bulk := by
      rw [UsbDevice.onSetup, served]
      exact UsbDevice.reply_bulk _ _
    rw [UsbDevice.poll, if_neg (by simp [up]), if_pos asked]
    exact congrArg (fun pair : Bulk => { pair with setupAct := false }) replied
  have idle := UsbDevice.poll_transfer up
  have rxTog : dev.poll.rxTog = false := congrArg Bulk.rxTog same
  have txTog : dev.poll.txTog = false := congrArg Bulk.txTog same
  have txBusy : dev.poll.txBusy = false := congrArg Bulk.txBusy same
  have rxPending : dev.poll.rxPending = none := congrArg Bulk.rxPending same
  have ep1 : dev.poll.regs.ep1 = (dev.regs.ep1.writeRx false .ack).writeTx false .nak := congrArg Bulk.ep1 same
  have setupAct : dev.poll.regs.setupAct = false := congrArg Bulk.setupAct same
  refine ⟨⟨⟨(congrArg Bulk.busRst same).trans up, ?_, ⟨congrArg Bulk.configured same, congrArg Bulk.ep1En same⟩, ?_, ?_, ?_,
    ?_, ?_, ?_, ?_⟩, ?_, ?_⟩, .ahead ?_ ?_, .ahead ?_ ?_⟩
  all_goals
    simp [fresh, outView, inView, unserved, completing, UsbDevice.rx, rxTog, txTog, txBusy, rxPending, ep1, setupAct, idle,
      EpCtrl.writeRx, EpCtrl.writeTx]

theorem Reached.sound (reached : w.Reached) : w.Sound ∧ w.outView.InStep ∧ w.inView.InStep := by
  obtain ⟨dev, ctl, events, up, asked, configures, quiet, rfl⟩ := reached
  refine run_invariant step (fun _ event => event.Quiet) (fun w => w.Sound ∧ w.outView.InStep ∧ w.inView.InStep) ?_ _
    (fresh_sound up asked configures ctl) events (meets_forall step _ events quiet)
  rintro w event ⟨sound, out, in_⟩ quiet
  have kept := step_kept sound quiet
  exact ⟨kept.sound, out.move kept.outMove, in_.move kept.inMove⟩

theorem Reached.counts (reached : w.Reached) : w.outView.Counts := by
  obtain ⟨dev, ctl, events, up, asked, configures, quiet, rfl⟩ := reached
  obtain ⟨sound, out, -⟩ := fresh_sound up asked configures ctl
  have start : (fresh dev.poll ctl).outView.Counts := by
    cases out with
    | ahead agree same => rw [StopWait.Counts, ← agree, same]; exact Nat.bodd_zero.symm
    | arrived _ p current _ => exact absurd current.symm (Option.some_ne_none p)
  refine (run_invariant step (fun _ event => event.Quiet) (fun w => w.Sound ∧ w.outView.Counts) ?_ _ ⟨sound, start⟩ events
    (meets_forall step _ events quiet)).2
  rintro w event ⟨sound, counts⟩ quiet
  have kept := step_kept sound quiet
  exact ⟨kept.sound, counts.move kept.outMove⟩

def asked : UsbDevice :=
  .new [0x12345678, 0x9ABCDEF0, 0x0F1E2D3C] (Regs.takeSetup { highSpeed := true } ⟨0x00, 9, 1, 0, 0⟩)

end Runs

end Wire

end OpenServo.Usb
