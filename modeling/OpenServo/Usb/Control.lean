import OpenServo.Usb.Bulk
import OpenServo.Usb.Requests

set_option autoImplicit false

namespace OpenServo.Usb

open OpenServo.Protocol OpenServo.Shared

structure Control where
  ep0 : Ep0
  ep0Tog : Bool
  stage : Store 256
  ctrl : EpCtrl
  buf : Store ep0Mps
  served : Option UsbToken
  busRst : Bool
  setupAct : Bool

def Transfer.control (transfer : Transfer) : Option UsbToken :=
  if transfer.endp = 0 then some transfer.token else none

def UsbDevice.control (dev : UsbDevice) : Control :=
  { ep0 := dev.ep0
    ep0Tog := dev.ep0Tog
    stage := dev.stage
    ctrl := dev.regs.ep0
    buf := dev.regs.ep0Buf
    served := dev.regs.transfer.bind Transfer.control
    busRst := dev.regs.busRst
    setupAct := dev.regs.setupAct }

/-- What comes between a SETUP and the next. -/
def Event.Steady : Event → Prop
  | .setup _ _ | .busReset => False
  | _ => True

section Frame

variable {w : Wire}

theorem control_idle {dev : UsbDevice} (ready : dev.regs.waiting = false) : dev.control.served = none := by
  simp [UsbDevice.control, (Regs.waiting_eq_false.mp ready).2.2]

def Wire.sides (w : Wire) : Control × Ctl :=
  (w.dev.control, w.ctl)

theorem sides_transfer (ready : w.dev.regs.waiting = false) {regs : Regs} (ctrl : regs.ep0 = w.dev.regs.ep0)
    (buf : regs.ep0Buf = w.dev.regs.ep0Buf) (up : regs.busRst = w.dev.regs.busRst)
    (quiet : regs.setupAct = w.dev.regs.setupAct) {transfer : Transfer} (waits : regs.transfer = some transfer)
    (bulk : transfer.endp = 1) : ({ w.dev with regs := regs } : UsbDevice).control = w.dev.control := by
  have idle := (Regs.waiting_eq_false.mp ready).2.2
  simp [UsbDevice.control, Transfer.control, ctrl, buf, up, quiet, waits, idle, bulk]

def Event.Bulk : Event → Prop
  | .offer _ | .out _ | .in _ | .suspend | .consume | .send _ => True
  | .setup _ _ | .in0 _ | .out0 _ | .busReset | .poll => False

theorem bulk_sides {event : Event} (bulk : event.Bulk) : (w.step event).sides = w.sides := by
  cases event with
  | offer packet =>
    show (w.offer packet).sides = w.sides
    unfold Wire.offer
    split <;> rfl
  | out hop =>
    show (w.out hop).sides = w.sides
    unfold Wire.out
    split
    next => rfl
    next => rfl
    next =>
      split
      next => rfl
      next regs taken =>
        obtain ⟨ready, -, shape⟩ := Regs.takeOut_eq_some taken
        have same : ({ w.dev with regs := regs } : UsbDevice).control = w.dev.control := by
          subst shape
          exact sides_transfer ready rfl rfl rfl rfl rfl rfl
        split <;> exact congrArg (·, w.ctl) same
  | «in» hop =>
    show (w.in hop).sides = w.sides
    unfold Wire.in
    split
    next => rfl
    next => rfl
    next _ tog packet given _ =>
      obtain ⟨ready, -, -, -⟩ := Regs.giveIn_eq_some given
      obtain ⟨expects, got, same⟩ := @Wire.takeIn_cases w tog packet
      have answered : ({ w.dev with regs := w.dev.regs.inAcked 1 } : UsbDevice).control = w.dev.control :=
        sides_transfer ready rfl rfl rfl rfl rfl rfl
      rw [same]
      split
      next => exact congrArg (·, w.ctl) answered
      next => rfl
  | suspend => rfl
  | consume =>
    show w.consume.sides = w.sides
    unfold Wire.consume UsbDevice.rxConsume
    split <;> rfl
  | send packet =>
    show (w.send packet).sides = w.sides
    unfold Wire.send
    split <;> rfl
  | setup _ _ | in0 _ | out0 _ | busReset | poll => exact absurd bulk id

theorem poll_control (up : w.dev.regs.busRst = false) (quiet : w.dev.regs.setupAct = false) :
    w.dev.poll.control =
      match w.dev.control.served with
      | none => w.dev.control
      | some token => { (w.dev.onEp0Transfer token).control with served := none } := by
  rw [UsbDevice.poll, if_neg (by simp [up]), if_neg (by simp [quiet])]
  rcases served : w.dev.regs.transfer with _ | ⟨endp, token, ok⟩
  next => simp [UsbDevice.control, served]
  next =>
    by_cases ours : endp = 0
    next =>
      subst ours
      simp [UsbDevice.control, served, Transfer.control, UsbDevice.onTransfer]
    next =>
      by_cases bulk : endp = 1
      next =>
        subst bulk
        have same : (w.dev.onEp1Transfer token ok).control = w.dev.control := by
          unfold UsbDevice.onEp1Transfer
          split
          next => split <;> rfl
          next => rfl
          next => rfl
          next => rfl
        have idle : w.dev.control.served = none := by simp [UsbDevice.control, served, Transfer.control]
        rw [idle]
        calc
          _ = { (w.dev.onEp1Transfer token ok).control with served := none } := rfl
          _ = { w.dev.control with served := none } := by rw [same]
          _ = w.dev.control := by rw [← idle]
      next =>
        simp [UsbDevice.control, served, Transfer.control, UsbDevice.onTransfer, ours, bulk]

theorem in0_cases (hop : Hop) (data : w.ctl.phase ≠ .statusIn) (answers : w.dev.control.ctrl.tRes ≠ .stall) :
    (w.in0 hop).sides = w.sides ∨
      w.dev.control.served = none ∧ w.ctl.phase = .data ∧ w.dev.control.ctrl.tRes = .ack ∧
        ∃ served, (served = none ∨ served = some .in) ∧ (w.in0 hop).sides =
          ({ w.dev.control with served := served },
            w.ctl.receive w.dev.control.ctrl.tTog (readBytes w.dev.control.buf 0 w.dev.control.ctrl.tLen)) := by
  unfold Wire.in0
  split
  next => exact .inl rfl
  next busy =>
    have idle := control_idle (Bool.not_eq_true _ ▸ busy)
    split
    next reads sends =>
      split
      next => exact .inl rfl
      next =>
        refine .inr ⟨idle, reads, sends, ?_⟩
        split
        next => exact ⟨some .in, .inr rfl, rfl⟩
        next => exact ⟨none, .inl rfl, by rw [← idle]; rfl⟩
    next closes _ => exact absurd closes data
    next stalls => exact absurd stalls answers
    next closes _ => exact absurd closes data
    next => exact .inl rfl

theorem out0_cases (hop : Hop) (answers : w.dev.control.ctrl.rRes ≠ .stall) :
    (w.out0 hop).sides = w.sides ∨
      w.dev.control.served = none ∧ w.ctl.phase = .statusOut ∧ w.dev.control.ctrl.rRes = .ack ∧
        ∃ phase, (phase = .statusOut ∨ phase = .done) ∧ (w.out0 hop).sides =
          ({ w.dev.control with served := some .out }, { w.ctl with phase := phase }) := by
  unfold Wire.out0
  split
  next => exact .inl rfl
  next busy =>
    rw [not_or, Bool.not_eq_true, not_not] at busy
    have idle := control_idle busy.1
    split
    next takes =>
      split
      next => exact .inl rfl
      next =>
        refine .inr ⟨idle, busy.2, takes, ?_⟩
        split
        next => exact ⟨.done, .inr rfl, rfl⟩
        next => exact ⟨.statusOut, .inl rfl, by rw [← busy.2]; rfl⟩
    next => exact .inl rfl
    next stalls => exact absurd stalls answers

end Frame

section Stages

structure Streaming (bytes : List UInt8) (want : Nat) (sides : Control × Ctl) (front : List (List UInt8))
    (cur : List UInt8) : Prop where
  ep0 : sides.1.ep0 = .dataIn (front.flatten ++ cur).length bytes.length
  stage : readBytes sides.1.stage 0 bytes.length = bytes
  sofar : front.flatten ++ cur <+: bytes
  full : ∀ packet ∈ front, packet.length = ep0Mps
  last : cur.length = min (bytes.length - front.flatten.length) ep0Mps
  tRes : sides.1.ctrl.tRes = .ack
  rRes : sides.1.ctrl.rRes = .nak
  tog : sides.1.ep0Tog = !sides.1.ctrl.tTog
  loaded : readBytes sides.1.buf 0 sides.1.ctrl.tLen = cur
  up : sides.1.busRst = false
  quiet : sides.1.setupAct = false
  served : sides.1.served = none ∨ sides.1.served = some .in ∧ sides.1.ctrl.tTog = !sides.2.tog
  inStep : (⟨sides.1.ctrl.tTog, sides.2.tog, front, some cur, sides.2.got⟩ : StopWait (List UInt8)).InStep
  want : sides.2.want = want
  phase : sides.2.phase =
    if sides.1.ctrl.tTog = sides.2.tog ∨ (front.flatten ++ cur).length < bytes.length then .data else .statusOut

structure Closing (bytes : List UInt8) (sides : Control × Ctl) : Prop where
  ep0 : sides.1.ep0 = .statusOut
  tRes : sides.1.ctrl.tRes = .nak
  rRes : sides.1.ctrl.rRes = .ack
  up : sides.1.busRst = false
  quiet : sides.1.setupAct = false
  served : sides.1.served = none ∨ sides.1.served = some .out
  got : sides.2.got.flatten = bytes
  phase : sides.2.phase = .statusOut ∨ sides.2.phase = .done ∧ sides.1.served = some .out

structure Closed (bytes : List UInt8) (sides : Control × Ctl) : Prop where
  ep0 : sides.1.ep0 = .idle
  tRes : sides.1.ctrl.tRes = .nak
  rRes : sides.1.ctrl.rRes = .nak
  up : sides.1.busRst = false
  quiet : sides.1.setupAct = false
  served : sides.1.served = none
  got : sides.2.got.flatten = bytes
  phase : sides.2.phase = .statusOut ∨ sides.2.phase = .done

inductive Serving (bytes : List UInt8) (want : Nat) (sides : Control × Ctl) : Prop where
  | streaming (front : List (List UInt8)) (cur : List UInt8) (streaming : Streaming bytes want sides front cur)
  | closing (closing : Closing bytes sides)
  | closed (closed : Closed bytes sides)

/-- The end of the data can be told from the packets. -/
def Told (bytes : List UInt8) (want : Nat) : Prop :=
  bytes.length = want ∨ bytes.length < want ∧ (bytes.length = 0 ∨ bytes.length % ep0Mps ≠ 0)

variable {bytes : List UInt8} {want : Nat} {w : Wire} {front : List (List UInt8)} {cur : List UInt8}

theorem Streaming.whole {sides : Control × Ctl} (streaming : Streaming bytes want sides front cur) :
    front.flatten.length = ep0Mps * front.length ∧ (front.flatten ++ cur).length ≤ bytes.length := by
  refine ⟨?_, streaming.sofar.length_le⟩
  have full := streaming.full
  clear streaming
  induction front with
  | nil => rfl
  | cons packet front ih =>
    rw [List.flatten_cons, List.length_append, full packet List.mem_cons_self,
      ih (fun other member => full other (List.mem_cons_of_mem _ member)), List.length_cons, Nat.mul_succ, Nat.add_comm]

theorem Streaming.token {sides : Control × Ctl} (streaming : Streaming bytes want sides front cur) {token : UsbToken}
    (served : sides.1.served = some token) : token = .in := by
  rcases streaming.served with idle | ⟨same, -⟩
  next => exact absurd (served.symm.trans idle) (by simp)
  next => exact Option.some.inj (served.symm.trans same)

theorem Closing.token {sides : Control × Ctl} (closing : Closing bytes sides) {token : UsbToken}
    (served : sides.1.served = some token) : token = .out := by
  rcases closing.served with idle | same
  next => exact absurd (served.symm.trans idle) (by simp)
  next => exact Option.some.inj (served.symm.trans same)

theorem Streaming.ends {sides : Control × Ctl} (told : Told bytes want) (streaming : Streaming bytes want sides front cur) :
    cur.length < ep0Mps ∨ want ≤ (front ++ [cur]).flatten.length ↔ ¬ (front.flatten ++ cur).length < bytes.length := by
  obtain ⟨full, most⟩ := streaming.whole
  have last := streaming.last
  rw [List.length_append] at most ⊢
  rw [List.flatten_append, List.flatten_cons, List.flatten_nil, List.append_nil, List.length_append]
  unfold Told at told
  rw [show ep0Mps = 64 from rfl] at *
  omega

theorem Streaming.heard {c : Control} {h : Ctl} (told : Told bytes want) (streaming : Streaming bytes want (c, h) front cur)
    {served : Option UsbToken} (marked : served = none ∨ served = some .in) :
    Streaming bytes want ({ c with served := served }, h.receive c.ctrl.tTog cur) front cur := by
  have ends := streaming.ends told
  obtain ⟨ep0, stage, sofar, full, last, tRes, rRes, tog, loaded, up, quiet, -, inStep, asks, phase⟩ := streaming
  simp only at *
  by_cases fresh : c.ctrl.tTog = h.tog
  next =>
    have arrived := inStep.arrive
    have got : h.got = front := by
      cases inStep with
      | ahead agree same => exact same
      | arrived differ p current more => simp [fresh] at differ
    have shape : h.receive c.ctrl.tTog cur =
        { h with
          got := h.got ++ [cur], tog := !h.tog
          phase := if (front.flatten ++ cur).length < bytes.length then .data else .statusOut } := by
      have short : (cur.length < ep0Mps ∨ h.want ≤ (h.got ++ [cur]).flatten.length) ↔
          ¬ (front.flatten ++ cur).length < bytes.length := by rw [asks, got]; exact ends
      rw [Ctl.receive, if_neg (not_not_intro fresh)]
      simp only [short, ite_not]
    rw [shape]
    refine ⟨ep0, stage, sofar, full, last, tRes, rRes, tog, loaded, up, quiet, ?_, ?_, asks, ?_⟩
    next => exact marked.imp_right fun same => ⟨same, by simp [fresh]⟩
    next => simpa [StopWait.arrive, fresh] using arrived
    next => simp [fresh]
  next =>
    rw [Ctl.receive, if_pos fresh]
    refine ⟨ep0, stage, sofar, full, last, tRes, rRes, tog, loaded, up, quiet, ?_, inStep, asks, phase⟩
    exact marked.imp_right fun same => ⟨same, Bool.eq_not.mpr fresh⟩

theorem streaming_next {dev : UsbDevice} {h : Ctl} (ep0 : dev.ep0 = .dataIn front.flatten.length bytes.length)
    (stage : readBytes dev.stage 0 bytes.length = bytes) (sofar : front.flatten <+: bytes)
    (full : ∀ packet ∈ front, packet.length = ep0Mps) (rRes : dev.regs.ep0.rRes = .nak) (up : dev.regs.busRst = false)
    (quiet : dev.regs.setupAct = false) (agree : dev.ep0Tog = h.tog) (got : h.got = front) (asks : h.want = want)
    (phase : h.phase = .data) :
    ∃ next, Streaming bytes want ({ dev.ep0SendChunk.control with served := none }, h) front next := by
  have small := sofar.length_le
  generalize position : front.flatten.length = pos at ep0 small
  generalize size : min (bytes.length - pos) ep0Mps = n
  have length := length_readBytes dev.stage pos n
  have behind : front.flatten ++ readBytes dev.stage pos n <+: bytes := by
    have front_eq : front.flatten = bytes.take pos := by rw [← position]; exact List.prefix_iff_eq_take.mp sofar
    have upTo : bytes.take (pos + n) = readBytes dev.stage 0 (pos + n) := by
      rw [← readBytes_take dev.stage 0 (show pos + n ≤ bytes.length by omega), stage]
    have first : bytes.take pos = readBytes dev.stage 0 pos := by
      rw [← readBytes_take dev.stage 0 small, stage]
    rw [readBytes_add, Nat.zero_add, ← first] at upTo
    rw [front_eq, ← upTo]
    exact List.take_prefix _ _
  have total : (front.flatten ++ readBytes dev.stage pos n).length = pos + n := by
    rw [List.length_append, position, length]
  refine ⟨readBytes dev.stage pos n, ?_⟩
  simp only [UsbDevice.ep0SendChunk, ep0, size]
  refine ⟨?_, stage, behind, full, ?_, rfl, rRes, rfl, ?_, up, quiet, .inl rfl, .ahead agree got, asks, ?_⟩
  next => rw [total]; rfl
  next => rw [length, position, size]
  next =>
    have stored := readBytes_poke dev.regs.ep0Buf 0 (readBytes dev.stage pos n) (by omega)
    rw [length] at stored
    exact stored
  next => rw [if_pos (.inl agree)]; exact phase

theorem Streaming.served_in (streaming : Streaming bytes want w.sides front cur)
    (served : w.dev.control.served = some .in) :
    ((front.flatten ++ cur).length < bytes.length ∧ ∃ next,
        Streaming bytes want ({ (w.dev.onEp0Transfer .in).control with served := none }, w.ctl) (front ++ [cur]) next) ∨
      Closing bytes ({ (w.dev.onEp0Transfer .in).control with served := none }, w.ctl) := by
  obtain ⟨ep0, stage, sofar, full, last, tRes, rRes, tog, loaded, up, quiet, known, inStep, asks, phase⟩ := streaming
  have there : w.dev.regs.ep0.tTog = !w.ctl.tog := by
    rcases known with idle | ⟨-, there⟩
    next => exact absurd (served.symm.trans idle) (by decide)
    next => exact there
  have ep0 : w.dev.ep0 = .dataIn (front.flatten ++ cur).length bytes.length := ep0
  have phase : w.ctl.phase =
      if w.dev.regs.ep0.tTog = w.ctl.tog ∨ (front.flatten ++ cur).length < bytes.length then .data else .statusOut := phase
  have joined : (front ++ [cur]).flatten = front.flatten ++ cur := by simp
  have got : w.ctl.got = front ++ [cur] := by
    have inStep : (⟨w.dev.regs.ep0.tTog, w.ctl.tog, front, some cur, w.ctl.got⟩ : StopWait (List UInt8)).InStep := inStep
    cases inStep with
    | ahead agree same => simp [there] at agree
    | arrived differ p current more => cases current; exact more
  by_cases more : (front.flatten ++ cur).length < bytes.length
  next =>
    refine .inl ⟨more, ?_⟩
    have sent : w.dev.onEp0Transfer .in = w.dev.ep0SendChunk := by
      simp only [UsbDevice.onEp0Transfer, ep0, more, if_true]
    have filled : cur.length = ep0Mps := by
      rw [List.length_append] at more
      omega
    have tog : w.dev.ep0Tog = !w.dev.regs.ep0.tTog := tog
    rw [sent]
    refine streaming_next (by rw [joined]; exact ep0) stage (by rw [joined]; exact sofar) ?_ rRes up quiet
      (by rw [tog, there, Bool.not_not]) got asks (by rw [phase, if_pos (.inr more)])
    intro packet member
    rcases List.mem_append.mp member with old | new
    next => exact full packet old
    next => exact List.mem_singleton.mp new ▸ filled
  next =>
    refine .inr ?_
    have closes : w.dev.onEp0Transfer .in =
        { w.dev with regs.ep0 := (w.dev.regs.ep0.writeTx false .nak).writeRx true .ack, ep0 := .statusOut } := by
      simp only [UsbDevice.onEp0Transfer, ep0, more, if_false]
    rw [closes]
    refine ⟨rfl, rfl, rfl, up, quiet, .inl rfl, ?_, .inl ?_⟩
    next =>
      show w.ctl.got.flatten = bytes
      rw [got, joined]
      exact sofar.eq_of_length_le (Nat.le_of_not_lt more)
    next =>
      show w.ctl.phase = .statusOut
      rw [phase, if_neg (not_or.mpr ⟨by simp [there], more⟩)]

theorem Serving.flags {sides : Control × Ctl} (reads : Serving bytes want sides) :
    sides.1.busRst = false ∧ sides.1.setupAct = false ∧ sides.1.ctrl.tRes ≠ .stall ∧ sides.1.ctrl.rRes ≠ .stall ∧
      sides.2.phase ≠ .statusIn := by
  cases reads with
  | streaming front cur streaming =>
    refine ⟨streaming.up, streaming.quiet, by simp [streaming.tRes], by simp [streaming.rRes], ?_⟩
    rw [streaming.phase]
    split <;> decide
  | closing closing =>
    refine ⟨closing.up, closing.quiet, by simp [closing.tRes], by simp [closing.rRes], ?_⟩
    rcases closing.phase with phase | ⟨phase, -⟩ <;> simp [phase]
  | closed closed =>
    refine ⟨closed.up, closed.quiet, by simp [closed.tRes], by simp [closed.rRes], ?_⟩
    rcases closed.phase with phase | phase <;> simp [phase]

theorem in0_reads (told : Told bytes want) (reads : Serving bytes want w.sides) (hop : Hop) :
    Serving bytes want (w.in0 hop).sides := by
  obtain ⟨-, -, sends, -, data⟩ := reads.flags
  rcases in0_cases hop data sends with same | ⟨idle, phase, sends, served, marked, heard⟩
  next => rw [same]; exact reads
  next =>
    cases reads with
    | streaming front cur streaming =>
      have more := Streaming.heard told streaming marked
      rw [heard, show readBytes w.dev.control.buf 0 w.dev.control.ctrl.tLen = cur from streaming.loaded]
      exact .streaming front cur more
    | closing closing => exact absurd (sends.symm.trans closing.tRes) (by decide)
    | closed closed => exact absurd (sends.symm.trans closed.tRes) (by decide)

theorem out0_reads (reads : Serving bytes want w.sides) (hop : Hop) : Serving bytes want (w.out0 hop).sides := by
  obtain ⟨-, -, -, takes, -⟩ := reads.flags
  rcases out0_cases hop takes with same | ⟨idle, phase, takes, after, marked, taken⟩
  next => rw [same]; exact reads
  next =>
    cases reads with
    | streaming front cur streaming => exact absurd (takes.symm.trans streaming.rRes) (by decide)
    | closing closing =>
      rw [taken]
      refine .closing ⟨closing.ep0, closing.tRes, closing.rRes, closing.up, closing.quiet, .inr rfl, closing.got, ?_⟩
      exact marked.imp_right fun same => ⟨same, rfl⟩
    | closed closed => exact absurd (takes.symm.trans closed.rRes) (by decide)

theorem poll_reads (reads : Serving bytes want w.sides) : Serving bytes want (w.step .poll).sides := by
  obtain ⟨up, quiet, -⟩ := reads.flags
  have polled := poll_control up quiet
  show Serving bytes want (w.dev.poll.control, w.ctl)
  cases served : w.dev.control.served with
  | none =>
    rw [polled, served]
    exact reads
  | some token =>
    rw [polled, served]
    cases reads with
    | streaming front cur streaming =>
      obtain rfl := streaming.token served
      rcases streaming.served_in served with ⟨-, next, streaming⟩ | closing
      next => exact .streaming (front ++ [cur]) next streaming
      next => exact .closing closing
    | closing closing =>
      obtain rfl := closing.token served
      have ep0 : w.dev.ep0 = .statusOut := closing.ep0
      have closes : w.dev.onEp0Transfer .out =
          { w.dev with regs.ep0 := w.dev.regs.ep0.writeRx false .nak, ep0 := .idle } := by
        simp only [UsbDevice.onEp0Transfer, ep0]
      dsimp only
      rw [closes]
      exact .closed ⟨rfl, closing.tRes, rfl, closing.up, closing.quiet, rfl, closing.got, closing.phase.imp_right And.left⟩
    | closed closed => exact absurd (served.symm.trans closed.served) (by simp)

theorem step_reads (told : Told bytes want) (reads : Serving bytes want w.sides) {event : Event} (steady : event.Steady) :
    Serving bytes want (w.step event).sides := by
  cases event with
  | offer packet => rw [@bulk_sides w (.offer packet) trivial]; exact reads
  | out hop => rw [@bulk_sides w (.out hop) trivial]; exact reads
  | «in» hop => rw [@bulk_sides w (.in hop) trivial]; exact reads
  | setup request hop => exact absurd steady id
  | in0 hop => exact in0_reads told reads hop
  | out0 hop => exact out0_reads reads hop
  | suspend => rw [@bulk_sides w .suspend trivial]; exact reads
  | busReset => exact absurd steady id
  | poll => exact poll_reads reads
  | consume => rw [@bulk_sides w .consume trivial]; exact reads
  | send packet => rw [@bulk_sides w (.send packet) trivial]; exact reads

end Stages

end OpenServo.Usb
