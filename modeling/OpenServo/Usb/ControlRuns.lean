import OpenServo.Usb.Control

set_option autoImplicit false

namespace OpenServo.Usb

open OpenServo.Protocol OpenServo.Shared

section Outcome

variable {bytes : List UInt8} {want : Nat} {w : Wire} {front : List (List UInt8)} {cur : List UInt8}

theorem Serving.exact {sides : Control × Ctl} (reads : Serving bytes want sides) :
    sides.2.got.flatten <+: bytes ∧
      (sides.2.phase = .data ∨ (sides.2.phase = .statusOut ∨ sides.2.phase = .done) ∧ sides.2.got.flatten = bytes) := by
  cases reads with
  | streaming front cur streaming =>
    have joined : (front ++ [cur]).flatten = front.flatten ++ cur := by simp
    have phase := streaming.phase
    have sofar := streaming.sofar
    cases streaming.inStep with
    | ahead agree same =>
      have got : sides.2.got = front := same
      rw [if_pos (.inl agree)] at phase
      rw [got]
      exact ⟨(List.prefix_append _ _).trans sofar, .inl phase⟩
    | arrived differ p current more =>
      cases current
      have got : sides.2.got.flatten = front.flatten ++ cur := (congrArg List.flatten more).trans joined
      rw [got]
      refine ⟨sofar, ?_⟩
      split at phase
      next => exact .inl phase
      next last =>
        rw [not_or, Nat.not_lt] at last
        exact .inr ⟨.inl phase, sofar.eq_of_length_le last.2⟩
  | closing closing =>
    rw [closing.got]
    exact ⟨List.prefix_rfl, .inr ⟨closing.phase.imp_right And.left, rfl⟩⟩
  | closed closed =>
    rw [closed.got]
    exact ⟨List.prefix_rfl, .inr ⟨closed.phase, rfl⟩⟩

/-- The host waits for a status that the device will not take: it has not heard that the data arrived, or has taken the
status before. -/
def Stuck (sides : Control × Ctl) : Prop :=
  sides.2.phase = .statusOut ∧
    ((∃ pos len, sides.1.ep0 = .dataIn pos len) ∧ sides.1.served = none ∨ sides.1.served = some .out ∨ sides.1.ep0 = .idle)

theorem step_stuck (reads : Serving bytes want w.sides) (stuck : Stuck w.sides) {event : Event} (steady : event.Steady) :
    Stuck (w.step event).sides := by
  obtain ⟨up, quiet, sends, takes, closes⟩ := reads.flags
  have waits : w.ctl.phase = .statusOut := stuck.1
  have still {event : Event} (bulk : event.Bulk) : Stuck (w.step event).sides := by
    rw [bulk_sides bulk]
    exact stuck
  -- The host only sends its status now, and the device does not take it.
  cases event with
  | offer packet => exact still trivial
  | out hop => exact still trivial
  | «in» hop => exact still trivial
  | setup request hop => exact absurd steady id
  | in0 hop =>
    rcases in0_cases hop closes sends with same | ⟨-, phase, -⟩
    next => exact (congrArg Stuck same).mpr stuck
    next => exact absurd (phase.symm.trans waits) (by decide)
  | out0 hop =>
    rcases out0_cases hop takes with same | ⟨idle, -, armed, -⟩
    next => exact (congrArg Stuck same).mpr stuck
    next =>
      exfalso
      rcases stuck.2 with ⟨⟨pos, len, data⟩, -⟩ | served | done
      next =>
        cases reads with
        | streaming front cur streaming => exact absurd (armed.symm.trans streaming.rRes) (by decide)
        | closing closing => exact absurd (data.symm.trans closing.ep0) (by simp)
        | closed closed => exact absurd (data.symm.trans closed.ep0) (by simp)
      next => exact absurd (served.symm.trans idle) (by simp)
      next =>
        cases reads with
        | streaming front cur streaming => exact absurd (done.symm.trans streaming.ep0) (by simp)
        | closing closing => exact absurd (done.symm.trans closing.ep0) (by simp)
        | closed closed => exact absurd (armed.symm.trans closed.rRes) (by decide)
  | suspend => exact still trivial
  | busReset => exact absurd steady id
  | poll =>
    have polled := poll_control up quiet
    have after := poll_reads reads
    cases served : w.dev.control.served with
    | none =>
      rw [served] at polled
      exact (congrArg (fun c => Stuck (c, w.ctl)) polled).mpr stuck
    | some token =>
      refine ⟨waits, .inr (.inr ?_)⟩
      cases reads with
      | streaming front cur streaming =>
        exfalso
        rcases stuck.2 with ⟨-, idle⟩ | out | done
        next => exact absurd (served.symm.trans idle) (by simp)
        next =>
          rcases streaming.served with idle | ⟨same, -⟩
          next => exact absurd (out.symm.trans idle) (by simp)
          next => exact absurd (out.symm.trans same) (by decide)
        next => exact absurd (done.symm.trans streaming.ep0) (by simp)
      | closing closing =>
        obtain rfl := closing.token served
        have ep0 : w.dev.ep0 = .statusOut := closing.ep0
        rw [served] at polled
        have final := congrArg Control.ep0 polled
        simp only [UsbDevice.onEp0Transfer, ep0] at final
        exact final
      | closed closed => exact absurd (served.symm.trans closed.served) (by simp)
  | consume => exact still trivial
  | send packet => exact still trivial

theorem run_reads (told : Told bytes want) (reads : Serving bytes want w.sides) {events : List Event}
    (steady : ∀ event ∈ events, event.Steady) : Serving bytes want (run Wire.step w events).sides :=
  run_invariant Wire.step (fun _ event => event.Steady) (fun w => Serving bytes want w.sides)
    (fun _ _ reads steady => step_reads told reads steady) w reads events (meets_forall Wire.step w events steady)

theorem run_stuck (told : Told bytes want) (reads : Serving bytes want w.sides) (stuck : Stuck w.sides) {events : List Event}
    (steady : ∀ event ∈ events, event.Steady) : Stuck (run Wire.step w events).sides := by
  refine (run_invariant Wire.step (fun _ event => event.Steady) (fun w => Serving bytes want w.sides ∧ Stuck w.sides) ?_ w
    ⟨reads, stuck⟩ events (meets_forall Wire.step w events steady)).2
  rintro w event ⟨reads, stuck⟩ steady
  exact ⟨step_reads told reads steady, step_stuck reads stuck steady⟩

theorem Serving.ready (reads : Serving bytes want w.sides) : (w.step .poll).dev.regs.waiting = false := by
  obtain ⟨up, quiet, -⟩ := (poll_reads reads).flags
  exact Regs.waiting_eq_false.mpr ⟨up, quiet, UsbDevice.poll_transfer reads.flags.1⟩

def Finishes (w : Wire) : Prop :=
  ∃ events : List Event, (∀ event ∈ events, event.Steady) ∧ (run Wire.step w events).ctl.phase = .done

theorem Finishes.of_step {event : Event} (steady : event.Steady) (rest : Finishes (w.step event)) : Finishes w := by
  obtain ⟨events, all, done⟩ := rest
  exact ⟨event :: events, List.forall_mem_cons.mpr ⟨steady, all⟩, done⟩

theorem closing_finishes (closing : Closing bytes w.sides) (idle : w.dev.control.served = none)
    (ready : w.dev.regs.waiting = false) : Finishes w := by
  have waits : w.ctl.phase = .statusOut := by
    rcases closing.phase with phase | ⟨-, served⟩
    next => exact phase
    next => exact absurd (served.symm.trans idle) (by simp)
  refine ⟨[.out0 .whole], by simp [Event.Steady], ?_⟩
  have takes : w.dev.regs.ep0.rRes = .ack := closing.rRes
  simp [Wire.step, Wire.out0, ready, waits, takes]

theorem in0_whole (told : Told bytes want) (streaming : Streaming bytes want w.sides front cur)
    (reads : w.ctl.phase = .data) (ready : w.dev.regs.waiting = false) :
    Streaming bytes want (w.in0 .whole).sides front cur ∧ (w.in0 .whole).dev.control.served = some .in := by
  have sends : w.dev.regs.ep0.tRes = .ack := streaming.tRes
  have passed : (w.in0 .whole).sides =
      ({ w.dev.control with served := some .in }, w.ctl.receive w.dev.control.ctrl.tTog cur) := by
    rw [← streaming.loaded]
    simp only [Wire.in0, ready, Bool.false_eq_true, if_false, reads, sends, reduceCtorEq, if_true]
    rfl
  rw [passed]
  exact ⟨Streaming.heard told streaming (.inr rfl), congrArg (fun sides => sides.1.served) passed⟩

theorem poll_served (streaming : Streaming bytes want w.sides front cur) (served : w.dev.control.served = some .in) :
    ((front.flatten ++ cur).length < bytes.length ∧ ∃ next, Streaming bytes want (w.step .poll).sides (front ++ [cur]) next ∧
      (w.step .poll).ctl.phase = .data) ∨ Closing bytes (w.step .poll).sides := by
  have polled := poll_control streaming.up streaming.quiet
  rw [served] at polled
  have after : (w.step .poll).sides = ({ (w.dev.onEp0Transfer .in).control with served := none }, w.ctl) :=
    congrArg (·, w.ctl) polled
  rw [after]
  rcases streaming.served_in served with ⟨more, next, onward⟩ | closing
  next =>
    refine .inl ⟨more, next, onward, ?_⟩
    have phase := streaming.phase
    rwa [if_pos (.inr more)] at phase
  next => exact .inr closing

theorem streaming_finishes (told : Told bytes want) (n : Nat) (streaming : Streaming bytes want w.sides front cur)
    (few : bytes.length - (front.flatten ++ cur).length ≤ n) (reads : w.ctl.phase = .data)
    (ready : w.dev.regs.waiting = false) : Finishes w := by
  induction n generalizing w front cur with
  | zero =>
    obtain ⟨heard, served⟩ := in0_whole told streaming reads ready
    refine @Finishes.of_step _ (.in0 .whole) trivial (@Finishes.of_step _ .poll trivial ?_)
    rcases poll_served heard served with ⟨more, -⟩ | closing
    next => omega
    next =>
      refine closing_finishes closing ?_ (Serving.ready (.streaming front cur heard))
      simp [UsbDevice.control, Wire.step, UsbDevice.poll_transfer heard.up]
  | succ n ih =>
    obtain ⟨heard, served⟩ := in0_whole told streaming reads ready
    refine @Finishes.of_step _ (.in0 .whole) trivial (@Finishes.of_step _ .poll trivial ?_)
    rcases poll_served heard served with ⟨more, next, onward, reads⟩ | closing
    next =>
      have longer := onward.last
      have joined : (front ++ [cur]).flatten = front.flatten ++ cur := by simp
      refine ih onward ?_ reads (Serving.ready (.streaming front cur heard))
      rw [joined] at longer ⊢
      rw [show ep0Mps = 64 from rfl] at longer
      simp only [List.length_append] at few more longer ⊢
      omega
    next =>
      refine closing_finishes closing ?_ (Serving.ready (.streaming front cur heard))
      simp [UsbDevice.control, Wire.step, UsbDevice.poll_transfer heard.up]

theorem reads_finish (told : Told bytes want) (reads : Serving bytes want w.sides) (free : ¬ Stuck w.sides) :
    Finishes w := by
  have idle : (w.step .poll).dev.control.served = none := by
    simp [UsbDevice.control, Wire.step, UsbDevice.poll_transfer reads.flags.1]
  have ready := reads.ready
  cases reads with
  | streaming front cur streaming =>
    rcases streaming.served with served | ⟨served, -⟩
    next =>
      have polled := poll_control streaming.up streaming.quiet
      rw [show w.dev.control.served = none from served] at polled
      have same : (w.step .poll).sides = w.sides := congrArg (·, w.ctl) polled
      have phase : w.ctl.phase = .data := by
        have phase := streaming.phase
        split at phase
        next => exact phase
        next => exact absurd ⟨phase, .inl ⟨⟨_, _, streaming.ep0⟩, served⟩⟩ free
      have onward : Streaming bytes want (w.step .poll).sides front cur := by
        rw [same]
        exact streaming
      exact @Finishes.of_step _ .poll trivial (streaming_finishes told _ onward (Nat.le_refl _) phase ready)
    next =>
      refine @Finishes.of_step _ .poll trivial ?_
      rcases poll_served streaming served with ⟨-, next, onward, phase⟩ | closing
      next => exact streaming_finishes told _ onward (Nat.le_refl _) phase ready
      next => exact closing_finishes closing idle ready
  | closing closing =>
    rcases closing.phase with phase | ⟨phase, -⟩
    next =>
      have served : w.dev.control.served = none := by
        rcases closing.served with served | served
        next => exact served
        next => exact absurd ⟨phase, .inr (.inl served)⟩ free
      have polled := poll_control closing.up closing.quiet
      rw [served] at polled
      have same : (w.step .poll).sides = w.sides := congrArg (·, w.ctl) polled
      exact @Finishes.of_step _ .poll trivial (closing_finishes (same ▸ closing) idle ready)
    next => exact ⟨[], by simp, phase⟩
  | closed closed =>
    rcases closed.phase with phase | phase
    next => exact absurd ⟨phase, .inr (.inr closed.ep0)⟩ free
    next => exact ⟨[], by simp, phase⟩

theorem finishes_iff (told : Told bytes want) (reads : Serving bytes want w.sides) : Finishes w ↔ ¬ Stuck w.sides := by
  refine ⟨?_, reads_finish told reads⟩
  rintro ⟨events, steady, done⟩ stuck
  have still := (run_stuck told reads stuck steady).1
  exact absurd (still.symm.trans done) (by decide)

def Event.Acked : Event → Prop
  | .in0 hop | .out0 hop => hop ≠ .unacked
  | _ => True

theorem step_free (told : Told bytes want) (reads : Serving bytes want w.sides) (free : ¬ Stuck w.sides)
    {event : Event} (steady : event.Steady) (acked : event.Acked) : ¬ Stuck (w.step event).sides := by
  have still {event : Event} (bulk : event.Bulk) : ¬ Stuck (w.step event).sides := by
    rw [bulk_sides bulk]
    exact free
  obtain ⟨up, quiet, sends, takes, closes⟩ := reads.flags
  -- The control pipe moves only with a packet that gets through or with a poll.
  cases event with
  | offer packet => exact still trivial
  | out hop => exact still trivial
  | «in» hop => exact still trivial
  | setup request hop => exact absurd steady id
  | in0 hop =>
    show ¬ Stuck (w.in0 hop).sides
    rcases in0_cases hop closes sends with same | ⟨idle, phase, acks, -⟩
    next => rwa [same]
    next =>
      cases hop with
      | lost =>
        have same : w.in0 .lost = w := by
          have acks : w.dev.regs.ep0.tRes = .ack := acks
          simp [Wire.in0, phase, acks]
        rwa [same]
      | unacked => exact absurd rfl acked
      | whole =>
        cases busy : w.dev.regs.waiting with
        | true => rwa [show w.in0 .whole = w from if_pos busy]
        | false =>
          cases reads with
          | streaming front cur streaming =>
            obtain ⟨heard, served⟩ := in0_whole told streaming phase busy
            rintro ⟨-, ⟨-, none⟩ | out | done⟩
            next => exact absurd (served.symm.trans none) (by simp)
            next => exact absurd (served.symm.trans out) (by decide)
            next => exact absurd (done.symm.trans heard.ep0) (by simp)
          | closing closing => exact absurd (acks.symm.trans closing.tRes) (by decide)
          | closed closed => exact absurd (acks.symm.trans closed.tRes) (by decide)
  | out0 hop =>
    show ¬ Stuck (w.out0 hop).sides
    rcases out0_cases hop takes with same | ⟨idle, phase, acks, -⟩
    next => rwa [same]
    next =>
      have acks : w.dev.regs.ep0.rRes = .ack := acks
      cases hop with
      | lost =>
        have same : w.out0 .lost = w := by simp [Wire.out0, acks]
        rwa [same]
      | unacked => exact absurd rfl acked
      | whole =>
        cases busy : w.dev.regs.waiting with
        | true => rwa [show w.out0 .whole = w from if_pos (.inl busy)]
        | false =>
          have done : (w.out0 .whole).ctl.phase = .done := by simp [Wire.out0, busy, phase, acks]
          exact fun stuck => absurd (stuck.1.symm.trans done) (by decide)
  | suspend => exact still trivial
  | busReset => exact absurd steady id
  | poll =>
    have polled := poll_control up quiet
    cases served : w.dev.control.served with
    | none =>
      rw [served] at polled
      rwa [show (w.step .poll).sides = w.sides from congrArg (·, w.ctl) polled]
    | some token =>
      cases reads with
      | streaming front cur streaming =>
        obtain rfl := streaming.token served
        rcases poll_served streaming served with ⟨-, next, -, phase⟩ | closing
        next => exact fun stuck => absurd (stuck.1.symm.trans phase) (by decide)
        next =>
          have idle : (w.step .poll).dev.control.served = none := by
            simp [UsbDevice.control, Wire.step, UsbDevice.poll_transfer up]
          rintro ⟨-, ⟨⟨pos, len, data⟩, -⟩ | out | done⟩
          next => exact absurd (data.symm.trans closing.ep0) (by simp)
          next => exact absurd (idle.symm.trans out) (by simp)
          next => exact absurd (done.symm.trans closing.ep0) (by simp)
      | closing closing =>
        obtain rfl := closing.token served
        exact fun stuck => free ⟨stuck.1, .inr (.inl served)⟩
      | closed closed => exact absurd (served.symm.trans closed.served) (by simp)
  | consume => exact still trivial
  | send packet => exact still trivial

end Outcome

section Refusal

structure Refused (sides : Control × Ctl) : Prop where
  ep0 : sides.1.ep0 = .idle
  tRes : sides.1.ctrl.tRes = .stall
  up : sides.1.busRst = false
  quiet : sides.1.setupAct = false
  served : sides.1.served = none
  got : sides.2.got = []
  phase : sides.2.phase = .data ∨ sides.2.phase = .stalled

variable {w : Wire}

theorem step_refused (refused : Refused w.sides) {event : Event} (steady : event.Steady) : Refused (w.step event).sides := by
  obtain ⟨ep0, tRes, up, quiet, served, got, phase⟩ := refused
  have still {event : Event} (bulk : event.Bulk) : Refused (w.step event).sides := by
    rw [bulk_sides bulk]
    exact ⟨ep0, tRes, up, quiet, served, got, phase⟩
  cases event with
  | offer packet => exact still trivial
  | out hop => exact still trivial
  | «in» hop => exact still trivial
  | setup request hop => exact absurd steady id
  | in0 hop =>
    show Refused (w.in0 hop).sides
    unfold Wire.in0
    split
    next => exact ⟨ep0, tRes, up, quiet, served, got, phase⟩
    next =>
      split
      next sends => exact absurd (sends.symm.trans tRes) (by decide)
      next sends => exact absurd (sends.symm.trans tRes) (by decide)
      next => exact ⟨ep0, tRes, up, quiet, served, got, .inr rfl⟩
      next => exact ⟨ep0, tRes, up, quiet, served, got, .inr rfl⟩
      next => exact ⟨ep0, tRes, up, quiet, served, got, phase⟩
  | out0 hop =>
    have other : w.ctl.phase ≠ .statusOut := by
      rcases phase with phase | phase <;> exact fun same => absurd (phase.symm.trans same) (by decide)
    have same : w.out0 hop = w := if_pos (.inr other)
    show Refused (w.out0 hop).sides
    rw [same]
    exact ⟨ep0, tRes, up, quiet, served, got, phase⟩
  | suspend => exact still trivial
  | busReset => exact absurd steady id
  | poll =>
    have polled := poll_control up quiet
    rw [show w.dev.control.served = none from served] at polled
    show Refused (w.dev.poll.control, w.ctl)
    rw [polled]
    exact ⟨ep0, tRes, up, quiet, served, got, phase⟩
  | consume => exact still trivial
  | send packet => exact still trivial

end Refusal

section Runs

variable {w : Wire} {setup : Setup}

def UsbDevice.line (dev : UsbDevice) : EpCtrl × Bool :=
  (dev.regs.ep0, dev.regs.busRst)

theorem serve_line (dev : UsbDevice) (setup : Setup) : (dev.serve setup).1.line = dev.line := by
  unfold UsbDevice.serve
  split_ifs
  next =>
    unfold UsbDevice.loadDescriptor
    split_ifs
    all_goals try rfl
    split
    next => rfl
    next after n body =>
      unfold UsbDevice.stringBody UsbDevice.utf16String at body
      split_ifs at body <;> cases body <;> rfl
  all_goals try rfl
  unfold UsbDevice.clearHalt
  split_ifs <;> rfl

theorem told_take {reply : Option (List UInt8)} (ends : UsbDevice.Ends reply) {bytes : List UInt8}
    (found : reply = some bytes) (want : Nat) : Told (bytes.take want) want := by
  have short := ends bytes found
  unfold Told
  rw [List.length_take]
  by_cases all : want ≤ bytes.length
  next => exact .inl (Nat.min_eq_left all)
  next => exact .inr (by rw [Nat.min_eq_right (by omega)]; exact ⟨by omega, short⟩)

theorem poll_begins (up : w.dev.regs.busRst = false) (asked : w.dev.regs.setupAct = true)
    (request : Setup.read w.dev.regs.ep0Buf = setup) (read : 0x80 ≤ setup.reqType ∧ setup.length ≠ 0)
    (begins : w.ctl = Ctl.begin setup) :
    match w.dev.answer setup with
    | none => Refused (w.step .poll).sides
    | some bytes => Serving (bytes.take setup.length.toNat) setup.length.toNat (w.step .poll).sides ∧
        Told (bytes.take setup.length.toNat) setup.length.toNat := by
  have ctl : w.ctl = { phase := .data, want := setup.length.toNat } := by
    rw [begins, Ctl.begin, if_neg read.2, if_pos read.1]
  have polled : w.dev.poll = { w.dev.onSetup with regs.setupAct := false, regs.transfer := none } := by
    rw [UsbDevice.poll, if_neg (by simp [up]), if_pos asked]
  have staged := @UsbDevice.serve_staged w.dev.park setup
  have line := serve_line w.dev.park setup
  have ends := @UsbDevice.answer_ends w.dev setup
  have same : w.dev.park.answer setup = w.dev.answer setup := rfl
  rw [same] at staged
  rw [UsbDevice.onSetup, request] at polled
  show match w.dev.answer setup with
    | none => Refused (w.dev.poll.control, w.ctl)
    | some bytes => Serving (bytes.take setup.length.toNat) setup.length.toNat (w.dev.poll.control, w.ctl) ∧
        Told (bytes.take setup.length.toNat) setup.length.toNat
  rw [polled, ctl]
  dsimp only
  generalize w.dev.park.serve setup = out at staged line ⊢
  rcases out with ⟨after, reply⟩
  cases answered : w.dev.answer setup with
  | none =>
    rw [answered] at staged
    obtain rfl : reply = none := staged
    have up : after.regs.busRst = false := (congrArg Prod.snd line).trans up
    exact ⟨rfl, rfl, up, rfl, rfl, rfl, .inl rfl⟩
  | some bytes =>
    rw [answered] at staged
    obtain ⟨rfl, stage⟩ : reply = some bytes.length ∧ readBytes after.stage 0 bytes.length = bytes := staged
    have up : after.regs.busRst = false := (congrArg Prod.snd line).trans up
    have rRes : after.regs.ep0.rRes = .nak := congrArg (fun out => out.1.rRes) line
    refine ⟨?_, told_take ends answered _⟩
    have length : (bytes.take setup.length.toNat).length = min bytes.length setup.length.toNat := by
      rw [List.length_take, Nat.min_comm]
    have wanted : setup.length.toNat ≠ 0 := fun zero => read.2 (UInt16.toNat_inj.mp zero)
    obtain ⟨next, streaming⟩ := @streaming_next (bytes.take setup.length.toNat) setup.length.toNat []
      { after with ep0 := .dataIn 0 (min bytes.length setup.length.toNat), ep0Tog := true, regs.setupAct := false }
      { phase := .data, want := setup.length.toNat } (by rw [length]; rfl)
      (by rw [length, ← readBytes_take after.stage 0 (Nat.min_le_left _ _), stage, List.take_eq_take_iff]; omega)
      List.nil_prefix (by simp) rRes up rfl rfl rfl rfl rfl
    refine .streaming [] next ?_
    simp only [UsbDevice.reply, wanted, and_false, if_false]
    exact streaming

def driverRequest : Setup :=
  ⟨0xC0, msVendorCode, 0, 7, 255⟩

def driverHost : Wire :=
  { dev := .new [0x12345678, 0x9ABCDEF0, 0x0F1E2D3C] (Regs.takeSetup { highSpeed := true } driverRequest)
    ctl := Ctl.begin driverRequest }

def driverEvents : List Event :=
  [.in0 .unacked, .in0 .lost, .in0 .whole, .suspend, .poll, .in0 .unacked, .offer [1], .out .whole, .in0 .whole, .poll,
    .in0 .whole]

theorem driverEvents_steady : ∀ event ∈ driverEvents, event.Steady := by
  intro event member
  simp only [driverEvents, List.mem_cons, List.not_mem_nil, or_false] at member
  rcases member with rfl | rfl | rfl | rfl | rfl | rfl | rfl | rfl | rfl | rfl | rfl
  all_goals trivial

theorem Refused.stalls (refused : Refused w.sides) : (run Wire.step w [.poll, .in0 .whole]).ctl.phase = .stalled := by
  have polled : Refused (w.step .poll).sides := step_refused refused trivial
  have up : (w.step .poll).dev.regs.busRst = false := polled.up
  have quiet : (w.step .poll).dev.regs.setupAct = false := polled.quiet
  have ready : (w.step .poll).dev.regs.waiting = false :=
    Regs.waiting_eq_false.mpr ⟨up, quiet, UsbDevice.poll_transfer refused.up⟩
  have tRes : (w.step .poll).dev.regs.ep0.tRes = .stall := polled.tRes
  show ((w.step .poll).in0 .whole).ctl.phase = .stalled
  rcases polled.phase with phase | phase
  next =>
    have data : (w.step .poll).ctl.phase = .data := phase
    simp [Wire.in0, ready, data, tRes]
  next =>
    have stalled : (w.step .poll).ctl.phase = .stalled := phase
    simp [Wire.in0, ready, stalled]

/-- A control read, from the poll that serves it: the host gets the front of the answer that it asked for, once each
byte, whatever is lost, and knows where it ends. A request without an answer is stalled for good. -/
theorem control_read (up : w.dev.regs.busRst = false) (asked : w.dev.regs.setupAct = true)
    (request : Setup.read w.dev.regs.ep0Buf = setup) (read : 0x80 ≤ setup.reqType ∧ setup.length ≠ 0)
    (begins : w.ctl = Ctl.begin setup) {events : List Event} (steady : ∀ event ∈ events, event.Steady) {after : Wire}
    (ran : run Wire.step w (.poll :: events) = after) :
    match w.dev.answer setup with
    | none => after.ctl.got = [] ∧ (after.ctl.phase = .data ∨ after.ctl.phase = .stalled) ∧
        after.dev.regs.ep0.tRes = .stall ∧ (run Wire.step after [.poll, .in0 .whole]).ctl.phase = .stalled
    | some bytes => after.ctl.got.flatten <+: bytes.take setup.length.toNat ∧
        (after.ctl.phase = .data ∨ (after.ctl.phase = .statusOut ∨ after.ctl.phase = .done) ∧
          after.ctl.got.flatten = bytes.take setup.length.toNat) := by
  have starts := poll_begins up asked request read begins
  rw [← ran, run_cons]
  cases answered : w.dev.answer setup with
  | none =>
    rw [answered] at starts
    have refused := run_invariant Wire.step (fun _ event => event.Steady) (fun w => Refused w.sides)
      (fun _ _ refused steady => step_refused refused steady) _ starts events (meets_forall Wire.step _ events steady)
    exact ⟨refused.got, refused.phase, refused.tRes, refused.stalls⟩
  | some bytes =>
    rw [answered] at starts
    exact (run_reads starts.2 starts.1 steady).exact

theorem control_read_driver : (run Wire.step driverHost (.poll :: driverEvents)).ctl.got.flatten = msOsDesc := by
  have answered : driverHost.dev.answer driverRequest = some msOsDesc := by decide +kernel
  have request : Setup.read driverHost.dev.regs.ep0Buf = driverRequest := Setup.read_takeSetup _ _
  have whole := control_read rfl rfl request (by decide) rfl driverEvents_steady rfl
  rw [answered] at whole
  obtain ⟨-, outcome⟩ := whole
  have ended : (run Wire.step driverHost (.poll :: driverEvents)).ctl.phase ≠ .data := by decide +kernel
  have all : msOsDesc.take driverRequest.length.toNat = msOsDesc := by decide +kernel
  rcases outcome with phase | ⟨-, got⟩
  next => exact absurd phase ended
  next => exact got.trans all

/-- A read that has an answer comes to its end as long as no handshake of the control pipe is lost. From any point of any
read the host gets through without another SETUP, unless it waits for a status that the device will not take. -/
theorem read_finishes (up : w.dev.regs.busRst = false) (asked : w.dev.regs.setupAct = true)
    (request : Setup.read w.dev.regs.ep0Buf = setup) (read : 0x80 ≤ setup.reqType ∧ setup.length ≠ 0)
    (begins : w.ctl = Ctl.begin setup) {bytes : List UInt8} (answered : w.dev.answer setup = some bytes)
    {events : List Event} (steady : ∀ event ∈ events, event.Steady) {after : Wire}
    (ran : run Wire.step w (.poll :: events) = after) :
    (Finishes after ↔ ¬ Stuck after.sides) ∧ ((∀ event ∈ events, event.Acked) → Finishes after) := by
  have starts := poll_begins up asked request read begins
  rw [answered] at starts
  obtain ⟨reads, told⟩ := starts
  have onward := run_reads told reads steady
  have exactly := finishes_iff told onward
  rw [run_cons] at ran
  rw [ran] at exactly
  refine ⟨exactly, fun acked => exactly.mpr ?_⟩
  have free : ¬ Stuck (w.step .poll).sides := by
    have phase : w.ctl.phase = .data := by rw [begins, Ctl.begin, if_neg read.2, if_pos read.1]
    exact fun stuck => absurd (stuck.1.symm.trans phase) (by decide)
  have kept := run_invariant Wire.step (fun _ event => event.Steady ∧ event.Acked)
    (fun w => Serving (bytes.take setup.length.toNat) setup.length.toNat w.sides ∧ ¬ Stuck w.sides)
    (fun _ _ kept calm => ⟨step_reads told kept.1 calm.1, step_free told kept.1 kept.2 calm.1 calm.2⟩) _ ⟨reads, free⟩ events
    (meets_forall Wire.step _ events fun event member => ⟨steady event member, acked event member⟩)
  exact ran ▸ kept.2

theorem read_finishes_driver : Finishes (run Wire.step driverHost (.poll :: driverEvents)) := by
  have answered : driverHost.dev.answer driverRequest = some msOsDesc := by decide +kernel
  have request : Setup.read driverHost.dev.regs.ep0Buf = driverRequest := Setup.read_takeSetup _ _
  refine (read_finishes rfl rfl request (by decide) rfl answered driverEvents_steady rfl).1.mpr ?_
  rintro ⟨-, ⟨-, idle⟩ | out | done⟩
  next =>
    have served : (run Wire.step driverHost (.poll :: driverEvents)).dev.control.served = some .in := by decide +kernel
    exact absurd (idle.symm.trans served) (by simp)
  next =>
    have served : (run Wire.step driverHost (.poll :: driverEvents)).dev.control.served = some .in := by decide +kernel
    exact absurd (out.symm.trans served) (by decide)
  next =>
    have data : (run Wire.step driverHost (.poll :: driverEvents)).dev.control.ep0 = .dataIn 162 162 := by decide +kernel
    exact absurd (done.symm.trans data) (by simp)

end Runs

end OpenServo.Usb
