import OpenServo.Client.Hearing
import OpenServo.Host.Ownership

set_option autoImplicit false

namespace OpenServo.Client

open OpenServo.Protocol OpenServo.Host

section Asks

variable (seq : UInt16)

def Ask.body : Ask → List UInt8
  | .hello => [Link.recHello]
  | .enterBootloader => [Link.recEnterBootloader]
  | .setRails state mask => [Link.recSetRails, state, mask]
  | .edgeDrain max => [Link.recEdgeDrain, max]
  | .captureReset => [Link.recCaptureReset]
  | .submit cmd => [Link.recSubmit] ++ u16ToLe seq ++ verbed cmd
  | .wire (.send bytes) => [Link.recWireSend] ++ u16ToLe seq ++ bytes
  | .wire (.burst stream) => [Link.recWireBurst] ++ u16ToLe seq ++ stream
  | .wire (.pulse us) => [Link.recWirePulse] ++ u16ToLe seq ++ u16ToLe us
  | .wire (.train announce gapUs breaks) =>
    [Link.recWireTrain] ++ u16ToLe seq ++ (u16ToLe gapUs ++ [breaks] ++ announce)
  | .wire (.baud bps) => [Link.recWireBaud] ++ u16ToLe seq ++ Link.u32ToLe bps

def Ask.request : Ask → Link.Request
  | .hello => .hello
  | .enterBootloader => .enterBootloader
  | .setRails state mask => .setRails state (some mask)
  | .edgeDrain max => .edgeDrain max
  | .captureReset => .captureReset
  | .submit cmd => .submit seq cmd
  | .wire op => .wire seq op

def Ask.Accepted : Ask → Prop
  | .submit cmd => ∃ bus io after, HostBus.step bus io (.submit cmd) = some (after, .accepted)
  | .wire op => ∃ bus io after, HostBus.step bus io op.op = some (after, .accepted)
  | .hello | .enterBootloader | .setRails _ _ | .edgeDrain _ | .captureReset => True

theorem Ask.body_cons (ask : Ask) : ∃ rtype rest, ask.body seq = rtype :: rest := by
  cases ask with
  | wire op => cases op <;> exact ⟨_, _, rfl⟩
  | _ => exact ⟨_, _, rfl⟩

theorem Ask.encode_body (ask : Ask) (session : Session) (out : List UInt8) :
    (ask.encode session out).2 = out ++ Link.sealed (ask.body session.nextSeq) := by
  cases ask with
  | wire op => cases op <;> rfl
  | _ => rfl

theorem ofRecord_wire {rtype : UInt8} (wire : Link.Request.isWire rtype = true) (args : List UInt8) :
    Link.Request.ofRecord ([rtype] ++ u16ToLe seq ++ args) = Link.Request.ofWire rtype seq args := by
  show Link.Request.ofBody rtype (seq.toUInt8 :: (seq >>> 8).toUInt8 :: args) = _
  rw [Link.ofBody_wire wire, if_neg (by simp)]
  show Link.Request.ofWire rtype (u16FromLe seq.toUInt8 (seq >>> 8).toUInt8) args = _
  rw [u16FromLe_toLe]

theorem ofRecord_submit (verb : UInt8) (args : List UInt8) :
    Link.Request.ofRecord ([Link.recSubmit] ++ u16ToLe seq ++ (verb :: args)) =
      Link.Request.ofSubmit seq verb args := by
  show Link.Request.ofBody Link.recSubmit (seq.toUInt8 :: (seq >>> 8).toUInt8 :: verb :: args) = _
  rw [Link.ofBody_submit, if_neg (by simp)]
  show Link.Request.ofSubmit (u16FromLe seq.toUInt8 (seq >>> 8).toUInt8) verb args = _
  rw [u16FromLe_toLe]

theorem train_announces {announce : List UInt8} {gapUs : UInt16} {breaks : UInt8}
    (accepted : (Ask.wire (.train announce gapUs breaks)).Accepted) : ∃ first rest, announce = first :: rest := by
  obtain ⟨bus, io, after, stepped⟩ := accepted
  cases announce with
  | nil =>
    have refused : bus.wireTrain [] gapUs breaks = (after, .ok ()) := HostBus.taken_of_accepted stepped
    unfold HostBus.wireTrain at refused
    split at refused <;> cases refused
  | cons first rest => exact ⟨first, rest, rfl⟩

theorem Ask.request_body {ask : Ask} (accepted : ask.Accepted) :
    Link.Request.ofRecord (ask.body seq) = ask.request seq := by
  cases ask with
  | hello | enterBootloader | setRails | edgeDrain | captureReset => rfl
  | submit cmd =>
    cases cmd with
    | exchange id inst payload => exact ofRecord_submit seq Link.verbExchange (id :: inst :: payload)
    | rescue => exact ofRecord_submit seq Link.verbRescue []
    | hostBaud rate =>
      refine (ofRecord_submit seq Link.verbHostBaud [rate.asIdx]).trans ?_
      cases rate <;> rfl
    | setResponseDeadline us =>
      refine (ofRecord_submit seq Link.verbSetResponseDeadline (u16ToLe us)).trans ?_
      show Link.Request.submit seq (.setResponseDeadline (u16FromLe us.toUInt8 (us >>> 8).toUInt8)) = _
      rw [u16FromLe_toLe]
      rfl
  | wire op =>
    cases op with
    | send bytes => exact ofRecord_wire seq rfl bytes
    | burst stream => exact ofRecord_wire seq rfl stream
    | pulse us =>
      refine (ofRecord_wire seq rfl (u16ToLe us)).trans ?_
      show Link.Request.wire seq (.pulse (u16FromLe us.toUInt8 (us >>> 8).toUInt8)) = _
      rw [u16FromLe_toLe]
      rfl
    | train announce gapUs breaks =>
      obtain ⟨first, rest, rfl⟩ := train_announces accepted
      refine (ofRecord_wire seq rfl (u16ToLe gapUs ++ [breaks] ++ (first :: rest))).trans ?_
      show Link.Request.wire seq (.train (first :: rest) (u16FromLe gapUs.toUInt8 (gapUs >>> 8).toUInt8) breaks) = _
      rw [u16FromLe_toLe]
      rfl
    | baud bps =>
      refine (ofRecord_wire seq rfl (Link.u32ToLe bps)).trans ?_
      show Link.Request.wire seq (.baud (Link.u32FromLe bps.toUInt8 (bps >>> 8).toUInt8 (bps >>> 16).toUInt8
        (bps >>> 24).toUInt8)) = _
      rw [Link.u32FromLe_toLe]
      rfl

variable {seq}

theorem ofSubmit_wire {own : UInt16} {verb : UInt8} {args : List UInt8} {op : Link.WireOp} :
    Link.Request.ofSubmit own verb args ≠ .wire seq op := by
  unfold Link.Request.ofSubmit
  repeat' split
  all_goals simp

theorem ofWire_submit {own : UInt16} {rtype : UInt8} {args : List UInt8} {cmd : Command} :
    Link.Request.ofWire rtype own args ≠ .submit seq cmd := by
  unfold Link.Request.ofWire
  repeat' split
  all_goals simp

theorem wire_of_request {rec : List UInt8} {op : Link.WireOp} (request : Link.Request.ofRecord rec = .wire seq op) :
    ∃ rtype own args, rec.length = 3 + args.length ∧ Link.Request.ofWire rtype own args = .wire seq op := by
  cases rec with
  | nil => cases request
  | cons rtype body =>
    rw [Link.Request.ofRecord] at request
    by_cases wire : Link.Request.isWire rtype = true
    next =>
      rw [Link.ofBody_wire wire] at request
      split at request
      next => cases request
      next long =>
        refine ⟨rtype, _, body.drop 2, ?_, request⟩
        rw [List.length_cons, List.length_drop]
        omega
    next =>
      rw [Link.Request.ofBody] at request
      repeat' split at request
      all_goals first | exact absurd request ofSubmit_wire | exact absurd ‹_› wire | cases request

theorem submit_of_request {rec : List UInt8} {cmd : Command} (request : Link.Request.ofRecord rec = .submit seq cmd) :
    ∃ own verb args, rec.length = 4 + args.length ∧ Link.Request.ofSubmit own verb args = .submit seq cmd := by
  cases rec with
  | nil => cases request
  | cons rtype body =>
    rw [Link.Request.ofRecord, Link.Request.ofBody] at request
    repeat' split at request
    all_goals first | exact absurd request ofWire_submit | cases request | skip
    refine ⟨_, _, body.drop 3, ?_, request⟩
    rw [List.length_cons, List.length_drop]
    omega

theorem length_of_exchange {own : UInt16} {verb : UInt8} {args : List UInt8} {id : UInt8} {inst : Inst}
    {payload : List UInt8} (request : Link.Request.ofSubmit own verb args = .submit seq (.exchange id inst payload)) :
    args.length = 2 + payload.length := by
  unfold Link.Request.ofSubmit at request
  repeat' split at request
  all_goals cases request
  rw [List.length_cons, List.length_cons]
  omega

theorem length_of_wire {own : UInt16} {rtype : UInt8} {args : List UInt8} {op : Link.WireOp}
    (request : Link.Request.ofWire rtype own args = .wire seq op) :
    3 + args.length = ((Ask.wire op).body seq).length := by
  unfold Link.Request.ofWire at request
  repeat' split at request
  all_goals cases request
  all_goals simp only [Ask.body, u16ToLe, Link.u32ToLe, List.length_append, List.length_cons, List.length_nil]
  all_goals omega

theorem Ask.fits_of_recovered {ask : Ask} {rec : List UInt8} (most : rec.length ≤ Link.rxCap - 2)
    (recovered : Link.Request.ofRecord rec = ask.request seq) : (ask.body seq).length ≤ Link.rxCap - 2 := by
  have cap : Link.rxCap = 512 := rfl
  cases ask with
  | hello | enterBootloader | setRails | edgeDrain | captureReset =>
    simp only [Ask.body, List.length_cons, List.length_nil]
    omega
  | wire op =>
    obtain ⟨rtype, own, args, length, request⟩ := wire_of_request recovered
    have same := length_of_wire request
    omega
  | submit cmd =>
    cases cmd with
    | exchange id inst payload =>
      obtain ⟨own, verb, args, length, request⟩ := submit_of_request recovered
      have same := length_of_exchange request
      simp only [Ask.body, verbed, u16ToLe, List.length_append, List.length_cons, List.length_nil]
      omega
    | rescue | hostBaud | setResponseDeadline =>
      simp only [Ask.body, verbed, u16ToLe, List.length_append, List.length_cons, List.length_nil]
      omega

end Asks

section Served

/-- The server, in any run that has brought it this record behind others, has handled one record more than those, and
that one says what the client asked. -/
def Recovered (session : Session) (ask : Ask) : Prop :=
  ∀ earlier link, Link.Sized earlier → Link.Served (Link.framed earlier ++ (ask.encode session []).2) link →
    ∃ rec, link.records = earlier ++ [rec] ∧ Link.Request.ofRecord rec = ask.request session.allocSeq.1

theorem recovered_iff (session : Session) {ask : Ask} (accepted : ask.Accepted) :
    Recovered session ask ↔ (ask.body session.nextSeq).length ≤ Link.rxCap - 2 := by
  constructor
  next =>
    intro recovered
    have served : Link.Served ([] ++ (ask.encode session []).2)
        (Link.fresh.onPipe Link.still (ask.encode session []).2) :=
      @Link.Served.act _ _ _ (.pipe Link.still (ask.encode session []).2) (.new 48 .b1000000) rfl
    obtain ⟨rec, handled, same⟩ := recovered [] _ (fun _ no => (by cases no)) served
    have sized := served.sized rec (by rw [handled]; exact List.mem_singleton.mpr rfl)
    exact Ask.fits_of_recovered sized.2 same
  next =>
    intro most earlier link sized served
    obtain ⟨rtype, rest, shape⟩ := ask.body_cons session.nextSeq
    have least : 1 ≤ (ask.body session.nextSeq).length := by
      rw [shape]
      exact Nat.succ_pos _
    rw [ask.encode_body, List.nil_append] at served
    have stream : Link.framed earlier ++ Link.sealed (ask.body session.nextSeq) =
        Link.framed (earlier ++ [ask.body session.nextSeq]) := by simp
    rw [stream] at served
    have every := sized.snoc least most
    obtain ⟨holds, done, waits⟩ := served.holds every List.prefix_rfl
    have all := holds.all every done waits List.prefix_rfl List.prefix_rfl
    refine ⟨ask.body session.nextSeq, ?_, Ask.request_body session.nextSeq accepted⟩
    exact done.eq_of_length_le all.length_le

theorem send_accepted {bytes : List UInt8} (some : 0 < bytes.length) (short : bytes.length ≤ wireCap) :
    (Ask.wire (.send bytes)).Accepted := by
  have full : bytes.isEmpty = false := by
    cases bytes with
    | nil => cases some
    | cons => rfl
  have ready : (HostBus.new 48 .b1000000).ready = true := rfl
  have taken : ((HostBus.new 48 .b1000000).wireSend bytes).2 = .ok () := by
    rw [HostBus.wireSend, ready, full, if_neg (by decide), if_neg (by decide), if_neg (Nat.not_lt_of_le short)]
  refine ⟨.new 48 .b1000000, (Link.still 0).io, ((HostBus.new 48 .b1000000).wireSend bytes).1, ?_⟩
  show Option.some (_, Answer.ofResult ((HostBus.new 48 .b1000000).wireSend bytes).2) = _
  rw [taken]
  rfl

theorem submit_fits {cmd : Command} (accepted : (Ask.submit cmd).Accepted) (seq : UInt16) :
    ((Ask.submit cmd).body seq).length ≤ Link.rxCap - 2 := by
  have cap : Link.rxCap = 512 := rfl
  have short : (verbed cmd).length ≤ 255 := by
    cases cmd with
    | exchange id inst payload =>
      obtain ⟨bus, io, after, stepped⟩ := accepted
      have taken : bus.submit (.exchange id inst payload) io = (after, .ok ()) := HostBus.taken_of_accepted stepped
      have most : maxPayload = 252 := rfl
      cases derived : Shape.derive id inst payload with
      | ok shape =>
        obtain ⟨op, bare, accepts, -⟩ := Shape.derive_cases derived
        have payloadShort := accepts.short
        simp only [verbed, List.length_append, List.length_cons, List.length_nil]
        omega
      | error reason =>
        simp only [HostBus.submit, derived] at taken
        split at taken <;> cases taken
    | rescue | hostBaud | setResponseDeadline =>
      simp only [verbed, u16ToLe, List.length_append, List.length_cons, List.length_nil]
      omega
  simp only [Ask.body, u16ToLe, List.length_append, List.length_cons, List.length_nil]
  omega

end Served

/-- In every run of a session that hears records of the adapter: it hands out those, in order and as they were
encoded; it takes a sequence number again after 65535 others at the earliest, and never the one that is none;
and the server makes of a record what was asked as long as the record is not too long for it. -/
theorem session_agrees {replies : List Link.Reply} {fed : List UInt8} {records : List Record} {seqs : List UInt16}
    {session : Session} (encoded : Encoded replies) (talks : Talks fed records seqs session)
    (front : fed <+: replies.flatMap Link.Reply.record) :
    (records <+: replies.map heard ∧
      (session.nextRecord = .ok (none, session) ∧ Complete replies fed records ∨
        ∃ record after, session.nextRecord = .ok (some record, after) ∧ records ++ [record] <+: replies.map heard)) ∧
    (∀ k seq, seqs[k]? = some seq → seq = seqNumber k ∧ seq ≠ Link.seqNone) ∧
    (∀ i j, i < j → j < i + 65535 → j < seqs.length → seqs[i]? ≠ seqs[j]?) ∧
    (∀ cmd, (Ask.submit cmd).Accepted → Recovered session (.submit cmd)) ∧
      ∀ ask, ask.Accepted → (Recovered session ask ↔ (ask.body session.nextSeq).length ≤ Link.rxCap - 2) := by
  have holds := talks.holds encoded front
  have numbered := talks.numbered
  refine ⟨⟨holds.front, ?_⟩, ?_, ?_, ?_, ?_⟩
  next =>
    obtain quiet | ⟨record, after, popped, -, later⟩ := holds.next encoded front
    next => exact .inl quiet
    next => exact .inr ⟨record, after, popped, later.front⟩
  next => exact fun k seq found => numbered.taken_at found
  next => exact fun i j less near inside => numbered.apart less near inside
  next => exact fun cmd accepted => (recovered_iff session accepted).mpr (submit_fits accepted _)
  next => exact fun ask accepted => recovered_iff session accepted

theorem session_agrees_rescue : Recovered (({} : Session).onBytes [1, 0, 0x48]) (.submit .rescue) := by
  have encoded : Encoded [.bootloaderAck] := by
    intro reply member
    obtain rfl := List.mem_singleton.mp member
    decide
  have whole := session_agrees encoded (.bytes .new [1, 0, 0x48]) List.prefix_rfl
  exact whole.2.2.2.1 .rescue ⟨.new 48 .b1000000, (Link.still 0).io, _, rfl⟩

/-- A raw send that the engine would take, and whose record the server has no room for. -/
theorem long_send_lost : (Ask.wire (.send (List.replicate 508 0x55))).Accepted ∧
    ¬ Recovered {} (.wire (.send (List.replicate 508 0x55))) := by
  have length : (List.replicate 508 (0x55 : UInt8)).length = 508 := List.length_replicate
  generalize List.replicate 508 (0x55 : UInt8) = bytes at length ⊢
  have accepted := @send_accepted bytes (by omega) (by rw [length]; decide)
  refine ⟨accepted, fun recovered => ?_⟩
  have short := (recovered_iff {} accepted).mp recovered
  have cap : Link.rxCap = 512 := rfl
  simp only [Ask.body, u16ToLe, List.length_append, List.length_cons, List.length_nil] at short
  omega

end OpenServo.Client
