import OpenServo.Client.Codec

set_option autoImplicit false

namespace OpenServo.Client

open OpenServo.Protocol OpenServo.Host

section Hears

variable {replies : List Link.Reply} {fed : List UInt8} {records : List Record} {session after : Session}

def Encoded (replies : List Link.Reply) : Prop :=
  ∀ reply ∈ replies, reply.record.length ≤ Link.outCap

/-- What has come in is the records that have been handed out, and the front of more. -/
structure Session.Holds (session : Session) (replies : List Link.Reply) (fed : List UInt8) (records : List Record) :
    Prop where
  handed : ∃ front rest, replies = front ++ rest ∧ records = front.map heard ∧
    Link.framed (front.map Link.Reply.body) ++ session.rx = fed

theorem framed_bodies (replies : List Link.Reply) :
    Link.framed (replies.map Link.Reply.body) = replies.flatMap Link.Reply.record := by
  rw [Link.framed, List.flatMap_map]
  exact congrArg (fun f => List.flatMap f replies) (funext fun reply => reply.record_sealed.symm)

theorem body_length (reply : Link.Reply) (fits : reply.record.length ≤ Link.outCap) :
    1 ≤ reply.body.length ∧ reply.body.length < 65536 := by
  have cap : Link.outCap = 300 := rfl
  have whole := congrArg List.length reply.record_sealed
  rw [Link.length_sealed] at whole
  obtain ⟨rtype, rest, body⟩ : ∃ rtype rest, reply.body = rtype :: rest := by cases reply <;> exact ⟨_, _, rfl⟩
  have least := congrArg List.length body
  rw [List.length_cons] at least
  constructor <;> omega

theorem Ask.encode_rx (ask : Ask) (session : Session) (out : List UInt8) :
    (ask.encode session out).1.rx = session.rx := by
  cases ask with
  | wire op => cases op <;> rfl
  | _ => rfl

theorem next_empty (empty : session.rx = []) : session.nextRecord = .ok (none, session) := by
  rw [Session.nextRecord, if_pos (by rw [empty]; exact Nat.zero_lt_two)]

theorem next_cut {reply : Link.Reply} {rest : List (List UInt8)} (fits : reply.record.length ≤ Link.outCap)
    (cut : Link.Cut reply.body rest session.rx) :
    session.nextRecord = .ok (none, session) ∧ session.rx.length < 2 + reply.body.length ∨
      ∃ more, session.rx = Link.sealed reply.body ++ more ∧
        session.nextRecord = .ok (some (heard reply), { session with rx := more }) := by
  obtain ⟨least, most⟩ := body_length reply fits
  obtain ⟨bytes, rx⟩ : ∃ bytes, session.rx = bytes := ⟨_, rfl⟩
  rw [rx] at cut
  cases cut with
  | few short =>
    rw [Session.nextRecord, if_pos (by rw [rx]; exact short)]
    exact .inl ⟨rfl, by rw [rx]; omega⟩
  | part some length short =>
    have named : (u16FromLe (session.rx.getD 0 0) (session.rx.getD 1 0)).toNat = reply.body.length := by
      rw [rx]
      exact length
    rw [Session.nextRecord, if_neg (by rw [rx]; omega)]
    dsimp only
    rw [named, if_neg (by omega), if_pos (by rw [rx]; exact short)]
    exact .inl ⟨rfl, by rw [rx]; exact short⟩
  | @whole more front =>
    have named : (u16FromLe (session.rx.getD 0 0) (session.rx.getD 1 0)).toNat = reply.body.length := by
      rw [rx]
      exact Link.lengthAt_sealed most more
    have size : session.rx.length = 2 + reply.body.length + more.length := by
      rw [rx, List.length_append, Link.length_sealed]
    rw [Session.nextRecord, if_neg (by omega)]
    dsimp only
    rw [named, if_neg (by omega), if_neg (by omega), rx, Link.take_sealed, Link.drop_whole,
      bind_of_ok (decode_body fits)]
    exact .inr ⟨more, rfl, rfl⟩

/-- Every record that has come in whole has been handed out. -/
def Complete (replies : List Link.Reply) (fed : List UInt8) (records : List Record) : Prop :=
  ∀ whole, whole <+: replies → whole.flatMap Link.Reply.record <+: fed → whole.map heard <+: records

theorem complete_front {front rest : List Link.Reply} {rx : List UInt8}
    (few : ∀ reply more, rest = reply :: more → rx.length < 2 + reply.body.length) :
    Complete (front ++ rest) (Link.framed (front.map Link.Reply.body) ++ rx) (front.map heard) := by
  intro whole inside come
  by_cases fewer : whole.length ≤ front.length
  next => exact (List.prefix_of_prefix_length_le inside (List.prefix_append _ _) fewer).map heard
  next =>
    obtain ⟨more, rfl⟩ := List.prefix_of_prefix_length_le (List.prefix_append front rest) inside (by omega)
    have behind := (List.prefix_append_right_inj front).mp inside
    cases more with
    | nil => simp at fewer
    | cons reply more =>
      obtain ⟨last, rfl⟩ := behind
      have short := few reply (more ++ last) rfl
      have total := come.length_le
      rw [← framed_bodies, List.map_append, List.map_cons, Link.framed_append, Link.framed_cons] at total
      simp only [List.length_append, Link.length_sealed] at total
      omega

theorem Session.Holds.next (encoded : Encoded replies) (holds : session.Holds replies fed records)
    (front : fed <+: replies.flatMap Link.Reply.record) :
    session.nextRecord = .ok (none, session) ∧ Complete replies fed records ∨
      ∃ record after, session.nextRecord = .ok (some record, after) ∧ after.nextSeq = session.nextSeq ∧
        after.Holds replies fed (records ++ [record]) := by
  obtain ⟨done, rest, rfl, rfl, rfl⟩ := holds.handed
  rw [← framed_bodies, List.map_append, Link.framed_append] at front
  have front := (List.prefix_append_right_inj _).mp front
  cases rest with
  | nil =>
    refine .inl ⟨next_empty (List.prefix_nil.mp front), complete_front fun reply more no => ?_⟩
    cases no
  | cons reply rest =>
    have fits := encoded reply (List.mem_append_right _ List.mem_cons_self)
    obtain ⟨popped, few⟩ | ⟨more, rx, popped⟩ := next_cut fits (Link.cut_of_front (body_length reply fits).2 front)
    next =>
      refine .inl ⟨popped, complete_front fun found more split => ?_⟩
      obtain rfl := (List.cons.inj split).1
      exact few
    next =>
      refine .inr ⟨heard reply, _, popped, rfl, done ++ [reply], rest, by simp, by simp, ?_⟩
      rw [rx, List.map_append, Link.framed_append]
      simp

theorem Session.Holds.front (holds : session.Holds replies fed records) : records <+: replies.map heard := by
  obtain ⟨done, rest, rfl, rfl, -⟩ := holds.handed
  rw [List.map_append]
  exact List.prefix_append _ _

theorem Talks.holds {seqs : List UInt16} (encoded : Encoded replies) (talks : Talks fed records seqs session)
    (front : fed <+: replies.flatMap Link.Reply.record) : session.Holds replies fed records := by
  induction talks with
  | new => exact ⟨[], replies, rfl, rfl, rfl⟩
  | @bytes fed heard seqs session before chunk ih =>
    obtain ⟨done, rest, split, handed, stream⟩ := (ih ((List.prefix_append _ _).trans front)).handed
    refine ⟨done, rest, split, handed, ?_⟩
    rw [← stream, List.append_assoc]
    rfl
  | @next fed heard seqs session after record before popped ih =>
    obtain ⟨quiet, -⟩ | ⟨found, later, came, -, kept⟩ := (ih front).next encoded front
    next =>
      obtain ⟨rfl, rfl⟩ := Prod.mk.inj (Except.ok.inj (quiet.symm.trans popped))
      rw [Option.toList_none, List.append_nil]
      exact ih front
    next =>
      obtain ⟨rfl, rfl⟩ := Prod.mk.inj (Except.ok.inj (came.symm.trans popped))
      exact kept
  | @ask fed heard seqs session before out ask ih =>
    obtain ⟨done, rest, split, handed, stream⟩ := (ih front).handed
    refine ⟨done, rest, split, handed, ?_⟩
    rw [← stream, ask.encode_rx]

end Hears

section Numbers

variable {fed : List UInt8} {records : List Record} {seqs : List UInt16} {session : Session}

def seqNumber (k : Nat) : UInt16 :=
  UInt16.ofNat (k % 65535)

theorem seqNumber_toNat (k : Nat) : (seqNumber k).toNat = k % 65535 :=
  Nat.mod_eq_of_lt (Nat.lt_of_lt_of_le (Nat.mod_lt k (by decide)) (by decide))

theorem allocSeq_next {k : Nat} (next : session.nextSeq = seqNumber k) :
    session.allocSeq.1 = seqNumber k ∧ session.allocSeq.2.nextSeq = seqNumber (k + 1) := by
  refine ⟨next, ?_⟩
  have bound := Nat.mod_lt k (show 0 < 65535 by decide)
  have sum : (seqNumber k + 1).toNat = k % 65535 + 1 := by
    rw [UInt16.toNat_add, seqNumber_toNat, show UInt16.toNat 1 = 1 from rfl]
    exact Nat.mod_eq_of_lt (by omega)
  show (if session.nextSeq + 1 = Link.seqNone then 0 else session.nextSeq + 1) = _
  rw [next]
  apply UInt16.toNat_inj.mp
  rw [seqNumber_toNat]
  by_cases last : k % 65535 = 65534
  next =>
    have none : seqNumber k + 1 = Link.seqNone := by
      apply UInt16.toNat_inj.mp
      rw [sum, last]
      rfl
    rw [if_pos none]
    show 0 = _
    omega
  next =>
    have other : seqNumber k + 1 ≠ Link.seqNone := by
      intro same
      have value := congrArg UInt16.toNat same
      rw [sum] at value
      have none : Link.seqNone.toNat = 65535 := rfl
      omega
    rw [if_neg other, sum]
    omega

structure Numbered (session : Session) (seqs : List UInt16) : Prop where
  taken : seqs = (List.range seqs.length).map seqNumber
  next : session.nextSeq = seqNumber seqs.length

theorem Numbered.ask (numbered : Numbered session seqs) (ask : Ask) (out : List UInt8) :
    Numbered (ask.encode session out).1 (seqs ++ ask.seqs session) := by
  obtain ⟨seq, next⟩ := allocSeq_next numbered.next
  have took : Numbered session.allocSeq.2 (seqs ++ [session.allocSeq.1]) := by
    refine ⟨?_, ?_⟩
    next =>
      rw [List.length_append, List.length_singleton, List.range_succ, List.map_append, ← numbered.taken, seq]
      rfl
    next => rw [next, List.length_append, List.length_singleton]
  have still : Numbered session (seqs ++ []) := by
    rw [List.append_nil]
    exact numbered
  cases ask with
  | wire op => cases op <;> exact took
  | submit cmd => exact took
  | _ => exact still

theorem nextRecord_nextSeq {after : Session} {record : Option Record}
    (popped : session.nextRecord = .ok (record, after)) :
    after.nextSeq = session.nextSeq := by
  unfold Session.nextRecord at popped
  split at popped
  next =>
    obtain ⟨rfl, rfl⟩ := Prod.mk.inj (Except.ok.inj popped)
    rfl
  next =>
    dsimp only at popped
    split at popped
    next => cases popped
    next =>
      split at popped
      next =>
        obtain ⟨rfl, rfl⟩ := Prod.mk.inj (Except.ok.inj popped)
        rfl
      next =>
        generalize decode _ = found at popped
        cases found with
        | error => cases popped
        | ok found =>
          obtain ⟨rfl, rfl⟩ := Prod.mk.inj (Except.ok.inj popped)
          rfl

theorem Numbered.taken_at (numbered : Numbered session seqs) {k : Nat} {seq : UInt16} (found : seqs[k]? = some seq) :
    seq = seqNumber k ∧ seq ≠ Link.seqNone := by
  have same : seq = seqNumber k := by
    obtain ⟨inside, -⟩ := List.getElem?_eq_some_iff.mp found
    rw [numbered.taken, List.getElem?_map, List.getElem?_range inside] at found
    exact (Option.some.inj found).symm
  refine ⟨same, fun none => ?_⟩
  have value := congrArg UInt16.toNat (same.symm.trans none)
  rw [seqNumber_toNat] at value
  have last : Link.seqNone.toNat = 65535 := rfl
  omega

theorem Numbered.apart (numbered : Numbered session seqs) {i j : Nat} (less : i < j) (near : j < i + 65535)
    (inside : j < seqs.length) : seqs[i]? ≠ seqs[j]? := by
  intro same
  have earlier : i < seqs.length := by omega
  have early : seqs[i]? = some seqs[i] := List.getElem?_eq_getElem earlier
  have first := (numbered.taken_at early).1
  have second := (numbered.taken_at (same.symm.trans early)).1
  have value := congrArg UInt16.toNat (first.symm.trans second)
  rw [seqNumber_toNat, seqNumber_toNat] at value
  omega

theorem Talks.numbered (talks : Talks fed records seqs session) : Numbered session seqs := by
  induction talks with
  | new => exact ⟨rfl, rfl⟩
  | bytes before chunk ih => exact ⟨ih.taken, ih.next⟩
  | next before popped ih => exact ⟨ih.taken, (nextRecord_nextSeq popped).trans ih.next⟩
  | ask before out ask ih => exact ih.ask ask out

end Numbers

end OpenServo.Client
