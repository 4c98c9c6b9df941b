import OpenServo.Link.Framing
import OpenServo.Link.Handling

set_option autoImplicit false

namespace OpenServo.Link

open OpenServo.Protocol OpenServo.Host

def Sized (recs : List (List UInt8)) : Prop :=
  ∀ rec ∈ recs, 1 ≤ rec.length ∧ rec.length ≤ rxCap - 2

theorem sized_one {rec : List UInt8} (least : 1 ≤ rec.length) (most : rec.length ≤ rxCap - 2) : Sized [rec] := by
  intro found member
  obtain rfl := List.mem_singleton.mp member
  exact ⟨least, most⟩

def Adapter.Drops (link : Adapter) : Prop :=
  Entry.dropped ∈ link.log

/-- What has come in is what has been handled, and the front of a record. -/
structure Adapter.Holds (link : Adapter) (fed : List UInt8) : Prop where
  stream : framed link.records ++ link.server.rx = fed
  keeps : ¬ link.Drops

def Waits (rx : List UInt8) : Prop :=
  rx.length < 2 ∨ rx.length < 2 + lengthAt rx ∧ lengthAt rx ≤ rxCap - 2

theorem Waits.room {rx : List UInt8} (waits : Waits rx) : rx.length < rxCap := by
  obtain short | ⟨short, legal⟩ := waits
  next => exact Nat.lt_of_lt_of_le short (by decide)
  next =>
    have cap : rxCap = 512 := rfl
    omega

theorem Handles.rx {link after : Adapter} {rec : List UInt8} (handles : Handles link rec after) :
    after.server.rx = link.server.rx := by
  cases handles <;> rfl

theorem Handles.records {link after : Adapter} {rec : List UInt8} (handles : Handles link rec after) :
    after.records = link.records ++ [rec] := by
  cases handles <;> simp [Adapter.records, Entry.record]

theorem Handles.drops {link after : Adapter} {rec : List UInt8} (handles : Handles link rec after)
    (keeps : ¬ link.Drops) : ¬ after.Drops := by
  cases handles <;> simpa [Adapter.Drops] using keeps

namespace Adapter

section Extract

variable {reads : Nat → Reads} {link : Adapter} {fed : List UInt8} {recs : List (List UInt8)}

theorem extract_empty (rx : link.server.rx = []) : link.extract reads = link := by
  rw [extract, if_pos (by rw [rx]; exact Nat.zero_lt_two)]

theorem extract_sealed {rec more : List UInt8} (least : 1 ≤ rec.length) (most : rec.length ≤ rxCap - 2)
    (rx : link.server.rx = sealed rec ++ more) : link.extract reads =
      ({ link.handle (reads link.records.length) rec with server.rx := more } : Adapter).extract reads := by
  have cap : rxCap = 512 := rfl
  have length := lengthAt_sealed (show rec.length < 65536 by omega) more
  rw [lengthAt, ← rx] at length
  have size : link.server.rx.length = 2 + rec.length + more.length := by
    rw [rx, List.length_append, length_sealed]
  rw [extract, if_neg (by omega)]
  dsimp only
  rw [length, if_neg (by omega), if_neg (by omega), rx, take_sealed, drop_whole]

theorem onPipe_nil : link.onPipe reads [] = link := by
  rw [onPipe, if_pos rfl]

theorem onPipe_fits {bytes : List UInt8} (some : bytes ≠ []) (fits : link.server.rx.length + bytes.length ≤ rxCap) :
    link.onPipe reads bytes = ({ link with server.rx := link.server.rx ++ bytes } : Adapter).extract reads := by
  have positive := List.length_pos_iff.mpr some
  have whole : min (rxCap - link.server.rx.length) bytes.length = bytes.length := by omega
  rw [onPipe, if_neg some]
  dsimp only
  rw [whole, if_neg (by omega), List.take_length, List.drop_length, onPipe_nil]

theorem Holds.cut (holds : link.Holds fed) (sized : Sized recs) (front : fed <+: framed recs)
    (done : link.records <+: recs) :
    link.server.rx = [] ∨ ∃ rec rest, recs = link.records ++ rec :: rest ∧ 1 ≤ rec.length ∧
      rec.length ≤ rxCap - 2 ∧ Cut rec rest link.server.rx := by
  obtain ⟨rest, rfl⟩ := done
  rw [← holds.stream, framed_append] at front
  have front := (List.prefix_append_right_inj _).mp front
  cases rest with
  | nil => exact .inl (List.prefix_nil.mp front)
  | cons rec rest =>
    have size := sized rec (List.mem_append_right _ List.mem_cons_self)
    have short : rxCap - 2 < 65536 := by decide
    exact .inr ⟨rec, rest, rfl, size.1, size.2, cut_of_front (by omega) front⟩

theorem extract_holds (sized : Sized recs) (front : fed <+: framed recs) (done : link.records <+: recs)
    (holds : link.Holds fed) :
    (link.extract reads).Holds fed ∧ (link.extract reads).records <+: recs ∧ Waits (link.extract reads).server.rx := by
  fun_induction extract reads link with
  | case1 link few => exact ⟨holds, done, .inl few⟩
  | case2 link some len breach =>
    have length : len = lengthAt link.server.rx := rfl
    obtain empty | ⟨rec, rest, -, least, most, cut⟩ := holds.cut sized front done
    next => simp [empty] at some
    next =>
      generalize link.server.rx = bytes at cut length some
      cases cut with
      | few short => exact absurd short some
      | part _ same => omega
      | whole front =>
        rw [lengthAt_sealed (by simp only [rxCap] at most; omega)] at length
        omega
  | case3 link some len legal few =>
    have length : len = lengthAt link.server.rx := rfl
    exact ⟨holds, done, .inr ⟨by omega, by omega⟩⟩
  | case4 link some len legal whole handled ih =>
    have length : len = lengthAt link.server.rx := rfl
    have handles := link.handle_cases (reads link.records.length) ((link.server.rx.drop 2).take len)
    obtain empty | ⟨rec, rest, split, least, most, cut⟩ := holds.cut sized front done
    next => simp [empty] at some
    next =>
      obtain ⟨bytes, rx⟩ : ∃ bytes, link.server.rx = bytes := ⟨_, rfl⟩
      rw [rx] at cut
      cases cut with
      | few short => exact absurd (by rw [rx]; exact short) some
      | part _ same short =>
        rw [rx] at whole length
        omega
      | @whole more front =>
        rw [rx, lengthAt_sealed (by simp only [rxCap] at most; omega)] at length
        have taken : (link.server.rx.drop 2).take len = rec := by rw [rx, length, take_sealed]
        have same : ({ handled with server.rx := link.server.rx.drop (2 + len) } : Adapter).records =
            link.records ++ [rec] := by
          exact handles.records.trans (by rw [taken])
        refine ih ?_ ⟨?_, ?_⟩
        next =>
          rw [same, split]
          exact ⟨rest, by simp⟩
        next =>
          rw [same, rx, length, drop_whole, framed_append, framed_cons, framed_nil, List.append_nil, List.append_assoc,
            ← holds.stream, rx]
        next => exact handles.drops holds.keeps

theorem onPipe_holds (sized : Sized recs) {bytes : List UInt8} (front : fed ++ bytes <+: framed recs)
    (done : link.records <+: recs) (holds : link.Holds fed) (waits : Waits link.server.rx) :
    (link.onPipe reads bytes).Holds (fed ++ bytes) ∧ (link.onPipe reads bytes).records <+: recs ∧
      Waits (link.onPipe reads bytes).server.rx := by
  fun_induction onPipe reads link bytes generalizing fed with
  | case1 link => exact ⟨by rwa [List.append_nil], done, waits⟩
  | case2 link bytes some take filled none =>
    have room := waits.room
    have positive := List.length_pos_iff.mpr some
    omega
  | case3 link bytes some take filled more =>
    rename_i ih
    have cut : fed ++ bytes = fed ++ bytes.take take ++ bytes.drop take := by
      rw [List.append_assoc, List.take_append_drop]
    have before : fed ++ bytes.take take <+: framed recs := (List.prefix_append _ _).trans (cut ▸ front)
    have holding : Holds { link with server.rx := link.server.rx ++ bytes.take take } (fed ++ bytes.take take) :=
      ⟨by rw [← holds.stream, List.append_assoc]; rfl, holds.keeps⟩
    obtain ⟨held, handled, rest⟩ :=
      @extract_holds reads { link with server.rx := link.server.rx ++ bytes.take take } _ _ sized before done holding
    rw [cut]
    exact ih (cut ▸ front) handled held rest

end Extract

inductive Pumps : Adapter → Adapter → Prop where
  | quiet {link : Adapter} {bus : HostBus} {io : Io} (polled : link.bus.poll io = some (bus, none)) :
      Pumps link { link with bus }
  | event {link after : Adapter} {bus : HostBus} {io : Io} {event : Event}
    (polled : link.bus.poll io = some (bus, some event))
    (rest : Pumps (({ link with bus } : Adapter).tell event) after) : Pumps link after

theorem pump_cases {ios : List Io} {link after : Adapter} (pumped : link.pump ios = some after) :
    Pumps link after := by
  fun_induction pump ios link with
  | case1 => cases pumped
  | case2 => cases pumped
  | case3 io ios link bus polled =>
    obtain rfl := Option.some.inj pumped
    exact .quiet polled
  | case4 io ios link bus event polled ih => exact .event polled (ih pumped)

theorem tell_keeps (link : Adapter) (event : Event) : (link.tell event).server.rx = link.server.rx ∧
    (link.tell event).records = link.records ∧ ((link.tell event).Drops ↔ link.Drops) := by
  cases event <;> simp [tell, out, note, records, Drops, Entry.record]

theorem Pumps.keeps {link after : Adapter} (pumps : Pumps link after) : after.server.rx = link.server.rx ∧
    after.records = link.records ∧ (after.Drops ↔ link.Drops) := by
  induction pumps with
  | quiet => exact ⟨rfl, rfl, Iff.rfl⟩
  | @event link after bus io event _ _ ih =>
    obtain ⟨rx, records, drops⟩ := ih
    obtain ⟨rx', records', drops'⟩ := ({ link with bus } : Adapter).tell_keeps event
    exact ⟨rx.trans rx', records.trans records', drops.trans drops'⟩

end Adapter

theorem Served.holds {fed : List UInt8} {link : Adapter} {recs : List (List UInt8)} (sized : Sized recs)
    (served : Served fed link) (front : fed <+: framed recs) :
    link.Holds fed ∧ link.records <+: recs ∧ Waits link.server.rx := by
  induction served with
  | new => exact ⟨⟨rfl, List.not_mem_nil⟩, List.nil_prefix, .inl Nat.zero_lt_two⟩
  | @act fed link after act _ acted ih =>
    obtain ⟨holds, done, waits⟩ := ih ((List.prefix_append _ _).trans front)
    cases act with
    | pipe reads bytes =>
      obtain rfl := Option.some.inj acted
      exact Adapter.onPipe_holds sized front done holds waits
    | pump ios =>
      obtain ⟨rx, records, drops⟩ := (Adapter.pump_cases acted).keeps
      rw [Act.bytes, List.append_nil]
      exact ⟨⟨by rw [records, rx]; exact holds.stream, fun some => holds.keeps (drops.mp some)⟩, by rwa [records],
        by rwa [rx]⟩
    | takeAdapterRequest | onTxComplete io | onDeadline io =>
      obtain rfl := Option.some.inj acted
      rw [Act.bytes, List.append_nil]
      exact ⟨⟨holds.stream, holds.keeps⟩, done, waits⟩

theorem Adapter.Holds.all {fed : List UInt8} {link : Adapter} {recs whole : List (List UInt8)} (sized : Sized recs)
    (holds : link.Holds fed) (done : link.records <+: recs) (waits : Waits link.server.rx) (front : whole <+: recs)
    (come : framed whole <+: fed) : whole <+: link.records := by
  by_cases fewer : whole.length ≤ link.records.length
  next => exact List.prefix_of_prefix_length_le front done fewer
  next =>
    obtain ⟨more, rfl⟩ := List.prefix_of_prefix_length_le done front (by omega)
    cases more with
    | nil => simp at fewer
    | cons rec more =>
      have size := (sized rec (front.subset (List.mem_append_right _ List.mem_cons_self))).2
      have cap : rxCap = 512 := rfl
      rw [← holds.stream, framed_append] at come
      obtain ⟨rest, shape⟩ := (List.prefix_append_right_inj _).mp come
      rw [framed_cons, List.append_assoc] at shape
      have length := lengthAt_sealed (show rec.length < 65536 by omega) (framed more ++ rest)
      have total := congrArg List.length shape
      rw [shape] at length
      simp only [List.length_append, length_sealed] at total
      obtain short | ⟨short, -⟩ := waits
      all_goals omega

section Legal

variable {link : Adapter}

theorem Sized.snoc {recs : List (List UInt8)} {rec : List UInt8} (sized : Sized recs) (least : 1 ≤ rec.length)
    (most : rec.length ≤ rxCap - 2) : Sized (recs ++ [rec]) := by
  intro found member
  obtain old | new := List.mem_append.mp member
  next => exact sized found old
  next => exact sized_one least most found new

theorem Adapter.drop_records (link : Adapter) : link.drop.records = link.records := by
  have silent : [Entry.dropped, .out (.unknown 0xFF)].filterMap Entry.record = [] := rfl
  simp [drop, out, note, records, silent]

theorem Adapter.extract_sized (reads : Nat → Reads) (sized : Sized link.records) :
    Sized (link.extract reads).records := by
  fun_induction Adapter.extract reads link with
  | case1 => exact sized
  | case2 link =>
    rw [link.drop_records]
    exact sized
  | case3 => exact sized
  | case4 link some len legal whole handled ih =>
    have length : ((link.server.rx.drop 2).take len).length = len := by
      rw [List.length_take, List.length_drop]
      omega
    have handles := link.handle_cases (reads link.records.length) ((link.server.rx.drop 2).take len)
    have grown : handled.records = _ := handles.records
    refine ih ?_
    show Sized handled.records
    rw [grown]
    exact sized.snoc (by omega) (by omega)

theorem Adapter.onPipe_sized (reads : Nat → Reads) (bytes : List UInt8) (sized : Sized link.records) :
    Sized (link.onPipe reads bytes).records := by
  fun_induction Adapter.onPipe reads link bytes with
  | case1 => exact sized
  | case2 link bytes some take filled none ih =>
    have kept : Sized filled.records := Adapter.extract_sized reads sized
    exact ih (by rwa [drop_records])
  | case3 link bytes some take filled more ih => exact ih (Adapter.extract_sized reads sized)

theorem Served.sized {fed : List UInt8} (served : Served fed link) : Sized link.records := by
  induction served with
  | new => exact fun _ no => (by cases no)
  | @act fed link after act _ acted ih =>
    cases act with
    | pipe reads bytes =>
      obtain rfl := Option.some.inj acted
      exact Adapter.onPipe_sized reads bytes ih
    | pump ios =>
      rw [(Adapter.pump_cases acted).keeps.2.1]
      exact ih
    | takeAdapterRequest | onTxComplete io | onDeadline io =>
      obtain rfl := Option.some.inj acted
      exact ih

end Legal

end OpenServo.Link
