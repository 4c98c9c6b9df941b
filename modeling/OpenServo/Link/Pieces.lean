import OpenServo.Link.Reassembly

set_option autoImplicit false

namespace OpenServo.Link

/-- What the pipe's bytes come to: a record, or a length that no record has. -/
inductive Piece where
  | whole (rec : List UInt8)
  | junk
deriving DecidableEq

def pieces (buf : List UInt8) : List Piece × List UInt8 :=
  if buf.length < 2 then ([], buf)
  else if lengthAt buf = 0 ∨ rxCap - 2 < lengthAt buf then ([.junk], [])
  else if buf.length < 2 + lengthAt buf then ([], buf)
  else
    let (rest, left) := pieces (buf.drop (2 + lengthAt buf))
    (.whole ((buf.drop 2).take (lengthAt buf)) :: rest, left)
termination_by buf.length
decreasing_by
  simp only [List.length_drop]
  omega

def packet (rx bytes : List UInt8) : List Piece × List UInt8 :=
  if bytes = [] then ([], rx)
  else
    let take := min (rxCap - rx.length) bytes.length
    let (front, left) := pieces (rx ++ bytes.take take)
    if take = 0 then
      let (rest, last) := packet [] bytes
      (front ++ .junk :: rest, last)
    else
      let (rest, last) := packet left (bytes.drop take)
      (front ++ rest, last)
termination_by 2 * bytes.length + if rxCap ≤ rx.length then 1 else 0
decreasing_by
  next some none =>
    have full : rxCap ≤ rx.length := by
      have positive := List.length_pos_iff.mpr some
      omega
    rw [if_pos full, if_neg (by simp [rxCap])]
    omega
  next some more =>
    rw [List.length_drop]
    split <;> split <;> omega

theorem pieces_sealed {rec more : List UInt8} (least : 1 ≤ rec.length) (most : rec.length ≤ rxCap - 2) :
    pieces (sealed rec ++ more) = (.whole rec :: (pieces more).1, (pieces more).2) := by
  have cap : rxCap = 512 := rfl
  have length := lengthAt_sealed (show rec.length < 65536 by omega) more
  have size : (sealed rec ++ more).length = 2 + rec.length + more.length := by
    rw [List.length_append, length_sealed]
  rw [pieces, length, if_neg (by omega), if_neg (by omega), if_neg (by omega), take_sealed, drop_whole]

theorem pieces_framed {recs : List (List UInt8)} (sized : Sized recs) :
    pieces (framed recs) = (recs.map .whole, []) := by
  induction recs with
  | nil =>
    rw [framed_nil, pieces, if_pos (show ([] : List UInt8).length < 2 from Nat.zero_lt_two)]
    rfl
  | cons rec rest ih =>
    obtain ⟨least, most⟩ := sized rec List.mem_cons_self
    rw [framed_cons, pieces_sealed least most, ih fun other member => sized other (List.mem_cons_of_mem _ member)]
    rfl

theorem packet_fits {rx bytes : List UInt8} (some : bytes ≠ []) (fits : rx.length + bytes.length ≤ rxCap) :
    packet rx bytes = pieces (rx ++ bytes) := by
  have positive := List.length_pos_iff.mpr some
  have whole : min (rxCap - rx.length) bytes.length = bytes.length := by omega
  rw [packet, if_neg some, whole]
  dsimp only
  rw [if_neg (by omega), List.take_length, List.drop_length, packet, if_pos rfl, List.append_nil]

theorem pieces_waits (buf : List UInt8) : Waits (pieces buf).2 := by
  fun_induction pieces buf with
  | case1 buf few => exact .inl few
  | case2 => exact .inl Nat.zero_lt_two
  | case3 buf some legal few =>
    have most : lengthAt buf ≤ rxCap - 2 := by omega
    exact .inr ⟨few, most⟩
  | case4 buf some legal whole rest left found ih =>
    rw [found] at ih
    exact ih

theorem packet_waits {rx : List UInt8} (bytes : List UInt8) (waits : Waits rx) : Waits (packet rx bytes).2 := by
  fun_induction packet rx bytes with
  | case1 => exact waits
  | case2 rx bytes some take front left found none =>
    have room := waits.room
    have positive := List.length_pos_iff.mpr some
    omega
  | case3 rx bytes some take front left found more rest last behind ih =>
    have rested := pieces_waits (rx ++ bytes.take take)
    rw [found] at rested
    have later := ih rested
    rwa [behind] at later

inductive Trace (reads : Nat → Reads) : Adapter → List Piece → Adapter → Prop where
  | nil (link : Adapter) : Trace reads link [] link
  | fill {link after : Adapter} {found : List Piece} (rx : List UInt8)
    (later : Trace reads { link with server.rx := rx } found after) : Trace reads link found after
  | whole {link after : Adapter} {found : List Piece} (rec : List UInt8)
    (later : Trace reads (link.handle (reads link.records.length) rec) found after) :
    Trace reads link (.whole rec :: found) after
  | junk {link after : Adapter} {found : List Piece} (later : Trace reads link.drop found after) :
    Trace reads link (.junk :: found) after

theorem Trace.append {reads : Nat → Reads} {link middle after : Adapter} {front back : List Piece}
    (first : Trace reads link front middle) (second : Trace reads middle back after) :
    Trace reads link (front ++ back) after := by
  induction first with
  | nil => exact second
  | fill rx later ih => exact .fill rx (ih second)
  | whole rec later ih => exact .whole rec (ih second)
  | junk later ih => exact .junk (ih second)

namespace Adapter

structure Comes (reads : Nat → Reads) (link after : Adapter) (found : List Piece × List UInt8) : Prop where
  trace : Trace reads link found.1 after
  rx : after.server.rx = found.2

variable (link : Adapter)

theorem extract_comes (reads : Nat → Reads) : Comes reads link (link.extract reads) (pieces link.server.rx) := by
  fun_induction extract reads link with
  | case1 link few =>
    rw [pieces, if_pos few]
    exact ⟨.nil link, rfl⟩
  | case2 link some len breach =>
    have breach : lengthAt link.server.rx = 0 ∨ rxCap - 2 < lengthAt link.server.rx := breach
    rw [pieces, if_neg some, if_pos breach]
    exact ⟨.junk (.nil link.drop), rfl⟩
  | case3 link some len legal few =>
    have legal : ¬ (lengthAt link.server.rx = 0 ∨ rxCap - 2 < lengthAt link.server.rx) := legal
    have few : link.server.rx.length < 2 + lengthAt link.server.rx := few
    rw [pieces, if_neg some, if_neg legal, if_pos few]
    exact ⟨.nil link, rfl⟩
  | case4 link some len legal whole handled ih =>
    have legal : ¬ (lengthAt link.server.rx = 0 ∨ rxCap - 2 < lengthAt link.server.rx) := legal
    have whole : ¬ link.server.rx.length < 2 + lengthAt link.server.rx := whole
    rw [pieces, if_neg some, if_neg legal, if_neg whole]
    exact ⟨.whole _ (.fill _ ih.trace), ih.rx⟩

theorem onPipe_comes (reads : Nat → Reads) (bytes : List UInt8) :
    Comes reads link (link.onPipe reads bytes) (packet link.server.rx bytes) := by
  fun_induction onPipe reads link bytes with
  | case1 link =>
    rw [packet, if_pos rfl]
    exact ⟨.nil link, rfl⟩
  | case2 link bytes some take filled none ih =>
    have first := extract_comes { link with server.rx := link.server.rx ++ bytes.take take } reads
    have second : Comes reads filled.drop _ (packet [] bytes) := ih
    have none : min (rxCap - link.server.rx.length) bytes.length = 0 := none
    rw [packet, if_neg some]
    dsimp only
    rw [if_pos none]
    exact ⟨.fill _ (first.trace.append (.junk second.trace)), second.rx⟩
  | case3 link bytes some take filled more ih =>
    have first := extract_comes { link with server.rx := link.server.rx ++ bytes.take take } reads
    have more : ¬ min (rxCap - link.server.rx.length) bytes.length = 0 := more
    have left : filled.server.rx = (pieces (link.server.rx ++ bytes.take take)).2 := first.rx
    rw [left] at ih
    rw [packet, if_neg some]
    dsimp only
    rw [if_neg more]
    exact ⟨.fill _ (first.trace.append ih.trace), ih.rx⟩

end Adapter

end OpenServo.Link
