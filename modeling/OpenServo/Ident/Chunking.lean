import OpenServo.Ident.Deframer

set_option autoImplicit false

namespace OpenServo.Ident

open OpenServo.Protocol OpenServo.Shared

namespace TelDeframer

abbrev Output := TelDeframer × List TelFrame

/-- One turn of the loop, with the slide taken a byte at a time. -/
def turn (s : Output) : Option Output :=
  let (d, out) := s
  if d.locked then
    if d.rest.length < d.flen then none
    else if d.rest.getD 0 0 ≠ telSync then some (d.unlocked, out)
    else
      let frame := decodeAt d.mask (d.rest.take d.flen)
      some (d.accept frame, out ++ [frame])
  else if d.rest.length < lockFrames * d.flen then none
  else if aligned d.flen d.rest then some ({ d with locked := true }, out)
  else some ({ d with rest := d.rest.tail }, out)

def feed (s : Output) (bytes : List UInt8) : Output :=
  ({ s.1 with rest := s.1.rest ++ bytes }, s.2)

def take (s : Output) (bytes : List UInt8) : Output :=
  s.1.push bytes s.2

section Rules

variable {d : TelDeframer} {out : List TelFrame}

theorem turn_starved (unlocked : d.locked = false) (short : d.rest.length < lockFrames * d.flen) :
    turn (d, out) = none := by
  simp [turn, unlocked, short]

theorem turn_lock (unlocked : d.locked = false) (enough : lockFrames * d.flen ≤ d.rest.length)
    (locks : aligned d.flen d.rest = true) : turn (d, out) = some ({ d with locked := true }, out) := by
  simp [turn, unlocked, Nat.not_lt.mpr enough, locks]

theorem turn_slide (unlocked : d.locked = false) (enough : lockFrames * d.flen ≤ d.rest.length)
    (misses : aligned d.flen d.rest = false) : turn (d, out) = some ({ d with rest := d.rest.tail }, out) := by
  simp [turn, unlocked, Nat.not_lt.mpr enough, misses]

theorem turn_wait (locked : d.locked = true) (short : d.rest.length < d.flen) : turn (d, out) = none := by
  simp [turn, locked, short]

theorem turn_mismatch (locked : d.locked = true) (enough : d.flen ≤ d.rest.length)
    (mismatch : d.rest.getD 0 0 ≠ telSync) : turn (d, out) = some (d.unlocked, out) := by
  simp only [turn, locked, if_true]
  rw [if_neg (Nat.not_lt.mpr enough), if_pos mismatch]

theorem turn_frame (locked : d.locked = true) (enough : d.flen ≤ d.rest.length)
    (sync : d.rest.getD 0 0 = telSync) :
    turn (d, out) = some (d.accept (decodeAt d.mask (d.rest.take d.flen)),
      out ++ [decodeAt d.mask (d.rest.take d.flen)]) := by
  simp only [turn, locked, if_true]
  rw [if_neg (Nat.not_lt.mpr enough), if_neg (not_not.mpr sync)]

end Rules

theorem slide_found (d : TelDeframer) (out : List TelFrame) (unlocked : d.locked = false) (bytes rest : List UInt8)
    (found : slide d.flen bytes = (true, rest)) {last : Output}
    (onward : Settles turn ({ d with rest, locked := true }, out) last) :
    Settles turn ({ d with rest := bytes }, out) last := by
  induction bytes with
  | nil => simp [slide] at found
  | cons b tail ih =>
    simp only [slide] at found
    split at found
    next enough =>
      split at found
      next locks =>
        obtain ⟨-, rfl⟩ := Prod.mk.inj found
        exact .turn (turn_lock unlocked enough locks) onward
      next misses => exact .turn (turn_slide unlocked enough (Bool.eq_false_iff.mpr misses)) (ih found)
    next => simp at found

theorem slide_missed (d : TelDeframer) (out : List TelFrame) (unlocked : d.locked = false) (bytes rest : List UInt8)
    (missed : slide d.flen bytes = (false, rest)) :
    rest.length < lockFrames * d.flen ∧ Settles turn ({ d with rest := bytes }, out) ({ d with rest }, out) := by
  induction bytes with
  | nil =>
    obtain ⟨-, rfl⟩ := Prod.mk.inj missed
    have short : ([] : List UInt8).length < lockFrames * d.flen := Nat.mul_pos (by decide) d.flen_pos
    exact ⟨short, .wait (turn_starved unlocked short)⟩
  | cons b tail ih =>
    simp only [slide] at missed
    split at missed
    next enough =>
      split at missed
      next => simp at missed
      next misses =>
        obtain ⟨short, settles⟩ := ih missed
        exact ⟨short, .turn (turn_slide unlocked enough (Bool.eq_false_iff.mpr misses)) settles⟩
    next short =>
      obtain ⟨-, rfl⟩ := Prod.mk.inj missed
      exact ⟨Nat.lt_of_not_le short, .wait (turn_starved unlocked (Nat.lt_of_not_le short))⟩

theorem ready_settles {d d' : TelDeframer} {out : List TelFrame} {last : Output}
    (ready : d.ready = (true, d')) (onward : Settles turn (d', out) last) : Settles turn (d, out) last := by
  simp only [TelDeframer.ready] at ready
  split at ready
  next =>
    obtain ⟨-, rfl⟩ := Prod.mk.inj ready
    exact onward
  next unlocked =>
    simp only [acquire] at ready
    split at ready
    next rest found =>
      obtain ⟨-, rfl⟩ := Prod.mk.inj ready
      exact slide_found d out (Bool.eq_false_iff.mpr unlocked) d.rest rest found onward
    next => simp at ready

/-- When no alignment is found nothing more is cut off: fewer bytes are left than the cut keeps. -/
theorem stuck_settles {d d' : TelDeframer} {out : List TelFrame}
    (stuck : d.ready = (false, d')) : Settles turn (d, out) (d', out) := by
  simp only [TelDeframer.ready] at stuck
  split at stuck
  next => simp at stuck
  next unlocked =>
    simp only [acquire] at stuck
    split at stuck
    next => simp at stuck
    next rest missed =>
      obtain ⟨short, settles⟩ := slide_missed d out (Bool.eq_false_iff.mpr unlocked) d.rest rest missed
      obtain ⟨-, rfl⟩ := Prod.mk.inj stuck
      rwa [if_neg (by omega)]

theorem drain_settles (d : TelDeframer) (out : List TelFrame) : Settles turn (d, out) (d.drain out) := by
  fun_induction drain d out with
  | case1 d out d' stuck => exact stuck_settles stuck
  | case2 d out d' ready short => exact ready_settles ready (.wait (turn_wait (ready_spec ready).1 short))
  | case3 d out d' ready long mismatch ih =>
    exact ready_settles ready (.turn (turn_mismatch (ready_spec ready).1 (Nat.le_of_not_lt long) mismatch) ih)
  | case4 d out d' ready long sync frame ih =>
    exact ready_settles ready
      (.turn (turn_frame (ready_spec ready).1 (Nat.le_of_not_lt long) (not_not.mp sync)) ih)

theorem take_settles (s : Output) (bytes : List UInt8) : Settles turn (feed s bytes) (take s bytes) :=
  drain_settles _ _

theorem getD_append {front : List UInt8} (more : List UInt8) {i : Nat} (inside : i < front.length) :
    (front ++ more).getD i 0 = front.getD i 0 := by
  simp [List.getD_eq_getElem?_getD, List.getElem?_append_left inside]

theorem aligned_append {flen : Nat} {bytes : List UInt8} (wide : 2 ≤ flen)
    (enough : lockFrames * flen ≤ bytes.length) (more : List UInt8) :
    aligned flen (bytes ++ more) = aligned flen bytes := by
  have inside (i : Nat) (below : i < 4 * flen) : (bytes ++ more).getD i 0 = bytes.getD i 0 :=
    getD_append more (Nat.lt_of_lt_of_le below enough)
  simp only [aligned, lockFrames]
  simp only [show List.range 4 = [0, 1, 2, 3] from rfl, show List.range (4 - 1) = [0, 1, 2] from rfl, List.all_cons,
    List.all_nil]
  rw [inside (0 * flen) (by omega), inside (1 * flen) (by omega), inside (2 * flen) (by omega),
    inside (3 * flen) (by omega), inside (0 * flen + 1) (by omega), inside ((0 + 1) * flen + 1) (by omega),
    inside ((1 + 1) * flen + 1) (by omega), inside ((2 + 1) * flen + 1) (by omega)]

theorem flen_wide (d : TelDeframer) : 3 ≤ d.flen :=
  Nat.le_add_right telHdrLen _

theorem accept_feed {d : TelDeframer} {bytes : List UInt8} (enough : d.flen ≤ d.rest.length) (frame : TelFrame) :
    TelDeframer.accept { d with rest := d.rest ++ bytes } frame =
      { d.accept frame with rest := (d.accept frame).rest ++ bytes } := by
  have behind : (d.rest ++ bytes).drop d.flen = d.rest.drop d.flen ++ bytes :=
    List.drop_append_of_le_length enough
  simp only [flen] at behind
  simp only [accept, flen, behind]

theorem turn_feed (bytes : List UInt8) (s next : Output) (turns : turn s = some next) :
    turn (feed s bytes) = some (feed next bytes) := by
  obtain ⟨d, out⟩ := s
  have wide := d.flen_wide
  have longer : d.rest.length ≤ (d.rest ++ bytes).length := by simp
  -- A turn reads no further than it has found bytes.
  cases locked : d.locked with
  | false =>
    by_cases enough : lockFrames * d.flen ≤ d.rest.length
    next =>
      have same := aligned_append (by omega) enough bytes
      cases locks : aligned d.flen d.rest with
      | true =>
        rw [turn_lock locked enough locks] at turns
        cases turns
        exact turn_lock locked (Nat.le_trans enough longer) (same.trans locks)
      | false =>
        rw [turn_slide locked enough locks] at turns
        cases turns
        have slid := @turn_slide { d with rest := d.rest ++ bytes } out locked (Nat.le_trans enough longer)
          (same.trans locks)
        have nonempty : d.rest ≠ [] := List.ne_nil_of_length_pos (by simp only [lockFrames] at enough; omega)
        simpa [feed, List.tail_append_of_ne_nil nonempty] using slid
    next => rw [turn_starved locked (Nat.lt_of_not_le enough)] at turns; cases turns
  | true =>
    by_cases enough : d.flen ≤ d.rest.length
    next =>
      have first : (d.rest ++ bytes).getD 0 0 = d.rest.getD 0 0 := getD_append bytes (by omega)
      by_cases sync : d.rest.getD 0 0 = telSync
      next =>
        rw [turn_frame locked enough sync] at turns
        cases turns
        have taken := @turn_frame { d with rest := d.rest ++ bytes } out locked (Nat.le_trans enough longer)
          (first.trans sync)
        have window : (d.rest ++ bytes).take d.flen = d.rest.take d.flen := List.take_append_of_le_length enough
        rw [accept_feed enough] at taken
        simp only [flen] at taken window
        rwa [window] at taken
      next =>
        rw [turn_mismatch locked enough sync] at turns
        cases turns
        exact turn_mismatch locked (Nat.le_trans enough longer) (fun same => sync (first.symm.trans same))
    next => rw [turn_wait locked (Nat.lt_of_not_le enough)] at turns; cases turns

theorem new_waits {mask : UInt16} {d : TelDeframer} (made : new mask = some d) : turn (d, []) = none := by
  simp only [new] at made
  split at made
  next => cases made
  next =>
    cases made
    exact turn_starved rfl (Nat.mul_pos (by decide) (flen_pos _))

theorem take_chunks {mask : UInt16} {d : TelDeframer} (made : new mask = some d) (chunks : List (List UInt8)) :
    chunks.foldl take (d, []) = d.push chunks.flatten [] := by
  apply settle_chunks take feed take_settles turn_feed
  next => intro s first second; simp [feed]
  next => intro s; simp [feed]
  next => exact new_waits made

end TelDeframer

end OpenServo.Ident
