import OpenServo.Core.Tel
import OpenServo.Ident.Chunking

set_option autoImplicit false

namespace OpenServo.Ident

open OpenServo.Core OpenServo.Protocol OpenServo.Shared

/-- The frame a host should see of a sample: the selected fields and no others. -/
def selected (mask : UInt16) (seq : UInt8) (s : Tel.TelSample) : TelFrame where
  seq := seq
  windowValid := s.windowValid
  pos := if mask &&& Tel.bitPos ≠ 0 then some s.pos else none
  current := if mask &&& Tel.bitCurrent ≠ 0 then some s.current else none
  currentTrough := if mask &&& Tel.bitCurrentTrough ≠ 0 then some s.currentTrough else none
  dutyQ15 := if mask &&& Tel.bitDuty ≠ 0 then some s.dutyQ15 else none
  vdiff := if mask &&& Tel.bitVdiff ≠ 0 then some s.vdiff else none
  vbus := if mask &&& Tel.bitVbus ≠ 0 then some s.vbus else none

theorem put_eq (mask : UInt16) {bit : UInt16} (known : Tel.maskAll &&& bit = bit) (value : UInt16) :
    Tel.put mask bit value = if mask &&& bit ≠ 0 then u16ToLe value else [] := by
  simp only [Tel.put, UInt16.and_assoc, known]

theorem takeField_put (mask : UInt16) {bit : UInt16} (known : Tel.maskAll &&& bit = bit) (value : UInt16)
    (front back : List UInt8) :
    takeField mask bit (front ++ Tel.put mask bit value ++ back) front.length =
      (if mask &&& bit ≠ 0 then some value else none, (front ++ Tel.put mask bit value).length) := by
  rw [put_eq mask known, takeField]
  split
  next =>
    have first : (front ++ u16ToLe value ++ back).getD front.length 0 = value.toUInt8 := by
      simp [u16ToLe]
    have second : (front ++ u16ToLe value ++ back).getD (front.length + 1) 0 = (value >>> 8).toUInt8 := by
      simp [u16ToLe]
    rw [first, second, u16FromLe_toLe]
    simp [u16ToLe]
  next => simp

theorem takeField_at {mask bit : UInt16} (known : Tel.maskAll &&& bit = bit) {value : UInt16}
    {bytes front back : List UInt8} (split : bytes = front ++ Tel.put mask bit value ++ back) :
    takeField mask bit bytes front.length =
      (if mask &&& bit ≠ 0 then some value else none, (front ++ Tel.put mask bit value).length) := by
  rw [split]
  exact takeField_put mask known value front back

theorem map_toInt16 (selects : Prop) [Decidable selects] (value : Int16) :
    (if selects then some value.toUInt16 else none).map UInt16.toInt16 = if selects then some value else none := by
  split <;> rfl

theorem decodeAt_encode (mask : UInt16) (seq : UInt8) (s : Tel.TelSample) :
    decodeAt mask (Tel.encode mask seq s) = selected mask seq s := by
  -- the header and the fields before each field, longest last
  let header : List UInt8 := [Tel.sync, seq, if s.windowValid then Tel.flagWindowValid else 0]
  have pos := @takeField_at mask Tel.bitPos (by decide) s.pos (Tel.encode mask seq s) header _
    (by simp only [Tel.encode, header, List.append_assoc]; rfl)
  have current := @takeField_at mask Tel.bitCurrent (by decide) s.current.toUInt16 (Tel.encode mask seq s)
    (header ++ Tel.put mask Tel.bitPos s.pos) _ (by simp only [Tel.encode, header, List.append_assoc]; rfl)
  have trough := @takeField_at mask Tel.bitCurrentTrough (by decide) s.currentTrough (Tel.encode mask seq s)
    (header ++ Tel.put mask Tel.bitPos s.pos ++ Tel.put mask Tel.bitCurrent s.current.toUInt16) _
    (by simp only [Tel.encode, header, List.append_assoc]; rfl)
  have duty := @takeField_at mask Tel.bitDuty (by decide) s.dutyQ15.toUInt16 (Tel.encode mask seq s)
    (header ++ Tel.put mask Tel.bitPos s.pos ++ Tel.put mask Tel.bitCurrent s.current.toUInt16 ++
      Tel.put mask Tel.bitCurrentTrough s.currentTrough) _
    (by simp only [Tel.encode, header, List.append_assoc]; rfl)
  have vdiff := @takeField_at mask Tel.bitVdiff (by decide) s.vdiff.toUInt16 (Tel.encode mask seq s)
    (header ++ Tel.put mask Tel.bitPos s.pos ++ Tel.put mask Tel.bitCurrent s.current.toUInt16 ++
      Tel.put mask Tel.bitCurrentTrough s.currentTrough ++ Tel.put mask Tel.bitDuty s.dutyQ15.toUInt16) _
    (by simp only [Tel.encode, header, List.append_assoc]; rfl)
  have vbus := @takeField_at mask Tel.bitVbus (by decide) s.vbus (Tel.encode mask seq s)
    (header ++ Tel.put mask Tel.bitPos s.pos ++ Tel.put mask Tel.bitCurrent s.current.toUInt16 ++
      Tel.put mask Tel.bitCurrentTrough s.currentTrough ++ Tel.put mask Tel.bitDuty s.dutyQ15.toUInt16 ++
      Tel.put mask Tel.bitVdiff s.vdiff.toUInt16) []
    (by simp only [Tel.encode, header, List.append_assoc, List.append_nil])
  have valid : (Tel.encode mask seq s).getD 2 0 = if s.windowValid then Tel.flagWindowValid else 0 := by
    simp [Tel.encode]
  have number : (Tel.encode mask seq s).getD 1 0 = seq := by simp [Tel.encode]
  simp only [decodeAt, show telBitPos = Tel.bitPos from rfl, show telBitCurrent = Tel.bitCurrent from rfl,
    show telBitCurrentTrough = Tel.bitCurrentTrough from rfl, show telBitDuty = Tel.bitDuty from rfl,
    show telBitVdiff = Tel.bitVdiff from rfl, show telBitVbus = Tel.bitVbus from rfl,
    show telHdrLen = header.length from rfl, pos, current, trough, duty, vdiff, vbus, map_toInt16, valid, number]
  simp only [selected]
  cases s.windowValid <;> simp [Tel.flagWindowValid, telFlagWindowValid]

theorem length_put (mask : UInt16) {bit : UInt16} (known : Tel.maskAll &&& bit = bit) (value : UInt16) :
    (Tel.put mask bit value).length = if mask &&& bit ≠ 0 then 2 else 0 := by
  rw [put_eq mask known]
  split <;> rfl

theorem telFrameLen_eq : ∀ n < 64, let mask := UInt16.ofNat n
    telFrameLen mask = 3 + (if mask &&& Tel.bitPos ≠ 0 then 2 else 0) +
      (if mask &&& Tel.bitCurrent ≠ 0 then 2 else 0) + (if mask &&& Tel.bitCurrentTrough ≠ 0 then 2 else 0) +
      (if mask &&& Tel.bitDuty ≠ 0 then 2 else 0) + (if mask &&& Tel.bitVdiff ≠ 0 then 2 else 0) +
      (if mask &&& Tel.bitVbus ≠ 0 then 2 else 0) := by
  decide

theorem length_encode {mask : UInt16} (valid : mask &&& ~~~Tel.maskAll = 0) (seq : UInt8) (s : Tel.TelSample) :
    (Tel.encode mask seq s).length = telFrameLen mask := by
  have shape := telFrameLen_eq mask.toNat (Tel.mask_lt valid)
  simp only [UInt16.ofNat_toNat] at shape
  simp only [Tel.encode, List.length_append, length_put mask (show Tel.maskAll &&& Tel.bitPos = Tel.bitPos by decide),
    length_put mask (show Tel.maskAll &&& Tel.bitCurrent = Tel.bitCurrent by decide),
    length_put mask (show Tel.maskAll &&& Tel.bitCurrentTrough = Tel.bitCurrentTrough by decide),
    length_put mask (show Tel.maskAll &&& Tel.bitDuty = Tel.bitDuty by decide),
    length_put mask (show Tel.maskAll &&& Tel.bitVdiff = Tel.bitVdiff by decide),
    length_put mask (show Tel.maskAll &&& Tel.bitVbus = Tel.bitVbus by decide), List.length_cons, List.length_nil]
  rw [shape]

def sentFrames (mask : UInt16) (seq : UInt8) : List (Tel.TelSample × Bool) → List TelFrame
  | [] => []
  | (sample, taken) :: rest =>
    (if taken then [selected mask seq sample] else []) ++ sentFrames mask (seq + 1) rest

/-- The drops a host can see: those with a frame taken after them. -/
def gaps (pending : Nat) : List (Tel.TelSample × Bool) → Nat
  | [] => 0
  | (_, taken) :: rest => if taken then pending + gaps 0 rest else gaps (pending + 1) rest

theorem gaps_closed (pending : Nat) (ticks : List (Tel.TelSample × Bool)) (sample : Tel.TelSample) :
    gaps pending (ticks ++ [(sample, true)]) = pending + (ticks.map Prod.snd).count false := by
  induction ticks generalizing pending with
  | nil => simp [gaps]
  | cons tick rest ih =>
    obtain ⟨first, taken⟩ := tick
    cases taken with
    | true => simp [gaps, ih]
    | false => simp [gaps, ih]; omega

namespace TelDeframer

theorem gap_eq {last seq : UInt8} {pending : Nat} (next : seq = last + 1 + UInt8.ofNat pending)
    (short : pending < 256) : (if seq - last ≠ 1 then (seq - last - 1).toNat else 0) = pending := by
  have step : seq - last - 1 = UInt8.ofNat pending := by grind
  have value : (UInt8.ofNat pending).toNat = pending := UInt8.toNat_ofNat_of_lt' short
  split
  next => rw [step, value]
  next none_lost =>
    have one : seq - last = 1 := not_not.mp none_lost
    rw [one] at step
    rw [← value, ← step]
    rfl

theorem accept_stats {d : TelDeframer} {frame : TelFrame} {last : UInt8} {pending : Nat}
    (before : d.lastSeq = some last) (next : frame.seq = last + 1 + UInt8.ofNat pending) (short : pending < 256) :
    (d.accept frame).stats =
      ⟨d.stats.frames + 1, d.stats.realigns, d.stats.seqGaps + pending⟩ := by
  simp only [accept, before]
  rw [gap_eq next short]

theorem pending_lt {bound pending : Nat} {rest : List Bool}
    (short : ¬ List.replicate bound false <:+: List.replicate pending false ++ rest) : pending < bound := by
  by_contra long
  apply short
  have split : pending = bound + (pending - bound) := by omega
  rw [split, ← List.replicate_append_replicate, List.append_assoc]
  exact (List.prefix_append _ _).isInfix

theorem settles_ticks {mask : UInt16} (valid : mask &&& ~~~Tel.maskAll = 0) (ticks : List (Tel.TelSample × Bool))
    (d : TelDeframer) (out : List TelFrame) (pending : Nat) (last seq : UInt8) (locked : d.locked = true)
    (masked : d.mask = mask) (before : d.lastSeq = some last) (next : seq = last + 1 + UInt8.ofNat pending)
    (short : ¬ List.replicate 256 false <:+: List.replicate pending false ++ ticks.map Prod.snd)
    (rest : d.rest = Tel.wire mask seq ticks) :
    ∃ d' : TelDeframer, Settles turn (d, out) (d', out ++ sentFrames mask seq ticks) ∧
      d'.stats = ⟨d.stats.frames + (ticks.map Prod.snd).count true, d.stats.realigns,
        d.stats.seqGaps + gaps pending ticks⟩ := by
  -- On the ticks; `pending` frames were dropped since the last one that was taken.
  induction ticks generalizing d out pending last seq with
  | nil =>
    refine ⟨d, ?_, rfl⟩
    rw [sentFrames, List.append_nil]
    refine .wait (turn_wait locked ?_)
    rw [rest]
    exact d.flen_pos
  | cons tick ticks ih =>
    obtain ⟨sample, taken⟩ := tick
    have few := pending_lt short
    cases taken with
    | false =>
      have grown : List.replicate (pending + 1) false = List.replicate pending false ++ [false] :=
        List.replicate_succ'
      have number : seq + 1 = last + 1 + UInt8.ofNat (pending + 1) := by
        rw [next, UInt8.ofNat_add, ← UInt8.add_assoc]
        rfl
      obtain ⟨d', settles, stats⟩ := ih d out (pending + 1) last (seq + 1) locked masked before number
        (by rwa [grown, List.append_assoc]) rest
      exact ⟨d', settles, by simpa [gaps] using stats⟩
    | true =>
      have length := length_encode valid seq sample
      have width : d.flen = (Tel.encode mask seq sample).length := by rw [length, flen, masked]
      have bytes : d.rest = Tel.encode mask seq sample ++ Tel.wire mask (seq + 1) ticks := rest
      have enough : d.flen ≤ d.rest.length := by
        rw [width, bytes, List.length_append]
        exact Nat.le_add_right _ _
      have sync : d.rest.getD 0 0 = telSync := by
        rw [bytes]
        rfl
      have frame : decodeAt d.mask (d.rest.take d.flen) = selected mask seq sample := by
        rw [width, bytes, List.take_left, masked, decodeAt_encode]
      have onward : (d.accept (selected mask seq sample)).rest = Tel.wire mask (seq + 1) ticks := by
        simp only [accept]
        rw [width, bytes, List.drop_left]
      have behind : List.replicate 0 false ++ ticks.map Prod.snd <:+:
          List.replicate pending false ++ ((sample, true) :: ticks).map Prod.snd :=
        ⟨List.replicate pending false ++ [true], [], by simp⟩
      obtain ⟨d', settles, stats⟩ := ih (d.accept (selected mask seq sample)) (out ++ [selected mask seq sample]) 0
        seq (seq + 1) locked masked rfl (UInt8.add_zero _).symm (fun long => short (long.trans behind)) onward
      have taken := @turn_frame d out locked enough sync
      rw [frame] at taken
      refine ⟨d', .turn taken ?_, ?_⟩
      next => simpa [sentFrames] using settles
      next =>
        have counted := @accept_stats d (selected mask seq sample) last pending before next few
        simp only [stats, counted, gaps, List.map_cons, List.count_cons_self, if_true, TelStats.mk.injEq, true_and]
        omega

theorem getD_skip {front : List UInt8} {flen : Nat} (length : front.length = flen) (back : List UInt8) (i : Nat) :
    (front ++ back).getD (flen + i) 0 = back.getD i 0 := by
  subst length
  simp [List.getD_eq_getElem?_getD, List.getElem?_append_right]

theorem aligned_encode {mask : UInt16} (valid : mask &&& ~~~Tel.maskAll = 0) (seq : UInt8)
    (a b c d : Tel.TelSample) (rest : List UInt8) :
    aligned (telFrameLen mask) (Tel.encode mask seq a ++ (Tel.encode mask (seq + 1) b ++
      (Tel.encode mask (seq + 1 + 1) c ++ (Tel.encode mask (seq + 1 + 1 + 1) d ++ rest)))) = true := by
  have skip (seq : UInt8) (s : Tel.TelSample) (back : List UInt8) (i : Nat) :=
    getD_skip (length_encode valid seq s) back i
  have sync (seq : UInt8) (s : Tel.TelSample) (back : List UInt8) :
      (Tel.encode mask seq s ++ back).getD 0 0 = telSync := rfl
  have number (seq : UInt8) (s : Tel.TelSample) (back : List UInt8) :
      (Tel.encode mask seq s ++ back).getD 1 0 = seq := rfl
  generalize telFrameLen mask = flen at skip ⊢
  have one (i : Nat) : 1 * flen + i = flen + i := by omega
  have two (i : Nat) : 2 * flen + i = flen + (flen + i) := by omega
  have three (i : Nat) : 3 * flen + i = flen + (flen + (flen + i)) := by omega
  simp only [aligned, lockFrames, show List.range 4 = [0, 1, 2, 3] from rfl,
    show List.range (4 - 1) = [0, 1, 2] from rfl,
    List.all_cons, List.all_nil, Nat.zero_mul, Nat.zero_add, Nat.reduceAdd]
  rw [← Nat.add_zero (1 * flen), ← Nat.add_zero (2 * flen), ← Nat.add_zero (3 * flen)]
  simp only [one, two, three, Nat.add_assoc, Nat.zero_add, skip, sync, number, beq_self_eq_true, Bool.and_self]

theorem push_wire {mask : UInt16} (valid : mask &&& ~~~Tel.maskAll = 0) (ticks : List (Tel.TelSample × Bool))
    (seq : UInt8) (locks : (ticks.map Prod.snd).take 4 = [true, true, true, true])
    (short : ¬ List.replicate 256 false <:+: ticks.map Prod.snd) :
    ∃ d : TelDeframer, TelDeframer.push { mask } (Tel.wire mask seq ticks) [] = (d, sentFrames mask seq ticks) ∧
      d.stats = ⟨(ticks.map Prod.snd).count true, 0, gaps 0 ticks⟩ := by
  match ticks, locks with
  | (a, true) :: (b, true) :: (c, true) :: (d, true) :: rest, _ =>
    let frames := Tel.wire mask (seq + 1) ((b, true) :: (c, true) :: (d, true) :: rest)
    let start : TelDeframer := { mask, rest := Tel.encode mask seq a ++ frames }
    have length := length_encode valid seq a
    have locks : turn (start, []) = some ({ start with locked := true }, []) := by
      apply turn_lock rfl
      next =>
        simp only [start, frames, flen, Tel.wire, List.length_append, if_true, length_encode valid, lockFrames]
        omega
      next => exact aligned_encode valid seq a b c d (Tel.wire mask (seq + 1 + 1 + 1 + 1) rest)
    have enough : telFrameLen mask ≤ start.rest.length := by
      simp only [start, List.length_append, length]
      exact Nat.le_add_right _ _
    have frame : decodeAt mask (start.rest.take (telFrameLen mask)) = selected mask seq a := by
      simp only [start]
      rw [← length, List.take_left, decodeAt_encode]
    have taken := @turn_frame { start with locked := true } [] rfl enough rfl
    simp only [flen, List.nil_append] at taken
    rw [frame] at taken
    have onward : (TelDeframer.accept { start with locked := true } (selected mask seq a)).rest = frames := by
      simp only [accept, flen, start]
      rw [← length, List.drop_left]
    obtain ⟨last, settles, stats⟩ := settles_ticks valid ((b, true) :: (c, true) :: (d, true) :: rest) _
      [selected mask seq a] 0 seq (seq + 1) rfl rfl rfl (UInt8.add_zero _).symm
      (fun long => short (long.trans ⟨[true], [], by simp⟩)) onward
    refine ⟨last, ?_, ?_⟩
    next =>
      have whole : Settles turn (start, []) (last, sentFrames mask seq ((a, true) :: (b, true) :: (c, true) ::
          (d, true) :: rest)) := .turn locks (.turn taken settles)
      exact (drain_settles start []).unique whole
    next =>
      rw [stats]
      simp only [accept, start, gaps, List.map_cons, List.count_cons_self, if_true, Nat.zero_add, TelStats.mk.injEq,
        true_and]
      exact ⟨by omega, trivial⟩

/-- Telemetry comes through whole: the host sees exactly the frames that were sent, and counts every frame
dropped before the last of them. How the bytes are cut plays no part, for these or any others. -/
theorem tel_stream :
    (∀ (tel : Tel) (ticks : List (Tel.TelSample × Bool)) (lost : List Tel.TelSample),
      tel.enabled = true → Tel.maskValid tel.mask = true → tel.mask ≠ 0 →
      (ticks.map Prod.snd).take 4 = [true, true, true, true] → (ticks.map Prod.snd).getLast? = some true →
      ¬ List.replicate 256 false <:+: ticks.map Prod.snd →
      ∃ d : TelDeframer, new tel.mask = some d ∧
        ∀ chunks : List (List UInt8),
          chunks.flatten = tel.stream (ticks ++ lost.map (fun sample => (sample, false))) →
          let received := chunks.foldl take (d, [])
          received.2 = sentFrames tel.mask tel.seq ticks ∧
            received.1.stats = ⟨(ticks.map Prod.snd).count true, 0, (ticks.map Prod.snd).count false⟩) ∧
      ∀ (mask : UInt16) (d : TelDeframer), new mask = some d →
        ∀ chunks : List (List UInt8), chunks.foldl take (d, []) = d.push chunks.flatten [] := by
  refine ⟨?_, fun mask d made chunks => take_chunks made chunks⟩
  intro tel ticks lost enabled valid nonzero locks ends short
  have reserved : tel.mask &&& ~~~Tel.maskAll = 0 := by
    simp only [Tel.maskValid, Bool.and_eq_true, beq_iff_eq] at valid
    exact valid.1
  have made : new tel.mask = some { mask := tel.mask } :=
    if_neg (not_or.mpr ⟨not_not.mpr reserved, nonzero⟩)
  refine ⟨{ mask := tel.mask }, made, ?_⟩
  intro chunks bytes
  rw [Tel.stream_eq_wire enabled nonzero, Tel.wire_lost] at bytes
  obtain ⟨d, pushed, stats⟩ := push_wire reserved ticks tel.seq locks short
  obtain ⟨front, last, split⟩ : ∃ front last, ticks = front ++ [(last, true)] := by
    rw [List.getLast?_map, Option.map_eq_some_iff] at ends
    obtain ⟨⟨last, taken⟩, found, rfl⟩ := ends
    obtain ⟨front, split⟩ := List.getLast?_eq_some_iff.mp found
    exact ⟨front, last, split⟩
  rw [take_chunks made, bytes, pushed]
  refine ⟨rfl, ?_⟩
  simp only [stats, split, gaps_closed]
  simp

theorem no_long_run {bound : Nat} {flags : List Bool} (few : flags.length < bound) :
    ¬ List.replicate bound false <:+: flags := by
  intro long
  have most := long.length_le
  rw [List.length_replicate] at most
  omega

/-- A drop after the last frame sent is one no later frame tells of. -/
theorem trailing_drop_unseen :
    let tel : Tel := ⟨true, Tel.bitPos, 0, 0⟩
    let sample : Tel.TelSample := ⟨2048, 0, 0, 0, 0, 0, true⟩
    let ticks := List.replicate 4 (sample, true) ++ [(sample, false)]
    (ticks.map Prod.snd).take 4 = [true, true, true, true] ∧ (ticks.map Prod.snd).count false = 1 ∧
      ∃ d d' : TelDeframer, new tel.mask = some d ∧
        d.push (tel.stream ticks) [] = (d', sentFrames tel.mask tel.seq (List.replicate 4 (sample, true))) ∧
        d'.stats.seqGaps = 0 := by
  intro tel sample ticks
  obtain ⟨d', pushed, stats⟩ := @push_wire Tel.bitPos (by decide) (List.replicate 4 (sample, true)) 0 rfl
    (no_long_run (by decide))
  have bytes : tel.stream ticks = Tel.wire Tel.bitPos 0 (List.replicate 4 (sample, true)) := by
    rw [Tel.stream_eq_wire rfl (by decide)]
    exact Tel.wire_lost Tel.bitPos 0 (List.replicate 4 (sample, true)) [sample]
  refine ⟨rfl, rfl, { mask := Tel.bitPos }, d', if_neg (by decide), ?_, ?_⟩
  next => rw [bytes, pushed]
  next => rw [stats]; rfl

theorem tel_stream_dropped :
    let tel : Tel := ⟨true, Tel.bitPos, 0, 254⟩
    let sample : Tel.TelSample := ⟨2048, 0, 0, 0, 0, 0, true⟩
    let ticks := List.replicate 4 (sample, true) ++ [(sample, false), (sample, false), (sample, true)]
    ∃ d : TelDeframer, new tel.mask = some d ∧
      ∀ chunks : List (List UInt8),
        chunks.flatten = tel.stream (ticks ++ [sample].map (fun sample => (sample, false))) →
        (chunks.foldl take (d, [])).2 = sentFrames tel.mask tel.seq ticks ∧
          (chunks.foldl take (d, [])).1.stats = ⟨5, 0, 2⟩ := by
  intro tel sample ticks
  exact tel_stream.1 tel ticks [sample] rfl (by decide) (by decide) rfl rfl (no_long_run (by decide))

end TelDeframer

end OpenServo.Ident
