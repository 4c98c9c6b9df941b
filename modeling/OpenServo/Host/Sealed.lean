import OpenServo.Bus.Decode
import OpenServo.Bus.FrameView
import OpenServo.Host.Stream
import OpenServo.Protocol.Reply

set_option autoImplicit false

namespace OpenServo.Host

open OpenServo.Protocol OpenServo.Shared

def sealedBytes (id : UInt8) (inst : Inst) (payload : List UInt8) : List UInt8 :=
  FrameBuf.layout id inst payload ++ u16ToLe (oscCrc (FrameBuf.layout id inst payload))

theorem length_layout (id : UInt8) (inst : Inst) (payload : List UInt8) :
    (FrameBuf.layout id inst payload).length = 4 + payload.length := by
  simp only [FrameBuf.layout, List.length_append, List.length_cons, List.length_nil]

theorem length_sealedBytes (id : UInt8) (inst : Inst) (payload : List UInt8) :
    (sealedBytes id inst payload).length = payload.length + 6 := by
  have trailer (crc : UInt16) : (u16ToLe crc).length = 2 := rfl
  rw [sealedBytes, List.length_append, length_layout, trailer]
  omega

section Stream

variable {stream : Nat → UInt8} {start : Nat} {id size : UInt8} {inst : Inst} {payload : List UInt8}

theorem streamBytes_append (stream : Nat → UInt8) (start left right : Nat) :
    streamBytes stream start (left + right) =
      streamBytes stream start left ++ streamBytes stream (start + left) right := by
  simp only [streamBytes, List.range_add, List.map_append, List.map_map, List.append_cancel_left_eq]
  apply List.map_congr_left
  intro i _
  simp [Nat.add_assoc]

theorem streamBytes_header (stream : Nat → UInt8) (start : Nat) :
    streamBytes stream start 4 = [stream start, stream (start + 1), stream (start + 2), stream (start + 3)] := by
  simp [streamBytes, List.range_succ]

theorem streamBytes_trailer (stream : Nat → UInt8) (start : Nat) :
    streamBytes stream start 2 = [stream start, stream (start + 1)] := by
  simp [streamBytes, List.range_succ]

theorem sealed_parts (spelled : streamBytes stream start (payload.length + 6) = sealedBytes id inst payload) :
    streamBytes stream start 4 = [alignByte, id, UInt8.ofNat (lenFor payload.length), inst] ∧
      streamBytes stream (start + 4) payload.length = payload ∧
      streamBytes stream (start + 4 + payload.length) 2 = u16ToLe (oscCrc (FrameBuf.layout id inst payload)) := by
  rw [show payload.length + 6 = 4 + payload.length + 2 by omega, streamBytes_append, streamBytes_append,
    sealedBytes, FrameBuf.layout] at spelled
  obtain ⟨covered, trailer⟩ := List.append_inj' spelled (by simp [u16ToLe])
  obtain ⟨header, body⟩ := List.append_inj covered (by simp)
  exact ⟨header, body, by rwa [Nat.add_assoc]⟩

theorem sealed_frameAt (valid : isValid id = true) (known : (inst.isStatus || inst.opcode.isSome) = true)
    (small : payload.length ≤ maxPayload)
    (spelled : streamBytes stream start (payload.length + 6) = sealedBytes id inst payload) :
    FrameAt stream start id (UInt8.ofNat (lenFor payload.length)) inst := by
  have room : payload.length ≤ 252 := small
  obtain ⟨header, body, trailer⟩ := sealed_parts spelled
  have parts := header
  rw [streamBytes_header] at parts
  simp only [List.cons.injEq, and_true] at parts
  obtain ⟨brk, idByte, lenByte, instByte⟩ := parts
  have size : (UInt8.ofNat (lenFor payload.length)).toNat = 3 + payload.length :=
    Nat.mod_eq_of_lt (by simp only [lenFor]; omega)
  refine ⟨brk, idByte, lenByte, instByte, by omega, valid, known, ?_⟩
  have covered : streamBytes stream start (coveredLen (UInt8.ofNat (lenFor payload.length)).toNat) =
      FrameBuf.layout id inst payload := by
    rw [size, show coveredLen (3 + payload.length) = 4 + payload.length by simp only [coveredLen]; omega,
      streamBytes_append, header, body, FrameBuf.layout]
  rw [streamBytes_trailer] at trailer
  rw [covered, size, show start + coveredLen (3 + payload.length) = start + 4 + payload.length by
    simp only [coveredLen]; omega]
  simp only [u16ToLe, List.cons.injEq, and_true] at trailer
  rw [trailer.1, trailer.2, u16FromLe_toLe]

theorem FrameAt.sealed (frame : FrameAt stream start id size inst)
    (body : payload = streamBytes stream (start + 4) (size.toNat - 3)) :
    payload.length ≤ maxPayload ∧ footprint size = payload.length + 6 ∧
      streamBytes stream start (payload.length + 6) = sealedBytes id inst payload := by
  have bound := size.toNat_lt
  have atLeast := frame.atLeast
  have length : payload.length = size.toNat - 3 := by rw [body, length_streamBytes]
  have whole : lenFor payload.length = size.toNat := by simp only [lenFor]; omega
  refine ⟨by simp only [maxPayload]; omega, by simp only [footprint]; omega, ?_⟩
  have covered : streamBytes stream start (4 + payload.length) = FrameBuf.layout id inst payload := by
    rw [streamBytes_append, streamBytes_header, frame.brk, frame.idByte, frame.lenByte, frame.instByte,
      FrameBuf.layout, whole, UInt8.ofNat_toNat, length, ← body]
    rfl
  have sum := frame.sum
  rw [show coveredLen size.toNat = 4 + payload.length by simp only [coveredLen]; omega, covered] at sum
  rw [show payload.length + 6 = 4 + payload.length + 2 by omega, streamBytes_append, covered, sealedBytes,
    streamBytes_trailer, sum, u16ToLe_fromLe]

end Stream

section Walk

variable {ring : List UInt8} {anchor cursor : Nat}

theorem receives_self (inside : anchor < ring.length) (within : cursor < ring.length) :
    let avail := (cursor + ring.length - anchor) % ring.length
    avail < ring.length ∧
      Receives (fun p => ring.getD (p % ring.length) 0) ring.length (anchor + avail) ⟨ring, cursor⟩ := by
  intro avail
  have room : 0 < ring.length := by omega
  refine ⟨Nat.mod_lt _ room, room, rfl, ?_, fun _ _ _ => rfl⟩
  have whole : anchor + (cursor + ring.length - anchor) = cursor + ring.length := by omega
  rw [Nat.add_mod_mod, whole, Nat.add_mod_right, Nat.mod_eq_of_lt within]

theorem step_sealed {id : UInt8} {inst : Inst} {payload : List UInt8} (inside : anchor < ring.length)
    (within : cursor < ring.length) (valid : isValid id = true)
    (known : (inst.isStatus || inst.opcode.isSome) = true) (small : payload.length ≤ maxPayload)
    (spelled : around ring 0 anchor (payload.length + 6) = sealedBytes id inst payload)
    (whole : payload.length + 6 ≤ (cursor + ring.length - anchor) % ring.length) :
    ∃ f, (⟨anchor⟩ : Framer).step ⟨ring, cursor⟩ =
        (⟨(anchor + (payload.length + 6)) % ring.length⟩, .frame f) ∧
      f.id = id ∧ f.inst = inst ∧ f.payload.bytes = payload := by
  obtain ⟨lap, receives⟩ := receives_self inside within
  generalize (cursor + ring.length - anchor) % ring.length = avail at lap receives whole
  have laps : streamBytes (fun p => ring.getD (p % ring.length) 0) anchor (payload.length + 6) =
      sealedBytes id inst payload := spelled
  have frame := sealed_frameAt valid known small laps
  have room : payload.length ≤ 252 := small
  have size : (UInt8.ofNat (lenFor payload.length)).toNat = 3 + payload.length :=
    Nat.mod_eq_of_lt (by simp only [lenFor]; omega)
  have told := step_told receives (Nat.le_add_right anchor avail) (by omega)
  rw [Nat.mod_eq_of_lt inside] at told
  generalize out : (⟨anchor⟩ : Framer).step ⟨ring, cursor⟩ = result at told
  cases told with
  | idle empty => omega
  | parked zero short =>
    rw [frame.lenByte, footprint, size] at short
    omega
  | garble n positive inside passes =>
    have long := passes.too_long frame
    rw [footprint, size] at long
    omega
  | frame id' size' inst' view here body _ fits =>
    have sameId := frame.idByte.symm.trans here.idByte
    have sameLen := frame.lenByte.symm.trans here.lenByte
    have sameInst := frame.instByte.symm.trans here.instByte
    subst sameId sameLen sameInst
    refine ⟨⟨id, inst, view, (anchor + 4) % ring.length⟩, ?_, rfl, rfl, ?_⟩
    next => rw [footprint, size, show 3 + (3 + payload.length) = payload.length + 6 by omega]
    next =>
      rw [body, size, show 3 + payload.length - 3 = payload.length by omega]
      exact (sealed_parts laps).2.1

theorem step_frame_sealed {next : Framer} {f : Frame} (inside : anchor < ring.length) (within : cursor < ring.length)
    (taken : (⟨anchor⟩ : Framer).step ⟨ring, cursor⟩ = (next, .frame f)) :
    isValid f.id = true ∧ (f.inst.isStatus || f.inst.opcode.isSome) = true ∧
      f.payload.bytes.length ≤ maxPayload ∧
      around ring 0 anchor (f.payload.bytes.length + 6) = sealedBytes f.id f.inst f.payload.bytes := by
  obtain ⟨lap, receives⟩ := receives_self inside within
  generalize (cursor + ring.length - anchor) % ring.length = avail at lap receives
  have told := step_told receives (Nat.le_add_right anchor avail) (by omega)
  rw [Nat.mod_eq_of_lt inside, taken] at told
  cases told with
  | frame id size inst payload here body _ fits =>
    obtain ⟨small, -, spelled⟩ := here.sealed body
    exact ⟨here.valid, here.known, small, spelled⟩

end Walk

section Servo

open OpenServo.Bus (RingShape headerOf frameView crcOk CrcEngine CrcHolds dist spinPerByte)

variable {ring : List UInt8} {id : UInt8} {inst : Inst} {payload : List UInt8}

theorem header_bytes {anchor : Nat} (inside : anchor < ring.length)
    (spelled : around ring 0 anchor (payload.length + 6) = sealedBytes id inst payload) :
    ring.getD anchor 0 = 0 ∧ ring.getD ((anchor + 2) % ring.length) 0 = UInt8.ofNat (lenFor payload.length) := by
  have header := (sealed_parts (show streamBytes (fun p => ring.getD (p % ring.length) 0) anchor
    (payload.length + 6) = sealedBytes id inst payload from spelled)).1
  rw [streamBytes_header] at header
  simp only [List.cons.injEq, and_true] at header
  rw [Nat.mod_eq_of_lt inside] at header
  exact ⟨header.1, header.2.2.1⟩

theorem resolve_sealed {framer : Bus.Framer} {cursor : Nat} (now tpb : UInt32) (shape : RingShape ring.length)
    (inside : framer.anchor < ring.length) (small : payload.length ≤ maxPayload)
    (spelled : around ring 0 framer.anchor (payload.length + 6) = sealedBytes id inst payload)
    (whole : payload.length + 6 ≤ dist cursor framer.anchor ring.length) :
    (framer.resolve ring cursor now tpb).2 = .frame ⟨framer.anchor, payload.length + 6, now⟩ := by
  obtain ⟨brk, lenByte⟩ := header_bytes inside spelled
  have room : payload.length ≤ 252 := small
  have size : (UInt8.ofNat (lenFor payload.length)).toNat = 3 + payload.length :=
    Nat.mod_eq_of_lt (by simp only [lenFor]; omega)
  have likely : framer.isPlausible ring (dist cursor framer.anchor ring.length) = true := by
    simp only [Bus.Framer.isPlausible, brk, shape.wrap_eq, lenByte, Bool.and_eq_true, Bool.or_eq_true,
      decide_eq_true_eq, UInt8.le_iff_toNat_le, size]
    exact ⟨trivial, .inr (Nat.le_add_right 3 _)⟩
  have first : Bus.Framer.hunt ring now Bus.huntBytesPerWake framer (dist cursor framer.anchor ring.length) =
      (framer, .inr (dist cursor framer.anchor ring.length)) := by
    rw [show Bus.huntBytesPerWake = 63 + 1 from rfl, Bus.Framer.hunt, if_pos likely]
  unfold Bus.Framer.resolve
  rw [if_neg (by omega)]
  dsimp only
  rw [if_neg (by omega), first]
  have total : footprint (UInt8.ofNat (lenFor payload.length)) = payload.length + 6 := by
    rw [footprint, size]
    omega
  simp only [Bus.Framer.settle, shape.wrap_eq, lenByte, total]
  rw [if_neg (by simp only [Bus.headerSpanBytes]; omega), if_pos whole]

theorem crcOk_sealed {anchor : Nat} (engine : CrcEngine) (lag : Nat) (shape : RingShape ring.length)
    (inside : anchor < ring.length) (small : payload.length ≤ maxPayload)
    (spelled : around ring 0 anchor (payload.length + 6) = sealedBytes id inst payload)
    (drains : lag ≤ spinPerByte * (payload.length + 4)) :
    (crcOk engine lag ring anchor (payload.length + 6)).2 = true := by
  have room : payload.length ≤ 252 := small
  have large := shape.large
  have brk := (header_bytes inside spelled).1
  apply (Bus.crcOk_iff shape inside (by omega) (by omega) brk).mpr
  refine ⟨by rwa [show payload.length + 6 - 2 = payload.length + 4 by omega], ?_⟩
  have length := length_layout id inst payload
  rw [CrcHolds, Bus.coveredOf, Bus.frameView_len inside (by omega), Bus.frameView_bytes inside (by omega), spelled,
    sealedBytes, show payload.length + 6 - 2 = (FrameBuf.layout id inst payload).length by omega,
    show payload.length + 6 - 1 = (FrameBuf.layout id inst payload).length + 1 by omega, List.take_left]
  have behind : oscCrc ((FrameBuf.layout id inst payload).drop 1) = oscCrc (FrameBuf.layout id inst payload) :=
    (oscCrc_break_cons _).symm
  rw [behind]
  generalize oscCrc (FrameBuf.layout id inst payload) = crc
  have low : (FrameBuf.layout id inst payload ++ u16ToLe crc).getD (FrameBuf.layout id inst payload).length 0 =
      crc.toUInt8 := by
    simp [u16ToLe]
  have high : (FrameBuf.layout id inst payload ++ u16ToLe crc).getD ((FrameBuf.layout id inst payload).length + 1) 0 =
      (crc >>> 8).toUInt8 := by
    simp [u16ToLe]
  rw [low, high, u16FromLe_toLe]

theorem header_sealed {anchor : Nat} (shape : RingShape ring.length) (inside : anchor < ring.length)
    (small : payload.length ≤ maxPayload)
    (spelled : around ring 0 anchor (payload.length + 6) = sealedBytes id inst payload) :
    ∃ header view, headerOf (frameView ring anchor (payload.length + 6)) = some header ∧ header.id = id ∧
      header.inst = inst ∧
      (frameView ring anchor (payload.length + 6)).sub Header.size header.payloadLen = some view ∧
      view.bytes = payload := by
  have room : payload.length ≤ 252 := small
  have large := shape.large
  have size : (UInt8.ofNat (lenFor payload.length)).toNat = 3 + payload.length :=
    Nat.mod_eq_of_lt (by simp only [lenFor]; omega)
  have bytes : (frameView ring anchor (payload.length + 6)).bytes = sealedBytes id inst payload := by
    rw [Bus.frameView_bytes inside (by omega), spelled]
  have total : (frameView ring anchor (payload.length + 6)).len = payload.length + 6 :=
    Bus.frameView_len inside (by omega)
  generalize frameView ring anchor (payload.length + 6) = view at bytes total
  have header : headerOf view = some ⟨alignByte, id, UInt8.ofNat (lenFor payload.length), inst⟩ := by
    simp only [headerOf, FrameBytes.u8At_eq, bytes]
    rfl
  have cut := view.sub_bytes Header.size payload.length
  rw [if_neg (by simp only [total, Header.size]; omega), bytes] at cut
  obtain ⟨part, found, content⟩ := Option.map_eq_some_iff.mp cut
  refine ⟨_, part, header, rfl, rfl, ?_, ?_⟩
  next => rw [Header.payloadLen, size, show 3 + payload.length - 3 = payload.length by omega, found]
  next =>
    rw [content]
    simp [sealedBytes, FrameBuf.layout, Header.size, List.extract_eq_take_drop]

end Servo

/-- Seal and accept agree. What `FrameBuf` seals, both acceptors take for the frame it is, at every place of their
ring; and a frame the host's walk takes is byte for byte the sealed one. -/
theorem seal_accept :
    (∀ (id : UInt8) (inst : Inst) (payload : List UInt8), isValid id = true →
      (inst.isStatus || inst.opcode.isSome) = true → payload.length ≤ maxPayload →
      ∀ (n : Nat) (buf : FrameBuf n), payload.length + 6 ≤ n →
      let frame := (((buf.start id inst).putPayload payload).finish payload.length).sealFrame
      (∀ (ring : List UInt8) (anchor cursor : Nat), anchor < ring.length → cursor < ring.length →
        around ring 0 anchor frame.length = frame →
        frame.length ≤ (cursor + ring.length - anchor) % ring.length →
        ∃ f, (⟨anchor⟩ : Framer).step ⟨ring, cursor⟩ = (⟨(anchor + frame.length) % ring.length⟩, .frame f) ∧
          f.id = id ∧ f.inst = inst ∧ f.payload.bytes = payload) ∧
      ∀ (ring : List UInt8) (framer : Bus.Framer) (cursor : Nat) (now tpb : UInt32) (engine : Bus.CrcEngine)
        (lag : Nat), Bus.RingShape ring.length → framer.anchor < ring.length →
        around ring 0 framer.anchor frame.length = frame →
        frame.length ≤ Bus.dist cursor framer.anchor ring.length →
        lag ≤ Bus.spinPerByte * (frame.length - 2) →
        (framer.resolve ring cursor now tpb).2 = .frame ⟨framer.anchor, frame.length, now⟩ ∧
          (Bus.crcOk engine lag ring framer.anchor frame.length).2 = true ∧
          ∃ header view, Bus.headerOf (Bus.frameView ring framer.anchor frame.length) = some header ∧
            header.id = id ∧ header.inst = inst ∧
            (Bus.frameView ring framer.anchor frame.length).sub Header.size header.payloadLen = some view ∧
            view.bytes = payload) ∧
      ∀ (ring : List UInt8) (anchor cursor : Nat) (next : Framer) (f : Frame), anchor < ring.length →
        cursor < ring.length → (⟨anchor⟩ : Framer).step ⟨ring, cursor⟩ = (next, .frame f) →
        let payload := f.payload.bytes
        isValid f.id = true ∧ (f.inst.isStatus || f.inst.opcode.isSome) = true ∧ payload.length ≤ maxPayload ∧
          ∀ (n : Nat) (buf : FrameBuf n), payload.length + 6 ≤ n →
            around ring 0 anchor (payload.length + 6) =
              (((buf.start f.id f.inst).putPayload payload).finish payload.length).sealFrame := by
  refine ⟨?_, ?_⟩
  next =>
    intro id inst payload valid known small n buf room
    have content : (((buf.start id inst).putPayload payload).finish payload.length).sealFrame =
        sealedBytes id inst payload := buf.sealFrame_eq id inst payload small room
    intro frame
    have length : frame.length = payload.length + 6 := by rw [← length_sealedBytes id inst payload, ← content]
    rw [length]
    refine ⟨?_, ?_⟩
    next =>
      intro ring anchor cursor inside within spelled whole
      exact step_sealed inside within valid known small (spelled.trans content) whole
    next =>
      intro ring framer cursor now tpb engine lag shape inside spelled whole drains
      exact ⟨resolve_sealed now tpb shape inside small (spelled.trans content) whole,
        crcOk_sealed engine lag shape inside small (spelled.trans content) drains,
        header_sealed shape inside small (spelled.trans content)⟩
  next =>
    intro ring anchor cursor next f inside within taken payload
    obtain ⟨valid, known, small, spelled⟩ := step_frame_sealed inside within taken
    refine ⟨valid, known, small, ?_⟩
    intro n buf room
    rw [spelled, buf.sealFrame_eq f.id f.inst payload small room]
    rfl

/-- A WRITE of 11 33 to register 0x102 of servo 5, across the seam of the ring. -/
def seamWrite : List UInt8 :=
  [0x02, 0x01, 0x11, 0x33, 0x08, 0x8E] ++ List.replicate 502 0 ++ [0x00, 0x05, 0x07, 0x30]

theorem seal_accept_seam :
    (∃ f, ((⟨508⟩ : Framer).step ⟨seamWrite, 6⟩).2 = .frame f ∧ f.id = 5 ∧ f.inst = (0x30 : UInt8) ∧
      f.payload.bytes = [0x02, 0x01, 0x11, 0x33]) ∧
    (({ anchor := 508 } : Bus.Framer).resolve seamWrite 6 1000 48).2 = .frame ⟨508, 10, 1000⟩ ∧
      (Bus.crcOk {} 7 seamWrite 508 10).2 = true ∧
      around seamWrite 0 508 10 =
        ((((FrameBuf.new 16).start 5 0x30).putPayload [0x02, 0x01, 0x11, 0x33]).finish 4).sealFrame := by
  obtain ⟨host, servo⟩ := seal_accept.1 5 0x30 [0x02, 0x01, 0x11, 0x33] (by decide) (by decide) (by decide) 16 (.new 16)
    (by decide)
  obtain ⟨f, taken, id, inst, payload⟩ := host seamWrite 508 6 (by decide +kernel) (by decide +kernel) (by decide +kernel)
    (by decide +kernel)
  obtain ⟨emitted, passed, -⟩ := servo seamWrite { anchor := 508 } 6 1000 48 {} 7
    ⟨⟨9, by decide +kernel⟩, by decide +kernel, by decide +kernel⟩ (by decide +kernel) (by decide +kernel)
    (by decide +kernel) (by decide +kernel)
  obtain ⟨-, -, -, spelled⟩ := seal_accept.2 seamWrite 508 6 _ f (by decide +kernel) (by decide +kernel) taken
  have length : ((((FrameBuf.new 16).start 5 0x30).putPayload [0x02, 0x01, 0x11, 0x33]).finish 4).sealFrame.length = 10 := by
    decide +kernel
  have same := spelled 16 (.new 16)
  rw [id, inst, payload] at same
  exact ⟨⟨f, congrArg Prod.snd taken, id, inst, payload⟩, length ▸ emitted, length ▸ passed, same (by decide)⟩

end OpenServo.Host
