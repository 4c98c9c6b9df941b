import OpenServo.Client.Session
import OpenServo.Link.Headroom

set_option autoImplicit false

namespace OpenServo.Client

open OpenServo.Protocol OpenServo.Host

def heard : Link.Reply → Record
  | .info ticksPerUs => .info Link.linkVersion ticksPerUs
  | .status seq slot id inst payload => .status seq slot id inst payload.bytes
  | .terminal seq t =>
    .terminal seq t.outcome t.tick t.evidence.statuses t.evidence.garble t.evidence.garbleAfterLastFrame
  | .rejected seq reason => .rejected seq reason
  | .unknown rtype => .unknown rtype
  | .bootloaderAck => .bootloaderAck
  | .railsAck state => .railsAck state
  | .wireDone seq tick => .wireDone seq tick
  | .edges overflow now falls rises => .edges overflow now falls rises
  | .captureAck => .captureAck

section Fields

variable (first rest : List UInt8)

theorem field_behind (middle : List UInt8) :
    field (first ++ (middle ++ rest)) first.length (first.length + middle.length) = .ok middle := by
  have inside : first.length + middle.length ≤ (first ++ (middle ++ rest)).length := by
    simp only [List.length_append]
    omega
  rw [field, if_pos inside, List.extract_eq_take_drop, List.drop_left, Nat.add_sub_cancel_left, List.take_left]

theorem u16At_behind (value : UInt16) : u16At (first ++ (u16ToLe value ++ rest)) first.length = .ok value := by
  have bytes : field _ first.length (first.length + 2) = .ok (u16ToLe value) := field_behind first rest (u16ToLe value)
  rw [u16At, bytes]
  exact congrArg Except.ok (u16FromLe_toLe value)

theorem u32At_behind (value : UInt32) : u32At (first ++ (Link.u32ToLe value ++ rest)) first.length = .ok value := by
  have bytes : field _ first.length (first.length + 4) = .ok (Link.u32ToLe value) :=
    field_behind first rest (Link.u32ToLe value)
  rw [u32At, bytes]
  exact congrArg Except.ok (Link.u32FromLe_toLe value)

end Fields

theorem bind_of_ok {A B : Type} {x : Except LinkError A} {f : A → Except LinkError B} {a : A} (ran : x = .ok a) :
    x >>= f = f a := by
  rw [ran]
  rfl

section Decode

variable (seq : UInt16)

theorem decode_info (ticksPerUs : UInt32) :
    decode (Link.Reply.info ticksPerUs).body = .ok (.info Link.linkVersion ticksPerUs) := by
  have ticks : u32At (Link.Reply.info ticksPerUs).body 2 = .ok ticksPerUs :=
    u32At_behind [Link.recInfo, Link.linkVersion] [] ticksPerUs
  show (do
    let version ← byteAt (Link.Reply.info ticksPerUs).body 1
    let ticksPerUs ← u32At (Link.Reply.info ticksPerUs).body 2
    return Record.info version ticksPerUs) = _
  rw [ticks]
  rfl

theorem decode_status (slot id : UInt8) (inst : Inst) (payload : FrameBytes) :
    decode (Link.Reply.status seq slot id inst payload).body = .ok (.status seq slot id inst payload.bytes) := by
  have body : (Link.Reply.status seq slot id inst payload).body =
      [Link.recStatus] ++ (u16ToLe seq ++ ([slot, id, inst] ++ payload.bytes)) := by
    show [Link.recStatus] ++ u16ToLe seq ++ [slot, id, inst] ++ payload.head ++ payload.tail = _
    simp only [List.append_assoc, FrameBytes.bytes]
  have carried : u16At ([Link.recStatus] ++ (u16ToLe seq ++ ([slot, id, inst] ++ payload.bytes))) 1 = .ok seq :=
    u16At_behind [Link.recStatus] _ seq
  rw [body]
  show (do
    let owner ← u16At ([Link.recStatus] ++ (u16ToLe seq ++ ([slot, id, inst] ++ payload.bytes))) 1
    return Record.status owner slot id inst payload.bytes) = _
  rw [carried]
  rfl

theorem decode_rejected (reason : UInt8) :
    decode (Link.Reply.rejected seq reason).body = .ok (.rejected seq reason) := by
  have carried : u16At (Link.Reply.rejected seq reason).body 1 = .ok seq := u16At_behind [Link.recRejected] [reason] seq
  show (do
    let owner ← u16At (Link.Reply.rejected seq reason).body 1
    return Record.rejected owner reason) = _
  rw [carried]
  rfl

theorem decode_wireDone (tick : UInt32) :
    decode (Link.Reply.wireDone seq tick).body = .ok (.wireDone seq tick) := by
  have carried : u16At (Link.Reply.wireDone seq tick).body 1 = .ok seq :=
    u16At_behind [Link.recWireDone] (Link.u32ToLe tick) seq
  have ended : u32At (Link.Reply.wireDone seq tick).body 3 = .ok tick :=
    u32At_behind ([Link.recWireDone] ++ u16ToLe seq) [] tick
  show (do
    let owner ← u16At (Link.Reply.wireDone seq tick).body 1
    let release ← u32At (Link.Reply.wireDone seq tick).body 3
    return Record.wireDone owner release) = _
  rw [carried, ended]
  rfl

def terminalBody (code slot : UInt8) (tick : UInt32) (statuses : UInt8) (garble : UInt16) (flags : UInt8) :
    List UInt8 :=
  [Link.recTerminal] ++ u16ToLe seq ++ [code, slot] ++ Link.u32ToLe tick ++ [statuses] ++ u16ToLe garble ++ [flags]

section Terminal

variable (code slot : UInt8) (tick : UInt32) (statuses : UInt8) (garble : UInt16) (flags : UInt8)

theorem terminal_fields {outcome : Outcome}
    (named : outcomeAt (terminalBody seq code slot tick statuses garble flags) = .ok outcome) :
    decodeTerminal (terminalBody seq code slot tick statuses garble flags) =
      .ok (.terminal seq outcome tick statuses garble (flags &&& Link.flagGarbleAfterLastFrame ≠ 0)) := by
  have carried : u16At (terminalBody seq code slot tick statuses garble flags) 1 = .ok seq :=
    u16At_behind [Link.recTerminal] _ seq
  have ticked : u32At (terminalBody seq code slot tick statuses garble flags) 5 = .ok tick :=
    u32At_behind ([Link.recTerminal] ++ u16ToLe seq ++ [code, slot]) _ tick
  have garbled : u16At (terminalBody seq code slot tick statuses garble flags) 10 = .ok garble :=
    u16At_behind ([Link.recTerminal] ++ u16ToLe seq ++ [code, slot] ++ Link.u32ToLe tick ++ [statuses]) [flags] garble
  rw [decodeTerminal, named, carried, ticked, garbled]
  rfl

end Terminal

theorem decode_terminal (t : Terminal) : decode (Link.Reply.terminal seq t).body = .ok (heard (.terminal seq t)) := by
  obtain ⟨outcome, tick, statuses, garble, trailing⟩ := t
  have fields (code slot : UInt8) (named : ∀ flags, outcomeAt (terminalBody seq code slot tick statuses garble flags) =
      .ok outcome) : decodeTerminal (terminalBody seq code slot tick statuses garble
        (if trailing then Link.flagGarbleAfterLastFrame else 0)) =
      .ok (.terminal seq outcome tick statuses garble trailing) := by
    rw [terminal_fields seq code slot tick statuses garble _ (named _)]
    cases trailing <;> rfl
  cases outcome with
  | sent => exact fields Link.outcomeSent 0 fun _ => rfl
  | complete => exact fields Link.outcomeComplete 0 fun _ => rfl
  | timeout slot => exact fields Link.outcomeTimeout slot fun _ => rfl

theorem tick_flatMap (values : List UInt16) (i : Nat) :
    u16FromLe ((values.flatMap u16ToLe).getD (2 * i) 0) ((values.flatMap u16ToLe).getD (2 * i + 1) 0) =
      values.getD i 0 := by
  induction values generalizing i with
  | nil => simp [u16FromLe]
  | cons value rest ih =>
    cases i with
    | zero => exact u16FromLe_toLe value
    | succ i => exact ih i

theorem range_getD (before values after : List UInt16) :
    (List.range values.length).map (fun i => (before ++ (values ++ after)).getD (before.length + i) 0) = values := by
  refine List.ext_getElem (by simp) fun i inside _ => ?_
  rw [List.length_map, List.length_range] at inside
  have there : (before ++ (values ++ after))[before.length + i]? = some values[i] := by
    rw [List.getElem?_append_right (Nat.le_add_right _ _), Nat.add_sub_cancel_left,
      List.getElem?_append_left inside, List.getElem?_eq_getElem inside]
  rw [List.getElem_map, List.getElem_range, List.getD_eq_getElem?_getD, there, Option.getD_some]

theorem decode_edges (overflow : Bool) (now : UInt32) {falls rises : List UInt16} (fewFalls : falls.length < 256)
    (fewRises : rises.length < 256) :
    decode (Link.Reply.edges overflow now falls rises).body = .ok (.edges overflow now falls rises) := by
  have fallN : (UInt8.ofNat falls.length).toNat = falls.length := Nat.mod_eq_of_lt fewFalls
  have riseN : (UInt8.ofNat rises.length).toNat = rises.length := Nat.mod_eq_of_lt fewRises
  have latched : u32At (Link.Reply.edges overflow now falls rises).body 2 = .ok now :=
    u32At_behind [Link.recEdges, overflow.toUInt8] _ now
  have ticks : field (Link.Reply.edges overflow now falls rises).body 8 (8 + 2 * (falls.length + rises.length)) =
      .ok ((falls ++ rises).flatMap u16ToLe) := by
    have whole := field_behind ([Link.recEdges, overflow.toUInt8] ++ Link.u32ToLe now ++
      [UInt8.ofNat falls.length, UInt8.ofNat rises.length]) [] ((falls ++ rises).flatMap u16ToLe)
    rw [Link.length_flatMap_u16, List.append_nil, @List.length_append _ falls rises] at whole
    exact whole
  show decodeEdges (Link.Reply.edges overflow now falls rises).body = _
  have fallAt : byteAt (Link.Reply.edges overflow now falls rises).body 6 = .ok (UInt8.ofNat falls.length) := rfl
  have riseAt : byteAt (Link.Reply.edges overflow now falls rises).body 7 = .ok (UInt8.ofNat rises.length) := rfl
  have lows := range_getD [] falls rises
  have highs := range_getD falls rises []
  simp only [List.nil_append, List.length_nil, Nat.zero_add] at lows
  rw [List.append_nil] at highs
  have flag : decide (overflow.toUInt8 &&& 1 ≠ 0) = overflow := by cases overflow <;> rfl
  rw [decodeEdges, bind_of_ok fallAt, bind_of_ok riseAt, fallN, riseN, bind_of_ok ticks, bind_of_ok latched]
  simp only [tick_flatMap, lows, highs]
  exact congrArg (fun up => Except.ok (Record.edges up now falls rises)) flag

end Decode

theorem decode_body {reply : Link.Reply} (fits : reply.record.length ≤ Link.outCap) :
    decode reply.body = .ok (heard reply) := by
  cases reply with
  | info ticksPerUs => exact decode_info ticksPerUs
  | status seq slot id inst payload => exact decode_status seq slot id inst payload
  | terminal seq t => exact decode_terminal seq t
  | rejected seq reason => exact decode_rejected seq reason
  | wireDone seq tick => exact decode_wireDone seq tick
  | edges overflow now falls rises =>
    have cap : Link.outCap = 300 := rfl
    rw [Link.Reply.record, Link.length_edges] at fits
    exact decode_edges overflow now (by omega) (by omega)
  | unknown | bootloaderAck | railsAck | captureAck => rfl

end OpenServo.Client
