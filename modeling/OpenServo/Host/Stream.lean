import OpenServo.Host.Engine
import OpenServo.Shared.Ring

set_option autoImplicit false

namespace OpenServo.Host

open OpenServo.Protocol OpenServo.Shared

structure Receives (stream : Nat → UInt8) (len count : Nat) (look : Look) : Prop where
  room : 0 < len
  size : look.ring.length = len
  cursor : look.cursor = count % len
  shows : Shows look.ring 0 stream (count - len) count

def streamBytes (stream : Nat → UInt8) (start count : Nat) : List UInt8 :=
  (List.range count).map fun i => stream (start + i)

@[simp] theorem length_streamBytes (stream : Nat → UInt8) (start count : Nat) :
    (streamBytes stream start count).length = count := by
  simp [streamBytes]

structure FrameAt (stream : Nat → UInt8) (start : Nat) (id size : UInt8) (inst : Inst) : Prop where
  brk : stream start = 0
  idByte : stream (start + 1) = id
  lenByte : stream (start + 2) = size
  instByte : stream (start + 3) = inst
  atLeast : 3 ≤ size.toNat
  valid : isValid id = true
  known : (inst.isStatus || inst.opcode.isSome) = true
  sum : oscCrc (streamBytes stream start (coveredLen size.toNat)) =
    u16FromLe (stream (start + coveredLen size.toNat)) (stream (start + coveredLen size.toNat + 1))

inductive Looked (stream : Nat → UInt8) (len : Nat) : Nat → List Look → Nat → Prop where
  | done (count : Nat) : Looked stream len count [] count
  | look {count next last : Nat} {look : Look} {looks : List Look} (later : count ≤ next)
    (receives : Receives stream len next look) (rest : Looked stream len next looks last) :
      Looked stream len count (look :: looks) last

theorem Looked.ordered {stream : Nat → UInt8} {len first last : Nat} {looks : List Look}
    (looked : Looked stream len first looks last) : first ≤ last := by
  induction looked with
  | done count => exact Nat.le_refl _
  | look later _ _ ih => exact later.trans ih

structure Observes (stream : Nat → UInt8) (len count : Nat) (io : Io) (here : Nat) : Prop where
  walked : ∃ last, Looked stream len count io.looks last ∧ last ≤ here
  now : Receives stream len here io.here

theorem Observes.ordered {stream : Nat → UInt8} {len count here : Nat} {io : Io}
    (observes : Observes stream len count io here) : count ≤ here := by
  obtain ⟨⟨last, looked, before⟩, -⟩ := observes
  exact looked.ordered.trans before

inductive Lands (stream : Nat → UInt8) (len count start : Nat) : Framer × Step → Prop where
  | idle (empty : start = count) : Lands stream len count start (⟨start % len⟩, .idle)
  | parked (short : count < start + 4 ∨ count < start + footprint (stream (start + 2))) :
      Lands stream len count start (⟨start % len⟩, .partialFrame)
  | garble (n : Nat) (some : start < count) (inside : start + n ≤ count)
    (broken : ∀ id size inst, FrameAt stream start id size inst → len < footprint size) :
      Lands stream len count start (⟨(start + n) % len⟩, .garble (UInt16.ofNat n))
  | frame (id size : UInt8) (inst : Inst) (payload : FrameBytes) (here : FrameAt stream start id size inst)
    (body : payload.bytes = streamBytes stream (start + 4) (size.toNat - 3))
    (inside : start + footprint size ≤ count) (fits : footprint size ≤ len) :
      Lands stream len count start (⟨(start + footprint size) % len⟩, .frame ⟨id, inst, payload, (start + 4) % len⟩)

def shaped (stream : Nat → UInt8) (len p : Nat) : Bool :=
  let inst : Inst := stream (p + 3)
  3 ≤ stream (p + 2) && isValid (stream (p + 1)) && (inst.isStatus || inst.opcode.isSome) &&
    footprint (stream (p + 2)) ≤ len

def sums (stream : Nat → UInt8) (p : Nat) : Bool :=
  let covered := coveredLen (stream (p + 2)).toNat
  oscCrc (streamBytes stream p covered) == u16FromLe (stream (p + covered)) (stream (p + covered + 1))

/-- What `count` bytes of the stream say against a frame at `p`. -/
inductive Passes (stream : Nat → UInt8) (len count p : Nat) : Prop where
  | other (byte : stream p ≠ 0)
  | shapeless (header : p + 4 ≤ count) (shape : shaped stream len p = false)
  | broken (shape : shaped stream len p = true) (whole : p + footprint (stream (p + 2)) ≤ count)
      (sum : sums stream p = false)

inductive Told (stream : Nat → UInt8) (len count start : Nat) : Framer × Step → Prop where
  | idle (empty : start = count) : Told stream len count start (⟨start % len⟩, .idle)
  | parked (zero : stream start = 0)
      (short : count < start + 4 ∨ shaped stream len start = true ∧ count < start + footprint (stream (start + 2))) :
      Told stream len count start (⟨start % len⟩, .partialFrame)
  | garble (n : Nat) (positive : 0 < n) (inside : start + n ≤ count) (passes : Passes stream len count start)
      (between : ∀ i, 0 < i → i < n → stream (start + i) ≠ 0) :
      Told stream len count start (⟨(start + n) % len⟩, .garble (UInt16.ofNat n))
  | frame (id size : UInt8) (inst : Inst) (payload : FrameBytes) (here : FrameAt stream start id size inst)
      (body : payload.bytes = streamBytes stream (start + 4) (size.toNat - 3))
      (inside : start + footprint size ≤ count) (fits : footprint size ≤ len) :
      Told stream len count start (⟨(start + footprint size) % len⟩, .frame ⟨id, inst, payload, (start + 4) % len⟩)

section Spans

variable (ring : List UInt8) (start n : Nat)

theorem span_eq (inside : start < ring.length) (fits : n ≤ ring.length) :
    ring.extract start (start + min n (ring.length - start)) ++ ring.extract 0 (n - min n (ring.length - start)) =
      around ring 0 start n := by
  by_cases one : start + n ≤ ring.length
  next =>
    rw [Nat.min_eq_left (by omega), Nat.sub_self, around_inside ring 0 start n one]
    simp
  next =>
    rw [Nat.min_eq_right (by omega), around_seam ring 0 start n (by omega) (by omega) (by omega),
      show start + (ring.length - start) = ring.length by omega,
      show n - (ring.length - start) = start + n - ring.length by omega]

theorem payloadView_bytes (inside : start < ring.length) (fits : n ≤ ring.length) :
    (payloadView ring start n).bytes = around ring 0 start n :=
  span_eq ring start n inside fits

theorem ringCrc_eq (inside : start < ring.length) (fits : n ≤ ring.length) :
    ringCrc ring start n = oscCrc (around ring 0 start n) := by
  rw [← span_eq ring start n inside fits, oscCrc, oscCrcContinue_append]
  unfold ringCrc
  dsimp only
  split
  next one => rw [one, Nat.sub_self]; simp [oscCrc]
  next => rfl

end Spans

section Walk

variable {stream : Nat → UInt8} {len count start : Nat} {look : Look}

theorem Receives.byte (receives : Receives stream len count look) (lap : count < start + len) {i : Nat}
    (inside : start + i < count) : look.ring.getD ((start % len + i) % len) 0 = stream (start + i) := by
  rw [Nat.mod_add_mod]
  exact receives.size ▸ receives.shows (start + i) (by omega) inside

theorem Receives.span (receives : Receives stream len count look) (lap : count < start + len) {n : Nat}
    (inside : start + n ≤ count) : around look.ring 0 (start % len) n = streamBytes stream start n := by
  simp only [around, streamBytes]
  apply List.map_congr_left
  intro i member
  have within := List.mem_range.mp member
  rw [receives.size]
  exact receives.byte lap (by omega)

theorem huntFrom_le (ring : List UInt8) (anchor avail fuel n : Nat) (inside : n ≤ avail) :
    Framer.huntFrom ring anchor avail fuel n ≤ avail := by
  induction fuel generalizing n with
  | zero => exact inside
  | succ fuel ih =>
    unfold Framer.huntFrom
    split
    next more => exact ih (n + 1) (by omega)
    next => exact inside

theorem huntFrom_between (ring : List UInt8) (anchor avail fuel n i : Nat) (low : n ≤ i)
    (high : i < Framer.huntFrom ring anchor avail fuel n) : ring.getD ((anchor + i) % ring.length) 0 ≠ 0 := by
  induction fuel generalizing n with
  | zero => exact absurd high (Nat.not_lt.mpr low)
  | succ fuel ih =>
    unfold Framer.huntFrom at high
    split at high
    next more =>
      rcases Nat.eq_or_lt_of_le low with rfl | later
      next => exact more.2
      next => exact ih (n + 1) later high
    next => exact absurd high (Nat.not_lt.mpr low)

theorem huntFrom_ge (ring : List UInt8) (anchor avail fuel n : Nat) :
    n ≤ Framer.huntFrom ring anchor avail fuel n := by
  induction fuel generalizing n with
  | zero => exact Nat.le_refl n
  | succ fuel ih =>
    unfold Framer.huntFrom
    split
    next => exact (Nat.le_succ n).trans (ih (n + 1))
    next => exact Nat.le_refl n

theorem hunt_told (receives : Receives stream len count look) (lap : count < start + len) (some : start < count)
    (passes : Passes stream len count start) :
    Told stream len count start ((⟨start % len⟩ : Framer).hunt look.ring (count - start)) := by
  have inside := huntFrom_le look.ring (start % len) (count - start) (count - start) 1 (by omega)
  have between := huntFrom_between look.ring (start % len) (count - start) (count - start) 1
  have positive := huntFrom_ge look.ring (start % len) (count - start) (count - start) 1
  unfold Framer.hunt
  dsimp only
  rw [receives.size, Nat.mod_add_mod]
  refine .garble _ positive (by omega) passes fun i low high => ?_
  have byte := between i low high
  rwa [receives.size, receives.byte lap (by omega)] at byte

theorem step_told (receives : Receives stream len count look) (behind : start ≤ count) (lap : count < start + len) :
    Told stream len count start ((⟨start % len⟩ : Framer).step look) := by
  have size := receives.size
  have avail : (look.cursor + look.ring.length - start % len) % look.ring.length = count - start := by
    rw [size, receives.cursor]
    exact wrapped_distance behind lap
  -- In the order of the source: nothing, no break, a header cut short, its shape, a frame cut short, the sum.
  unfold Framer.step
  dsimp only
  rw [avail, size]
  split
  next empty => exact .idle (by omega)
  next some =>
    have some : start < count := by omega
    have byte (i : Nat) (inside : i < count - start) := receives.byte lap (show start + i < count by omega)
    split
    next other =>
      rw [byte 0 (by omega)] at other
      exact hunt_told receives lap some (.other other)
    next zero =>
      rw [byte 0 (by omega)] at zero
      split
      next short => exact .parked (not_not.mp zero) (.inl (by omega))
      next header =>
        simp only [byte 1 (by omega), byte 2 (by omega), byte 3 (by omega)]
        have shape : Framer.validShape look.ring (stream (start + 1)) (stream (start + 2)) (stream (start + 3)) =
            shaped stream len start := by
          simp only [Framer.validShape, shaped, size]
        rw [shape]
        split
        next shapeless =>
          rw [Bool.not_eq_true'] at shapeless
          exact hunt_told receives lap some (.shapeless (by omega) shapeless)
        next likely =>
          rw [Bool.not_eq_true', Bool.not_eq_false] at likely
          have parts := likely
          simp only [shaped, Bool.and_eq_true, decide_eq_true_eq] at parts
          obtain ⟨⟨⟨atLeast, valid⟩, known⟩, fits⟩ := parts
          split
          next short => exact .parked (not_not.mp zero) (.inr ⟨likely, by omega⟩)
          next whole =>
            have atLeast : 3 ≤ (stream (start + 2)).toNat := UInt8.le_iff_toNat_le.mp atLeast
            have total : footprint (stream (start + 2)) = 3 + (stream (start + 2)).toNat := rfl
            have covered : coveredLen (stream (start + 2)).toNat = 1 + (stream (start + 2)).toNat := rfl
            have positive : start % len < len := Nat.mod_lt _ (by omega)
            rw [ringCrc_eq _ _ _ (by omega) (by omega), receives.span lap (by omega), byte _ (by omega),
              byte _ (by omega)]
            split
            next unequal => exact hunt_told receives lap some (.broken likely (by omega) (beq_false_of_ne unequal))
            next sum =>
              rw [Nat.mod_add_mod, Nat.mod_add_mod]
              refine .frame _ _ _ _ ⟨not_not.mp zero, rfl, rfl, rfl, atLeast, valid, known, not_not.mp sum⟩ ?_
                (by omega) fits
              rw [payloadView_bytes _ _ _ (by rw [size]; exact Nat.mod_lt _ (by omega)) (by omega)]
              exact receives.span (by omega) (by omega)

theorem FrameAt.shaped {id size : UInt8} {inst : Inst} (frame : FrameAt stream start id size inst)
    (fits : footprint size ≤ len) : Host.shaped stream len start = true := by
  have atLeast : 3 ≤ size := UInt8.le_iff_toNat_le.mpr frame.atLeast
  simp only [Host.shaped, frame.idByte, frame.lenByte, frame.instByte, frame.valid, frame.known, atLeast, fits,
    decide_true, Bool.and_self]

theorem FrameAt.sums {id size : UInt8} {inst : Inst} (frame : FrameAt stream start id size inst) :
    Host.sums stream start = true := by
  simp only [Host.sums, frame.lenByte]
  exact beq_iff_eq.mpr frame.sum

theorem Passes.too_long (passes : Passes stream len count start) {id size : UInt8} {inst : Inst}
    (frame : FrameAt stream start id size inst) : len < footprint size := by
  by_contra room
  have fits : footprint size ≤ len := Nat.not_lt.mp room
  cases passes with
  | other byte => exact byte frame.brk
  | shapeless _ shape => exact absurd (frame.shaped fits) (by rw [shape]; exact Bool.false_ne_true)
  | broken _ _ sum => exact absurd frame.sums (by rw [sum]; exact Bool.false_ne_true)

theorem step_lands (receives : Receives stream len count look) (behind : start ≤ count) (lap : count < start + len) :
    Lands stream len count start ((⟨start % len⟩ : Framer).step look) := by
  have told := step_told receives behind lap
  generalize (⟨start % len⟩ : Framer).step look = out at told
  cases told with
  | idle empty => exact .idle empty
  | parked _ short => exact .parked (short.imp_right And.right)
  | garble n positive inside passes => exact .garble n (by omega) inside fun _ _ _ frame => passes.too_long frame
  | frame id size inst payload here body inside fits => exact .frame id size inst payload here body inside fits

def Framer.Within (framer : Framer) (len first last : Nat) : Prop :=
  ∃ place, first ≤ place ∧ place ≤ last ∧ framer.anchor = place % len

theorem Framer.Within.mono {framer : Framer} {len first last later : Nat} (within : framer.Within len first last)
    (after : last ≤ later) : framer.Within len first later := by
  obtain ⟨place, low, high, anchor⟩ := within
  exact ⟨place, low, high.trans after, anchor⟩

/-- A walk that has fallen a lap behind stands at a younger place of the same index. -/
theorem Framer.Within.lands {framer : Framer} {first : Nat} (within : framer.Within len first count)
    (receives : Receives stream len count look) :
    ∃ start, first ≤ start ∧ start ≤ count ∧ Lands stream len count start (framer.step look) := by
  obtain ⟨place, low, high, anchor⟩ := within
  have behind := Nat.mod_lt (count - place) receives.room
  have short := Nat.mod_le (count - place) len
  have laps := Nat.div_add_mod (count - place) len
  have start : count - (count - place) % len = place + len * ((count - place) / len) := by omega
  refine ⟨count - (count - place) % len, by omega, by omega, ?_⟩
  have lands := step_lands receives (show count - (count - place) % len ≤ count by omega) (by omega)
  rw [start, Nat.add_mul_mod_self_left, ← anchor] at lands
  rw [start]
  exact lands

theorem Receives.latest (receives : Receives stream len count look) {place : Nat} (inside : place < count) :
    ∃ q, place ≤ q ∧ q < count ∧ look.ring.getD (place % len) 0 = stream q := by
  have behind := Nat.mod_lt (count - 1 - place) receives.room
  have laps := Nat.div_add_mod (count - 1 - place) len
  refine ⟨place + len * ((count - 1 - place) / len), by omega, by omega, ?_⟩
  have shown := receives.shows (place + len * ((count - 1 - place) / len)) (by omega) (by omega)
  rw [receives.size, Nat.add_mul_mod_self_left] at shown
  exact shown

end Walk

def firstLap (bytes : List UInt8) (len count : Nat) : Look :=
  ⟨bytes.take count ++ List.replicate (len - count) 0, count % len⟩

theorem receives_firstLap {bytes : List UInt8} {len count : Nat} (room : 0 < len) (all : count ≤ bytes.length)
    (lap : count ≤ len) : Receives (fun p => bytes.getD p 0) len count (firstLap bytes len count) := by
  have size : (bytes.take count ++ List.replicate (len - count) (0 : UInt8)).length = len := by
    simp only [List.length_append, List.length_take, List.length_replicate]
    omega
  refine ⟨room, size, rfl, ?_⟩
  intro p low high
  have place : p % (firstLap bytes len count).ring.length = p := by
    rw [show (firstLap bytes len count).ring.length = len from size, Nat.mod_eq_of_lt (by omega)]
  rw [place, firstLap, List.getD_append _ _ _ _ (by simp; omega)]
  simp [List.getD_eq_getElem?_getD, high]

def glance (bytes : List UInt8) (tick : UInt32) (count : Nat) : Io :=
  ⟨fun _ => tick, [firstLap bytes 1024 count], firstLap bytes 1024 count⟩

theorem glance_observes {bytes : List UInt8} {count here : Nat} (tick : UInt32) (ordered : count ≤ here)
    (all : here ≤ bytes.length) (lap : bytes.length ≤ 1024) :
    Observes (fun p => bytes.getD p 0) 1024 count (glance bytes tick here) here :=
  have receives := receives_firstLap (by decide) all (all.trans lap)
  ⟨⟨here, .look ordered receives (.done here), Nat.le_refl here⟩, receives⟩

theorem step_poll {bus after : HostBus} {io : Io} {event : Option Event} (polled : bus.poll io = some (after, event)) :
    bus.step io .poll = some (after, .ofEvent event) := by
  simp [HostBus.step, polled]

end OpenServo.Host
