import OpenServo.Host.Stream

set_option autoImplicit false

namespace OpenServo.Host

open OpenServo.Protocol OpenServo.Shared

structure Found where
  place : Nat
  id : UInt8
  inst : Inst
  payload : List UInt8
deriving DecidableEq

def Found.size (f : Found) : Nat :=
  f.payload.length + 6

def foundAt (stream : Nat → UInt8) (p : Nat) : Found :=
  ⟨p, stream (p + 1), stream (p + 3), streamBytes stream (p + 4) ((stream (p + 2)).toNat - 3)⟩

theorem footprint_pos (size : UInt8) : 0 < footprint size :=
  Nat.add_pos_left (by decide) size.toNat

/-- The frames of the first `count` bytes from `p` on, greedily: one is taken wherever its break, its header and
its trailer stand, and the scan waits at one that is not all there. -/
def scan (stream : Nat → UInt8) (len count p : Nat) : List Found :=
  if count ≤ p then []
  else if stream p ≠ 0 then scan stream len count (p + 1)
  else if count < p + 4 then []
  else if shaped stream len p = false then scan stream len count (p + 1)
  else if count < p + footprint (stream (p + 2)) then []
  else if sums stream p then foundAt stream p :: scan stream len count (p + footprint (stream (p + 2)))
  else scan stream len count (p + 1)
termination_by count - p
decreasing_by
  next => omega
  next => omega
  next =>
    have := footprint_pos (stream (p + 2))
    omega
  next => omega

section Scan

variable {stream : Nat → UInt8} {len count later p : Nat}

theorem shaped_footprint (shape : shaped stream len p = true) :
    6 ≤ footprint (stream (p + 2)) ∧ footprint (stream (p + 2)) ≤ len := by
  simp only [shaped, Bool.and_eq_true, decide_eq_true_eq] at shape
  obtain ⟨⟨⟨atLeast, -⟩, -⟩, fits⟩ := shape
  have atLeast : 3 ≤ (stream (p + 2)).toNat := UInt8.le_iff_toNat_le.mp atLeast
  exact ⟨Nat.add_le_add_left atLeast 3, fits⟩

theorem scan_passes (passes : Passes stream len count p) (some : p < count) (after : count ≤ later) :
    scan stream len later p = scan stream len later (p + 1) := by
  conv => lhs; unfold scan
  rw [if_neg (by omega)]
  cases passes with
  | other byte => rw [if_pos byte]
  | shapeless header shape =>
    by_cases byte : stream p = 0
    next => rw [if_neg (not_not.mpr byte), if_neg (by omega), if_pos shape]
    next => rw [if_pos byte]
  | broken shape whole sum =>
    have long := shaped_footprint shape
    by_cases byte : stream p = 0
    next =>
      rw [if_neg (not_not.mpr byte), if_neg (by omega), if_neg (by simp [shape]), if_neg (by omega), sum,
        if_neg Bool.false_ne_true]
    next => rw [if_pos byte]

theorem scan_nonzero (between : ∀ i, i < count → stream (p + i) ≠ 0) (inside : p + count ≤ later) :
    scan stream len later p = scan stream len later (p + count) := by
  induction count generalizing p with
  | zero => rfl
  | succ n ih =>
    have first := @scan_passes stream len (p + 1) later p (.other (between 0 (Nat.succ_pos n))) (by omega) (by omega)
    rw [first, ih (fun i low => ?_) (by omega), Nat.add_assoc, Nat.add_comm 1 n]
    have byte := between (i + 1) (by omega)
    rwa [Nat.add_comm i 1, ← Nat.add_assoc] at byte

theorem scan_frame {id size : UInt8} {inst : Inst} (frame : FrameAt stream p id size inst) (fits : footprint size ≤ len)
    (inside : p + footprint size ≤ later) :
    scan stream len later p =
      ⟨p, id, inst, streamBytes stream (p + 4) (size.toNat - 3)⟩ :: scan stream len later (p + footprint size) := by
  have shape := frame.shaped fits
  have long := shaped_footprint shape
  rw [frame.lenByte] at long
  conv => lhs; unfold scan
  rw [if_neg (by omega), if_neg (not_not.mpr frame.brk), if_neg (by omega), if_neg (by simp [shape]), frame.lenByte,
    if_neg (by omega), if_pos frame.sums, foundAt, frame.idByte, frame.lenByte, frame.instByte]

theorem scan_parked (zero : stream p = 0)
    (short : count < p + 4 ∨ shaped stream len p = true ∧ count < p + footprint (stream (p + 2))) :
    scan stream len count p = [] := by
  unfold scan
  by_cases past : count ≤ p
  next => rw [if_pos past]
  next =>
    rw [if_neg past, if_neg (not_not.mpr zero)]
    by_cases header : count < p + 4
    next => rw [if_pos header]
    next =>
      obtain ⟨shape, body⟩ := short.resolve_left header
      rw [if_neg header, if_neg (by simp [shape]), if_pos body]

end Scan

/-- The walk, with the place it has got to in the stream, the frames it has handed out and the bytes that its
verdicts account for. -/
structure Walk where
  framer : Framer
  place : Nat
  found : List Found := []
  counted : Nat := 0

def Step.found (place : Nat) : Step → Option Found
  | .frame f => some ⟨place, f.id, f.inst, f.payload.bytes⟩
  | .idle | .partialFrame | .garble _ => none

def Step.counts : Step → Nat
  | .frame f => f.payload.len + 6
  | .garble n => n.toNat
  | .idle | .partialFrame => 0

/-- The anchor says how many bytes a step has consumed. -/
def Walk.step (walk : Walk) (look : Look) : Walk :=
  let (framer, step) := walk.framer.step look
  { framer
    place := walk.place + (framer.anchor + look.ring.length - walk.framer.anchor) % look.ring.length
    found := walk.found ++ (step.found walk.place).toList
    counted := walk.counted + step.counts }

/-- The walks from `first` on, and how much of the stream each has been shown. Fewer bytes are unconsumed than
the ring holds. -/
inductive Walked (stream : Nat → UInt8) (len first : Nat) : Walk → Nat → Prop where
  | new (count : Nat) (from_ : first ≤ count) (lap : count < first + len) :
      Walked stream len first { framer := ⟨first % len⟩, place := first } count
  | look {walk : Walk} {count next : Nat} {look : Look} (before : Walked stream len first walk count)
      (later : count ≤ next) (lap : next < walk.place + len) (receives : Receives stream len next look) :
      Walked stream len first (walk.step look) next

def Begins (stream : Nat → UInt8) (len p : Nat) : Prop :=
  ∃ id size inst, FrameAt stream p id size inst ∧ footprint size ≤ len

structure Greedy (stream : Nat → UInt8) (len first : Nat) (walk : Walk) (count : Nat) : Prop where
  frames : ∀ later, count ≤ later → walk.found ++ scan stream len later walk.place = scan stream len later first
  drained : ∀ look, Receives stream len count look →
    ((walk.framer.step look).2 = .idle ∨ (walk.framer.step look).2 = .partialFrame) →
    walk.found = scan stream len count first
  unskipped : ∀ p, first ≤ p → p < walk.place → Begins stream len p →
    ∃ f ∈ walk.found, f.place ≤ p ∧ p < f.place + f.size
  consumes : ∀ next look, count ≤ next → next < walk.place + len → Receives stream len next look →
    (walk.framer.step look).2 ≠ .idle → (walk.framer.step look).2 ≠ .partialFrame → walk.place < (walk.step look).place
  accounts : len ≤ 65536 → walk.place = first + walk.counted

structure Walk.Kept (stream : Nat → UInt8) (len first : Nat) (walk : Walk) (count : Nat) : Prop where
  anchor : walk.framer = ⟨walk.place % len⟩
  low : first ≤ walk.place
  high : walk.place ≤ count
  lap : count < walk.place + len
  frames : ∀ later, count ≤ later → walk.found ++ scan stream len later walk.place = scan stream len later first
  unskipped : ∀ p, first ≤ p → p < walk.place → Begins stream len p →
    ∃ f ∈ walk.found, f.place ≤ p ∧ p < f.place + f.size
  accounts : len ≤ 65536 → walk.place = first + walk.counted

section Walk

variable {stream : Nat → UInt8} {len first count next : Nat} {walk : Walk} {look : Look}

theorem Walk.step_eq (anchor : walk.framer = ⟨walk.place % len⟩) (receives : Receives stream len next look) {n : Nat}
    (short : n < len) {step : Step} (out : walk.framer.step look = (⟨(walk.place + n) % len⟩, step)) :
    walk.step look =
      ⟨⟨(walk.place + n) % len⟩, walk.place + n, walk.found ++ (step.found walk.place).toList,
        walk.counted + step.counts⟩ := by
  have consumed := @wrapped_distance len walk.place (walk.place + n) (Nat.le_add_right _ _) (by omega)
  rw [Nat.add_sub_cancel_left] at consumed
  have base : walk.framer.anchor = walk.place % len := by rw [anchor]
  simp only [Walk.step, out, receives.size, base, consumed]

theorem Walk.Kept.told (kept : walk.Kept stream len first count) (later : count ≤ next) (lap : next < walk.place + len)
    (receives : Receives stream len next look) : Told stream len next walk.place (walk.framer.step look) := by
  rw [kept.anchor]
  exact step_told receives (kept.high.trans later) lap

theorem Walk.Kept.rests (kept : walk.Kept stream len first count) (later : count ≤ next)
    (lap : next < walk.place + len) (receives : Receives stream len next look) {step : Step}
    (out : walk.framer.step look = (⟨walk.place % len⟩, step)) (nothing : step.found walk.place = none)
    (free : step.counts = 0) : (walk.step look).Kept stream len first next := by
  have room : 0 < len := receives.room
  rw [Walk.step_eq (n := 0) kept.anchor receives room out, nothing, free]
  simp only [Option.toList_none, List.append_nil, Nat.add_zero]
  exact ⟨rfl, kept.low, kept.high.trans later, lap, fun after behind => kept.frames after (later.trans behind),
    kept.unskipped, kept.accounts⟩

theorem Walk.Kept.step (kept : walk.Kept stream len first count) (later : count ≤ next)
    (lap : next < walk.place + len) (receives : Receives stream len next look) :
    (walk.step look).Kept stream len first next := by
  have told := kept.told later lap receives
  generalize out : walk.framer.step look = result at told
  -- The scan passes over garble byte by byte, and takes a frame where the walk does.
  cases told with
  | idle => exact kept.rests later lap receives out rfl rfl
  | parked => exact kept.rests later lap receives out rfl rfl
  | garble n positive inside passes between =>
    rw [Walk.step_eq kept.anchor receives (by omega) out]
    have skipped (after : Nat) (behind : next ≤ after) :
        scan stream len after walk.place = scan stream len after (walk.place + n) := by
      obtain ⟨m, rfl⟩ := Nat.exists_eq_add_of_le positive
      have gap : ∀ i, i < m → stream (walk.place + 1 + i) ≠ 0 := by
        intro i low
        rw [Nat.add_assoc]
        exact between (1 + i) (by omega) (by omega)
      rw [scan_passes passes (by omega) behind, scan_nonzero gap (by omega), Nat.add_assoc]
    refine ⟨rfl, kept.low.trans (Nat.le_add_right _ _), inside, lap.trans_le ?_, ?_, ?_, ?_⟩
    next => exact Nat.add_le_add_right (Nat.le_add_right _ _) len
    next =>
      intro after behind
      rw [Step.found, Option.toList_none, List.append_nil, ← skipped after behind]
      exact kept.frames after (later.trans behind)
    next =>
      intro p from_ before begins
      rw [Step.found, Option.toList_none, List.append_nil]
      by_cases earlier : p < walk.place
      next => exact kept.unskipped p from_ earlier begins
      next =>
        obtain ⟨id, size, inst, frame, fits⟩ := begins
        obtain ⟨i, rfl⟩ := Nat.exists_eq_add_of_le (Nat.le_of_not_lt earlier)
        cases i with
        | zero => exact absurd (passes.too_long frame) (Nat.not_lt.mpr fits)
        | succ i => exact absurd frame.brk (between (i + 1) (Nat.succ_pos i) (Nat.lt_of_add_lt_add_left before))
    next =>
      intro small
      have exact_ : (UInt16.ofNat n).toNat = n := Nat.mod_eq_of_lt (by omega)
      rw [Step.counts, exact_, ← Nat.add_assoc, ← kept.accounts small]
  | frame id size inst payload here body inside fits =>
    have bound := footprint_pos size
    rw [Walk.step_eq kept.anchor receives (by omega) out]
    have length : payload.bytes.length = size.toNat - 3 := by rw [body, length_streamBytes]
    have whole : payload.bytes.length + 6 = footprint size := by
      have atLeast := here.atLeast
      rw [length, footprint]
      omega
    refine ⟨rfl, kept.low.trans (Nat.le_add_right _ _), inside, lap.trans_le ?_, ?_, ?_, ?_⟩
    next => exact Nat.add_le_add_right (Nat.le_add_right _ _) len
    next =>
      intro after behind
      have taken := scan_frame here fits (inside.trans behind)
      rw [← kept.frames after (later.trans behind), taken, Step.found, body, Option.toList_some, List.append_assoc]
      rfl
    next =>
      intro p from_ before begins
      by_cases earlier : p < walk.place
      next =>
        obtain ⟨f, member, low, high⟩ := kept.unskipped p from_ earlier begins
        exact ⟨f, List.mem_append_left _ member, low, high⟩
      next =>
        refine ⟨⟨walk.place, id, inst, payload.bytes⟩, List.mem_append_right _ List.mem_cons_self,
          Nat.le_of_not_lt earlier, ?_⟩
        rw [Found.size, whole]
        exact before
    next =>
      intro small
      rw [Step.counts, ← FrameBytes.length_bytes, whole, ← Nat.add_assoc, ← kept.accounts small]

theorem Walked.kept (walked : Walked stream len first walk count) : walk.Kept stream len first count := by
  induction walked with
  | new count from_ lap =>
    refine ⟨rfl, Nat.le_refl first, from_, lap, fun _ _ => rfl, ?_, fun _ => rfl⟩
    exact fun p low high => absurd low (Nat.not_le.mpr high)
  | look _ later lap receives ih => exact ih.step later lap receives

/-- The frames of a walk are those of the greedy scan, whatever the schedule. -/
theorem walk_greedy (walked : Walked stream len first walk count) : Greedy stream len first walk count := by
  have kept := walked.kept
  refine ⟨kept.frames, ?_, kept.unskipped, ?_, kept.accounts⟩
  next =>
    intro look receives nothing
    have told := kept.told (Nat.le_refl count) kept.lap receives
    have frames := kept.frames count (Nat.le_refl count)
    have waits : scan stream len count walk.place = [] := by
      generalize walk.framer.step look = result at told nothing
      cases told with
      | idle empty => rw [empty, scan, if_pos (Nat.le_refl count)]
      | parked zero short => exact scan_parked zero short
      | garble | frame => obtain other | other := nothing <;> cases other
    rw [waits, List.append_nil] at frames
    exact frames
  next =>
    intro next look later lap receives moves verdict
    have told := kept.told later lap receives
    generalize out : walk.framer.step look = result at told moves verdict
    cases told with
    | idle => exact absurd rfl moves
    | parked => exact absurd rfl verdict
    | garble n positive inside =>
      rw [Walk.step_eq kept.anchor receives (by omega) out]
      exact Nat.lt_add_of_pos_right positive
    | frame id size inst payload here body inside fits =>
      rw [Walk.step_eq kept.anchor receives (by omega) out]
      exact Nat.lt_add_of_pos_right (footprint_pos size)

end Walk

def strayPing : List UInt8 :=
  [0x55, 0, 5, 3, 0x10, 17, 61]

/-- Four of the bytes are in at the first two looks: one byte of garble, and a frame to wait for. -/
def strayWalk : Walk :=
  (((Walk.mk ⟨0⟩ 0 [] 0).step (firstLap strayPing 64 4)).step (firstLap strayPing 64 4)).step (firstLap strayPing 64 7)

theorem walk_greedy_ping :
    Greedy (fun p => strayPing.getD p 0) 64 0 strayWalk 7 ∧ strayWalk.place = 7 ∧ strayWalk.counted = 7 ∧
      strayWalk.found = scan (fun p => strayPing.getD p 0) 64 7 0 ∧ strayWalk.found = [⟨1, 5, 0x10, []⟩] := by
  have receives (count : Nat) (all : count ≤ 7) :
      Receives (fun p => strayPing.getD p 0) 64 count (firstLap strayPing 64 count) :=
    receives_firstLap (by decide) all (by omega)
  have garbled : Walked (fun p => strayPing.getD p 0) 64 0 ((Walk.mk ⟨0⟩ 0 [] 0).step (firstLap strayPing 64 4)) 4 :=
    .look (.new 0 (by decide) (by decide)) (by decide) (by decide) (receives 4 (by decide))
  have waits := garbled.look (by decide : 4 ≤ 4) (by decide +kernel) (receives 4 (by decide))
  have greedy : Greedy _ _ _ strayWalk 7 :=
    walk_greedy (.look waits (by decide) (by decide +kernel) (receives 7 (by decide)))
  have rest : scan (fun p => strayPing.getD p 0) 64 7 strayWalk.place = [] := by decide +kernel
  exact ⟨greedy, by decide +kernel, by decide +kernel,
    by rw [← greedy.frames 7 (Nat.le_refl 7), rest, List.append_nil], by decide +kernel⟩

theorem huntFrom_all {ring : List UInt8} {anchor avail : Nat}
    (other : ∀ i, ring.getD ((anchor + i) % ring.length) 0 ≠ 0) (fuel n : Nat) (enough : avail ≤ n + fuel)
    (inside : n ≤ avail) :
    Framer.huntFrom ring anchor avail fuel n = avail := by
  induction fuel generalizing n with
  | zero => exact Nat.le_antisymm inside enough
  | succ fuel ih =>
    unfold Framer.huntFrom
    split
    next more => exact ih (n + 1) (by omega) more.1
    next stop => exact Nat.le_antisymm inside (Nat.not_lt.mp fun more => stop ⟨more, other n⟩)

theorem step_noise {look : Look} {count : Nat} (other : ∀ i, look.ring.getD (i % look.ring.length) 0 ≠ 0)
    (cursor : look.cursor = count) (some : 0 < count) (room : count < look.ring.length) :
    (⟨0⟩ : Framer).step look = (⟨count⟩, .garble (UInt16.ofNat count)) := by
  have avail : (look.cursor + look.ring.length - 0) % look.ring.length = count := by
    rw [cursor, Nat.sub_zero, Nat.add_mod_right, Nat.mod_eq_of_lt room]
  have hunted : Framer.huntFrom look.ring 0 count count 1 = count :=
    huntFrom_all (fun i => other (0 + i)) count 1 (Nat.le_add_left count 1) some
  simp only [Framer.step, avail]
  rw [if_neg (Nat.ne_of_gt some), if_pos (other (0 + 0)), Framer.hunt, hunted, Nat.zero_add, Nat.mod_eq_of_lt room]

/-- Half a ring of 128 KiB of noise: the count of the garble wraps to zero. -/
theorem long_ring_miscounts :
    ∃ walk, Walked (fun _ => 0x55) (2 ^ 17) 0 walk 65536 ∧ walk.place = 65536 ∧ walk.counted = 0 := by
  obtain ⟨noise, cursor, size, byte⟩ : ∃ noise : Look, noise.cursor = 65536 ∧ noise.ring.length = 2 ^ 17 ∧
      ∀ i, noise.ring.getD (i % 2 ^ 17) 0 = 0x55 := by
    refine ⟨⟨List.replicate (2 ^ 17) 0x55, 65536⟩, rfl, List.length_replicate, fun i => ?_⟩
    rw [List.getD_replicate _ (Nat.mod_lt i (by decide))]
  have receives : Receives (fun _ => 0x55) (2 ^ 17) 65536 noise :=
    ⟨by decide, size, cursor, fun p _ _ => by rw [size]; exact byte p⟩
  have out : (⟨0⟩ : Framer).step noise = (⟨65536⟩, .garble (UInt16.ofNat 65536)) := by
    refine step_noise (fun i => ?_) cursor (by decide) (by rw [size]; decide)
    rw [size, byte]
    decide
  refine ⟨_, .look (.new 0 (by decide) (by decide)) (by decide) (by decide) receives, ?_, ?_⟩
  next => simp only [Walk.step, Nat.zero_mod, out, size]; rfl
  next => simp only [Walk.step, Nat.zero_mod, out]; rfl

end OpenServo.Host
