import OpenServo.Client.Wire
import OpenServo.Shared.Timeline
import Mathlib.Data.List.Chain
import Mathlib.Tactic.IntervalCases

set_option autoImplicit false

namespace OpenServo.Bench

open OpenServo.Client OpenServo.Shared

structure BStamp where
  tick : UInt32
  byte : UInt8
  flags : UInt8
deriving DecidableEq

def BStamp.boundary : UInt8 := (1 : UInt8) <<< (1 : UInt8)

def tickAt (edges : List WireEdge) (i : Nat) : Nat :=
  (edges[i]?.map (·.tick.toNat)).getD 0

def levelAt (edges : List WireEdge) (t : Nat) : Level :=
  match partitionPoint (fun e => e.tick.toNat ≤ t) edges with
  | 0 => .high
  | n + 1 => (edges[n]?.map (·.level)).getD .high

def sampleBit (edges : List WireEdge) (start b : Nat) (byte : UInt8) (k : Nat) : UInt8 :=
  if levelAt edges (start + b * (3 + 2 * k) / 2) = .high then byte ||| (1 : UInt8) <<< UInt8.ofNat k else byte

def sampleChar (edges : List WireEdge) (start b : Nat) : UInt8 :=
  (List.range 8).foldl (sampleBit edges start b) 0

def nextFallIn (edges : List WireEdge) (lo hi : Nat) : Option Nat :=
  let start := partitionPoint (fun e => e.tick.toNat < lo) edges
  (((edges.drop start).findIdx? fun e => e.level = .low && e.tick.toNat ≤ hi).map (start + ·)).filter
    fun j => tickAt edges j ≤ hi

def charStamps (edges : List WireEdge) (b : Nat) : (fuel start : Nat) → Option (List BStamp × Nat)
  | 0, _ => none
  | fuel + 1, start =>
    let stamp : BStamp := ⟨.ofNat start, sampleChar edges start b, 0⟩
    match nextFallIn edges (start + 19 * b / 2) (start + 11 * b) with
    | some j => do
      let (stamps, last) ← charStamps edges b fuel (tickAt edges j)
      return (stamp :: stamps, last)
    | none => some ([stamp], start)

def stampsFrom (edges : List WireEdge) (b : Nat) : (fuel i : Nat) → Option (List BStamp)
  | 0, i => if i < edges.length then none else some []
  | fuel + 1, i =>
    match edges[i]? with
    | none => some []
    | some e =>
      if e.level ≠ .low then stampsFrom edges b fuel (i + 1)
      else
        match edges[i + 1]? with
        | none => some []
        | some next =>
          -- The break bar: a 0x00 character is 9 low bits, the law break 10.
          if ((next.tick.toNat : Int) - e.tick.toNat) * 2 ≥ 19 * b then do
            return ⟨e.tick, 0, BStamp.boundary⟩ :: (← stampsFrom edges b fuel (i + 1))
          else do
            let (stamps, start) ← charStamps edges b edges.length e.tick.toNat
            let i := partitionPoint (fun e => e.tick.toNat < start + 10 * b) edges
            return stamps ++ (← stampsFrom edges b fuel i)

def stampsFromEdges (edges : List WireEdge) (bitTicks : UInt32) : Option (List BStamp) :=
  stampsFrom edges bitTicks.toNat edges.length 0

section Wire

structure Character where
  byte : UInt8
  edge : Nat → Nat

def levelOf (bit : Bool) : Level :=
  if bit then .high else .low

def Character.level (c : Character) : Nat → Level
  | 0 => .low
  | k + 1 => if k < 8 then levelOf (c.byte.toNat.testBit k) else .high

def Character.marks (c : Character) : List (Nat × Level) :=
  (List.range 10).map fun k => (c.edge k, c.level k)

/-- Each sampling point falls inside the bit it samples, and the stop bit begins before the break bar. -/
structure Character.Timed (b : Nat) (c : Character) : Prop where
  starts : c.edge 0 ≤ c.edge 1
  sampled : ∀ k < 8, c.edge (k + 1) ≤ c.edge 0 + b * (3 + 2 * k) / 2 ∧ c.edge 0 + b * (3 + 2 * k) / 2 < c.edge (k + 2)
  stops : c.edge 9 < c.edge 0 + 19 * b / 2

inductive Signal where
  | brk (fall rise : Nat)
  | char (c : Character)

namespace Signal

def start : Signal → Nat
  | brk fall _ => fall
  | char c => c.edge 0

def stop : Signal → Nat
  | brk _ rise => rise
  | char c => c.edge 9

def marks : Signal → List (Nat × Level)
  | brk fall rise => [(fall, .low), (rise, .high)]
  | char c => c.marks

def stamp : Signal → BStamp
  | brk fall _ => ⟨.ofNat fall, 0, BStamp.boundary⟩
  | char c => ⟨.ofNat (c.edge 0), c.byte, 0⟩

def Sound (b : Nat) : Signal → Prop
  | brk fall rise => 2 * fall + 19 * b ≤ 2 * rise
  | char c => c.Timed b

/-- Characters keep the pace of one talker or leave it behind; a break leaves it behind. -/
def Apart (b : Nat) : Signal → Signal → Prop
  | char c, char d => c.edge 9 < d.edge 0 ∧ c.edge 0 + 19 * b / 2 ≤ d.edge 0
  | char c, brk fall _ => c.edge 9 < fall ∧ c.edge 0 + 11 * b < fall
  | brk _ rise, next => rise < next.start

end Signal

def marksOf (traffic : List Signal) : List (Nat × Level) :=
  traffic.flatMap Signal.marks

def edgeOf (mark : Nat × Level) : WireEdge :=
  ⟨.ofNat mark.1, mark.2⟩

def captured (traffic : List Signal) : List WireEdge :=
  (changes .high (marksOf traffic)).map edgeOf

structure Legal (b : Nat) (traffic : List Signal) : Prop where
  sound : ∀ signal ∈ traffic, signal.Sound b
  apart : traffic.IsChain (Signal.Apart b)
  unwrapped : ∀ signal ∈ traffic, signal.stop < 2 ^ 32

end Wire

section Reading

theorem levelAt_eq (edges : List WireEdge) (t : Nat) :
    levelAt edges t = ((edges.takeWhile fun e => e.tick.toNat ≤ t).getLast?.map (·.level)).getD .high := by
  obtain ⟨rest, split⟩ := List.takeWhile_prefix (fun e : WireEdge => decide (e.tick.toNat ≤ t)) (l := edges)
  rw [levelAt, partitionPoint]
  generalize edges.takeWhile (fun e => e.tick.toNat ≤ t) = front at *
  rw [List.getLast?_eq_getElem?]
  cases same : front.length with
  | zero => simp [List.length_eq_zero_iff.mp same]
  | succ n =>
    have inside : n < front.length := by omega
    simp only [← split, List.getElem?_append_left inside, Nat.add_sub_cancel]

theorem levelAt_captured {marks : List (Nat × Level)} (sorted : marks.Pairwise fun a b => a.1 ≤ b.1)
    (unwrapped : ∀ mark ∈ marks, mark.1 < 2 ^ 32) (t : Nat) :
    levelAt ((changes .high marks).map edgeOf) t = lineAt .high marks t := by
  rw [levelAt_eq, ← lineAt_changes sorted, lineAt, List.takeWhile_map]
  have same : (changes .high marks).takeWhile ((fun e : WireEdge => decide (e.tick.toNat ≤ t)) ∘ edgeOf) =
      (changes .high marks).takeWhile fun mark => mark.1 ≤ t := by
    apply takeWhile_congr
    intro mark member
    simp only [Function.comp_apply, edgeOf, UInt32.toNat_ofNat',
      Nat.mod_eq_of_lt (unwrapped mark (mem_of_changes member))]
  rw [same, List.getLast?_map]
  cases ((changes .high marks).takeWhile fun mark => mark.1 ≤ t).getLast? <;> rfl

def setBit (byte acc : UInt8) (k : Nat) : UInt8 :=
  if byte.toNat.testBit k then acc ||| (1 : UInt8) <<< UInt8.ofNat k else acc

theorem foldl_setBit (byte : UInt8) : (List.range 8).foldl (setBit byte) 0 = byte := by
  have all : ∀ n < 256, (List.range 8).foldl (setBit (.ofNat n)) 0 = .ofNat n := by decide +kernel
  have this := all byte.toNat byte.toNat_lt
  rwa [UInt8.ofNat_toNat] at this

theorem sampleChar_eq {edges : List WireEdge} {start b : Nat} {byte : UInt8}
    (sampled : ∀ k < 8, levelAt edges (start + b * (3 + 2 * k) / 2) = levelOf (byte.toNat.testBit k)) :
    sampleChar edges start b = byte := by
  rw [sampleChar, List.foldl_ext _ (setBit byte), foldl_setBit]
  intro acc k member
  rw [sampleBit, setBit, sampled k (List.mem_range.mp member)]
  cases byte.toNat.testBit k <;> rfl

end Reading

section Order

variable {b : Nat}

theorem Character.Timed.step {c : Character} (timed : c.Timed b) {k : Nat} (inside : k < 9) :
    c.edge k ≤ c.edge (k + 1) := by
  cases k with
  | zero => exact timed.starts
  | succ k =>
    obtain ⟨reached, held⟩ := timed.sampled k (by omega)
    exact Nat.le_of_lt (Nat.lt_of_le_of_lt reached held)

theorem Character.Timed.mono {c : Character} (timed : c.Timed b) {j k : Nat} (le : j ≤ k) (inside : k ≤ 9) :
    c.edge j ≤ c.edge k := by
  induction k, le using Nat.le_induction with
  | base => exact Nat.le_refl _
  | succ k le ih => exact (ih (by omega)).trans (timed.step (by omega))

namespace Signal

theorem Apart.ordered {x y : Signal} (apart : x.Apart b y) : x.stop < y.start := by
  match x, y with
  | brk _ _, _ => exact apart
  | char _, char _ | char _, brk _ _ => exact apart.1

theorem Sound.inside {x : Signal} (sound : x.Sound b) : ∀ mark ∈ x.marks, x.start ≤ mark.1 ∧ mark.1 ≤ x.stop := by
  intro mark member
  cases x with
  | brk fall rise =>
    have long : 2 * fall + 19 * b ≤ 2 * rise := sound
    simp only [marks, List.mem_cons, List.not_mem_nil, or_false] at member
    rcases member with rfl | rfl
    next => exact ⟨Nat.le_refl _, show fall ≤ rise by omega⟩
    next => exact ⟨show fall ≤ rise by omega, Nat.le_refl _⟩
  | char c =>
    obtain ⟨k, inside, rfl⟩ := List.mem_map.mp member
    have few := List.mem_range.mp inside
    exact ⟨Character.Timed.mono sound (Nat.zero_le k) (by omega), Character.Timed.mono sound (by omega) (Nat.le_refl 9)⟩

theorem Sound.sorted {x : Signal} (sound : x.Sound b) : x.marks.Pairwise fun a b => a.1 ≤ b.1 := by
  cases x with
  | brk fall rise =>
    have long : 2 * fall + 19 * b ≤ 2 * rise := sound
    simp only [marks, List.pairwise_cons, List.mem_singleton, forall_eq, List.not_mem_nil, IsEmpty.forall_iff,
      implies_true, List.Pairwise.nil, and_true]
    omega
  | char c =>
    rw [marks, Character.marks, List.pairwise_map]
    refine List.Pairwise.imp_of_mem ?_ List.pairwise_lt_range
    intro j k _ inside less
    exact Character.Timed.mono sound (Nat.le_of_lt less) (Nat.le_of_lt_succ (List.mem_range.mp inside))

theorem Sound.start_le {x : Signal} (sound : x.Sound b) : x.start ≤ x.stop := by
  cases x with
  | brk fall rise =>
    have long : 2 * fall + 19 * b ≤ 2 * rise := sound
    exact show fall ≤ rise by omega
  | char c => exact Character.Timed.mono sound (Nat.zero_le 9) (Nat.le_refl 9)

theorem marks_cons (x : Signal) : ∃ marks, x.marks = (x.start, .low) :: marks := by
  cases x with
  | brk fall rise => exact ⟨_, rfl⟩
  | char c => exact ⟨_, rfl⟩

theorem leftAt_marks (idle : Level) (x : Signal) : leftAt idle x.marks = .high := by
  cases x with
  | brk fall rise => rfl
  | char c => rfl

end Signal

namespace Legal

variable {traffic xs ys : List Signal}

theorem left (legal : Legal b (xs ++ ys)) : Legal b xs where
  sound := fun x member => legal.sound x (List.mem_append_left ys member)
  apart := List.IsChain.left_of_append legal.apart
  unwrapped := fun x member => legal.unwrapped x (List.mem_append_left ys member)

theorem right (legal : Legal b (xs ++ ys)) : Legal b ys where
  sound := fun x member => legal.sound x (List.mem_append_right xs member)
  apart := List.IsChain.right_of_append legal.apart
  unwrapped := fun x member => legal.unwrapped x (List.mem_append_right xs member)

theorem pairwise (legal : Legal b traffic) : traffic.Pairwise fun x y => x.stop < y.start := by
  induction traffic with
  | nil => exact .nil
  | cons x traffic ih =>
    have later := ih (@right _ [x] traffic legal)
    refine List.pairwise_cons.mpr ⟨?_, later⟩
    cases traffic with
    | nil => simp
    | cons y traffic =>
      have next := (List.isChain_cons_cons.mp legal.apart).1.ordered
      intro z member
      rcases List.mem_cons.mp member with rfl | behind
      next => exact next
      next =>
        have through := (legal.sound y (by simp)).start_le
        have after := (List.pairwise_cons.mp later).1 z behind
        omega

theorem sorted (legal : Legal b traffic) : (marksOf traffic).Pairwise fun a b => a.1 ≤ b.1 := by
  rw [marksOf, List.pairwise_flatMap]
  refine ⟨fun x member => (legal.sound x member).sorted, List.Pairwise.imp_of_mem ?_ legal.pairwise⟩
  intro x y first second ordered m inX n inY
  have upTo := ((legal.sound x first).inside m inX).2
  have onward := ((legal.sound y second).inside n inY).1
  omega

theorem mark_lt (legal : Legal b traffic) : ∀ mark ∈ marksOf traffic, mark.1 < 2 ^ 32 := by
  intro mark member
  obtain ⟨x, inside, at_x⟩ := List.mem_flatMap.mp member
  exact Nat.lt_of_le_of_lt ((legal.sound x inside).inside mark at_x).2 (legal.unwrapped x inside)

end Legal

end Order

section Captured

variable {b : Nat} {xs ys : List Signal}

theorem leftAt_marksOf (xs : List Signal) : leftAt .high (marksOf xs) = .high := by
  induction xs with
  | nil => rfl
  | cons x xs ih =>
    rw [marksOf, List.flatMap_cons, leftAt_append, x.leftAt_marks]
    exact ih

theorem captured_append (xs ys : List Signal) : captured (xs ++ ys) = captured xs ++ captured ys := by
  rw [captured, marksOf, List.flatMap_append, changes_append, List.map_append]
  congr 2
  rw [show leftAt .high (xs.flatMap Signal.marks) = .high from leftAt_marksOf xs]
  rfl

theorem captured_cons (x : Signal) (sound : x.Sound b) (ys : List Signal) :
    ∃ next more, captured (x :: ys) = edgeOf (x.start, .low) :: edgeOf next :: (more ++ captured ys) ∧
      x.start ≤ next.1 ∧ next.1 ≤ x.stop ∧ (∀ f r, x = .brk f r → next = (r, .high) ∧ more = []) := by
  obtain ⟨marks, split⟩ := x.marks_cons
  have left := x.leftAt_marks .high
  rw [split, leftAt_cons] at left
  have moved : changes Level.low marks ≠ [] := changes_ne_nil (by rw [left]; decide)
  obtain ⟨next, more, shape⟩ := List.exists_cons_of_ne_nil moved
  have member : next ∈ x.marks := by
    rw [split]
    exact List.mem_cons_of_mem _ (mem_of_changes (shape ▸ List.mem_cons_self))
  have single : captured [x] = edgeOf (x.start, .low) :: edgeOf next :: more.map edgeOf := by
    simp [captured, marksOf, split, changes, shape]
  refine ⟨next, more.map edgeOf, ?_, (sound.inside next member).1, (sound.inside next member).2, ?_⟩
  next => rw [← List.singleton_append, captured_append, single]; rfl
  next =>
    rintro f r rfl
    obtain ⟨-, rfl⟩ := List.cons.inj split
    obtain ⟨rfl, rfl⟩ := List.cons.inj (shape.symm.trans (rfl : changes Level.low [(r, Level.high)] = [(r, .high)]))
    exact ⟨rfl, rfl⟩

theorem tick_edgeOf {mark : Nat × Level} (small : mark.1 < 2 ^ 32) : (edgeOf mark).tick.toNat = mark.1 := by
  rw [edgeOf, UInt32.toNat_ofNat', Nat.mod_eq_of_lt small]

theorem Legal.edge_le (legal : Legal b xs) {e : WireEdge} (member : e ∈ captured xs) :
    ∃ x ∈ xs, x.start ≤ e.tick.toNat ∧ e.tick.toNat ≤ x.stop := by
  obtain ⟨mark, changed, rfl⟩ := List.mem_map.mp member
  have inside := mem_of_changes changed
  obtain ⟨x, traffic, at_x⟩ := List.mem_flatMap.mp inside
  rw [tick_edgeOf (legal.mark_lt mark inside)]
  exact ⟨x, traffic, (legal.sound x traffic).inside mark at_x⟩

theorem captured_head (legal : Legal b ys) {e : WireEdge} (head : e ∈ (captured ys).head?) :
    ∃ y ∈ ys.head?, e = edgeOf (y.start, .low) ∧ e.tick.toNat = y.start := by
  cases ys with
  | nil => simp [captured, marksOf, changes] at head
  | cons y ys =>
    have sound := legal.sound y List.mem_cons_self
    obtain ⟨next, more, shape, -⟩ := captured_cons y sound ys
    rw [shape, List.head?_cons, Option.mem_some_iff] at head
    have small := Nat.lt_of_le_of_lt sound.start_le (legal.unwrapped y List.mem_cons_self)
    exact ⟨y, rfl, head.symm, by rw [← head, tick_edgeOf small]⟩

theorem partition_between (legal : Legal b (xs ++ ys)) {t : Nat} (past : ∀ x ∈ xs, x.stop < t)
    (ahead : ∀ y ∈ ys.head?, t ≤ y.start) :
    partitionPoint (fun e => e.tick.toNat < t) (captured (xs ++ ys)) = (captured xs).length := by
  rw [captured_append]
  apply partitionPoint_split
  next =>
    intro e member
    obtain ⟨x, inside, -, stop⟩ := legal.left.edge_le member
    simpa using Nat.lt_of_le_of_lt stop (past x inside)
  next =>
    intro e head
    obtain ⟨y, first, -, tick⟩ := captured_head legal.right head
    simpa [tick] using ahead y first

end Captured

section Decode

variable {b : Nat} {pre post : List Signal} {c : Character}

theorem sampleChar_traffic (legal : Legal b (pre ++ .char c :: post)) :
    sampleChar (captured (pre ++ .char c :: post)) (c.edge 0) b = c.byte := by
  have timed : c.Timed b := legal.sound (.char c) (by simp)
  apply sampleChar_eq
  intro k few
  obtain ⟨reached, held⟩ := timed.sampled k few
  have split : ∀ k < 8, List.range 10 = List.range (k + 1) ++ (k + 1) :: (k + 2) :: List.range' (k + 3) (7 - k) := by
    decide
  have marks : marksOf (pre ++ .char c :: post) =
      (marksOf pre ++ (List.range (k + 1)).map fun k => (c.edge k, c.level k)) ++ (c.edge (k + 1), c.level (k + 1)) ::
        ((c.edge (k + 2), c.level (k + 2)) :: (List.range' (k + 3) (7 - k)).map (fun k => (c.edge k, c.level k)) ++
          marksOf post) := by
    simp only [marksOf, List.flatMap_append, List.flatMap_cons, Signal.marks, Character.marks, split k few,
      List.map_append, List.map_cons, List.append_assoc, List.cons_append]
  rw [captured, levelAt_captured legal.sorted legal.mark_lt, marks, lineAt_mark _ reached]
  next => exact if_pos few
  next =>
    intro mark head
    obtain rfl := Option.some.inj head
    exact held
  next =>
    intro mark member
    rcases List.mem_append.mp member with before | within
    next =>
      obtain ⟨x, inside, at_x⟩ := List.mem_flatMap.mp before
      have stop := ((legal.sound x (List.mem_append_left _ inside)).inside mark at_x).2
      have ordered := List.pairwise_append.mp legal.pairwise |>.2.2 x inside (.char c) List.mem_cons_self
      have first : x.stop < c.edge 0 := ordered
      omega
    next =>
      obtain ⟨j, inside, rfl⟩ := List.mem_map.mp within
      have few := List.mem_range.mp inside
      exact (timed.mono (show j ≤ k + 1 by omega) (by omega)).trans reached

theorem tickAt_captured {x : Signal} (legal : Legal b (pre ++ x :: post)) :
    tickAt (captured (pre ++ x :: post)) (captured pre).length = x.start := by
  have sound := legal.sound x (by simp)
  obtain ⟨next, more, shape, -⟩ := captured_cons x sound post
  have small := Nat.lt_of_le_of_lt sound.start_le (legal.unwrapped x (by simp))
  rw [tickAt, captured_append, List.getElem?_append_right (Nat.le_refl _), Nat.sub_self, shape]
  exact tick_edgeOf small

theorem stops_before (legal : Legal b (pre ++ .char c :: post)) :
    ∀ x ∈ pre ++ [Signal.char c], x.stop < c.edge 0 + 19 * b / 2 := by
  have timed : c.Timed b := legal.sound (.char c) (by simp)
  intro x member
  rcases List.mem_append.mp member with before | last
  next =>
    have ordered := List.pairwise_append.mp legal.pairwise |>.2.2 x before (.char c) List.mem_cons_self
    have first : x.stop < c.edge 0 := ordered
    omega
  next =>
    obtain rfl := List.mem_singleton.mp last
    exact timed.stops

theorem nextFallIn_drop {edges : List WireEdge} {lo hi n : Nat}
    (start : partitionPoint (fun e => e.tick.toNat < lo) edges = n) :
    nextFallIn edges lo hi =
      (((edges.drop n).findIdx? fun e => e.level = .low && e.tick.toNat ≤ hi).map (n + ·)).filter
        fun j => tickAt edges j ≤ hi := by
  rw [nextFallIn, start]

theorem nextFallIn_next {d : Character} (legal : Legal b (pre ++ .char c :: .char d :: post))
    (near : d.edge 0 ≤ c.edge 0 + 11 * b) :
    nextFallIn (captured (pre ++ .char c :: .char d :: post)) (c.edge 0 + 19 * b / 2) (c.edge 0 + 11 * b) =
      some (captured (pre ++ [.char c])).length := by
  have regroup : pre ++ .char c :: .char d :: post = (pre ++ [.char c]) ++ .char d :: post := by simp
  have paced : c.edge 0 + 19 * b / 2 ≤ d.edge 0 :=
    ((List.isChain_cons_cons.mp (List.IsChain.right_of_append legal.apart)).1 : Signal.Apart b (.char c) (.char d)).2
  have past := stops_before legal
  rw [regroup] at legal ⊢
  have sound := legal.sound (.char d) (by simp)
  have point := partition_between legal past (by
    intro y head
    obtain rfl := Option.some.inj head
    exact paced)
  have tick : tickAt (captured ((pre ++ [.char c]) ++ .char d :: post)) (captured (pre ++ [.char c])).length = d.edge 0 :=
    tickAt_captured legal
  obtain ⟨next, more, shape, -⟩ := captured_cons (.char d) sound post
  have small := Nat.lt_of_le_of_lt sound.start_le (legal.unwrapped (.char d) (by simp))
  have first : (edgeOf ((Signal.char d).start, .low)).tick.toNat = d.edge 0 := tick_edgeOf small
  have found : ((captured (.char d :: post)).findIdx? fun e => e.level = .low && e.tick.toNat ≤ c.edge 0 + 11 * b) =
      some 0 := by
    rw [shape, List.findIdx?_cons, first]
    simp [edgeOf, near]
  rw [nextFallIn_drop point, captured_append _ (.char d :: post), List.drop_left, found, ← captured_append]
  simp only [Option.map_some, Nat.add_zero, Option.filter_some, tick, near, decide_true, if_true]

theorem nextFallIn_none (legal : Legal b (pre ++ .char c :: post))
    (far : ∀ y ∈ post.head?, c.edge 0 + 11 * b < y.start) :
    nextFallIn (captured (pre ++ .char c :: post)) (c.edge 0 + 19 * b / 2) (c.edge 0 + 11 * b) = none := by
  have regroup : pre ++ .char c :: post = (pre ++ [.char c]) ++ post := by simp
  have past := stops_before legal
  rw [regroup] at legal ⊢
  have point := partition_between legal past (by
    intro y head
    have later := far y head
    omega)
  rw [nextFallIn_drop point, captured_append, List.drop_left, List.findIdx?_eq_none_iff.mpr]
  next => rfl
  next =>
    intro e member
    obtain ⟨x, inside, start, -⟩ := legal.right.edge_le member
    have later : c.edge 0 + 11 * b < x.start := by
      cases post with
      | nil => exact absurd inside List.not_mem_nil
      | cons y post =>
        have first := far y rfl
        rcases List.mem_cons.mp inside with rfl | behind
        next => exact first
        next =>
          have ordered := (List.pairwise_cons.mp legal.right.pairwise).1 x behind
          have through := (legal.right.sound y List.mem_cons_self).start_le
          omega
    have beyond : ¬ e.tick.toNat ≤ c.edge 0 + 11 * b := by omega
    simp [beyond]

theorem charStamps_run (legal : Legal b (pre ++ .char c :: post)) {fuel : Nat} (enough : post.length < fuel) :
    ∃ run last after, Signal.char c :: post = run ++ .char last :: after ∧
      (∀ y ∈ after.head?, last.edge 0 + 11 * b < y.start) ∧
        charStamps (captured (pre ++ .char c :: post)) b fuel (c.edge 0) =
          some ((run ++ [.char last]).map Signal.stamp, last.edge 0) := by
  induction post generalizing pre c fuel with
  | nil =>
    obtain ⟨fuel, rfl⟩ : ∃ n, fuel = n + 1 := ⟨fuel - 1, by omega⟩
    refine ⟨[], c, [], rfl, by simp, ?_⟩
    rw [charStamps, nextFallIn_none legal (by simp), sampleChar_traffic legal]
    rfl
  | cons y post ih =>
    obtain ⟨fuel, rfl⟩ : ∃ n, fuel = n + 1 := ⟨fuel - 1, by omega⟩
    by_cases far : c.edge 0 + 11 * b < y.start
    next =>
      refine ⟨[], c, y :: post, rfl, ?_, ?_⟩
      next => rintro _ ⟨⟩; exact far
      next =>
        rw [charStamps, nextFallIn_none legal (by rintro _ ⟨⟩; exact far), sampleChar_traffic legal]
        rfl
    next =>
      have next := (List.isChain_cons_cons.mp (List.IsChain.right_of_append legal.apart)).1
      match y with
      | .brk fall rise => exact absurd next.2 far
      | .char d =>
        have near : d.edge 0 ≤ c.edge 0 + 11 * b := Nat.not_lt.mp far
        have regroup : pre ++ .char c :: .char d :: post = (pre ++ [.char c]) ++ .char d :: post := by simp
        have onward : Legal b ((pre ++ [.char c]) ++ .char d :: post) := by rw [← regroup]; exact legal
        have tick : tickAt (captured (pre ++ .char c :: .char d :: post)) (captured (pre ++ [.char c])).length =
            d.edge 0 := by
          rw [regroup]
          exact tickAt_captured onward
        obtain ⟨run, last, after, split, stop, decoded⟩ := ih onward (by simpa using enough)
        rw [← regroup] at decoded
        refine ⟨.char c :: run, last, after, by rw [split]; rfl, stop, ?_⟩
        rw [charStamps, nextFallIn_next legal near, sampleChar_traffic legal]
        simp only [tick, decoded]
        rfl

theorem length_captured (legal : Legal b post) : post.length ≤ (captured post).length := by
  induction post with
  | nil => exact Nat.zero_le _
  | cons x post ih =>
    obtain ⟨next, more, shape, -⟩ := captured_cons x (legal.sound x List.mem_cons_self) post
    have rest := ih (@Legal.right b [x] post legal)
    simp only [shape, List.length_cons, List.length_append]
    omega

theorem getElem?_captured (k : Nat) : (captured (pre ++ post))[(captured pre).length + k]? = (captured post)[k]? := by
  rw [captured_append, List.getElem?_append_right (Nat.le_add_right _ _), Nat.add_sub_cancel_left]

section Turn

theorem stampsFrom_fall {x : Signal} (legal : Legal b (pre ++ x :: post)) :
    ∃ next : Nat × Level, x.start ≤ next.1 ∧ next.1 ≤ x.stop ∧ (∀ f r, x = .brk f r → next = (r, .high)) ∧
      (captured (pre ++ x :: post))[(captured pre).length]? = some (edgeOf (x.start, .low)) ∧
        (captured (pre ++ x :: post))[(captured pre).length + 1]? = some (edgeOf next) ∧
          (edgeOf (x.start, .low)).tick.toNat = x.start ∧ (edgeOf next).tick.toNat = next.1 := by
  have sound := legal.sound x (by simp)
  have unwrapped := legal.unwrapped x (by simp)
  obtain ⟨next, more, shape, after, upTo, broke⟩ := captured_cons x sound post
  refine ⟨next, after, upTo, fun f r same => (broke f r same).1, ?_, ?_,
    tick_edgeOf (Nat.lt_of_le_of_lt sound.start_le unwrapped), tick_edgeOf (Nat.lt_of_le_of_lt upTo unwrapped)⟩
  next =>
    have := @getElem?_captured pre (x :: post) 0
    rwa [shape] at this
  next =>
    have := @getElem?_captured pre (x :: post) 1
    rwa [shape] at this

theorem stampsFrom_brk {f r : Nat} (legal : Legal b (pre ++ .brk f r :: post)) (fuel : Nat) :
    stampsFrom (captured (pre ++ .brk f r :: post)) b (fuel + 1 + 1) (captured pre).length =
      (stampsFrom (captured (pre ++ .brk f r :: post)) b fuel (captured (pre ++ [.brk f r])).length).map
        ((Signal.brk f r).stamp :: ·) := by
  obtain ⟨next, -, -, broke, first, second, fall, rise⟩ := stampsFrom_fall legal
  obtain rfl := broke f r rfl
  have long : 2 * f + 19 * b ≤ 2 * r := legal.sound (.brk f r) (by simp)
  have bar : ((r : Int) - (f : Int)) * 2 ≥ 19 * (b : Int) := by omega
  have length : (captured (pre ++ [.brk f r])).length = (captured pre).length + 1 + 1 := by
    rw [captured_append, List.length_append]
    rfl
  have fall : (edgeOf (f, .low)).tick.toNat = f := fall
  have low : (edgeOf (f, .low)).level = .low := rfl
  have high : (edgeOf (r, .high)).level = .high := rfl
  rw [stampsFrom, show _ = some (edgeOf (f, .low)) from first]
  simp only [low, ne_eq, not_true_eq_false, if_false, second, fall, rise, bar, if_true]
  rw [stampsFrom, second]
  simp only [high, ne_eq, reduceCtorEq, not_false_eq_true, if_true, length]
  cases stampsFrom (captured (pre ++ .brk f r :: post)) b fuel ((captured pre).length + 1 + 1) <;> rfl

theorem stampsFrom_char (legal : Legal b (pre ++ .char c :: post)) (fuel : Nat) :
    ∃ run after, Signal.char c :: post = run ++ after ∧ run ≠ [] ∧
      stampsFrom (captured (pre ++ .char c :: post)) b (fuel + 1) (captured pre).length =
        (stampsFrom (captured (pre ++ .char c :: post)) b fuel (captured (pre ++ run)).length).map
          (run.map Signal.stamp ++ ·) := by
  obtain ⟨next, -, upTo, -, first, second, fall, rise⟩ := stampsFrom_fall legal
  have timed : c.Timed b := legal.sound (.char c) (by simp)
  have upTo : next.1 ≤ c.edge 9 := upTo
  have stops := timed.stops
  have bar : ¬ ((next.1 : Int) - (c.edge 0 : Int)) * 2 ≥ 19 * (b : Int) := by omega
  have most : post.length < (captured (pre ++ .char c :: post)).length := by
    have all := length_captured legal
    rw [List.length_append, List.length_cons] at all
    omega
  obtain ⟨run, last, after, split, stop, decoded⟩ := charStamps_run legal most
  have split : Signal.char c :: post = (run ++ [.char last]) ++ after := by simp [split]
  have regroup : pre ++ .char c :: post = (pre ++ (run ++ [.char last])) ++ after := by
    rw [split, ← List.append_assoc]
  have onward : Legal b ((pre ++ (run ++ [.char last])) ++ after) := by rw [← regroup]; exact legal
  have point : partitionPoint (fun e => e.tick.toNat < last.edge 0 + 10 * b) (captured (pre ++ .char c :: post)) =
      (captured (pre ++ (run ++ [.char last]))).length := by
    rw [regroup]
    refine partition_between onward ?_ (fun y head => by have := stop y head; omega)
    intro x member
    have before := @stops_before b (pre ++ run) after last (by simpa using onward) x (by simpa using member)
    omega
  refine ⟨run ++ [.char last], after, split, by simp, ?_⟩
  have fall : (edgeOf (c.edge 0, .low)).tick.toNat = c.edge 0 := fall
  have low : (edgeOf (c.edge 0, .low)).level = .low := rfl
  rw [stampsFrom, show _ = some (edgeOf (c.edge 0, .low)) from first]
  simp only [low, ne_eq, not_true_eq_false, if_false, second, fall, rise, bar, decoded,
    Option.bind_eq_bind, Option.bind_some, point]
  cases stampsFrom (captured (pre ++ .char c :: post)) b fuel (captured (pre ++ (run ++ [.char last]))).length <;> rfl

end Turn

theorem stampsFrom_traffic (n : Nat) (legal : Legal b (pre ++ post)) (few : post.length ≤ n) {fuel : Nat}
    (enough : (captured post).length ≤ fuel) :
    stampsFrom (captured (pre ++ post)) b fuel (captured pre).length = some (post.map Signal.stamp) := by
  induction n generalizing pre post fuel with
  | zero =>
    obtain rfl := List.length_eq_zero_iff.mp (Nat.le_zero.mp few)
    cases fuel <;> simp [stampsFrom]
  | succ n ih =>
    cases post with
    | nil => cases fuel <;> simp [stampsFrom]
    | cons x post =>
      cases x with
      | brk f r =>
        have regroup : pre ++ .brk f r :: post = (pre ++ [.brk f r]) ++ post := by simp
        have length : (captured (.brk f r :: post)).length = (captured post).length + 1 + 1 := rfl
        obtain ⟨fuel, rfl⟩ : ∃ m, fuel = m + 1 + 1 := ⟨fuel - 2, by omega⟩
        have rest : stampsFrom (captured (pre ++ .brk f r :: post)) b fuel (captured (pre ++ [.brk f r])).length =
            some (post.map Signal.stamp) := by
          rw [regroup] at legal ⊢
          exact ih legal (Nat.le_of_succ_le_succ few) (by omega)
        rw [stampsFrom_brk legal, rest]
        rfl
      | char c =>
        have starts := length_captured legal.right
        obtain ⟨fuel, rfl⟩ : ∃ m, fuel = m + 1 := ⟨fuel - 1, by rw [List.length_cons] at starts; omega⟩
        obtain ⟨run, after, split, nonempty, turn⟩ := stampsFrom_char legal fuel
        have regroup : pre ++ .char c :: post = (pre ++ run) ++ after := by rw [split, List.append_assoc]
        have onward : Legal b ((pre ++ run) ++ after) := by rw [← regroup]; exact legal
        have taken := List.length_pos_iff.mpr nonempty
        have edges := length_captured onward.left.right
        have rest : stampsFrom (captured (pre ++ .char c :: post)) b fuel (captured (pre ++ run)).length =
            some (after.map Signal.stamp) := by
          rw [regroup]
          rw [split, captured_append, List.length_append] at enough
          rw [split, List.length_append] at few
          exact ih onward (by omega) (by omega)
        rw [turn, rest, split, List.map_append]
        rfl

/-- Whatever breaks and characters the wire carries, at whatever pace within half a bit their talkers keep, the bench
reads all of them and nothing else, at the ticks at which they fell. -/
theorem stampsFromEdges_traffic (bitTicks : UInt32) {traffic : List Signal} (legal : Legal bitTicks.toNat traffic) :
    stampsFromEdges (captured traffic) bitTicks = some (traffic.map Signal.stamp) :=
  @stampsFrom_traffic bitTicks.toNat [] traffic traffic.length legal (Nat.le_refl _) _ (Nat.le_refl _)

/-- A talker that keeps one pitch: its clock may be off by one part in eighteen. -/
def Character.paced (byte : UInt8) (start bit : Nat) : Character :=
  ⟨byte, fun k => start + k * bit⟩

theorem Character.paced_timed (byte : UInt8) (start : Nat) {bit : Nat} (fast : 17 * b < 18 * bit)
    (slow : 9 * bit < 19 * b / 2) : (Character.paced byte start bit).Timed b where
  starts := by simp [Character.paced]
  sampled := by
    intro k few
    simp only [Character.paced]
    constructor
    next => interval_cases k <;> omega
    next => interval_cases k <;> omega
  stops := by
    simp only [Character.paced]
    omega

theorem stampsFromEdges_traffic_zero :
    stampsFromEdges (captured [.brk 1000 1180, .char (.paced 0x00 1216 18), .char (.paced 0xA5 1398 18), .brk 1700 1882])
      18 = some [⟨1000, 0, 2⟩, ⟨1216, 0, 0⟩, ⟨1398, 0xA5, 0⟩, ⟨1700, 0, 2⟩] := by
  have timed (byte : UInt8) (start : Nat) : (Character.paced byte start 18).Timed 18 :=
    Character.paced_timed byte start (by decide) (by decide)
  refine @stampsFromEdges_traffic 18
    [.brk 1000 1180, .char (.paced 0x00 1216 18), .char (.paced 0xA5 1398 18), .brk 1700 1882]
    ⟨?_, ?_, ?_⟩
  next => simp [Signal.Sound, timed]
  next => simp [Signal.Apart, Signal.start, Character.paced]
  next => simp [Signal.stop, Character.paced]

end Decode

end OpenServo.Bench
