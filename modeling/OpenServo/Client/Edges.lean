import OpenServo.Client.Wire
import Mathlib.Algebra.Ring.Nat
import Mathlib.Data.List.Chain
import Mathlib.Data.List.TakeWhile

set_option autoImplicit false

namespace OpenServo.Client

/-- The edges of one polarity, of edges that alternate from `lead` on. -/
def side (want : Level) : Level → List Nat → List Nat
  | _, [] => []
  | lead, e :: es => if lead = want then e :: side want lead.other es else side want lead.other es

def wire : Level → List Nat → List WireEdge
  | _, [] => []
  | lead, e :: es => ⟨.ofNat e, lead⟩ :: wire lead.other es

def Rings.of (es : List Nat) : Rings :=
  ⟨side .low .low es, side .high .low es⟩

def Spaced (es : List Nat) : Prop :=
  es.IsChain fun a b => a ≤ b ∧ b < a + 2 ^ 16

section Ticks

def Near (prev : UInt32) (e : Nat) : Prop :=
  (UInt32.ofNat e - prev).toNat < 2 ^ 16

theorem compose_near (now : UInt32) {prev : UInt32} {e : Nat} (near : Near prev e) :
    compose now (some prev) (UInt16.ofNat e) = UInt32.ofNat e := by
  have bound := prev.toNat_lt
  unfold Near at near
  rw [UInt32.toNat_sub, UInt32.toNat_ofNat'] at near
  apply UInt32.toNat_inj.mp
  simp only [compose, UInt32.toNat_add, UInt16.toNat_toUInt32, UInt16.toNat_sub, UInt16.toNat_ofNat',
    UInt32.toNat_toUInt16, UInt32.toNat_ofNat']
  omega

theorem compose_seed {now e : Nat} (behind : e ≤ now) (near : now < e + 2 ^ 16) :
    compose (UInt32.ofNat now) none (UInt16.ofNat e) = UInt32.ofNat e := by
  apply UInt32.toNat_inj.mp
  simp only [compose, UInt32.toNat_sub, UInt16.toNat_toUInt32, UInt16.toNat_sub, UInt16.toNat_ofNat',
    UInt32.toNat_toUInt16, UInt32.toNat_ofNat']
  omega

theorem near_of_le {prev e : Nat} (behind : prev ≤ e) (close : e < prev + 2 ^ 16) : Near (UInt32.ofNat prev) e := by
  unfold Near
  rw [UInt32.toNat_sub, UInt32.toNat_ofNat', UInt32.toNat_ofNat']
  omega

@[reducible] def floorOf (now : Nat) : UInt32 :=
  UInt32.ofNat now - anchorGuard

theorem near_floor {now e : Nat} (ahead : now ≤ e + 4096) (close : e + 4096 < now + 2 ^ 16) : Near (floorOf now) e := by
  unfold Near floorOf
  rw [UInt32.toNat_sub, UInt32.toNat_sub, UInt32.toNat_ofNat', UInt32.toNat_ofNat',
    show anchorGuard.toNat = 4096 from rfl]
  omega

theorem near_raised {prev : UInt32} {now e : Nat} (near : Near prev e) (ahead : now ≤ e + 4096)
    (close : e < now + 2 ^ 16) (raised : floorOf now - prev < 0xFFFFFFFF / 2) : Near (floorOf now) e := by
  have bound := prev.toNat_lt
  have half : ((0xFFFFFFFF / 2 : UInt32)).toNat = 2147483647 := rfl
  rw [UInt32.lt_iff_toNat_lt, half] at raised
  unfold Near floorOf at *
  simp only [UInt32.toNat_sub, UInt32.toNat_ofNat', show anchorGuard.toNat = 4096 from rfl] at *
  omega

theorem floor_raised {prev now : Nat} (later : prev ≤ now) (soon : now < prev + (2 ^ 31 - 1)) :
    floorOf now - floorOf prev < 0xFFFFFFFF / 2 := by
  have half : ((0xFFFFFFFF / 2 : UInt32)).toNat = 2147483647 := rfl
  rw [UInt32.lt_iff_toNat_lt, half]
  unfold floorOf
  simp only [UInt32.toNat_sub, UInt32.toNat_ofNat', show anchorGuard.toNat = 4096 from rfl]
  omega

end Ticks

section Merge

/-- The falls at hand reach as far as the rises. -/
def Balanced : Level → Nat → Nat → Prop
  | .low, p, q => q ≤ p
  | .high, p, q => q ≤ p + 1

def Starts : Level → Nat → Nat → Prop
  | .low, p, _ => 0 < p
  | .high, _, q => 0 < q

/-- What a merge makes of the next `p` falls and `q` rises of the edges `es`. -/
structure Merged (anchor : Option UInt32) (lead : Level) (es : List Nat) (p q : Nat)
    (result : List WireEdge × EdgeAnchor) (done rest : List Nat) (kept : Nat) : Prop where
  edges : es = done ++ rest
  out : result.1 = wire lead done
  wires : wire lead es = wire lead done ++ wire result.2.lead rest
  tick : result.2.tick = (done.getLast?.map UInt32.ofNat).or anchor
  carry : result.2.carry = ((side .low result.2.lead rest).take kept).map .ofNat
  falls : (side .low lead es).drop p = (side .low result.2.lead rest).drop kept
  rises : (side .high lead es).drop q = side .high result.2.lead rest
  due : result.2.lead = .low → kept = 0
  taken : ∀ e ∈ done, e ∈ (side .low lead es).take p ∨ e ∈ (side .high lead es).take q
  held : ∀ e ∈ (side .low result.2.lead rest).take kept, e ∈ (side .low lead es).take p
  stuck : done = [] → es = [] ∨ ¬ Starts lead p q

theorem merge_stop (now : UInt32) (anchor : Option UInt32) (falls : List UInt16) :
    merge now anchor .high falls [] = ([], ⟨anchor, .high, falls⟩) := by
  rw [merge]
  simp

theorem merge_dry (now : UInt32) (anchor : Option UInt32) (lead : Level) :
    merge now anchor lead [] [] = ([], ⟨anchor, lead, []⟩) := by
  cases lead <;> rw [merge] <;> simp

theorem merge_fall (now : UInt32) (anchor : Option UInt32) (t : UInt16) (falls rises : List UInt16) :
    merge now anchor .low (t :: falls) rises =
      (⟨compose now anchor t, .low⟩ :: (merge now (some (compose now anchor t)) .high falls rises).1,
        (merge now (some (compose now anchor t)) .high falls rises).2) := by
  rw [merge]

theorem merge_rise (now : UInt32) (anchor : Option UInt32) (t : UInt16) (falls rises : List UInt16) :
    merge now anchor .high falls (t :: rises) =
      (⟨compose now anchor t, .high⟩ :: (merge now (some (compose now anchor t)) .low falls rises).1,
        (merge now (some (compose now anchor t)) .low falls rises).2) := by
  rw [merge]
  simp

variable {now : UInt32} {anchor : Option UInt32} {lead : Level} {es : List Nat} {p q : Nat}

theorem Merged.stop (kept : Nat) (idle : es = [] ∨ ¬ Starts lead p q) (due : lead = .low → kept = 0)
    (falls : (side .low lead es).drop p = (side .low lead es).drop kept)
    (rises : (side .high lead es).drop q = side .high lead es)
    (held : ∀ e ∈ (side .low lead es).take kept, e ∈ (side .low lead es).take p) :
    Merged anchor lead es p q ([], ⟨anchor, lead, ((side .low lead es).take kept).map .ofNat⟩) [] es kept where
  edges := rfl
  out := rfl
  wires := rfl
  tick := rfl
  carry := rfl
  falls := falls
  rises := rises
  due := due
  taken := by simp
  held := held
  stuck := fun _ => idle

theorem places_next {e : Nat} (spaced : Spaced (e :: es)) :
    ∀ e' ∈ es.head?, compose now (some (UInt32.ofNat e)) (UInt16.ofNat e') = UInt32.ofNat e' := by
  intro e' head
  obtain ⟨rest, rfl⟩ : ∃ rest, es = e' :: rest := by
    cases es with
    | nil => cases head
    | cons first rest => exact ⟨rest, by rw [Option.mem_some_iff.mp head]⟩
  have gap := (List.isChain_cons_cons.mp spaced).1
  exact compose_near now (near_of_le gap.1 gap.2)

theorem getLast?_cons_or {e : Nat} {done : List Nat} :
    ((e :: done).getLast?.map UInt32.ofNat).or anchor =
      (done.getLast?.map UInt32.ofNat).or (some (UInt32.ofNat e)) := by
  cases done with
  | nil => rfl
  | cons first rest => rw [List.getLast?_cons_cons, List.getLast?_cons]; rfl

theorem Merged.cons {e p' q' : Nat} {result : List WireEdge × EdgeAnchor} {done rest : List Nat} {kept : Nat}
    (merged : Merged (some (UInt32.ofNat e)) lead.other es p q result done rest kept)
    (falls : (side .low lead (e :: es)).drop p' = (side .low lead.other es).drop p)
    (rises : (side .high lead (e :: es)).drop q' = (side .high lead.other es).drop q)
    (low : (side .low lead.other es).take p ⊆ (side .low lead (e :: es)).take p')
    (high : (side .high lead.other es).take q ⊆ (side .high lead (e :: es)).take q')
    (first : e ∈ (side .low lead (e :: es)).take p' ∨ e ∈ (side .high lead (e :: es)).take q') :
    Merged anchor lead (e :: es) p' q' (⟨UInt32.ofNat e, lead⟩ :: result.1, result.2) (e :: done) rest kept where
  edges := congrArg (e :: ·) merged.edges
  out := congrArg (WireEdge.mk (UInt32.ofNat e) lead :: ·) merged.out
  wires := congrArg (WireEdge.mk (UInt32.ofNat e) lead :: ·) merged.wires
  tick := merged.tick.trans getLast?_cons_or.symm
  carry := merged.carry
  falls := falls.trans merged.falls
  rises := rises.trans merged.rises
  due := merged.due
  taken := by
    intro x member
    rcases List.mem_cons.mp member with rfl | later
    next => exact first
    next =>
      rcases merged.taken x later with fall | rise
      next => exact .inl (low fall)
      next => exact .inr (high rise)
  held := fun x member => low (merged.held x member)
  stuck := fun none => by cases none

theorem merge_merged (spaced : Spaced es) (balanced : Balanced lead p q)
    (places : Starts lead p q → ∀ e ∈ es.head?, compose now anchor (UInt16.ofNat e) = UInt32.ofNat e) :
    ∃ done rest kept, Merged anchor lead es p q
      (merge now anchor lead (((side .low lead es).take p).map .ofNat) (((side .high lead es).take q).map .ofNat))
      done rest kept := by
  -- On the edges of the wire: falls and rises take turns, each out of its own ring.
  induction es generalizing lead anchor p q with
  | nil =>
    refine ⟨[], [], 0, ?_⟩
    simp only [side, List.take_nil, List.map_nil]
    rw [merge_dry]
    exact .stop 0 (.inl rfl) (fun _ => rfl) (by simp [side]) (by simp [side]) (by simp)
  | cons e es ih =>
    have tail : Spaced es := List.IsChain.of_cons spaced
    cases lead with
    | low =>
      cases p with
      | zero =>
        obtain rfl : q = 0 := Nat.le_zero.mp balanced
        refine ⟨[], e :: es, 0, ?_⟩
        simp only [List.take_zero, List.map_nil]
        rw [merge_dry]
        exact .stop 0 (.inr (Nat.lt_irrefl 0)) (fun _ => rfl) rfl (by simp) (by simp)
      | succ p =>
        have placed := places (Nat.succ_pos p) e rfl
        obtain ⟨done, rest, kept, merged⟩ :=
          @ih (some (UInt32.ofNat e)) .high p q tail balanced (fun _ => places_next spaced)
        refine ⟨e :: done, rest, kept, ?_⟩
        simp only [side, if_true, reduceCtorEq, if_false, List.take_succ_cons, List.map_cons]
        rw [merge_fall, placed]
        exact merged.cons (by simp [side, Level.other]) (by simp [side, Level.other]) (by simp [side, Level.other])
          (by simp [side, Level.other]) (by simp [side])
    | high =>
      cases q with
      | zero =>
        refine ⟨[], e :: es, p, ?_⟩
        simp only [List.take_zero, List.map_nil]
        rw [merge_stop]
        exact .stop p (.inr (Nat.lt_irrefl 0)) (fun due => by cases due) rfl (by simp) (fun _ member => member)
      | succ q =>
        have placed := places (Nat.succ_pos q) e rfl
        obtain ⟨done, rest, kept, merged⟩ :=
          @ih (some (UInt32.ofNat e)) .low p q tail (Nat.le_of_succ_le_succ balanced) (fun _ => places_next spaced)
        refine ⟨e :: done, rest, kept, ?_⟩
        simp only [side, if_true, reduceCtorEq, if_false, List.take_succ_cons, List.map_cons]
        rw [merge_rise, placed]
        exact merged.cons (by simp [side, Level.other]) (by simp [side, Level.other]) (by simp [side, Level.other])
          (by simp [side, Level.other]) (by simp [side])

end Merge

section Drains

variable {es : List Nat} {lead : Level}

def atHand (pending : List Nat) (time cap : Nat) : Nat :=
  min cap (pending.takeWhile (· ≤ time)).length

theorem take_takeWhile (pending : List Nat) (time cap : Nat) :
    (pending.takeWhile (· ≤ time)).take cap = pending.take (atHand pending time cap) := by
  have front := List.prefix_iff_eq_take.mp (List.takeWhile_prefix (fun e => decide (e ≤ time)) (l := pending))
  rw [atHand, ← List.take_take, ← front]

theorem drainRing_eq (pending : List Nat) (time cap : Nat) :
    drainRing pending time cap =
      (pending.take (atHand pending time cap), pending.drop (atHand pending time cap)) := by
  have within : atHand pending time cap ≤ pending.length :=
    Nat.le_trans (Nat.min_le_right _ _) (List.takeWhile_prefix _).length_le
  simp only [drainRing, take_takeWhile, List.length_take, Nat.min_eq_left within]

theorem le_of_atHand {pending : List Nat} {time cap e : Nat} (member : e ∈ pending.take (atHand pending time cap)) :
    e ≤ time := by
  rw [← take_takeWhile] at member
  have captured := List.mem_takeWhile_imp (List.mem_of_mem_take member)
  simpa using captured

theorem atHand_pos {pending : List Nat} {time cap e : Nat} (room : 0 < cap) :
    0 < atHand (e :: pending) time cap ↔ e ≤ time := by
  rw [atHand, List.takeWhile_cons]
  split
  next captured =>
    rw [List.length_cons]
    exact ⟨fun _ => by simpa using captured, fun _ => by omega⟩
  next not =>
    rw [List.length_nil, Nat.min_zero]
    exact ⟨fun some => by omega, fun captured => absurd (by simpa using captured) not⟩

/-- A fall goes before each rise, so by a later time as many falls are captured. -/
theorem captured_balanced (spaced : Spaced es) {first second : Nat} (later : first ≤ second) :
    ((side .high lead es).takeWhile (· ≤ first)).length ≤
      ((side .low lead es).takeWhile (· ≤ second)).length + if lead = .high then 1 else 0 := by
  induction es generalizing lead with
  | nil => simp [side]
  | cons e es ih =>
    have tail := List.IsChain.of_cons spaced
    cases lead with
    | high =>
      have rest := @ih .low tail
      simp only [side, if_true, reduceCtorEq, if_false, Level.other] at rest ⊢
      rw [List.takeWhile_cons]
      split
      next =>
        rw [List.length_cons]
        omega
      next => simp
    | low =>
      have rest := @ih .high tail
      simp only [side, if_true, reduceCtorEq, if_false, Level.other] at rest ⊢
      by_cases captured : e ≤ second
      next =>
        rw [List.takeWhile_cons_of_pos (by simpa using captured), List.length_cons]
        omega
      next =>
        -- No rise after that fall is captured either.
        have none : (side .high .high es).takeWhile (· ≤ first) = [] := by
          cases es with
          | nil => rfl
          | cons r es =>
            have gap := (List.isChain_cons_cons.mp spaced).1
            simp only [side, if_true]
            exact List.takeWhile_cons_of_neg (by simp; omega)
        rw [none]
        exact Nat.zero_le _

/-- What is not put out yet: `kept` falls are carried, behind a rise, and the rest is in the rings. -/
structure Pends (es : List Nat) (kept clock : Nat) (rings : Rings) (anchor : EdgeAnchor) : Prop where
  carry : anchor.carry = ((side .low anchor.lead es).take kept).map .ofNat
  falls : rings.falls = (side .low anchor.lead es).drop kept
  rises : rings.rises = side .high anchor.lead es
  due : anchor.lead = .low → kept = 0
  held : ∀ e ∈ (side .low anchor.lead es).take kept, e ≤ clock

/-- A drain after `clock`: a ring at a time, and no longer than the guard from the first to `now`. -/
structure Drain.After (d : Drain) (clock : Nat) : Prop where
  room : 0 < d.max.toNat
  start : clock ≤ d.rises
  order : d.rises ≤ d.falls
  latched : d.falls ≤ d.now
  guarded : d.now ≤ d.rises + 4096

def lifted (now : Nat) (idle : Bool) (tick : Option UInt32) : Option UInt32 :=
  if idle && tick.all (fun prev => floorOf now - prev < 0xFFFFFFFF / 2) then some (floorOf now) else tick

structure Drained (es : List Nat) (d : Drain) (anchor : EdgeAnchor) (out : List WireEdge) (left : EdgeAnchor)
    (done rest : List Nat) : Prop where
  edges : es = done ++ rest
  out : out = wire anchor.lead done
  wires : wire anchor.lead es = wire anchor.lead done ++ wire left.lead rest
  seen : ∀ e ∈ done, e ≤ d.falls
  ticked : done ≠ [] → left.tick = done.getLast?.map UInt32.ofNat
  idle : done = [] → left.tick = lifted d.now left.carry.isEmpty anchor.tick
  ahead : done = [] → ∀ e ∈ es.head?, if anchor.lead = .low then d.falls < e else d.rises < e

theorem wire_isEmpty (lead : Level) (es : List Nat) : (wire lead es).isEmpty = es.isEmpty := by
  cases es <;> rfl

theorem unwrapDrain_eq {anchor left : EdgeAnchor} {now : Nat} {falls rises : List UInt16} {out : List WireEdge}
    (merged : merge (.ofNat now) anchor.tick anchor.lead (anchor.carry ++ falls) rises = (out, left)) :
    unwrapDrain anchor (.ofNat now) falls rises =
      (out, { left with tick := lifted now (out.isEmpty && left.carry.isEmpty) left.tick }) := by
  simp only [unwrapDrain, merged, lifted, floorOf]
  cases out.isEmpty && left.carry.isEmpty with
  | false => rfl
  | true =>
    simp only [Bool.true_and]
    cases left.tick.all fun prev => floorOf now - prev < 0xFFFFFFFF / 2 <;> rfl

theorem takeWhile_drop_length (pending : List Nat) (time kept : Nat) :
    (pending.takeWhile (· ≤ time)).length ≤ kept + ((pending.drop kept).takeWhile (· ≤ time)).length := by
  induction kept generalizing pending with
  | zero => simp
  | succ kept ih =>
    cases pending with
    | nil => simp
    | cons e pending =>
      have rest := ih pending
      rw [List.drop_succ_cons, List.takeWhile_cons]
      split
      next =>
        rw [List.length_cons]
        omega
      next => exact Nat.zero_le _

section Drain

variable {d : Drain} {clock kept cap : Nat}

theorem atHand_balanced (spaced : Spaced es) (due : lead = .low → kept = 0) (order : d.rises ≤ d.falls) :
    Balanced lead (kept + atHand ((side .low lead es).drop kept) d.falls cap)
      (atHand (side .high lead es) d.rises cap) := by
  have balanced := @captured_balanced es lead spaced d.rises d.falls order
  have behind := takeWhile_drop_length (side .low lead es) d.falls kept
  simp only [atHand]
  cases lead with
  | low =>
    simp only [reduceCtorEq, if_false] at balanced
    show _ ≤ _
    omega
  | high =>
    simp only [if_true] at balanced
    show _ ≤ _ + 1
    omega

theorem starts_iff {e : Nat} (room : 0 < cap) (due : lead = .low → kept = 0) :
    Starts lead (kept + atHand ((side .low lead (e :: es)).drop kept) d.falls cap)
      (atHand (side .high lead (e :: es)) d.rises cap) ↔ if lead = .low then e ≤ d.falls else e ≤ d.rises := by
  cases lead with
  | low =>
    obtain rfl := due rfl
    simp only [Starts, Nat.zero_add, List.drop_zero, side, if_true]
    exact atHand_pos room
  | high =>
    simp only [Starts, side, if_true, reduceCtorEq, if_false]
    exact atHand_pos room

end Drain

theorem drain_drained {d : Drain} {clock kept : Nat} {rings : Rings} {anchor : EdgeAnchor} (spaced : Spaced es)
    (pends : Pends es kept clock rings anchor) (later : d.After clock)
    (places : ∀ e ∈ es.head?, e ≤ d.falls → compose (.ofNat d.now) anchor.tick (.ofNat e) = .ofNat e) :
    ∃ record rings' out left done rest held, edgeDrain rings d = (record, rings') ∧
      unwrapDrain anchor record.now record.falls record.rises = (out, left) ∧
        Drained es d anchor out left done rest ∧ Pends rest held d.now rings' left := by
  have room : 0 < min d.max.toNat drainMax := Nat.lt_min.mpr ⟨later.room, by decide⟩
  obtain ⟨start, order, latched⟩ : clock ≤ d.falls ∧ d.rises ≤ d.falls ∧ d.falls ≤ d.now :=
    ⟨later.start.trans later.order, later.order, later.latched⟩
  simp only [edgeDrain, drainRing_eq, pends.falls, pends.rises]
  generalize min d.max.toNat drainMax = cap at *
  generalize p_def : atHand ((side .low anchor.lead es).drop kept) d.falls cap = p
  generalize q_def : atHand (side .high anchor.lead es) d.rises cap = q
  have starts : ∀ e ∈ es.head?,
      (Starts anchor.lead (kept + p) q ↔ if anchor.lead = .low then e ≤ d.falls else e ≤ d.rises) := by
    intro e head
    cases es with
    | nil => cases head
    | cons first es =>
      obtain rfl := Option.some.inj head
      rw [← p_def, ← q_def]
      exact starts_iff room pends.due
  have balanced : Balanced anchor.lead (kept + p) q := by
    rw [← p_def, ← q_def]
    exact atHand_balanced spaced pends.due order
  -- Only the first edge of a merge is composed against what came before, and only if it is at hand.
  obtain ⟨done, rest, held, merged⟩ := @merge_merged (.ofNat d.now) anchor.tick _ _ _ _ spaced balanced
    (by
      intro begins e head
      have captured := (starts e head).mp begins
      refine places e head ?_
      split at captured <;> omega)
  have taken : ∀ e ∈ (side .low anchor.lead es).take (kept + p), e ≤ d.falls := by
    intro e member
    rw [List.take_add] at member
    rcases List.mem_append.mp member with old | new
    next => exact (pends.held e old).trans start
    next =>
      rw [← p_def] at new
      exact le_of_atHand new
  generalize result : merge _ _ _ _ _ = both at merged
  obtain ⟨out, left⟩ := both
  rw [List.take_add, List.map_append, ← pends.carry] at result
  have unwrapped := unwrapDrain_eq result
  refine ⟨_, _, out, _, done, rest, held, rfl, unwrapped, ?_, ?_⟩
  next =>
    refine ⟨merged.edges, merged.out, merged.wires, ?_, ?_, ?_, ?_⟩
    next =>
      intro e member
      rcases merged.taken e member with fall | rise
      next => exact taken e fall
      next =>
        rw [← q_def] at rise
        exact (le_of_atHand rise).trans order
    next =>
      intro some
      have quiet : out.isEmpty = false := by
        rw [show out = wire anchor.lead done from merged.out, wire_isEmpty, List.isEmpty_eq_false_iff]
        exact some
      have last : done.getLast?.isSome := by
        rw [List.getLast?_isSome]
        exact some
      obtain ⟨e, last⟩ := Option.isSome_iff_exists.mp last
      show lifted _ (out.isEmpty && _) left.tick = _
      rw [quiet, merged.tick, last]
      rfl
    next =>
      intro none
      have quiet : out = [] := by
        rw [show out = wire anchor.lead done from merged.out, none]
        rfl
      show lifted _ (out.isEmpty && _) left.tick = _
      rw [quiet, merged.tick, none]
      rfl
    next =>
      intro none e head
      rcases merged.stuck none with empty | idle
      next => simp [empty] at head
      next =>
        rw [starts e head] at idle
        split at idle
        next low => rw [if_pos low]; omega
        next high => rw [if_neg high]; omega
  next =>
    refine ⟨merged.carry, ?_, ?_, merged.due, ?_⟩
    next =>
      show ((side .low anchor.lead es).drop kept).drop p = _
      rw [List.drop_drop, merged.falls]
    next => exact merged.rises
    next => exact fun e member => (taken e (merged.held e member)).trans latched

def Aimed (es : List Nat) (clock : Nat) (tick : Option UInt32) : Prop :=
  ∀ e ∈ es.head?, ∃ prev, tick = some prev ∧ Near prev e ∧ e < clock + 2 ^ 16

variable {d : Drain} {clock : Nat} {anchor left : EdgeAnchor} {out : List WireEdge} {done rest : List Nat}

theorem Drained.aimed (drained : Drained es d anchor out left done rest) (spaced : Spaced es) (later : d.After clock)
    (some : done ≠ []) : Aimed rest d.now left.tick := by
  intro e head
  obtain ⟨front, last, rfl⟩ : ∃ front last, done = front ++ [last] :=
    ⟨done.dropLast, done.getLast some, (List.dropLast_append_getLast some).symm⟩
  obtain ⟨behind, rfl⟩ : ∃ behind, rest = e :: behind := by
    cases rest with
    | nil => cases head
    | cons first behind => exact ⟨behind, by rw [Option.some.inj head]⟩
  have seen := drained.seen last (by simp)
  have latched := later.latched
  have gap : last ≤ e ∧ e < last + 2 ^ 16 := by
    rw [drained.edges, List.append_assoc] at spaced
    exact (List.isChain_cons_cons.mp (List.IsChain.right_of_append spaced)).1
  refine ⟨UInt32.ofNat last, ?_, near_of_le gap.1 gap.2, by omega⟩
  rw [drained.ticked some, List.getLast?_concat]
  rfl

theorem Drained.aimed_idle (drained : Drained es d anchor out left [] rest) (later : d.After clock)
    (aimed : Aimed es clock anchor.tick) : Aimed rest d.now left.tick := by
  obtain rfl : es = rest := drained.edges
  intro e head
  obtain ⟨prev, tick, near, close⟩ := aimed e head
  have ahead := drained.ahead rfl e head
  have order := later.order
  have guarded := later.guarded
  have start := later.start
  have latched := later.latched
  have behind : d.now ≤ e + 4096 := by
    split at ahead <;> omega
  rw [drained.idle rfl, lifted, tick]
  split
  next raised =>
    have raised := (Bool.and_eq_true_iff.mp raised).2
    simp only [Option.all_some, decide_eq_true_eq] at raised
    exact ⟨_, rfl, near_raised near behind (by omega) raised, by omega⟩
  next => exact ⟨prev, rfl, near, by omega⟩

def Scheduled : Nat → List Drain → Prop
  | _, [] => True
  | clock, d :: ds => d.After clock ∧ Scheduled d.now ds

def Leaves (lead : Level) (es : List Nat) (run : List WireEdge × Rings × EdgeAnchor) : Prop :=
  ∃ rest kept clock, wire lead es = run.1 ++ wire run.2.2.lead rest ∧ Pends rest kept clock run.2.1 run.2.2

theorem Drained.leaves {ds : List Drain} {record : EdgesRecord} {rings rings' : Rings}
    (drained : edgeDrain rings d = (record, rings'))
    (unwrapped : unwrapDrain anchor record.now record.falls record.rises = (out, left))
    (facts : Drained es d anchor out left done rest) (later : Leaves left.lead rest (drainEdges rings' left ds)) :
    Leaves anchor.lead es (drainEdges rings anchor (d :: ds)) := by
  obtain ⟨last, kept, clock, wires, pends⟩ := later
  refine ⟨last, kept, clock, ?_, ?_⟩
  next =>
    simp only [drainEdges, drained, unwrapped]
    rw [facts.wires, wires, facts.out, List.append_assoc]
  next =>
    simp only [drainEdges, drained, unwrapped]
    exact pends

theorem Drained.tail (facts : Drained es d anchor out left done rest) (spaced : Spaced es) : Spaced rest := by
  rw [facts.edges] at spaced
  exact List.IsChain.right_of_append spaced

theorem drainEdges_leaves {ds : List Drain} {kept : Nat} {rings : Rings} (spaced : Spaced es)
    (pends : Pends es kept clock rings anchor) (aimed : Aimed es clock anchor.tick) (scheduled : Scheduled clock ds) :
    Leaves anchor.lead es (drainEdges rings anchor ds) := by
  induction ds generalizing es clock kept rings anchor with
  | nil => exact ⟨es, kept, clock, rfl, pends⟩
  | cons d ds ih =>
    obtain ⟨later, scheduled⟩ := scheduled
    obtain ⟨record, rings', out, left, done, rest, held, drained, unwrapped, facts, pending⟩ :=
      drain_drained spaced pends later (by
        intro e head _
        obtain ⟨prev, tick, near, -⟩ := aimed e head
        rw [tick]
        exact compose_near _ near)
    have next : Aimed rest d.now left.tick := by
      by_cases none : done = []
      next =>
        subst none
        exact facts.aimed_idle later aimed
      next => exact facts.aimed spaced later none
    exact facts.leaves drained unwrapped (ih (facts.tail spaced) pending next scheduled)

theorem drainEdges_before (prior : Option Nat) (Frequent : Prop) {before ds : List Drain} {e : Nat} {rings : Rings}
    (spaced : Spaced (e :: es)) (pends : Pends (e :: es) 0 clock rings anchor) (low : anchor.lead = .low)
    (early : ∀ b ∈ before, b.falls < e) (scheduled : Scheduled clock (before ++ ds))
    (known : ∀ n ∈ prior, n ≤ clock ∧ n ≤ e + 4096) (tick : Frequent → anchor.tick = prior.map floorOf)
    (frequent : Frequent → (prior.toList ++ before.map Drain.now).IsChain fun a b => b < a + (2 ^ 31 - 1)) :
    ∃ rings' left clock', drainEdges rings anchor (before ++ ds) = drainEdges rings' left ds ∧
      Pends (e :: es) 0 clock' rings' left ∧ left.lead = .low ∧ Scheduled clock' ds ∧
        (∀ n ∈ (prior.toList ++ before.map Drain.now).getLast?, n ≤ e + 4096) ∧
          (Frequent → left.tick = ((prior.toList ++ before.map Drain.now).getLast?).map floorOf) := by
  -- On the drains ahead of the edge: each is idle, and lifts the anchor to its own floor.
  induction before generalizing clock rings anchor prior with
  | nil =>
    have same : (prior.toList ++ ([] : List Drain).map Drain.now).getLast? = prior := by
      cases prior <;> rfl
    rw [same]
    exact ⟨rings, anchor, clock, rfl, pends, low, scheduled, fun n prior => (known n prior).2, tick⟩
  | cons b before ih =>
    obtain ⟨later, scheduled⟩ := scheduled
    have first : b.falls < e := early b (by simp)
    have passed : clock ≤ b.now := later.start.trans (later.order.trans later.latched)
    have behind : b.now ≤ e + 4096 := by
      have order := later.order
      have guarded := later.guarded
      omega
    obtain ⟨record, rings', out, left, done, rest, held, drained, unwrapped, facts, pending⟩ :=
      drain_drained spaced pends later (by
        intro head same captured
        obtain rfl := Option.some.inj same
        omega)
    obtain rfl : done = [] := by
      cases done with
      | nil => rfl
      | cons head done =>
        obtain ⟨rfl, -⟩ := List.cons.inj facts.edges
        have seen := facts.seen e (by simp)
        omega
    obtain rfl : e :: es = rest := facts.edges
    have same : left.lead = .low := by
      have wires := facts.wires
      rw [low] at wires
      exact (congrArg WireEdge.level (List.cons.inj wires).1).symm
    obtain rfl := pending.due same
    have empty : left.carry.isEmpty = true := by
      rw [pending.carry]
      rfl
    have quiet : drainEdges rings anchor (b :: before ++ ds) = drainEdges rings' left (before ++ ds) := by
      rw [List.cons_append, drainEdges]
      simp only [drained, unwrapped]
      rw [facts.out]
      rfl
    have lifts : Frequent → left.tick = some (floorOf b.now) := by
      intro often
      have chain := frequent often
      rw [facts.idle rfl, empty, tick often, lifted]
      cases prior with
      | none => rfl
      | some n =>
        have soon := (List.isChain_cons_cons.mp chain).1
        have raised := floor_raised ((known n rfl).1.trans passed) soon
        simp only [Option.map_some, Option.all_some, raised, decide_true, Bool.and_self, if_true]
    have last : (prior.toList ++ (b :: before).map Drain.now).getLast? =
        ((some b.now).toList ++ before.map Drain.now).getLast? := by
      rw [List.map_cons, List.getLast?_append_of_ne_nil _ (List.cons_ne_nil _ _)]
      rfl
    rw [quiet, last]
    refine ih (some b.now) pending same (fun b member => early b (by simp [member])) scheduled ?_ lifts ?_
    next =>
      intro n now
      rw [← Option.some.inj now]
      exact ⟨Nat.le_refl _, behind⟩
    next => exact fun often => List.IsChain.right_of_append (frequent often)

theorem Rings.of_pends (es : List Nat) : Pends es 0 0 (.of es) {} where
  carry := rfl
  falls := rfl
  rises := rfl
  due := fun _ => rfl
  held := by simp

end Drains

/-- The drain that takes the first edge follows it by less than a wrap, or, where other drains went before it, the
last of these came less than a wrap, less the guard, before the edge, and none long after another. -/
def Anchored (es : List Nat) (ds : List Drain) : Prop :=
  ∀ e ∈ es.head?, ∀ before d after, ds = before ++ d :: after → (∀ b ∈ before, b.falls < e) → e ≤ d.falls →
    (before = [] → d.now < e + 2 ^ 16) ∧
      (∀ last ∈ (before.map Drain.now).getLast?, e + 4096 < last + 2 ^ 16) ∧
        (before.map Drain.now).IsChain fun a b => b < a + (2 ^ 31 - 1)

theorem drainEdges_of_leaves {es : List Nat} {ds : List Drain} (spaced : Spaced es) (scheduled : Scheduled 0 ds)
    (anchored : Anchored es ds) : Leaves .low es (drainEdges (.of es) {} ds) := by
  cases es with
  | nil => exact drainEdges_leaves spaced (Rings.of_pends []) (by simp [Aimed]) scheduled
  | cons e es =>
    let early : Drain → Bool := fun d => d.falls < e
    have split : ds.takeWhile early ++ ds.dropWhile early = ds := List.takeWhile_append_dropWhile
    have before : ∀ b ∈ ds.takeWhile early, b.falls < e :=
      fun b member => by simpa [early] using List.mem_takeWhile_imp member
    -- The drains before the first edge, the one that takes it, and those behind.
    cases behind : ds.dropWhile early with
    | nil =>
      rw [behind] at split
      rw [← split] at scheduled ⊢
      obtain ⟨rings, left, clock, same, pends, low, -, -, -⟩ :=
        drainEdges_before none False spaced (Rings.of_pends _) rfl before scheduled
          (by simp) (by simp) (by simp)
      rw [same]
      exact ⟨e :: es, 0, clock, by rw [drainEdges, low]; rfl, pends⟩
    | cons d after =>
      have taken : e ≤ d.falls := by
        have stop := List.head?_dropWhile_not early ds
        rw [behind] at stop
        simpa [early] using stop
      rw [behind] at split
      obtain ⟨seeded, near, often⟩ := anchored e rfl _ d after split.symm before taken
      rw [← split] at scheduled ⊢
      obtain ⟨rings, left, clock, same, pends, low, scheduled, passed, tick⟩ :=
        drainEdges_before none True spaced (Rings.of_pends _) rfl before scheduled
          (by simp) (fun _ => rfl) (fun _ => often)
      have tick : left.tick = ((ds.takeWhile early).map Drain.now).getLast?.map floorOf := tick trivial
      have passed : ∀ n ∈ ((ds.takeWhile early).map Drain.now).getLast?, n ≤ e + 4096 := passed
      obtain ⟨later, scheduled⟩ := scheduled
      have placed : compose (.ofNat d.now) left.tick (.ofNat e) = .ofNat e := by
        cases last : ((ds.takeWhile early).map Drain.now).getLast? with
        | none =>
          rw [tick, last]
          rw [List.getLast?_eq_none_iff, List.map_eq_nil_iff] at last
          exact compose_seed (taken.trans later.latched) (seeded last)
        | some n =>
          rw [tick, last]
          exact compose_near _ (near_floor (passed n last) (near n last))
      obtain ⟨record, rings', out, left', done, rest, held, drained, unwrapped, facts, pending⟩ :=
        drain_drained spaced pends later (by
          intro first head _
          rw [← Option.some.inj head]
          exact placed)
      have some : done ≠ [] := by
        intro none
        have ahead := facts.ahead none e rfl
        rw [if_pos low] at ahead
        omega
      rw [same, ← low]
      exact facts.leaves drained unwrapped
        (drainEdges_leaves (facts.tail spaced) pending (facts.aimed spaced later some) scheduled)

/-- The outputs of the drains are the edges of the wire, in their order and at their ticks. An edge that is not among
them is still in its ring, or it is a fall behind a rise that is; with both rings dry none is missing. -/
theorem edges_reconstructed {es : List Nat} {ds : List Drain} (spaced : Spaced es) (scheduled : Scheduled 0 ds)
    (anchored : Anchored es ds) {out : List WireEdge} {left : Rings} {anchor : EdgeAnchor}
    (run : drainEdges (.of es) {} ds = (out, left, anchor)) :
    (∃ rest, wire .low es = out ++ wire anchor.lead rest ∧ left.rises = side .high anchor.lead rest ∧
      anchor.carry ++ left.falls.map .ofNat = (side .low anchor.lead rest).map .ofNat ∧
        (anchor.lead = .low → anchor.carry = [])) ∧
      (left = ⟨[], []⟩ → out = wire .low es) := by
  obtain ⟨rest, kept, clock, wires, pends⟩ := drainEdges_of_leaves spaced scheduled anchored
  rw [run] at wires pends
  have carried : anchor.lead = .low → anchor.carry = [] := by
    intro low
    rw [pends.carry, pends.due low]
    rfl
  have falls : anchor.carry ++ left.falls.map .ofNat = (side .low anchor.lead rest).map .ofNat := by
    rw [pends.carry, pends.falls, ← List.map_append, List.take_append_drop]
  refine ⟨⟨rest, wires, pends.rises, falls, carried⟩, ?_⟩
  rintro rfl
  suffices none : rest = [] by
    rw [wires, none]
    exact (List.append_nil out).symm
  have rises := pends.rises
  cases rest with
  | nil => rfl
  | cons e rest =>
    cases lead : anchor.lead with
    | low =>
      rw [carried lead, lead] at falls
      simp [side] at falls
    | high =>
      simp only at rises
      rw [lead] at rises
      simp [side] at rises

/-- Two pulses torn by the first drain: it has both falls, and the rises only come with the second. -/
def tornDrains : List Drain :=
  [⟨255, 90, 215, 220⟩, ⟨255, 400, 400, 400⟩]

theorem edges_reconstructed_torn :
    (drainEdges (.of [100, 200, 210, 300]) {} tornDrains).1 = wire .low [100, 200, 210, 300] ∧
      (drainEdges (.of [100, 200, 210, 300]) {} [⟨255, 90, 215, 220⟩]).1 = wire .low [100] := by
  have spaced : Spaced [100, 200, 210, 300] := by simp [Spaced]
  have scheduled : Scheduled 0 tornDrains := by
    refine ⟨⟨?_, ?_, ?_, ?_, ?_⟩, ⟨?_, ?_, ?_, ?_, ?_⟩, trivial⟩ <;> decide
  have anchored : Anchored [100, 200, 210, 300] tornDrains := by
    intro e head before d after split earlier taken
    obtain rfl := Option.some.inj head
    cases before with
    | nil =>
      obtain ⟨rfl, -⟩ := List.cons.inj split
      simp
    | cons b before =>
      obtain ⟨rfl, -⟩ := List.cons.inj split
      exact absurd (earlier _ List.mem_cons_self) (by decide)
  exact ⟨(edges_reconstructed spaced scheduled anchored rfl).2 rfl, by decide +kernel⟩

/-- An edge that follows an idle drain by a wrap less the guard, one taken at once but long after the only drain
before it, one drained in time after two drains half the timeline apart, and one that a drain without room left in the
ring: each of them strays. -/
theorem edges_stray :
    (Scheduled 0 [⟨255, 4096, 4096, 4096⟩, ⟨255, 70000, 70000, 70000⟩] ∧ 65536 ≤ 4096 + (2 ^ 16 - 4096) ∧
      (drainEdges (.of [65536]) {} [⟨255, 4096, 4096, 4096⟩, ⟨255, 70000, 70000, 70000⟩]).1 = [⟨0, .low⟩]) ∧
    (Scheduled 0 [⟨255, 5000, 5000, 5000⟩, ⟨255, 200000, 200000, 200000⟩] ∧ 200000 ≤ 190000 + (2 ^ 16 - 4096) ∧
      (drainEdges (.of [190000]) {} [⟨255, 5000, 5000, 5000⟩, ⟨255, 200000, 200000, 200000⟩]).1 =
        [⟨58928, .low⟩]) ∧
    (Scheduled 0 [⟨255, 5000, 5000, 5000⟩, ⟨255, 2147488648, 2147488648, 2147488648⟩,
        ⟨255, 2147489648, 2147489648, 2147489648⟩] ∧ 2147488748 ≤ 2147488648 + (2 ^ 16 - 4096) ∧
      (drainEdges (.of [2147488748]) {} [⟨255, 5000, 5000, 5000⟩, ⟨255, 2147488648, 2147488648, 2147488648⟩,
        ⟨255, 2147489648, 2147489648, 2147489648⟩]).1 = [⟨5100, .low⟩]) ∧
    6000 ≤ 100 + (2 ^ 16 - 4096) ∧
      (drainEdges (.of [100]) {} [⟨0, 5000, 5000, 5000⟩, ⟨255, 6000, 6000, 6000⟩]).1 = [⟨65636, .low⟩] := by
  refine ⟨⟨?_, by decide, by decide +kernel⟩, ⟨?_, by decide, by decide +kernel⟩, ⟨?_, by decide, by decide +kernel⟩,
    by decide, by decide +kernel⟩
  next => refine ⟨⟨?_, ?_, ?_, ?_, ?_⟩, ⟨?_, ?_, ?_, ?_, ?_⟩, trivial⟩ <;> decide
  next => refine ⟨⟨?_, ?_, ?_, ?_, ?_⟩, ⟨?_, ?_, ?_, ?_, ?_⟩, trivial⟩ <;> decide
  next => refine ⟨⟨?_, ?_, ?_, ?_, ?_⟩, ⟨?_, ?_, ?_, ?_, ?_⟩, ⟨?_, ?_, ?_, ?_, ?_⟩, trivial⟩ <;> decide

end OpenServo.Client
