import OpenServo.Host.Backlog
import OpenServo.Link.Accounts
import OpenServo.Link.Headroom

set_option autoImplicit false

namespace OpenServo.Host

open OpenServo.Protocol OpenServo.Shared

def arrivals : Look → List Look → Nat
  | _, [] => 0
  | before, look :: rest => (look.cursor + look.ring.length - before.cursor) % look.ring.length + arrivals look rest

/-- The bytes that wait at the first look, and those that come in up to the last. -/
def supply (framer : Framer) : List Look → Nat
  | [] => 0
  | look :: rest => framer.backlog look + arrivals look rest

def Steady (len : Nat) (looks : List Look) : Prop :=
  ∀ look ∈ looks, look.ring.length = len ∧ look.cursor < len

section Supply

variable {len : Nat} {framer : Framer} {looks more : List Look}

theorem supply_drop {look : Look} (steady : Steady len (look :: looks)) :
    supply framer looks ≤ supply framer (look :: looks) := by
  cases looks with
  | nil => exact Nat.zero_le _
  | cons next rest =>
    obtain ⟨size, before⟩ := steady look List.mem_cons_self
    obtain ⟨later, after⟩ := steady next (List.mem_cons_of_mem _ List.mem_cons_self)
    simp only [supply, arrivals, Framer.backlog, size, later]
    have short := Nat.mod_lt framer.anchor (show 0 < len by omega)
    -- Behind both stretches the walk stands at most a whole lap too far back.
    have sum := Nat.add_mod (look.cursor + len - framer.anchor % len) (next.cursor + len - look.cursor) len
    have ahead : look.cursor + len - framer.anchor % len + (next.cursor + len - look.cursor) =
        next.cursor + len - framer.anchor % len + len := by omega
    rw [ahead, Nat.add_mod_right] at sum
    have most := Nat.mod_le ((look.cursor + len - framer.anchor % len) % len + (next.cursor + len - look.cursor) % len) len
    omega

theorem supply_append (steady : Steady len (looks ++ more)) : supply framer more ≤ supply framer (looks ++ more) := by
  induction looks with
  | nil => exact Nat.le_refl _
  | cons look looks ih =>
    have later : Steady len (looks ++ more) := fun other member => steady other (List.mem_cons_of_mem _ member)
    exact (ih later).trans (supply_drop steady)

end Supply

def HostBus.Emit.size : Option HostBus.Emit → Nat
  | some emit => emit.len + 6
  | none => 0

theorem walk_supply {bus after : HostBus} {now paceAt : UInt32} {expected : Option UInt8} {looks more : List Look}
    {emit : Option HostBus.Emit} {len : Nat} (steady : Steady len (looks ++ more))
    (walked : bus.walk now expected paceAt looks = some (after, emit)) :
    supply after.framer more + HostBus.Emit.size emit ≤ supply bus.framer (looks ++ more) := by
  -- On the looks: what a step hands out it has taken off the ring.
  induction looks generalizing bus with
  | nil => cases walked
  | cons look looks ih =>
    have later : Steady len (looks ++ more) := fun other member => steady other (List.mem_cons_of_mem _ member)
    have spends := step_spends bus.framer look
    unfold HostBus.walk at walked
    dsimp only at walked
    generalize out : bus.framer.step look = taken at walked spends
    have dropped (framer : Framer) : supply framer (looks ++ more) ≤ supply framer (look :: (looks ++ more)) :=
      supply_drop steady
    cases spends with
    | rests step quiet =>
      have rest := (supply_append later).trans (dropped bus.framer)
      obtain rfl | rfl := quiet
      all_goals
        obtain ⟨rfl, rfl⟩ := Prod.mk.inj (Option.some.inj walked)
        exact rest
    | @garble next n less =>
      have onward := (ih later walked).trans (dropped next)
      refine onward.trans ?_
      exact Nat.add_le_add_right less.le _
    | @frame next f paid =>
      have behind : next.backlog look ≤ bus.framer.backlog look := by omega
      dsimp only at walked
      split at walked
      next =>
        obtain ⟨rfl, rfl⟩ := Prod.mk.inj (Option.some.inj walked)
        have same (bus : HostBus) : (bus.credit now expected paceAt look f).1.framer = bus.framer := by
          unfold HostBus.credit HostBus.complete HostBus.strand
          dsimp only
          split <;> rfl
        rw [same]
        have rest : supply next more ≤ next.backlog look + arrivals look (looks ++ more) :=
          (supply_append later).trans (dropped next)
        show supply next more + (f.payload.len + 6) ≤ bus.framer.backlog look + arrivals look (looks ++ more)
        omega
      next =>
        have onward := (ih later walked).trans (dropped next)
        refine onward.trans ?_
        exact Nat.add_le_add_right behind _

namespace HostBus

variable {bus after : HostBus} {io : Io} {event : Option Event} {commands : List Bool} {len : Nat} {more : List Look}

/-- Three bytes said of a status stand for four of the ring at most. -/
def paid : Option Event → Nat
  | some (.status _ _ _ payload) => payload.bytes.length + 6
  | _ => 0

theorem takeDone_framer : bus.takeDone.1.framer = bus.framer ∧ paid bus.takeDone.2 = 0 := by
  unfold takeDone
  split <;> exact ⟨rfl, rfl⟩

theorem takeEvent_framer : bus.takeEvent.1.framer = bus.framer ∧ paid bus.takeEvent.2 = 0 := by
  unfold takeEvent
  split
  next => exact ⟨rfl, rfl⟩
  next => exact takeDone_framer

theorem pollAwait_supply {now : UInt32} (steady : Steady len (io.looks ++ more))
    (polled : bus.pollAwait now io = some (after, event)) :
    supply after.framer more + paid event ≤ supply bus.framer (io.looks ++ more) := by
  unfold pollAwait at polled
  split at polled
  next =>
    obtain ⟨rfl, rfl⟩ := Prod.mk.inj (Option.some.inj polled)
    exact supply_append steady
  next plan _ =>
    dsimp only at polled
    split at polled
    next => cases polled
    next walked emit ran =>
      obtain ⟨rfl, rfl⟩ := Prod.mk.inj (Option.some.inj polled)
      have spent := walk_supply steady ran
      have view := payloadView_len io.here.ring emit.pos emit.len
      rw [← FrameBytes.length_bytes] at view
      simp only [paid, Emit.size] at spent ⊢
      omega
    next walked ran =>
      have taken := Option.some.inj polled
      have spent := walk_supply steady ran
      obtain ⟨same, free⟩ := @takeDone_framer (walked.wait now plan (later io.clock 1) io.here)
      rw [taken] at same free
      rw [same, free, wait_framer]
      exact spent

theorem poll_supply (steady : Steady len (io.looks ++ more)) (polled : bus.poll io = some (after, event)) :
    supply after.framer more + paid event ≤ supply bus.framer (io.looks ++ more) := by
  have rests := @supply_append len bus.framer io.looks more steady
  have closes {between : HostBus} (same : between.framer = bus.framer)
      (taken : some between.takeEvent = some (after, event)) :
      supply after.framer more + paid event ≤ supply bus.framer (io.looks ++ more) := by
    obtain ⟨kept, free⟩ := @takeEvent_framer between
    rw [Option.some.inj taken] at kept free
    rw [kept, same, free]
    exact rests
  unfold poll at polled
  split at polled
  next =>
    obtain ⟨rfl, rfl⟩ := Prod.mk.inj (Option.some.inj polled)
    exact rests
  next =>
    obtain ⟨rfl, rfl⟩ := Prod.mk.inj (Option.some.inj polled)
    exact rests
  next =>
    dsimp only at polled
    split at polled
    next => exact pollAwait_supply steady polled
    next => exact closes (by split <;> rfl) polled
    next => exact closes (by split <;> rfl) polled
    next => exact closes (by split <;> rfl) polled
    all_goals exact closes rfl polled

theorem ready_quiet (ready : bus.ready = true) (polled : bus.poll io = some (after, event)) : event = none := by
  obtain ⟨state, done, wire⟩ := ready_iff.mp ready
  simp only [poll, done, wire, state, takeEvent, takeDone] at polled
  exact (Prod.mk.inj (Option.some.inj polled)).2.symm

theorem ends_ready (sound : bus.Sound commands) {last : Event} (polled : bus.poll io = some (after, some last))
    (ends : last.isStatus = false) : after.ready = true := by
  cases poll_tells sound polled with
  | status => cases ends
  | done before owes wired => exact ready_of_free owes (wired.trans (sound.exclusive before))
  | wireDone before owes wired =>
    refine ready_of_free (owes.trans (Bool.eq_false_iff.mpr fun out => ?_)) wired
    rw [sound.exclusive out] at before
    cases before

end HostBus

end OpenServo.Host

namespace OpenServo.Link

open OpenServo.Protocol OpenServo.Host

theorem told_ready {bus : HostBus} (ready : bus.ready = true) (ios : List Io) : told ios bus = [] := by
  cases ios with
  | nil => rfl
  | cons io ios =>
    rw [told]
    split
    next after event polled => cases HostBus.ready_quiet ready polled
    next => rfl
    next => rfl

theorem told_supply {bus : HostBus} {commands : List Bool} {len : Nat} {ios : List Io} (sound : bus.Sound commands)
    (steady : Steady len (ios.flatMap Io.looks)) :
    3 * ((told ios bus).map Event.demand).sum ≤ 4 * supply bus.framer (ios.flatMap Io.looks) + 45 := by
  induction ios generalizing bus commands with
  | nil => exact Nat.zero_le _
  | cons io ios ih =>
    rw [List.flatMap_cons] at steady ⊢
    rw [told]
    split
    next after event polled =>
      have later : Steady len (ios.flatMap Io.looks) := fun look member => steady look (List.mem_append_right _ member)
      have spent := HostBus.poll_supply steady polled
      rw [List.map_cons, List.sum_cons]
      cases event with
      | status slot id inst payload =>
        have rest := ih (HostBus.poll_sound sound polled) later
        simp only [HostBus.paid, Event.demand] at spent ⊢
        omega
      | done terminal =>
        rw [told_ready (HostBus.ends_ready sound polled rfl), List.map_nil, List.sum_nil]
        simp only [Event.demand]
        omega
      | wireDone tick =>
        rw [told_ready (HostBus.ends_ready sound polled rfl), List.map_nil, List.sum_nil]
        simp only [Event.demand]
        omega
    next => exact Nat.zero_le _
    next => exact Nat.zero_le _

end OpenServo.Link
