import OpenServo.Host.Agreement
import OpenServo.Host.Stream
import OpenServo.Host.Terminals

set_option autoImplicit false

namespace OpenServo.Host

open OpenServo.Bus OpenServo.Protocol OpenServo.Shared

structure Reply where
  id : UInt8
  size : UInt8
  inst : Inst

def place (start : Nat) (replies : List Reply) : Nat :=
  start + (replies.map fun reply => footprint reply.size).sum

def Replied (stream : Nat → UInt8) (len : Nat) : Nat → List Reply → Prop
  | _, [] => True
  | start, reply :: rest =>
    FrameAt stream start reply.id reply.size reply.inst ∧ reply.inst.isStatus = true ∧
      footprint reply.size ≤ len ∧ Replied stream len (start + footprint reply.size) rest

def Event.report : Event → Option (UInt8 × UInt8)
  | .status slot id _ _ => some (slot, id)
  | .done _ | .wireDone _ => none

def Event.terminal : Event → Option Terminal
  | .done terminal => some terminal
  | .status .. | .wireDone _ => none

def Answer.events : Answer → List Event
  | .event e => [e]
  | .accepted | .refused _ | .quiet => []

def reports (events : List Event) : List (UInt8 × UInt8) :=
  events.filterMap Event.report

def terminals (events : List Event) : List Terminal :=
  events.filterMap Event.terminal

/-- A run from `first` up to a terminal, while the replies come in from `start` on and nothing else does. What has not
been handed out is still in the ring, and the terminal comes behind the last reply. -/
inductive Collects (stream : Nat → UInt8) (len start : Nat) (replies : List Reply) (first : HostBus) :
    HostBus → Nat → List Event → Prop where
  | start : Collects stream len start replies first first start []
  | step {bus after : HostBus} {count here next : Nat} {events : List Event} {op : Op} {io : Io} {answer : Answer}
    (before : Collects stream len start replies first bus count events) (going : terminals events = [])
    (observes : Observes stream len count io here) (later : here ≤ next) (within : next ≤ place start replies)
    (kept : here < place start (replies.take (reports events).length) + len)
    (stepped : bus.step io op = some (after, answer))
    (heard : terminals answer.events ≠ [] → here = place start replies) :
      Collects stream len start replies first after next (events ++ answer.events)

/-- Each status has the place of its servo in the list, a timeout that of the first servo without one. -/
structure Attributed (ids replied : List UInt8) (events : List Event) : Prop where
  status : ∀ slot id, (slot, id) ∈ reports events → ids.idxOf? id = some slot.toNat
  timeout : ∀ terminal slot, terminal ∈ terminals events → terminal.outcome = .timeout slot →
    ids.findIdx? (fun id => id ∉ replied) = some slot.toNat

@[simp] theorem place_nil (start : Nat) : place start [] = start := rfl

theorem place_cons (start : Nat) (reply : Reply) (rest : List Reply) :
    place start (reply :: rest) = place (start + footprint reply.size) rest := by
  simp [place, Nat.add_assoc]

theorem place_append (start : Nat) (first second : List Reply) :
    place start (first ++ second) = place (place start first) second := by
  simp [place, Nat.add_assoc]

theorem le_place (start : Nat) (replies : List Reply) : start ≤ place start replies :=
  Nat.le_add_right _ _

section Walk

variable {stream : Nat → UInt8} {len count start : Nat} {replies : List Reply}

inductive Next (len count start : Nat) : List Reply → Framer × Step → Prop where
  | waits {replies : List Reply} (step : Step) (quiet : step = .idle ∨ step = .partialFrame)
    (short : ∀ reply rest, replies = reply :: rest → count < start + footprint reply.size) :
      Next len count start replies (⟨start % len⟩, step)
  | reply (reply : Reply) (rest : List Reply) (payload : FrameBytes) (status : reply.inst.isStatus = true)
    (whole : start + footprint reply.size ≤ count) :
      Next len count start (reply :: rest)
        (⟨(start + footprint reply.size) % len⟩, .frame ⟨reply.id, reply.inst, payload, (start + 4) % len⟩)

theorem Lands.next {result : Framer × Step} (lands : Lands stream len count start result)
    (replied : Replied stream len start replies) (within : count ≤ place start replies) :
    Next len count start replies result := by
  cases replies with
  | nil =>
    rw [place_nil] at within
    cases lands with
    | idle => exact .waits _ (.inl rfl) fun _ _ no => (by cases no)
    | parked => exact .waits _ (.inr rfl) fun _ _ no => (by cases no)
    | garble n some => omega
    | frame id size inst payload here body inside fits =>
      have total : footprint size = 3 + size.toNat := rfl
      omega
  | cons reply rest =>
    obtain ⟨frame, status, fits, -⟩ := replied
    have total : footprint reply.size = 3 + reply.size.toNat := rfl
    have atLeast := frame.atLeast
    cases lands with
    | idle empty =>
      refine .waits _ (.inl rfl) ?_
      rintro _ _ ⟨⟩
      omega
    | parked short =>
      refine .waits _ (.inr rfl) ?_
      rintro _ _ ⟨⟩
      rw [frame.lenByte] at short
      omega
    | garble n some inside broken =>
      have long := broken _ _ _ frame
      omega
    | frame id size inst payload here body inside =>
      obtain rfl := here.idByte.symm.trans frame.idByte
      obtain rfl := here.lenByte.symm.trans frame.lenByte
      obtain rfl := here.instByte.symm.trans frame.instByte
      exact .reply reply rest payload status inside

end Walk

/-- A group read of `n` servos that has handed out the replies `sent`, and is owed more. -/
structure Gathering (len start n : Nat) (sent : List Reply) (count : Nat) (bus : HostBus) : Prop where
  state : bus.state = .pacing ∨ bus.state = .transmitting ∨ bus.state = .awaiting
  plan : ∃ plan, bus.plan = some plan ∧ plan.replies = .chain (UInt8.ofNat n) ∧ plan.train = none
  framer : bus.framer = ⟨place start sent % len⟩
  behind : place start sent ≤ count
  early : bus.state ≠ .awaiting → sent = []
  got : bus.state = .awaiting → bus.got = UInt8.ofNat sent.length
  seen : bus.state = .awaiting → ∃ seen, place start sent ≤ seen ∧ seen ≤ count ∧ bus.lastCursor = seen % len
  owed : sent.length < n
  done : bus.pendingDone = none
  wire : bus.pendingWireDone = none

inductive Stage (len start n : Nat) (sent rest : List Reply) (count : Nat) (bus : HostBus) : List Terminal → Prop where
  | gathering (gathering : Gathering len start n sent count bus) : Stage len start n sent rest count bus []
  | complete (terminal : Terminal) (state : bus.state = .idle) (done : bus.pendingDone = some terminal)
    (outcome : terminal.outcome = .complete) (all : sent.length = n) : Stage len start n sent rest count bus []
  | closed (terminal : Terminal)
    (outcome : terminal.outcome = .complete ∧ sent.length = n ∨
      terminal.outcome = .timeout (UInt8.ofNat sent.length) ∧ sent.length < n ∧ rest = []) :
      Stage len start n sent rest count bus [terminal]

namespace HostBus

theorem satInc_ofNat {k : Nat} (small : k < 255) : satInc (UInt8.ofNat k) = UInt8.ofNat (k + 1) := by
  have different : UInt8.ofNat k ≠ 255 := by
    intro same
    have value := congrArg UInt8.toNat same
    rw [UInt8.toNat_ofNat', Nat.mod_eq_of_lt (by omega)] at value
    exact absurd value (by show k ≠ 255; omega)
  rw [satInc, if_neg different, UInt8.ofNat_add]
  rfl

theorem ofNat_succ_sub_one (k : Nat) : UInt8.ofNat (k + 1) - 1 = UInt8.ofNat k := by
  rw [UInt8.ofNat_add]
  exact UInt8.add_sub_cancel _ _

theorem ofNat_inj {j k : Nat} (left : j < 256) (right : k < 256) (same : UInt8.ofNat j = UInt8.ofNat k) : j = k := by
  have value := congrArg UInt8.toNat same
  rwa [UInt8.toNat_ofNat', UInt8.toNat_ofNat', Nat.mod_eq_of_lt left, Nat.mod_eq_of_lt right] at value

theorem step_busy {bus after : HostBus} {op : Op} {io : Io} {answer : Answer} (busy : bus.ready = false)
    (stepped : bus.step io op = some (after, answer)) :
    after = bus ∧ answer = .refused .busy ∨ op = .onTxComplete ∨ op = .onDeadline ∨ op = .poll := by
  cases op with
  | onTxComplete => exact .inr (.inl rfl)
  | onDeadline => exact .inr (.inr (.inl rfl))
  | poll => exact .inr (.inr (.inr rfl))
  | _ =>
    simp only [step, submit, wireSend, wireTrain, wireBaud, wireBurst, wirePulseLow, busy, Bool.not_false, if_true,
      Prod.map_apply, id_eq, Answer.ofResult, Option.some.injEq, Prod.mk.injEq] at stepped
    exact .inl ⟨stepped.1.symm, stepped.2.symm⟩

end HostBus

section Steps

variable {stream : Nat → UInt8} {len start n count here next : Nat} {sent rest : List Reply} {bus after : HostBus}

theorem Gathering.later (gathering : Gathering len start n sent count bus) (later : count ≤ next) :
    Gathering len start n sent next bus := by
  refine { gathering with behind := gathering.behind.trans later, seen := fun state => ?_ }
  obtain ⟨seen, low, high, cursor⟩ := gathering.seen state
  exact ⟨seen, low, high.trans later, cursor⟩

theorem Stage.later {terms : List Terminal} (stage : Stage len start n sent rest count bus terms)
    (later : count ≤ next) : Stage len start n sent rest next bus terms := by
  cases stage with
  | gathering gathering => exact .gathering (gathering.later later)
  | complete terminal state done outcome all => exact .complete terminal state done outcome all
  | closed terminal outcome => exact .closed terminal outcome

theorem Gathering.busy (gathering : Gathering len start n sent count bus) : bus.ready = false := by
  obtain state | state | state := gathering.state <;> simp [HostBus.ready, state]

theorem Gathering.onTxComplete (gathering : Gathering len start n sent count bus) {io : Io}
    (receives : Receives stream len here io.here) (later : count ≤ here) :
    Gathering len start n sent here (bus.onTxComplete io) := by
  have moved := gathering.later later
  obtain state | state | state := gathering.state
  next => simpa [HostBus.onTxComplete, state] using moved
  next =>
    obtain ⟨plan, planned, replies, train⟩ := gathering.plan
    have none_yet : sent = [] := gathering.early (by simp [state])
    have opened : bus.onTxComplete io = ({ bus.drive [.release] with
        window := bus.windowFor plan
        got := 0
        lastCursor := io.here.cursor
        state := .awaiting } : HostBus).arm (io.clock 0 + bus.windowFor plan) := by
      simp [HostBus.onTxComplete, state, planned, train, replies]
    rw [opened]
    exact ⟨.inr (.inr rfl), ⟨plan, planned, replies, train⟩, moved.framer, moved.behind, fun no => absurd rfl no,
      fun _ => by rw [none_yet]; rfl, fun _ => ⟨here, moved.behind, Nat.le_refl _, receives.cursor⟩, moved.owed,
      moved.done, moved.wire⟩
  next => simpa [HostBus.onTxComplete, state] using moved

theorem Gathering.onDeadline (gathering : Gathering len start n sent count bus) (io : Io) :
    bus.onDeadline io = bus := by
  obtain state | state | state := gathering.state <;> simp [HostBus.onDeadline, state]

end Steps

inductive Advances (len start n : Nat) (sent rest : List Reply) (next : Nat) (after : HostBus) (answer : Answer) :
    Prop where
  | stays (silent : reports answer.events = []) (stage : Stage len start n sent rest next after (terminals answer.events))
  | hands (reply : Reply) (left : List Reply) (ahead : rest = reply :: left)
    (status : reports answer.events = [(UInt8.ofNat sent.length, reply.id)]) (goes : terminals answer.events = [])
    (stage : Stage len start n (sent ++ [reply]) left next after [])

namespace HostBus

section Await

variable {stream : Nat → UInt8} {len start n count here : Nat} {sent rest : List Reply} {bus after : HostBus}

theorem wait_advances {now : UInt32} {plan : Shape} {clock : Nat → UInt32} {look : Look} {event : Option Event}
    (gathering : Gathering len start n sent count bus) (state : bus.state = .awaiting)
    (chain : plan.replies = .chain (UInt8.ofNat n)) (later : count ≤ here) (receives : Receives stream len here look)
    (taken : (bus.wait now plan clock look).takeDone = (after, event))
    (last : bus.lastCursor = here % len → terminals (Answer.ofEvent event).events ≠ [] → rest = []) :
    Advances len start n sent rest here after (.ofEvent event) := by
  have moved := gathering.later later
  have waiting (compare : Option UInt32) (deadlineAt : UInt32) : Gathering len start n sent here
      { bus with lastCursor := look.cursor, compare, deadlineAt } :=
    { moved with seen := fun _ => ⟨here, moved.behind, Nat.le_refl _, receives.cursor⟩ }
  unfold wait at taken
  dsimp only at taken
  split at taken
  next =>
    rw [takeDone_none (by exact gathering.done)] at taken
    obtain ⟨rfl, rfl⟩ := Prod.mk.inj taken
    exact .stays rfl (.gathering (waiting _ _))
  next still =>
    split at taken
    next =>
      obtain ⟨rfl, rfl⟩ := Prod.mk.inj taken
      have stood : bus.lastCursor = here % len := (not_not.mp still).symm.trans receives.cursor
      refine .stays rfl (.closed _ (.inr ⟨?_, gathering.owed, last stood (List.cons_ne_nil _ _)⟩))
      show (if plan.replies = .collect then Outcome.complete else .timeout bus.got) = _
      rw [if_neg (by simp [chain]), gathering.got state]
    next =>
      rw [takeDone_none (by exact gathering.done)] at taken
      obtain ⟨rfl, rfl⟩ := Prod.mk.inj taken
      exact .stays rfl (.gathering (waiting bus.compare bus.deadlineAt))

theorem credit_advances {now paceAt : UInt32} {look : Look} {reply : Reply} {left : List Reply} {f : Frame}
    (gathering : Gathering len start n sent count bus) (small : n < 255) (state : bus.state = .awaiting)
    (receives : Receives stream len here look)
    (whole : place start sent + footprint reply.size ≤ here) :
    (({ bus with framer := ⟨(place start sent + footprint reply.size) % len⟩ } : HostBus).credit now
      (some (UInt8.ofNat n)) paceAt look f).2.slot = UInt8.ofNat sent.length ∧
      Stage len start n (sent ++ [reply]) left here
        (({ bus with framer := ⟨(place start sent + footprint reply.size) % len⟩ } : HostBus).credit now
          (some (UInt8.ofNat n)) paceAt look f).1 [] := by
  have owed := gathering.owed
  have ends : place start (sent ++ [reply]) = place start sent + footprint reply.size := by
    rw [place_append, place_cons, place_nil]
  have counted : satInc bus.got = UInt8.ofNat (sent.length + 1) := by
    rw [gathering.got state, satInc_ofNat (by omega)]
  have long : (sent ++ [reply]).length = sent.length + 1 := by simp
  unfold credit
  dsimp only
  rw [counted]
  refine ⟨ofNat_succ_sub_one _, ?_⟩
  split
  next closes =>
    have all : n = sent.length + 1 := ofNat_inj (by omega) (by omega) (Option.some.inj closes)
    exact .complete _ rfl rfl rfl (long.trans all.symm)
  next more =>
    have some_left : sent.length + 1 ≠ n := fun same => more (by rw [same])
    exact .gathering ⟨.inr (.inr state), gathering.plan, by rw [ends]; rfl, by omega, fun no => absurd state no,
      fun _ => by rw [long]; rfl, fun _ => ⟨here, by omega, Nat.le_refl _, receives.cursor⟩, by omega,
      gathering.done, gathering.wire⟩

theorem pollAwait_advances {now : UInt32} {io : Io} {event : Option Event}
    (gathering : Gathering len start n sent count bus) (small : n < 255) (state : bus.state = .awaiting)
    (replied : Replied stream len (place start sent) rest) (observes : Observes stream len count io here)
    (within : here ≤ place start (sent ++ rest)) (kept : here < place start sent + len)
    (polled : bus.pollAwait now io = some (after, event))
    (heard : terminals (Answer.ofEvent event).events ≠ [] → here = place start (sent ++ rest)) :
    Advances len start n sent rest here after (.ofEvent event) := by
  obtain ⟨⟨last, looked, before⟩, receives⟩ := observes
  obtain ⟨plan, planned, chain, train⟩ := gathering.plan
  have ordered := looked.ordered
  have behind := gathering.behind
  rw [place_append] at within heard
  unfold pollAwait at polled
  simp only [planned, chain] at polled
  generalize io.looks = looks at looked polled
  cases looked with
  | done => cases polled
  | @look _ seen _ look looks passed shown onward =>
    have ends := onward.ordered
    have found := (step_lands shown (show place start sent ≤ seen by omega) (by omega)).next replied (by omega)
    rw [← gathering.framer] at found
    unfold walk at polled
    dsimp only at polled
    generalize bus.framer.step look = result at found polled
    cases found with
    | waits step quiet short =>
      have same : ({ bus with framer := ⟨place start sent % len⟩ } : HostBus) = bus := by rw [← gathering.framer]
      have taken : (bus.wait now plan (later io.clock 1) io.here).takeDone = (after, event) := by
        obtain rfl | rfl := quiet <;> simpa only [same, Option.some.injEq] using polled
      refine wait_advances gathering state chain (by omega) receives taken fun stood made => ?_
      -- The cursor stands where it stood at the last look, so the walk has seen all there is.
      obtain ⟨stop, low, high, cursor⟩ := gathering.seen state
      have stopped := eq_of_wrapped_eq (show stop ≤ here by omega) (by omega) (cursor.symm.trans stood)
      cases rest with
      | nil => rfl
      | cons reply left =>
        have missing := short reply left rfl
        have reaches := le_place (place start sent + footprint reply.size) left
        rw [heard made, place_cons] at stopped
        omega
    | reply reply left payload status whole =>
      simp only [status, if_true] at polled
      obtain ⟨rfl, rfl⟩ := Prod.mk.inj (Option.some.inj polled)
      obtain ⟨slot, stage⟩ := credit_advances gathering small state shown whole
      refine .hands reply left rfl ?_ rfl (stage.later (by omega))
      show [(_, _)] = _
      rw [slot]
      rfl

theorem poll_advances {io : Io} {event : Option Event} (gathering : Gathering len start n sent count bus)
    (small : n < 255) (replied : Replied stream len (place start sent) rest)
    (observes : Observes stream len count io here) (within : here ≤ place start (sent ++ rest))
    (kept : here < place start sent + len) (polled : bus.poll io = some (after, event))
    (heard : terminals (Answer.ofEvent event).events ≠ [] → here = place start (sent ++ rest)) :
    Advances len start n sent rest here after (.ofEvent event) := by
  have moved := gathering.later observes.ordered
  obtain state | state | state := gathering.state
  next =>
    simp only [poll, gathering.done, gathering.wire, state] at polled
    split at polled
    next =>
      rw [takeEvent_none (by exact gathering.done) (by exact gathering.wire)] at polled
      obtain ⟨rfl, rfl⟩ := Prod.mk.inj (Option.some.inj polled)
      have early := gathering.early (by simp [state])
      exact .stays rfl (.gathering { moved with
        state := .inr (.inl rfl)
        early := fun _ => early
        got := fun no => (by cases no)
        seen := fun no => (by cases no) })
    next =>
      rw [takeEvent_none gathering.done gathering.wire] at polled
      obtain ⟨rfl, rfl⟩ := Prod.mk.inj (Option.some.inj polled)
      exact .stays rfl (.gathering moved)
  next =>
    simp only [poll, gathering.done, gathering.wire, state] at polled
    rw [takeEvent_none gathering.done gathering.wire] at polled
    obtain ⟨rfl, rfl⟩ := Prod.mk.inj (Option.some.inj polled)
    exact .stays rfl (.gathering moved)
  next =>
    simp only [poll, gathering.done, gathering.wire, state] at polled
    exact pollAwait_advances gathering small state replied observes within kept polled heard

theorem step_advances {op : Op} {io : Io} {answer : Answer} (stage : Stage len start n sent rest count bus [])
    (small : n < 255) (replied : Replied stream len (place start sent) rest)
    (observes : Observes stream len count io here) (within : here ≤ place start (sent ++ rest))
    (kept : here < place start sent + len) (stepped : bus.step io op = some (after, answer))
    (heard : terminals answer.events ≠ [] → here = place start (sent ++ rest)) :
    Advances len start n sent rest here after answer := by
  have moved := stage.later observes.ordered
  cases stage with
  | gathering gathering =>
    obtain ⟨rfl, rfl⟩ | rfl | rfl | rfl := step_busy gathering.busy stepped
    next => exact .stays rfl moved
    next =>
      obtain ⟨rfl, rfl⟩ := Prod.mk.inj (Option.some.inj stepped)
      exact .stays rfl (.gathering (gathering.onTxComplete observes.now observes.ordered))
    next =>
      obtain ⟨rfl, rfl⟩ := Prod.mk.inj (Option.some.inj stepped)
      rw [gathering.onDeadline io]
      exact .stays rfl moved
    next =>
      obtain ⟨⟨polled, event⟩, ran, made⟩ := Option.map_eq_some_iff.mp stepped
      obtain ⟨rfl, rfl⟩ := Prod.mk.inj made
      exact poll_advances gathering small replied observes within kept ran heard
  | complete terminal state done outcome all =>
    have busy : bus.ready = false := by simp [ready, done]
    obtain ⟨rfl, rfl⟩ | rfl | rfl | rfl := step_busy busy stepped
    next => exact .stays rfl moved
    next =>
      obtain ⟨rfl, rfl⟩ := Prod.mk.inj (Option.some.inj stepped)
      simp only [onTxComplete, state]
      exact .stays rfl moved
    next =>
      obtain ⟨rfl, rfl⟩ := Prod.mk.inj (Option.some.inj stepped)
      simp only [onDeadline, state]
      exact .stays rfl moved
    next =>
      simp only [step, poll, done, Option.map_some, Option.some.injEq] at stepped
      obtain ⟨rfl, rfl⟩ := Prod.mk.inj stepped
      exact .stays rfl (.closed terminal (.inl ⟨outcome, all⟩))

end Await

end HostBus

theorem derive_gread {id : UInt8} {inst : Inst} {payload ids : List UInt8} {plan : Shape}
    (gread : inst.opcode = some .gread) (listed : listedIds inst (.ofList payload) = some ids)
    (derived : Shape.derive id inst payload = .ok plan) :
    plan.replies = .chain (UInt8.ofNat ids.length) ∧ plan.train = none ∧ 0 < ids.length ∧ ids.length < 255 := by
  obtain ⟨op, bare, accepts, rfl⟩ := Shape.derive_cases derived
  obtain rfl : op = .gread := Option.some.inj (accepts.opcode.symm.trans gread)
  obtain ⟨ids', list, nonempty, chain, train⟩ := planned_gread accepts.shaped
  obtain rfl := Option.some.inj (list.symm.trans listed)
  have keeps : bare.noreply inst = bare := by
    unfold Shape.noreply
    rw [chain]
    split <;> rfl
  have short := accepts.short
  have long := listedIds_length listed
  rw [← FrameBytes.length_bytes, FrameBytes.bytes_ofList] at long
  have most : maxPayload < 255 := by decide
  rw [keeps]
  exact ⟨chain, train, List.length_pos_of_ne_nil nonempty, by omega⟩

section Runs

variable {stream : Nat → UInt8} {len start n count : Nat} {replies : List Reply} {first bus : HostBus}
  {events : List Event}

structure Posed (io : Io) (plan : Shape) (bus : HostBus) : Prop where
  state : bus.state = .pacing ∨ bus.state = .transmitting
  plan : bus.plan = some plan
  framer : bus.framer = ⟨io.here.cursor⟩
  evidence : bus.evidence = {}
  done : bus.pendingDone = none
  wire : bus.pendingWireDone = none

theorem submit_posed {id : UInt8} {inst : Inst} {payload : List UInt8} {io : Io}
    (submitted : bus.submit (.exchange id inst payload) io = (first, .ok ())) :
    ∃ plan, Shape.derive id inst payload = .ok plan ∧ Posed io plan first := by
  unfold HostBus.submit at submitted
  split at submitted
  next => cases submitted
  next free =>
    obtain ⟨-, done, wire⟩ := HostBus.ready_iff.mp (show bus.ready = true by simpa using free)
    dsimp only at submitted
    split at submitted
    next => cases submitted
    next plan derived =>
      refine ⟨plan, derived, ?_⟩
      split at submitted
      next =>
        split at submitted
        next =>
          obtain ⟨rfl, -⟩ := Prod.mk.inj submitted
          exact ⟨.inl rfl, rfl, rfl, rfl, done, wire⟩
        next =>
          obtain ⟨rfl, -⟩ := Prod.mk.inj submitted
          exact ⟨.inr rfl, rfl, rfl, rfl, done, wire⟩
      next =>
        obtain ⟨rfl, -⟩ := Prod.mk.inj submitted
        exact ⟨.inr rfl, rfl, rfl, rfl, done, wire⟩

theorem submit_gathers {id : UInt8} {inst : Inst} {payload ids : List UInt8} {io : Io}
    (gread : inst.opcode = some .gread) (listed : listedIds inst (.ofList payload) = some ids)
    (submitted : bus.submit (.exchange id inst payload) io = (first, .ok ()))
    (receives : Receives stream len start io.here) :
    Gathering len start ids.length [] start first ∧ ids.length < 255 := by
  obtain ⟨plan, derived, posed⟩ := submit_posed submitted
  obtain ⟨chain, train, some_id, short⟩ := derive_gread gread listed derived
  have framer : first.framer = ⟨place start [] % len⟩ := by rw [posed.framer, receives.cursor, place_nil]
  have quiet : first.state ≠ .awaiting := by
    rcases posed.state with state | state <;> rw [state] <;> simp
  refine ⟨?_, short⟩
  exact ⟨posed.state.imp_right .inl, ⟨plan, posed.plan, chain, train⟩, framer, Nat.le_refl _, fun _ => rfl,
    fun awaits => absurd awaits quiet, fun awaits => absurd awaits quiet, some_id, posed.done, posed.wire⟩

def counted (sent : List Reply) : List (UInt8 × UInt8) :=
  sent.mapIdx fun k reply => (UInt8.ofNat k, reply.id)

theorem Collects.stage (gathering : Gathering len start n [] start first) (small : n < 255)
    (replied : Replied stream len start replies)
    (ran : Collects stream len start replies first bus count events) :
    ∃ sent rest, replies = sent ++ rest ∧ Replied stream len (place start sent) rest ∧
      reports events = counted sent ∧ Stage len start n sent rest count bus (terminals events) := by
  induction ran with
  | start => exact ⟨[], replies, rfl, replied, rfl, .gathering gathering⟩
  | @step bus after count here next events op io answer before going observes later within kept stepped heard ih =>
    obtain ⟨sent, rest, rfl, remain, reported, stage⟩ := ih
    rw [going] at stage
    have sent_all : (sent ++ rest).take (reports events).length = sent := by
      rw [reported, counted, List.length_mapIdx, List.take_left]
    rw [sent_all] at kept
    have reports_append : reports (events ++ answer.events) = reports events ++ reports answer.events :=
      List.filterMap_append
    have terminals_append : terminals (events ++ answer.events) = terminals answer.events := by
      rw [terminals, List.filterMap_append, show events.filterMap Event.terminal = [] from going]
      rfl
    rw [reports_append, terminals_append, reported]
    cases HostBus.step_advances stage small remain observes (by omega) kept stepped heard with
    | stays silent staged => exact ⟨sent, rest, rfl, remain, by rw [silent, List.append_nil], staged.later later⟩
    | hands reply left ahead status goes staged =>
      obtain rfl := ahead
      obtain ⟨-, -, -, remain⟩ := remain
      refine ⟨sent ++ [reply], left, by simp, ?_, ?_, goes ▸ staged.later later⟩
      next => rwa [place_append, place_cons, place_nil]
      next => rw [status, counted, counted, List.mapIdx_concat]

end Runs

theorem idxOf?_iff {ids : List UInt8} (distinct : ids.Nodup) (id : UInt8) (k : Nat) :
    ids.idxOf? id = some k ↔ ids[k]? = some id := by
  rw [List.idxOf?_eq_some_iff, List.getElem?_eq_some_iff]
  constructor
  next =>
    rintro ⟨inside, here, -⟩
    exact ⟨inside, here⟩
  next =>
    rintro ⟨inside, here⟩
    refine ⟨inside, here, fun j before same => ?_⟩
    exact absurd (distinct.getElem_inj_iff.mp (same.trans here.symm)) (by omega)

theorem prefix_iff_counted {replies : List Reply} {ids : List UInt8} (distinct : ids.Nodup) (small : ids.length < 255)
    (order : (replies.map Reply.id).Sublist ids) :
    replies.map Reply.id <+: ids ↔ ∀ slot id, (slot, id) ∈ counted replies → ids.idxOf? id = some slot.toNat := by
  have fewer := order.length_le
  rw [List.length_map] at fewer
  have exact_slot (k : Nat) (inside : k < replies.length) : (UInt8.ofNat k).toNat = k := by
    rw [UInt8.toNat_ofNat', Nat.mod_eq_of_lt (by omega)]
  rw [List.prefix_iff_getElem?]
  constructor
  next =>
    intro front slot id member
    obtain ⟨k, inside, same⟩ := List.mem_mapIdx.mp member
    obtain ⟨rfl, rfl⟩ := Prod.mk.inj same
    have here := front k (by simpa using inside)
    rw [exact_slot k inside, idxOf?_iff distinct]
    simpa using here
  next =>
    intro slots k inside
    rw [List.length_map] at inside
    have right := slots _ _ (List.mem_mapIdx.mpr ⟨k, inside, rfl⟩)
    rw [exact_slot k inside, idxOf?_iff distinct] at right
    simpa using right

theorem firstSilent_of_prefix {ids replied : List UInt8} (distinct : ids.Nodup) (front : replied <+: ids)
    (fewer : replied.length < ids.length) :
    ids.findIdx? (fun id => id ∉ replied) = some replied.length := by
  obtain ⟨rest, rfl⟩ := front
  rw [List.findIdx?_eq_some_iff_getElem]
  refine ⟨fewer, ?_, fun j before => ?_⟩
  next =>
    rw [decide_eq_true_eq, List.getElem_append_right (Nat.le_refl _)]
    intro member
    exact (List.nodup_append.mp distinct).2.2 _ member _ (List.getElem_mem _) rfl
  next =>
    rw [List.getElem_append_left before]
    simp

section Slots

variable {stream : Nat → UInt8} {len start count : Nat} {replies : List Reply} {bus first last : HostBus}
  {events : List Event} {id : UInt8} {inst : Inst} {payload ids : List UInt8} {io : Io}

/-- Over every run of a group read of distinct servos to its terminal, slots are right just when the servos that
answer are the first ones of the list. -/
theorem slots_right_iff (gread : inst.opcode = some .gread) (listed : listedIds inst (.ofList payload) = some ids)
    (distinct : ids.Nodup) (submitted : bus.step io (.submit (.exchange id inst payload)) = some (first, .accepted))
    (receives : Receives stream len start io.here) (replied : Replied stream len start replies)
    (order : (replies.map Reply.id).Sublist ids)
    (ran : Collects stream len start replies first last count events) (ended : terminals events ≠ []) :
    Attributed ids (replies.map Reply.id) events ↔ replies.map Reply.id <+: ids := by
  obtain ⟨⟨taken, result⟩, outcome⟩ : ∃ outcome, bus.submit (.exchange id inst payload) io = outcome := ⟨_, rfl⟩
  simp only [HostBus.step, outcome, Option.some.injEq] at submitted
  obtain ⟨rfl, accepted⟩ := Prod.mk.inj submitted
  obtain rfl : result = .ok () := by
    cases result with
    | ok => rfl
    | error => cases accepted
  obtain ⟨gathering, small⟩ := submit_gathers gread listed outcome receives
  obtain ⟨sent, rest, rfl, -, reported, stage⟩ := ran.stage gathering small replied
  generalize ends : terminals events = terms at stage ended
  cases stage with
  | gathering | complete => exact absurd rfl ended
  | closed terminal outcome =>
    have fewer := order.length_le
    rw [List.length_map, List.length_append] at fewer
    -- The terminal comes behind the last reply.
    obtain rfl : rest = [] := by
      obtain ⟨-, all⟩ | ⟨-, -, nothing⟩ := outcome
      next => exact List.length_eq_zero_iff.mp (by omega)
      next => exact nothing
    rw [List.append_nil] at order ⊢
    constructor
    next =>
      intro attributed
      refine (prefix_iff_counted distinct small order).mpr fun slot id member => ?_
      exact attributed.status slot id (by rwa [reported])
    next =>
      intro front
      refine ⟨?_, ?_⟩
      next =>
        rw [reported]
        exact (prefix_iff_counted distinct small order).mp front
      next =>
        intro closing slot member timed
        rw [ends, List.mem_singleton] at member
        obtain ⟨complete, -⟩ | ⟨timeout, owed, -⟩ := outcome
        next =>
          rw [← member, timed] at complete
          cases complete
        next =>
          rw [← member, timed] at timeout
          rw [Outcome.timeout.inj timeout, UInt8.toNat_ofNat', Nat.mod_eq_of_lt (by omega)]
          have silent := firstSilent_of_prefix distinct front (by rwa [List.length_map])
          rwa [List.length_map] at silent

end Slots

def lone : List UInt8 := [0, 2, 3, 0x9C, 161, 89]

def asked : HostBus :=
  ((HostBus.new 48 .b1000000).submit (.exchange broadcast 0x50 [0, 0, 2, 0, 1, 2]) (glance lone 0 0)).1

def loneEvents : List Event :=
  [.status 0 2 0x9C ⟨[], []⟩, .done ⟨.timeout 1, 90000, ⟨1, 0, false⟩⟩]

theorem asked_accepted : (HostBus.new 48 .b1000000).step (glance lone 0 0)
    (.submit (.exchange broadcast 0x50 [0, 0, 2, 0, 1, 2])) = some (asked, .accepted) := rfl

theorem lone_replied : Replied (fun p => lone.getD p 0) 1024 0 [⟨2, 3, 0x9C⟩] :=
  ⟨⟨rfl, rfl, rfl, rfl, by decide, by decide, by decide, by decide +kernel⟩, by decide, by decide, trivial⟩

theorem lone_collects :
    ∃ last, Collects (fun p => lone.getD p 0) 1024 0 [⟨2, 3, 0x9C⟩] asked last 6 loneEvents := by
  have polled : ((asked.onTxComplete (glance lone 100 0)).poll (glance lone 2000 6)).bind (fun one =>
      (one.1.poll (glance lone 90000 6)).map fun two => (one.2, two.2)) =
        some (loneEvents[0]?, loneEvents[1]?) := by
    decide +kernel
  obtain ⟨⟨heard, one⟩, first, rest⟩ := Option.bind_eq_some_iff.mp polled
  obtain ⟨⟨last, two⟩, second, both⟩ := Option.map_eq_some_iff.mp rest
  obtain ⟨rfl, rfl⟩ := Prod.mk.inj both
  have begun : Collects (fun p => lone.getD p 0) 1024 0 [⟨2, 3, 0x9C⟩] asked asked 0 [] := .start
  have drained := begun.step rfl (glance_observes 100 (Nat.le_refl 0) (by decide) (by decide)) (Nat.le_refl 0)
    (by decide) (by decide) (show asked.step (glance lone 100 0) .onTxComplete = some (_, .quiet) from rfl)
    (fun no => absurd rfl no)
  have handed := drained.step rfl (glance_observes 2000 (by decide : 0 ≤ 6) (by decide) (by decide)) (Nat.le_refl 6)
    (by decide) (by decide) (step_poll first) (fun no => absurd rfl no)
  exact ⟨last, handed.step rfl (glance_observes 90000 (Nat.le_refl 6) (by decide) (by decide)) (Nat.le_refl 6)
    (by decide) (by decide) (step_poll second) (fun _ => rfl)⟩

theorem lone_misattributed :
    ¬ ∀ (stream : Nat → UInt8) (len start count : Nat) (replies : List Reply) (bus first last : HostBus)
      (events : List Event) (id : UInt8) (inst : Inst) (payload ids : List UInt8) (io : Io),
      inst.opcode = some .gread → listedIds inst (.ofList payload) = some ids → ids.Nodup →
        bus.step io (.submit (.exchange id inst payload)) = some (first, .accepted) →
          Receives stream len start io.here → Replied stream len start replies →
            (replies.map Reply.id).Sublist ids → Collects stream len start replies first last count events →
              terminals events ≠ [] → Attributed ids (replies.map Reply.id) events := by
  intro claim
  obtain ⟨last, ran⟩ := lone_collects
  have attributed := claim _ _ _ _ _ _ _ _ _ _ 0x50 _ [1, 2] _ rfl (by decide) (by decide) asked_accepted
    (receives_firstLap (by decide) (Nat.zero_le _) (by decide)) lone_replied (by decide) ran (by decide)
  exact absurd (attributed.status 0 2 (by decide)) (by decide)

theorem slots_right_iff_lone : Attributed [1, 2] [2] loneEvents ↔ ([2] : List UInt8) <+: [1, 2] := by
  obtain ⟨last, ran⟩ := lone_collects
  have listed : listedIds 0x50 (.ofList [0, 0, 2, 0, 1, 2]) = some [1, 2] := by decide
  exact slots_right_iff rfl listed (by decide) asked_accepted
    (receives_firstLap (by decide) (Nat.zero_le _) (by decide)) lone_replied (by decide) ran (by decide)

end OpenServo.Host
