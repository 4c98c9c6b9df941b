import OpenServo.Host.Slots
import OpenServo.Host.Stale

set_option autoImplicit false

namespace OpenServo.Host

open OpenServo.Protocol OpenServo.Shared

/-- The exchange ends with what comes in, and not with what is sent. -/
def Shape.awaits (plan : Shape) : Bool :=
  plan.train.isNone && plan.replies ≠ .none

def Event.footprint : Event → Nat
  | .status _ _ _ payload => payload.len + 6
  | .done _ | .wireDone _ => 0

def statuses (events : List Event) : Nat :=
  events.countP Event.isStatus

def footprints (events : List Event) : Nat :=
  (events.map Event.footprint).sum

def Step.ends : Step → Bool
  | .frame f => f.inst.isStatus
  | .garble _ => false
  | .partialFrame | .idle => true

def Framer.consumed (framer : Framer) (look : Look) : Nat :=
  ((framer.step look).1.anchor + look.ring.length - framer.anchor) % look.ring.length

/-- The looks of one call, whose walk starts at `place` and stops at `stop`. At each of them fewer bytes are
unconsumed than the ring holds; `last` bytes have come in at the last one. -/
inductive Turns (stream : Nat → UInt8) (len : Nat) : Framer → Nat → Nat → List Look → Nat → Nat → Prop where
  | last {framer : Framer} {place count next : Nat} {look : Look} {looks : List Look} (later : count ≤ next)
    (lap : next < place + len) (receives : Receives stream len next look)
    (ends : (framer.step look).2.ends = true) :
      Turns stream len framer place count (look :: looks) (place + framer.consumed look) next
  | more {framer : Framer} {place count next stop last : Nat} {look : Look} {looks : List Look}
    (later : count ≤ next) (lap : next < place + len) (receives : Receives stream len next look)
    (goes : (framer.step look).2.ends = false)
    (rest : Turns stream len (framer.step look).1 (place + framer.consumed look) next looks stop last) :
      Turns stream len framer place count (look :: looks) stop last

/-- An exchange under way, with where its walk stands, how much the ring has received, where the last status
handed out ends, and the cursor that its terminal was made from. -/
structure Course where
  bus : HostBus
  place : Nat
  count : Nat
  behind : Nat
  read : Option Nat := none
  events : List Event := []

/-- The courses of an exchange up to its terminal, under any other calls. A terminal that the walk makes is
made from the walk's last look, another one from the cursor behind the walk. -/
inductive Runs (stream : Nat → UInt8) (len start : Nat) (first : HostBus) : Course → Prop where
  | submit : Runs stream len start first { bus := first, place := start, count := start, behind := start }
  | aside {course : Course} {after : HostBus} {here : Nat} {op : Op} {io : Io} {answer : Answer}
    (before : Runs stream len start first course) (going : terminals course.events = [])
    (other : op ≠ .poll ∨ course.bus.state ≠ .awaiting) (later : course.count ≤ here)
    (receives : Receives stream len here io.here) (stepped : course.bus.step io op = some (after, answer)) :
      Runs stream len start first
        { course with bus := after, count := here, events := course.events ++ answer.events }
  | poll {course : Course} {after : HostBus} {stop last here : Nat} {io : Io} {event : Option Event}
    (before : Runs stream len start first course) (going : terminals course.events = [])
    (state : course.bus.state = .awaiting)
    (turns : Turns stream len course.bus.framer course.place course.count io.looks stop last)
    (later : last ≤ here) (lap : here < stop + len) (receives : Receives stream len here io.here)
    (polled : course.bus.poll io = some (after, event)) :
      Runs stream len start first
        { bus := after
          place := stop
          count := here
          behind := if event.any Event.isStatus then stop else course.behind
          read :=
            if after.state = .awaiting then none
            else if event.any Event.isStatus then some last
            else some here
          events := course.events ++ (Answer.ofEvent event).events }

/-- The bytes from `start` up to `upto` by what became of them: those of the statuses handed out, the last of
which ends at `behind`, and garble. Both counts stick at their largest value. -/
structure Conserved (start behind upto count bytes : Nat) (evidence : WireEvidence) : Prop where
  inside : start + bytes ≤ behind
  ordered : behind ≤ upto
  statuses : evidence.statuses.toNat = min 255 count
  garble : evidence.garble.toNat = min 65535 (upto - start - bytes)
  trailing : evidence.garbleAfterLastFrame = decide (behind < upto)

section Counts

variable {start behind upto count bytes : Nat} {evidence : WireEvidence}

theorem conserved_nothing (start : Nat) : Conserved start start start 0 0 {} :=
  ⟨Nat.le_refl start, Nat.le_refl start, rfl, by simp, by simp⟩

theorem Conserved.junk (conserved : Conserved start behind upto count bytes evidence) {n : Nat} (some : 0 < n)
    (small : n < 65536) : Conserved start behind (upto + n) count bytes (evidence.junk (UInt16.ofNat n)) := by
  obtain ⟨inside, ordered, statuses, garble, trailing⟩ := conserved
  have exact_ : (UInt16.ofNat n).toNat = n := Nat.mod_eq_of_lt small
  have sum : min 65535 (evidence.garble.toNat + n) < 65536 := by omega
  refine ⟨inside, ordered.trans (Nat.le_add_right _ _), statuses, ?_, ?_⟩
  next =>
    rw [WireEvidence.junk, exact_]
    show min 65535 (evidence.garble.toNat + n) % 65536 = _
    rw [Nat.mod_eq_of_lt sum, garble]
    omega
  next =>
    show true = _
    rw [decide_eq_true (by omega)]

theorem toNat_satInc (n : UInt8) : (HostBus.satInc n).toNat = min 255 (n.toNat + 1) := by
  have bound := n.toNat_lt
  unfold HostBus.satInc
  split
  next full => rw [full]; rfl
  next more =>
    have other : n.toNat ≠ 255 := fun same => more (UInt8.toNat_inj.mp same)
    rw [UInt8.toNat_add]
    show (n.toNat + 1) % 256 = _
    omega

theorem Conserved.credit (conserved : Conserved start behind upto count bytes evidence) (n : Nat) :
    Conserved start (upto + n) (upto + n) (count + 1) (bytes + n)
      { evidence with statuses := HostBus.satInc evidence.statuses, garbleAfterLastFrame := false } := by
  obtain ⟨inside, ordered, statuses, garble, trailing⟩ := conserved
  refine ⟨by omega, Nat.le_refl _, ?_, ?_, ?_⟩
  next =>
    rw [toNat_satInc, statuses]
    omega
  next =>
    rw [garble]
    congr 1
    omega
  next =>
    show false = _
    rw [decide_eq_false (Nat.lt_irrefl _)]

end Counts

structure Listens (len start behind place count bytes : Nat) (plan : Shape) (bus : HostBus) : Prop where
  state : bus.state = .pacing ∨ bus.state = .transmitting ∨ bus.state = .awaiting
  plan : bus.plan = some plan
  framer : bus.framer = ⟨place % len⟩
  conserved : Conserved start behind place count bytes bus.evidence
  done : bus.pendingDone = none
  wire : bus.pendingWireDone = none

inductive Leaves (len start behind count bytes stop last : Nat) (plan : Shape) :
    HostBus × Option HostBus.Emit → Prop where
  | waits {after : HostBus} (listens : Listens len start behind stop count bytes plan after)
    (state : after.state = .awaiting) : Leaves len start behind count bytes stop last plan (after, none)
  | status {after : HostBus} {emit : HostBus.Emit} (place : emit.pos < len) (fits : emit.len ≤ len)
    (listens : Listens len start stop stop (count + 1) (bytes + (emit.len + 6)) plan after)
    (state : after.state = .awaiting) : Leaves len start behind count bytes stop last plan (after, some emit)
  | closes {after : HostBus} {emit : HostBus.Emit} (terminal : Terminal) (place : emit.pos < len)
    (fits : emit.len ≤ len) (state : after.state = .idle) (done : after.pendingDone = some terminal)
    (conserved : Conserved start stop last (count + 1) (bytes + (emit.len + 6)) terminal.evidence) :
      Leaves len start behind count bytes stop last plan (after, some emit)

namespace HostBus

section Walk

variable {stream : Nat → UInt8} {len start behind place count bytes : Nat} {plan : Shape} {bus after : HostBus}

theorem strand_conserved {behind place count bytes here : Nat} {look : Look} (small : len ≤ 65536)
    (framer : bus.framer = ⟨place % len⟩) (conserved : Conserved start behind place count bytes bus.evidence)
    (receives : Receives stream len here look) (ordered : place ≤ here) (lap : here < place + len) :
    Conserved start behind here count bytes (bus.strand look).evidence := by
  have left : unresolved bus.framer.anchor look.cursor look.ring.length = UInt16.ofNat (here - place) := by
    rw [unresolved, framer, receives.size, receives.cursor, wrapped_distance ordered lap]
  obtain ⟨n, rfl⟩ := Nat.exists_eq_add_of_le ordered
  rw [Nat.add_sub_cancel_left] at left
  have exact_ : (UInt16.ofNat n).toNat = n := Nat.mod_eq_of_lt (by omega)
  unfold strand
  dsimp only
  rw [left]
  split
  next some =>
    have some : 0 < n := exact_ ▸ UInt16.lt_iff_toNat_lt.mp some
    exact conserved.junk some (by omega)
  next none =>
    have none : n = 0 := by
      by_contra other
      exact none (UInt16.lt_iff_toNat_lt.mpr (exact_.symm ▸ Nat.pos_of_ne_zero other))
    rw [none, Nat.add_zero]
    exact conserved

theorem consumed_eq {n : Nat} {look : Look} {framer : Framer} {here : Nat} (at_ : framer = ⟨place % len⟩)
    (receives : Receives stream len here look) (short : n < len)
    (out : (framer.step look).1 = ⟨(place + n) % len⟩) : framer.consumed look = n := by
  have distance := @wrapped_distance len place (place + n) (Nat.le_add_right _ _) (by omega)
  rw [Nat.add_sub_cancel_left] at distance
  rw [Framer.consumed, out, receives.size, at_]
  exact distance

theorem credit_leaves {now paceAt : UInt32} {expected : Option UInt8} {look : Look} {f : Frame} {last : Nat}
    (small : len ≤ 65536) (listens : Listens len start behind place count bytes plan bus)
    (state : bus.state = .awaiting) (receives : Receives stream len last look) (lap : last < place + len)
    (inside : place + (f.payload.len + 6) ≤ last) (pos : f.payloadPos < len) (fits : f.payload.len ≤ len) :
    Leaves len start behind count bytes (place + (f.payload.len + 6)) last plan
      (Prod.map id some (({ bus with framer := ⟨(place + (f.payload.len + 6)) % len⟩ } : HostBus).credit now expected
        paceAt look f)) := by
  have credited := listens.conserved.credit (f.payload.len + 6)
  unfold credit
  dsimp only
  split
  next closes =>
    exact .closes _ pos fits rfl rfl (@strand_conserved stream len start { bus with
      framer := ⟨(place + (f.payload.len + 6)) % len⟩
      evidence := { bus.evidence with statuses := satInc bus.evidence.statuses, garbleAfterLastFrame := false }
      compare := none, state := .idle } _ _ _ _ _ _ small rfl credited receives inside (by omega))
  next =>
    exact .status pos fits ⟨listens.state, listens.plan, rfl, credited, listens.done, listens.wire⟩ state

theorem junk_listens (listens : Listens len start behind place count bytes plan bus) (now : UInt32) {n : Nat}
    (some : 0 < n) (short : n < 65536) :
    Listens len start behind (place + n) count bytes plan
      (({ bus with framer := ⟨(place + n) % len⟩ } : HostBus).junk now (UInt16.ofNat n)) :=
  ⟨listens.state, listens.plan, rfl, listens.conserved.junk some short, listens.done, listens.wire⟩

theorem walk_leaves {now paceAt : UInt32} {expected : Option UInt8} {looks : List Look} {stop last seen : Nat}
    {framer : Framer} {result : HostBus × Option Emit} (small : len ≤ 65536)
    (turns : Turns stream len framer place seen looks stop last) (same : bus.framer = framer)
    (ordered : place ≤ seen) (listens : Listens len start behind place count bytes plan bus)
    (state : bus.state = .awaiting) (walked : bus.walk now expected paceAt looks = some result) :
    stop ≤ last ∧ Leaves len start behind count bytes stop last plan result := by
  -- On the turns: what is consumed so far is what the evidence accounts for.
  induction turns generalizing bus with
  | @last framer place seen next look looks later lap receives ends =>
    have told := step_told receives (show place ≤ next by omega) lap
    have at_ : framer = ⟨place % len⟩ := same.symm.trans listens.framer
    rw [← at_] at told
    unfold walk at walked
    rw [same] at walked
    dsimp only at walked
    generalize out : framer.step look = verdict at told walked ends
    cases told with
    | idle empty =>
      obtain rfl := Option.some.inj walked
      rw [consumed_eq at_ receives (show 0 < len by omega) (by rw [out]; rfl)]
      exact ⟨by omega, .waits { listens with framer := rfl } state⟩
    | parked zero short =>
      obtain rfl := Option.some.inj walked
      rw [consumed_eq at_ receives (show 0 < len by omega) (by rw [out]; rfl)]
      exact ⟨by omega, .waits { listens with framer := rfl } state⟩
    | garble => cases ends
    | frame id size inst payload here body inside fits =>
      have status : inst.isStatus = true := ends
      have whole : payload.len + 6 = footprint size := by
        have atLeast := here.atLeast
        rw [← payload.length_bytes, body, length_streamBytes, footprint]
        omega
      simp only [status, if_true] at walked
      rw [← whole] at walked inside out
      obtain rfl := Option.some.inj walked
      rw [consumed_eq at_ receives (show payload.len + 6 < len by omega) (by rw [out])]
      have pos : (place + 4) % len < len := Nat.mod_lt _ receives.room
      exact ⟨inside, @credit_leaves stream len start behind place count bytes plan bus now paceAt expected look
        ⟨id, inst, payload, (place + 4) % len⟩ next small listens state receives lap inside pos
        (show payload.len ≤ len by omega)⟩
  | @more framer place seen next stop last look looks later lap receives goes rest ih =>
    have told := step_told receives (show place ≤ next by omega) lap
    have at_ : framer = ⟨place % len⟩ := same.symm.trans listens.framer
    rw [← at_] at told
    unfold walk at walked
    rw [same] at walked
    dsimp only at walked
    generalize out : framer.step look = verdict at told walked goes rest ih
    cases told with
    | idle | parked => cases goes
    | garble n some inside =>
      have consumed := consumed_eq at_ receives (show n < len by omega) (by rw [out])
      rw [consumed] at ih
      exact ih (by rfl) (by omega) (junk_listens listens now some (by omega)) state walked
    | frame id size inst payload here body inside fits =>
      have rogue : inst.isStatus = false := goes
      have whole : payload.len + 6 = footprint size := by
        have atLeast := here.atLeast
        rw [← payload.length_bytes, body, length_streamBytes, footprint]
        omega
      simp only [rogue, Bool.false_eq_true, if_false] at walked
      rw [← whole] at walked inside out ih
      have consumed := consumed_eq at_ receives (show payload.len + 6 < len by omega) (by rw [out])
      rw [consumed] at ih
      exact ih (by rfl) (by omega) (junk_listens listens now (by omega) (by omega)) state walked

end Walk

end HostBus

@[simp] theorem statuses_append (first second : List Event) :
    statuses (first ++ second) = statuses first + statuses second :=
  List.countP_append

@[simp] theorem footprints_append (first second : List Event) :
    footprints (first ++ second) = footprints first + footprints second := by
  simp [footprints]

@[simp] theorem terminals_append (first second : List Event) :
    terminals (first ++ second) = terminals first ++ terminals second :=
  List.filterMap_append

inductive Stands (len start : Nat) (plan : Shape) (course : Course) : Prop where
  | listens (ordered : course.place ≤ course.count) (quiet : terminals course.events = [])
    (listens : Listens len start course.behind course.place (statuses course.events) (footprints course.events) plan
      course.bus)
  | closed (terminal : Terminal) (read : Nat) (quiet : terminals course.events = []) (state : course.bus.state = .idle)
    (done : course.bus.pendingDone = some terminal) (made : course.read = some read)
    (conserved : Conserved start course.behind read (statuses course.events) (footprints course.events)
      terminal.evidence)
  | handed (terminal : Terminal) (read : Nat) (ends : terminals course.events = [terminal])
    (made : course.read = some read)
    (conserved : Conserved start course.behind read (statuses course.events) (footprints course.events)
      terminal.evidence)

section Course

variable {stream : Nat → UInt8} {len start : Nat} {plan : Shape} {course : Course} {first after : HostBus}

theorem Listens.busy {behind place count bytes : Nat} {bus : HostBus}
    (listens : Listens len start behind place count bytes plan bus) : bus.ready = false := by
  obtain state | state | state := listens.state <;> simp [HostBus.ready, state]

theorem Listens.onDeadline {behind place count bytes : Nat} {bus : HostBus}
    (listens : Listens len start behind place count bytes plan bus) (io : Io) : bus.onDeadline io = bus := by
  obtain state | state | state := listens.state <;> simp [HostBus.onDeadline, state]

theorem Listens.onTxComplete {behind place count bytes : Nat} {bus : HostBus}
    (listens : Listens len start behind place count bytes plan bus) (awaits : plan.awaits = true) (io : Io) :
    Listens len start behind place count bytes plan (bus.onTxComplete io) := by
  obtain state | state | state := listens.state
  next => simpa [HostBus.onTxComplete, state] using listens
  next =>
    simp only [Shape.awaits, Bool.and_eq_true, Option.isNone_iff_eq_none, decide_eq_true_eq] at awaits
    have opened : bus.onTxComplete io = ({ bus.drive [.release] with
        window := bus.windowFor plan
        got := 0
        lastCursor := io.here.cursor
        state := .awaiting } : HostBus).arm (io.clock 0 + bus.windowFor plan) := by
      simp [HostBus.onTxComplete, state, listens.plan, awaits]
    rw [opened]
    exact ⟨.inr (.inr rfl), listens.plan, listens.framer, listens.conserved, listens.done, listens.wire⟩
  next => simpa [HostBus.onTxComplete, state] using listens

theorem Listens.poll {behind place count bytes : Nat} {bus : HostBus} {io : Io} {event : Option Event}
    (listens : Listens len start behind place count bytes plan bus) (early : bus.state ≠ .awaiting)
    (polled : bus.poll io = some (after, event)) :
    event = none ∧ Listens len start behind place count bytes plan after := by
  obtain state | state | state := listens.state
  next =>
    simp only [HostBus.poll, listens.done, listens.wire, state] at polled
    split at polled
    next =>
      rw [HostBus.takeEvent_none (by exact listens.done) (by exact listens.wire)] at polled
      obtain ⟨rfl, rfl⟩ := Prod.mk.inj (Option.some.inj polled)
      exact ⟨rfl, { listens with state := .inr (.inl rfl) }⟩
    next =>
      rw [HostBus.takeEvent_none listens.done listens.wire] at polled
      obtain ⟨rfl, rfl⟩ := Prod.mk.inj (Option.some.inj polled)
      exact ⟨rfl, listens⟩
  next =>
    simp only [HostBus.poll, listens.done, listens.wire, state] at polled
    rw [HostBus.takeEvent_none listens.done listens.wire] at polled
    obtain ⟨rfl, rfl⟩ := Prod.mk.inj (Option.some.inj polled)
    exact ⟨rfl, listens⟩
  next => exact absurd state early

theorem Stands.aside {op : Op} {io : Io} {answer : Answer} {here : Nat} (stands : Stands len start plan course)
    (awaits : plan.awaits = true) (going : terminals course.events = [])
    (other : op ≠ .poll ∨ course.bus.state ≠ .awaiting) (later : course.count ≤ here)
    (stepped : course.bus.step io op = some (after, answer)) :
    Stands len start plan
      { course with bus := after, count := here, events := course.events ++ answer.events } := by
  have silent {bus : HostBus} (answer : Answer) (nothing : answer.events = []) (same : bus = course.bus) :
      Stands len start plan
        { course with bus, count := here, events := course.events ++ answer.events } := by
    subst same
    cases stands with
    | listens ordered quiet listens =>
      exact .listens (ordered.trans later) (by simp [nothing, quiet]) (by simpa [nothing] using listens)
    | closed terminal read quiet state done made conserved =>
      exact .closed terminal read (by simp [nothing, quiet]) state done made (by simpa [nothing] using conserved)
    | handed terminal read ends =>
      rw [going] at ends
      cases ends
  cases stands with
  | listens ordered quiet listens =>
    have listened {bus : HostBus} (still : Listens len start course.behind course.place (statuses course.events)
        (footprints course.events) plan bus) :
        Stands len start plan { course with bus, count := here, events := course.events ++ [] } := by
      exact .listens (ordered.trans later) (by simp [quiet]) (by simpa using still)
    obtain ⟨rfl, rfl⟩ | rfl | rfl | rfl := HostBus.step_busy listens.busy stepped
    next => exact listened listens
    next =>
      obtain ⟨rfl, rfl⟩ := Prod.mk.inj (Option.some.inj stepped)
      exact listened (listens.onTxComplete awaits io)
    next =>
      obtain ⟨rfl, rfl⟩ := Prod.mk.inj (Option.some.inj stepped)
      exact listened (by rw [listens.onDeadline io]; exact listens)
    next =>
      have early := other.resolve_left (not_not.mpr rfl)
      obtain ⟨⟨polled, event⟩, ran, made⟩ := Option.map_eq_some_iff.mp stepped
      obtain ⟨rfl, rfl⟩ := Prod.mk.inj made
      obtain ⟨rfl, still⟩ := listens.poll early ran
      exact listened still
  | closed terminal read quiet state done made conserved =>
    have busy : course.bus.ready = false := by simp [HostBus.ready, done]
    obtain ⟨same, rfl⟩ | rfl | rfl | rfl := HostBus.step_busy busy stepped
    next => exact silent _ rfl same
    next =>
      obtain ⟨rfl, rfl⟩ := Prod.mk.inj (Option.some.inj stepped)
      exact silent _ rfl (by simp [HostBus.onTxComplete, state])
    next =>
      obtain ⟨rfl, rfl⟩ := Prod.mk.inj (Option.some.inj stepped)
      exact silent _ rfl (by simp [HostBus.onDeadline, state])
    next =>
      simp only [HostBus.step, HostBus.poll, done, Option.map_some, Option.some.injEq] at stepped
      obtain ⟨rfl, rfl⟩ := Prod.mk.inj stepped
      refine .handed terminal read ?_ made ?_
      next =>
        rw [terminals_append, quiet]
        rfl
      next =>
        simpa [Answer.ofEvent, Answer.events, statuses, footprints, Event.isStatus, Event.footprint] using conserved
  | handed terminal read ends =>
    rw [going] at ends
    cases ends

inductive Waits (len start behind stop here count bytes : Nat) (plan : Shape) : HostBus × Option Event → Prop where
  | on {after : HostBus} (listens : Listens len start behind stop count bytes plan after)
    (state : after.state = .awaiting) : Waits len start behind stop here count bytes plan (after, none)
  | closes {after : HostBus} (terminal : Terminal) (state : after.state = .idle)
    (conserved : Conserved start behind here count bytes terminal.evidence) :
      Waits len start behind stop here count bytes plan (after, some (.done terminal))

theorem Listens.wait {behind stop here count bytes : Nat} {bus : HostBus} (now : UInt32) (clock : Nat → UInt32)
    {look : Look} (small : len ≤ 65536) (listens : Listens len start behind stop count bytes plan bus)
    (state : bus.state = .awaiting) (receives : Receives stream len here look) (ordered : stop ≤ here)
    (lap : here < stop + len) :
    Waits len start behind stop here count bytes plan (bus.wait now plan clock look).takeDone := by
  have waiting (compare : Option UInt32) (deadlineAt : UInt32) : Waits len start behind stop here count bytes plan
      ({ bus with lastCursor := look.cursor, compare, deadlineAt } : HostBus).takeDone := by
    rw [HostBus.takeDone_none (by exact listens.done)]
    exact .on ⟨listens.state, listens.plan, listens.framer, listens.conserved, listens.done, listens.wire⟩ state
  unfold HostBus.wait
  dsimp only
  split
  next => exact waiting _ _
  next =>
    split
    next =>
      exact .closes _ rfl (@HostBus.strand_conserved stream len start
        { bus with lastCursor := look.cursor, compare := none } behind stop count bytes here look small listens.framer
        listens.conserved receives ordered lap)
    next => exact waiting bus.compare bus.deadlineAt

theorem Stands.poll {io : Io} {event : Option Event} {stop last here : Nat} (stands : Stands len start plan course)
    (small : len ≤ 65536) (going : terminals course.events = []) (state : course.bus.state = .awaiting)
    (turns : Turns stream len course.bus.framer course.place course.count io.looks stop last)
    (later : last ≤ here) (lap : here < stop + len) (receives : Receives stream len here io.here)
    (polled : course.bus.poll io = some (after, event)) :
    Stands len start plan
      { bus := after
        place := stop
        count := here
        behind := if event.any Event.isStatus then stop else course.behind
        read :=
          if after.state = .awaiting then none
          else if event.any Event.isStatus then some last
          else some here
        events := course.events ++ (Answer.ofEvent event).events } := by
  cases stands with
  | closed terminal read quiet idle =>
    rw [idle] at state
    cases state
  | handed terminal read ends =>
    rw [going] at ends
    cases ends
  | listens ordered quiet listens =>
    have awaited : course.bus.pollAwait (io.clock 0) io = some (after, event) := by
      simpa only [HostBus.poll, listens.done, listens.wire, state] using polled
    simp only [HostBus.pollAwait, listens.plan] at awaited
    -- The walk hands out a status, or what it leaves is waited on.
    split at awaited
    next => cases awaited
    next walker emit walked =>
      obtain ⟨passed, leaves⟩ := HostBus.walk_leaves small turns rfl ordered listens state walked
      obtain ⟨rfl, rfl⟩ := Prod.mk.inj (Option.some.inj awaited)
      have counted (inside : emit.pos < len) (fits : emit.len ≤ len) :
          footprints [Event.status emit.slot emit.id emit.inst (payloadView io.here.ring emit.pos emit.len)] =
            emit.len + 6 := by
        have bytes := payloadView_bytes io.here.ring emit.pos emit.len (by rwa [receives.size]) (by rwa [receives.size])
        rw [footprints, List.map_singleton, List.sum_singleton, Event.footprint, ← FrameBytes.length_bytes, bytes,
          around_length]
      have still : terminals (course.events ++ (Answer.ofEvent (some (Event.status emit.slot emit.id emit.inst
          (payloadView io.here.ring emit.pos emit.len)))).events) = [] := by
        rw [terminals_append, quiet]
        rfl
      cases leaves with
      | status inside fits listened on =>
        refine .listens (passed.trans later) still ?_
        rw [statuses_append, footprints_append, Answer.ofEvent, Answer.events, counted inside fits]
        exact listened
      | closes terminal inside fits idle done conserved =>
        refine .closed terminal last still idle done (by simp [idle, Event.isStatus]) ?_
        rw [statuses_append, footprints_append, Answer.ofEvent, Answer.events, counted inside fits]
        exact conserved
    next walker walked =>
      obtain ⟨passed, leaves⟩ := HostBus.walk_leaves small turns rfl ordered listens state walked
      cases leaves with
      | waits listened on =>
        have waits := listened.wait (io.clock 0) (Host.later io.clock 1) small on receives (passed.trans later) lap
        rw [Option.some.inj awaited] at waits
        cases waits with
        | on listened on =>
          refine .listens (passed.trans later) ?_ ?_
          next =>
            rw [terminals_append, quiet]
            rfl
          next =>
            rw [statuses_append, footprints_append]
            exact listened
        | closes terminal idle conserved =>
          refine .handed terminal here ?_ (by simp [idle, Event.isStatus]) ?_
          next =>
            rw [terminals_append, quiet]
            rfl
          next =>
            rw [statuses_append, footprints_append]
            exact conserved

theorem submit_listens {bus : HostBus} {id : UInt8} {inst : Inst} {payload : List UInt8} {io : Io}
    (derived : Shape.derive id inst payload = .ok plan)
    (submitted : bus.step io (.submit (.exchange id inst payload)) = some (first, .accepted))
    (receives : Receives stream len start io.here) : Listens len start start start 0 0 plan first := by
  obtain ⟨⟨taken, result⟩, outcome⟩ : ∃ outcome, bus.submit (.exchange id inst payload) io = outcome := ⟨_, rfl⟩
  simp only [HostBus.step, outcome, Option.some.injEq] at submitted
  obtain ⟨rfl, accepted⟩ := Prod.mk.inj submitted
  obtain rfl : result = .ok () := by
    cases result with
    | ok => rfl
    | error => cases accepted
  obtain ⟨_, same, posed⟩ := submit_posed outcome
  obtain rfl := Except.ok.inj (derived.symm.trans same)
  have framer : taken.framer = ⟨start % len⟩ := by rw [posed.framer, receives.cursor]
  have conserved : Conserved start start start 0 0 taken.evidence := by
    rw [posed.evidence]
    exact conserved_nothing start
  exact ⟨posed.state.imp_right .inl, posed.plan, framer, conserved, posed.done, posed.wire⟩

theorem Runs.stands (runs : Runs stream len start first course) (awaits : plan.awaits = true) (small : len ≤ 65536)
    (begun : Listens len start start start 0 0 plan first) : Stands len start plan course := by
  induction runs with
  | submit => exact .listens (Nat.le_refl start) rfl begun
  | aside _ going other later _ stepped ih => exact ih.aside awaits going other later stepped
  | poll _ going state turns later lap receives polled ih =>
    exact ih.poll small going state turns later lap receives polled

/-- Over every run of an exchange that awaits replies, on a ring whose cursor is sixteen bits: the terminal's
evidence accounts for each byte from the resync to the cursor that the terminal is made from. -/
theorem evidence_conserved {bus : HostBus} {id : UInt8} {inst : Inst} {payload : List UInt8} {io : Io}
    {terminal : Terminal} (derived : Shape.derive id inst payload = .ok plan) (awaits : plan.awaits = true)
    (submitted : bus.step io (.submit (.exchange id inst payload)) = some (first, .accepted))
    (receives : Receives stream len start io.here) (small : len ≤ 65536)
    (runs : Runs stream len start first course) (ended : terminal ∈ terminals course.events) :
    ∃ read, course.read = some read ∧
      Conserved start course.behind read (statuses course.events) (footprints course.events) terminal.evidence := by
  cases runs.stands awaits small (submit_listens derived submitted receives) with
  | listens _ quiet | closed _ _ quiet =>
    rw [quiet] at ended
    cases ended
  | handed closing read ends made conserved =>
    rw [ends, List.mem_singleton] at ended
    exact ⟨read, made, ended ▸ conserved⟩

end Course

def stray : List UInt8 :=
  [0x55, 0, 5, 3, 0x80, 17, 81]

def strayAsked : HostBus :=
  ((HostBus.new 48 .b1000000).submit (.exchange 5 0x10 []) (glance stray 0 0)).1

def strayPoll : Io :=
  ⟨fun _ => 2000, [firstLap stray 1024 7, firstLap stray 1024 7], firstLap stray 1024 7⟩

theorem stray_runs : ∃ course, Runs (fun p => stray.getD p 0) 1024 0 strayAsked course ∧
    terminals course.events = [⟨.complete, 2000, ⟨1, 1, false⟩⟩] := by
  have whole : Receives (fun p => stray.getD p 0) 1024 7 (firstLap stray 1024 7) :=
    receives_firstLap (by decide) (by decide) (by decide)
  have before : Receives (fun p => stray.getD p 0) 1024 0 (firstLap stray 1024 0) :=
    receives_firstLap (by decide) (by decide) (by decide)
  have polled : ((strayAsked.onTxComplete (glance stray 100 0)).poll strayPoll).bind (fun one =>
      (one.1.poll strayPoll).map fun two => (one.1.state, one.2, two.2)) =
        some (.idle, some (.status 0 5 0x80 ⟨[], []⟩), some (.done ⟨.complete, 2000, ⟨1, 1, false⟩⟩)) := by
    decide +kernel
  obtain ⟨⟨heard, one⟩, firstPoll, rest⟩ := Option.bind_eq_some_iff.mp polled
  obtain ⟨⟨last, two⟩, secondPoll, both⟩ := Option.map_eq_some_iff.mp rest
  obtain ⟨idle, same, rfl⟩ : heard.state = .idle ∧ one = _ ∧ two = _ := by simpa using both
  subst same
  have drained := @Runs.aside (fun p => stray.getD p 0) 1024 0 strayAsked _ _ 0 .onTxComplete (glance stray 100 0) _
    .submit rfl (.inl fun no => (by cases no)) (Nat.le_refl 0) before rfl
  have hunted : (⟨0⟩ : Framer).consumed (firstLap stray 1024 7) = 1 := by decide +kernel
  have taken : ((⟨0⟩ : Framer).step (firstLap stray 1024 7)).1.consumed (firstLap stray 1024 7) = 6 := by
    decide +kernel
  have looks := @Turns.more _ 1024 ⟨0⟩ 0 0 7 _ _ (firstLap stray 1024 7) _ (by decide) (by decide) whole
    (by decide +kernel) (@Turns.last _ 1024 _ _ 7 7 _ [] (Nat.le_refl 7)
      (by rw [hunted]; decide) whole (by decide +kernel))
  rw [hunted, taken] at looks
  have turns : Turns (fun p => stray.getD p 0) 1024 ⟨0⟩ 0 0 strayPoll.looks 7 7 := looks
  have handed := drained.poll rfl rfl turns (Nat.le_refl 7) (by decide) whole firstPoll
  have closed := handed.aside rfl (.inr (fun on => by rw [idle] at on; cases on)) (Nat.le_refl 7) whole
    (step_poll secondPoll)
  exact ⟨_, closed, rfl⟩

theorem evidence_conserved_stray : ∃ (course : Course) (read : Nat), course.read = some read ∧
    Conserved 0 course.behind read (statuses course.events) (footprints course.events) ⟨1, 1, false⟩ := by
  obtain ⟨course, runs, ends⟩ := stray_runs
  have derived : Shape.derive 5 0x10 [] = .ok ⟨.single, pingReply, none, false⟩ := rfl
  have submitted : (HostBus.new 48 .b1000000).step (glance stray 0 0) (.submit (.exchange 5 0x10 [])) =
      some (strayAsked, .accepted) := rfl
  obtain ⟨read, made, conserved⟩ := evidence_conserved derived rfl submitted
    (receives_firstLap (by decide) (Nat.zero_le _) (by decide)) (by decide) runs
    (by rw [ends]; exact List.mem_cons_self)
  exact ⟨course, read, made, conserved⟩

def chatter (p : Nat) : UInt8 :=
  [0, 5, 3, 0x80, 17, 81].getD (p % 6) 0

def enumAsked : HostBus :=
  ((HostBus.new 48 .b1000000).submit (.exchange broadcast 0x70 [1, 0]) ⟨fun _ => 0, [], firstLap [] 2048 0⟩).1

theorem chatter_frame (k : Nat) : FrameAt chatter (6 * k) 5 3 0x80 := by
  have shift (i : Nat) : chatter (6 * k + i) = chatter i := by rw [chatter, Nat.mul_add_mod, chatter]
  have first : FrameAt chatter 0 5 3 0x80 :=
    ⟨rfl, rfl, rfl, rfl, by decide, by decide, by decide, by decide +kernel⟩
  have bytes (n : Nat) : streamBytes chatter (6 * k) n = streamBytes chatter 0 n := by
    simp only [streamBytes, shift, Nat.zero_add]
  obtain ⟨brk, idByte, lenByte, instByte, atLeast, valid, known, sum⟩ := first
  refine ⟨(shift 0).trans brk, (shift 1).trans idByte, (shift 2).trans lenByte, (shift 3).trans instByte, atLeast,
    valid, known, ?_⟩
  rw [bytes, sum, Nat.zero_add, shift, Nat.add_assoc (6 * k), shift]

def chatterLook (count : Nat) : Look :=
  firstLap (streamBytes chatter 0 count) 2048 count

theorem chatter_receives {count : Nat} (lap : count ≤ 2048) : Receives chatter 2048 count (chatterLook count) := by
  have shown : Receives _ 2048 count (chatterLook count) :=
    receives_firstLap (by decide) (by rw [length_streamBytes]) lap
  refine ⟨shown.room, shown.size, shown.cursor, fun p low high => (shown.shows p low high).trans ?_⟩
  show (streamBytes chatter 0 count).getD p 0 = chatter p
  simp [streamBytes, List.getD_eq_getElem?_getD, high]

def enumPlan : Shape :=
  ⟨.collect, enumReply, none, false⟩

structure Chatting (k : Nat) (course : Course) : Prop where
  runs : Runs chatter 2048 0 enumAsked course
  quiet : terminals course.events = []
  told : statuses course.events = k
  bytes : footprints course.events = 6 * k
  place : course.place = 6 * k
  count : course.count = 6 * k
  state : course.bus.state = .awaiting
  plan : course.bus.plan = some enumPlan
  framer : course.bus.framer = ⟨6 * k % 2048⟩
  done : course.bus.pendingDone = none
  wire : course.bus.pendingWireDone = none
  seen : course.bus.lastCursor = 6 * k % 2048

theorem chatting_none : ∃ course, Chatting 0 course := by
  have begun := @Runs.aside chatter 2048 0 enumAsked _ _ 0 .onTxComplete ⟨fun _ => 0, [], chatterLook 0⟩ _
    .submit rfl (.inl fun no => (by cases no)) (Nat.le_refl 0) (chatter_receives (by decide)) rfl
  exact ⟨_, begun, rfl, rfl, rfl, rfl, rfl, rfl, rfl, rfl, rfl, rfl, rfl⟩

theorem chatter_step {k : Nat} (room : 6 * (k + 1) ≤ 2048) : ∃ payload : FrameBytes, payload.bytes = [] ∧
    (⟨6 * k % 2048⟩ : Framer).step (chatterLook (6 * (k + 1))) =
      (⟨6 * (k + 1) % 2048⟩, .frame ⟨5, 0x80, payload, (6 * k + 4) % 2048⟩) := by
  have lands := step_lands (chatter_receives room) (show 6 * k ≤ 6 * (k + 1) by omega) (by omega)
  have frame := chatter_frame k
  have size : footprint 3 = 6 := rfl
  generalize out : (⟨6 * k % 2048⟩ : Framer).step (chatterLook (6 * (k + 1))) = result at lands
  cases lands with
  | idle empty => omega
  | parked short =>
    rw [frame.lenByte, size] at short
    omega
  | garble n some inside broken =>
    have long := broken _ _ _ frame
    omega
  | frame id size inst payload here body =>
    obtain rfl := here.idByte.symm.trans frame.idByte
    obtain rfl := here.lenByte.symm.trans frame.lenByte
    obtain rfl := here.instByte.symm.trans frame.instByte
    exact ⟨payload, body, rfl⟩

theorem Chatting.more {k : Nat} {course : Course} (chatting : Chatting k course) (room : 6 * (k + 1) ≤ 2048) :
    ∃ next, Chatting (k + 1) next := by
  have receives := chatter_receives room
  obtain ⟨payload, empty, out⟩ := chatter_step room
  have length : payload.len = 0 := by rw [← payload.length_bytes, empty]; rfl
  have at_ := chatting.framer
  have stop : course.place + course.bus.framer.consumed (chatterLook (6 * (k + 1))) = 6 * (k + 1) := by
    rw [HostBus.consumed_eq at_ receives (show 6 < 2048 by decide) (by rw [at_, out]; congr 2), chatting.place]
    omega
  have turns := @Turns.last chatter 2048 course.bus.framer course.place course.count _ _ []
    (by rw [chatting.count]; omega) (by rw [chatting.place]; omega) receives
    (by rw [at_, out]; exact (by decide : Inst.isStatus 0x80 = true))
  rw [stop] at turns
  let io : Io := ⟨fun _ => 0, [chatterLook (6 * (k + 1))], chatterLook (6 * (k + 1))⟩
  let hunted : HostBus := { course.bus with framer := ⟨6 * (k + 1) % 2048⟩ }
  let f : Frame := ⟨5, 0x80, payload, (6 * k + 4) % 2048⟩
  let now := 0 + starveHorizonByteTimes * course.bus.byteTicks
  have walked : course.bus.walk 0 none now io.looks =
      some (Prod.map id some (hunted.credit 0 none now (chatterLook (6 * (k + 1))) f)) := by
    have status : Inst.isStatus 0x80 = true := by decide
    simp only [io, HostBus.walk, at_, out, status, if_true]
    rfl
  have polled : course.bus.poll io = some ((hunted.credit 0 none now (chatterLook (6 * (k + 1))) f).1,
      some (.status (HostBus.satInc course.bus.got - 1) 5 0x80
        (payloadView io.here.ring f.payloadPos f.payload.len))) := by
    simp only [HostBus.poll, chatting.done, chatting.wire, chatting.state, HostBus.pollAwait, chatting.plan, enumPlan]
    rw [walked]
    rfl
  have looked : Turns chatter 2048 course.bus.framer course.place course.count io.looks _ _ := turns
  have handed := chatting.runs.poll chatting.quiet chatting.state looked (Nat.le_refl _) (by omega) receives polled
  refine ⟨_, handed, ?_, ?_, ?_, rfl, rfl, chatting.state, chatting.plan, rfl, chatting.done, chatting.wire,
    receives.cursor⟩
  next =>
    rw [terminals_append, chatting.quiet]
    rfl
  next =>
    rw [statuses_append, chatting.told]
    rfl
  next =>
    rw [footprints_append, chatting.bytes, Nat.mul_succ]
    show 6 * k + ((payloadView io.here.ring f.payloadPos payload.len).len + 6) = _
    rw [length]
    simp [payloadView, FrameBytes.len]

theorem chatting_all (k : Nat) (room : 6 * k ≤ 2048) : ∃ course, Chatting k course := by
  induction k with
  | zero => exact chatting_none
  | succ k ih =>
    obtain ⟨course, chatting⟩ := ih (by omega)
    exact chatting.more room

theorem Chatting.closes {k : Nat} {course : Course} (chatting : Chatting k course) (room : 6 * k ≤ 2048) :
    ∃ closed : Course, Runs chatter 2048 0 enumAsked closed ∧ statuses closed.events = k ∧
      footprints closed.events = 6 * k ∧ closed.read = some (6 * k) ∧
        ∃ terminal, terminals closed.events = [terminal] := by
  have receives := chatter_receives room
  let io : Io := ⟨fun _ => course.bus.deadlineAt, [chatterLook (6 * k)], chatterLook (6 * k)⟩
  have at_ := chatting.framer
  have waits : ∃ step, (⟨6 * k % 2048⟩ : Framer).step (chatterLook (6 * k)) = (⟨6 * k % 2048⟩, step) ∧
      (step = .idle ∨ step = .partialFrame) := by
    have lands := step_lands receives (Nat.le_refl _) (by omega)
    generalize out : (⟨6 * k % 2048⟩ : Framer).step (chatterLook (6 * k)) = result at lands
    cases lands with
    | idle => exact ⟨_, rfl, .inl rfl⟩
    | parked => exact ⟨_, rfl, .inr rfl⟩
    | garble n some inside => omega
    | frame id size inst payload here body inside fits =>
      have positive : footprint size = 3 + size.toNat := rfl
      omega
  obtain ⟨step, out, quiet⟩ := waits
  have stop : course.place + course.bus.framer.consumed (chatterLook (6 * k)) = 6 * k := by
    rw [HostBus.consumed_eq at_ receives (show 0 < 2048 by decide) (by rw [at_, out]; rfl), chatting.place,
      Nat.add_zero]
  have turns := @Turns.last chatter 2048 course.bus.framer course.place course.count _ _ [] (by rw [chatting.count])
    (by rw [chatting.place]; omega) receives (by rw [at_, out]; obtain rfl | rfl := quiet <;> rfl)
  rw [stop] at turns
  have looked : Turns chatter 2048 course.bus.framer course.place course.count io.looks _ _ := turns
  have walked (now paceAt : UInt32) : course.bus.walk now none paceAt io.looks = some (course.bus, none) := by
    have same : ({ course.bus with framer := ⟨6 * k % 2048⟩ } : HostBus) = course.bus := by rw [← at_]
    simp only [io, HostBus.walk, at_, out]
    obtain rfl | rfl := quiet <;> exact congrArg (fun bus => some (bus, none)) same
  have reached : tickReached course.bus.deadlineAt course.bus.deadlineAt = true := by simp [tickReached]
  have still : ¬ (chatterLook (6 * k)).cursor ≠ course.bus.lastCursor :=
    not_not.mpr (receives.cursor.trans chatting.seen.symm)
  let stopped : HostBus := { course.bus with lastCursor := (chatterLook (6 * k)).cursor, compare := none }
  let closing := (stopped.strand (chatterLook (6 * k))).finish (later io.clock 1) .complete
  let terminal : Terminal := ⟨.complete, later io.clock 1 1, (stopped.strand (chatterLook (6 * k))).evidence⟩
  -- Nothing has come in since the last look and the window is over.
  have polled : course.bus.poll io = some ({ closing with pendingDone := none }, some (.done terminal)) := by
    unfold HostBus.poll
    rw [chatting.done, chatting.wire]
    dsimp only
    rw [chatting.state]
    unfold HostBus.pollAwait
    rw [chatting.plan]
    dsimp only [enumPlan]
    rw [walked]
    dsimp only
    unfold HostBus.wait
    dsimp only
    rw [if_neg still, if_pos reached, if_pos rfl]
    rfl
  have closed := chatting.runs.poll chatting.quiet chatting.state looked (Nat.le_refl _) (by omega) receives polled
  refine ⟨_, closed, ?_, ?_, rfl, terminal, ?_⟩
  next =>
    rw [statuses_append, chatting.told]
    rfl
  next =>
    rw [footprints_append, chatting.bytes]
    rfl
  next =>
    rw [terminals_append, chatting.quiet]
    rfl

/-- The count of statuses sticks: an ENUM that 256 of them answer says 255. -/
theorem statuses_saturate :
    ¬ ∀ (stream : Nat → UInt8) (len start : Nat) (bus first : HostBus) (id : UInt8) (inst : Inst)
      (payload : List UInt8) (plan : Shape) (io : Io) (course : Course) (terminal : Terminal),
      Shape.derive id inst payload = .ok plan → plan.awaits = true →
        bus.step io (.submit (.exchange id inst payload)) = some (first, .accepted) →
          Receives stream len start io.here → len ≤ 65536 → Runs stream len start first course →
            terminal ∈ terminals course.events → terminal.evidence.garble.toNat < 65535 →
              ∃ read, course.read = some read ∧
                footprints course.events + terminal.evidence.garble.toNat = read - start ∧
                terminal.evidence.statuses.toNat = statuses course.events ∧
                (terminal.evidence.garbleAfterLastFrame = true ↔ course.behind < read) := by
  intro claim
  obtain ⟨course, chatting⟩ := chatting_all 256 (by decide)
  obtain ⟨closed, runs, told, bytes, made, terminal, ends⟩ := chatting.closes (by decide)
  have derived : Shape.derive broadcast 0x70 [1, 0] = .ok enumPlan := rfl
  have submitted : (HostBus.new 48 .b1000000).step ⟨fun _ => 0, [], firstLap [] 2048 0⟩
      (.submit (.exchange broadcast 0x70 [1, 0])) = some (enumAsked, .accepted) := rfl
  have receives : Receives chatter 2048 0 (firstLap [] 2048 0) := chatter_receives (by decide)
  have conserved : Conserved 0 closed.behind (6 * 256) 256 (6 * 256) terminal.evidence := by
    cases @Runs.stands chatter 2048 0 enumPlan _ _ runs rfl (by decide) (submit_listens derived submitted receives) with
    | listens _ quiet | closed _ _ quiet =>
      rw [quiet] at ends
      cases ends
    | handed closing read closes from_ conserved =>
      obtain rfl := List.singleton_inj.mp (closes.symm.trans ends)
      obtain rfl := Option.some.inj (from_.symm.trans made)
      rwa [told, bytes] at conserved
  obtain ⟨read, -, -, all, -⟩ := claim chatter 2048 0 _ _ _ _ _ _ _ closed terminal derived rfl submitted receives
    (by decide) runs (by rw [ends]; exact List.mem_cons_self) (by rw [conserved.garble]; decide)
  rw [told, conserved.statuses] at all
  exact absurd all (by decide)

end OpenServo.Host
