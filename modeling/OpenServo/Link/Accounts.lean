import OpenServo.Host.Ownership
import OpenServo.Link.Reassembly

set_option autoImplicit false

namespace OpenServo.Link

open OpenServo.Protocol OpenServo.Host

def Entry.asks (entry : Entry) : Option UInt16 :=
  entry.record.bind carries

def Entry.answers (entry : Entry) : Option UInt16 :=
  entry.reply.bind Reply.answers

/-- What is asked on a sequence number and gets an answer without one. -/
def Entry.mutes (entry : Entry) : Option UInt16 :=
  (entry.record.filter verbless).bind carries

def asked (log : List Entry) (seq : UInt16) : Nat :=
  log.countP fun entry => entry.asks = some seq

def answered (log : List Entry) (seq : UInt16) : Nat :=
  log.countP fun entry => entry.answers = some seq

def mute (log : List Entry) (seq : UInt16) : Nat :=
  log.countP fun entry => entry.mutes = some seq

def Entry.command (own : Option UInt16) : Entry → Option UInt16
  | .took .command seq => some seq
  | .out (.terminal _ _) => none
  | _ => own

def Entry.wire (own : Option UInt16) : Entry → Option UInt16
  | .took .wire seq => some seq
  | .out (.wireDone _ _) => none
  | _ => own

def commandOwner (log : List Entry) : Option UInt16 :=
  log.foldl Entry.command none

def wireOwner (log : List Entry) : Option UInt16 :=
  log.foldl Entry.wire none

def asking (log : List Entry) : Option UInt16 :=
  log.getLast?.bind Entry.asks

def Entry.Rightly (before : List Entry) : Entry → Prop
  | .took _ seq => asking before = some seq ∧ commandOwner before = none ∧ wireOwner before = none
  | .out (.rejected seq _) => asking before = some seq
  | .out (.status seq ..) | .out (.terminal seq _) => commandOwner before = some seq
  | .out (.wireDone seq _) => wireOwner before = some seq
  | _ => True

def Tagged (log : List Entry) : Prop :=
  ∀ before entry after, log = before ++ entry :: after → entry.Rightly before

namespace Adapter

def outstanding (link : Adapter) : List UInt16 :=
  link.server.active.toList ++ link.server.wireActive.toList

structure Books (link : Adapter) : Prop where
  sound : ∃ commands, link.bus.Sound commands
  command : link.server.active.isSome = link.bus.owes
  wire : link.server.wireActive.isSome = link.bus.wired
  commandOwner : commandOwner link.log = link.server.active
  wireOwner : wireOwner link.log = link.server.wireActive
  counts : ∀ seq, answered link.log seq + link.outstanding.count seq + mute link.log seq = asked link.log seq
  tagged : Tagged link.log
  sourced : ∀ reply seq, .out reply ∈ link.log → reply.seq = some seq → 0 < asked link.log seq

end Adapter

def Come (fed : List UInt8) (recs : List (List UInt8)) (rec : List UInt8) : Prop :=
  ∃ before, before ++ [rec] <+: recs ∧ framed (before ++ [rec]) <+: fed

structure Adapter.Orderly (link : Adapter) (fed : List UInt8) (recs : List (List UInt8)) : Prop where
  records : link.records <+: recs
  all : ∀ whole, whole <+: recs → framed whole <+: fed → whole <+: link.records
  keeps : Entry.dropped ∉ link.log
  tagged : Tagged link.log
  sourced : ∀ reply seq, .out reply ∈ link.log → reply.seq = some seq →
    ∃ rec, Come fed recs rec ∧ carries rec = some seq
  single : link.outstanding.length ≤ 1
  ready : link.outstanding = [] ↔ link.bus.ready = true

theorem commandOwner_append (log entries : List Entry) :
    commandOwner (log ++ entries) = entries.foldl Entry.command (commandOwner log) :=
  List.foldl_append

theorem wireOwner_append (log entries : List Entry) :
    wireOwner (log ++ entries) = entries.foldl Entry.wire (wireOwner log) :=
  List.foldl_append

theorem Tagged.snoc {log : List Entry} {entry : Entry} (tagged : Tagged log) (rightly : entry.Rightly log) :
    Tagged (log ++ [entry]) := by
  intro before found after split
  obtain rfl | ⟨front, last, rfl⟩ := List.eq_nil_or_concat after
  next =>
    obtain ⟨rfl, same⟩ := List.append_inj' split rfl
    obtain rfl := List.singleton_inj.mp same
    exact rightly
  next =>
    rw [List.concat_eq_append, ← List.cons_append, ← List.append_assoc] at split
    exact tagged before found front (List.append_inj' split rfl).1

section Counts

variable (log : List Entry) (seq : UInt16)

theorem asked_append (more : List Entry) : asked (log ++ more) seq = asked log seq + asked more seq :=
  List.countP_append

theorem answered_append (more : List Entry) : answered (log ++ more) seq = answered log seq + answered more seq :=
  List.countP_append

theorem mute_append (more : List Entry) : mute (log ++ more) seq = mute log seq + mute more seq :=
  List.countP_append

theorem asked_pair {rec : List UInt8} {entry : Entry} (other : entry.record = none) :
    asked [.handled rec, entry] seq = if carries rec = some seq then 1 else 0 := by
  have second : entry.asks = none := by rw [Entry.asks, other, Option.bind_none]
  have first : (Entry.handled rec).asks = carries rec := rfl
  simp [asked, List.countP_cons, first, second]

theorem mute_pair {rec : List UInt8} {entry : Entry} (other : entry.record = none) :
    mute [.handled rec, entry] seq = if verbless rec = true ∧ carries rec = some seq then 1 else 0 := by
  have second : entry.mutes = none := by rw [Entry.mutes, other, Option.filter_none, Option.bind_none]
  have first : (Entry.handled rec).mutes = if verbless rec then carries rec else none := by
    rw [Entry.mutes, Entry.record, Option.filter_some]
    split <;> rfl
  cases verb : verbless rec <;> simp [mute, List.countP_cons, first, second, verb]

theorem answered_pair (rec : List UInt8) (entry : Entry) :
    answered [.handled rec, entry] seq = if entry.answers = some seq then 1 else 0 := by
  have first : (Entry.handled rec).answers = none := rfl
  simp [answered, List.countP_cons, first]

end Counts

theorem command_instant {reply : Reply} (instant : reply.instant = true) (own : Option UInt16) :
    Entry.command own (.out reply) = own := by
  cases reply <;> first | rfl | cases instant

theorem wire_instant {reply : Reply} (instant : reply.instant = true) (own : Option UInt16) :
    Entry.wire own (.out reply) = own := by
  cases reply <;> first | rfl | cases instant

theorem asking_handled (before : List Entry) (rec : List UInt8) :
    asking (before ++ [.handled rec]) = carries rec := by
  rw [asking, List.getLast?_concat]
  rfl

theorem carries_of_asks {rec : List UInt8} {seq : UInt16} (asks : (Request.ofRecord rec).seq = some seq) :
    carries rec = some seq := by
  rw [request_seq] at asks
  split at asks
  next => cases asks
  next => exact asks

theorem verbless_carries {rec : List UInt8} (verb : verbless rec = true) : ∃ seq, carries rec = some seq := by
  obtain ⟨length, type⟩ : rec.length = 3 ∧ rec.head? = some recSubmit := by simpa [verbless] using verb
  obtain ⟨rtype, low, high, rfl⟩ := List.length_eq_three.mp length
  obtain rfl := Option.some.inj type
  exact ⟨u16FromLe low high, by simp [carries]⟩

theorem rightly_instant {reply : Reply} {rec : List UInt8} (instant : reply.instant = true)
    (answers : reply.answers = (Request.ofRecord rec).seq) (before : List Entry) :
    Entry.Rightly (before ++ [.handled rec]) (.out reply) := by
  cases reply with
  | rejected seq reason => exact (asking_handled before rec).trans (carries_of_asks answers.symm)
  | status | terminal | wireDone => cases instant
  | _ => trivial

theorem rightly_handled (before : List Entry) (rec : List UInt8) : Entry.Rightly before (.handled rec) :=
  trivial

theorem seq_instant {reply : Reply} (instant : reply.instant = true) : reply.seq = reply.answers := by
  cases reply <;> first | rfl | cases instant

namespace Adapter

variable {link after : Adapter} {rec : List UInt8}

theorem Books.sourced_append (books : link.Books) {more : List Entry}
    (new : ∀ reply seq, .out reply ∈ more → reply.seq = some seq → 0 < asked (link.log ++ more) seq) (reply : Reply)
    (seq : UInt16) (member : .out reply ∈ link.log ++ more) (carried : reply.seq = some seq) :
    0 < asked (link.log ++ more) seq := by
  obtain old | fresh := List.mem_append.mp member
  next =>
    rw [asked_append]
    exact Nat.add_pos_left (books.sourced reply seq old carried) _
  next => exact new reply seq fresh carried

theorem Books.replied (books : link.Books) (reply : Reply) (state : AdapterState) (instant : reply.instant = true)
    (answers : reply.answers = (Request.ofRecord rec).seq) :
    Books { link with server.adapter := state, log := link.log ++ [.handled rec, .out reply] } := by
  have rightly := rightly_instant instant answers link.log
  rw [request_seq] at answers
  refine ⟨books.sound, books.command, books.wire, ?_, ?_, ?_, ?_, ?_⟩
  next =>
    show Link.commandOwner (link.log ++ _) = _
    rw [commandOwner_append, List.foldl_cons, List.foldl_cons, command_instant instant]
    exact books.commandOwner
  next =>
    show Link.wireOwner (link.log ++ _) = _
    rw [wireOwner_append, List.foldl_cons, List.foldl_cons, wire_instant instant]
    exact books.wireOwner
  next =>
    intro seq
    have before := books.counts seq
    show answered (link.log ++ _) seq + link.outstanding.count seq + mute (link.log ++ _) seq =
      asked (link.log ++ _) seq
    have made : (Entry.out reply).answers = reply.answers := rfl
    rw [answered_append, mute_append, asked_append, answered_pair, mute_pair seq rfl, asked_pair seq rfl, made, answers]
    cases verbless rec <;> by_cases carried : carries rec = some seq <;> simp [carried] <;> omega
  next =>
    rw [List.append_cons]
    exact (books.tagged.snoc (rightly_handled link.log rec)).snoc rightly
  next =>
    intro other seq member carried
    refine books.sourced_append (fun other seq fresh carried => ?_) other seq member carried
    obtain rfl : other = reply := by simpa using fresh
    rw [seq_instant instant, answers] at carried
    rw [asked_append, asked_pair seq rfl]
    cases verb : verbless rec <;> simp_all

theorem Books.free (books : link.Books) (ready : link.bus.ready = true) :
    link.server.active = none ∧ link.server.wireActive = none := by
  obtain ⟨owes, wired⟩ := HostBus.ready_free ready
  have command := books.command
  have wire := books.wire
  rw [owes] at command
  rw [wired] at wire
  exact ⟨Option.isSome_eq_false_iff.mp command |> Option.isNone_iff_eq_none.mp,
    Option.isSome_eq_false_iff.mp wire |> Option.isNone_iff_eq_none.mp⟩

theorem Books.took (books : link.Books) {seq : UInt16} {owner : Owner} (asks : (Request.ofRecord rec).seq = some seq)
    (ready : link.bus.ready = true)
    (log : after.log = link.log ++ [.handled rec, .took owner seq])
    (outstanding : after.outstanding = [seq]) (sound : ∃ commands, after.bus.Sound commands)
    (command : after.server.active.isSome = after.bus.owes) (wire : after.server.wireActive.isSome = after.bus.wired)
    (commands : after.server.active = Entry.command none (.took owner seq))
    (wires : after.server.wireActive = Entry.wire none (.took owner seq)) : after.Books := by
  obtain ⟨noCommand, noWire⟩ := books.free ready
  have nobody : link.outstanding = [] := by simp [Adapter.outstanding, noCommand, noWire]
  have commandNone := books.commandOwner.trans noCommand
  have wireNone := books.wireOwner.trans noWire
  have asking := (asking_handled link.log rec).trans (carries_of_asks asks)
  rw [request_seq] at asks
  have verb : verbless rec = false := by
    cases verb : verbless rec with
    | false => rfl
    | true => rw [verb] at asks; cases asks
  rw [verb, if_neg Bool.false_ne_true] at asks
  refine ⟨sound, command, wire, ?_, ?_, ?_, ?_, ?_⟩
  next =>
    rw [log, commandOwner_append, commandNone, commands]
    rfl
  next =>
    rw [log, wireOwner_append, wireNone, wires]
    rfl
  next =>
    intro other
    have before := books.counts other
    rw [nobody, List.count_nil] at before
    have silent : (Entry.took owner seq).answers = none := rfl
    rw [log, outstanding, answered_append, mute_append, asked_append, answered_pair, mute_pair other rfl,
      asked_pair other rfl, asks, verb, silent, List.count_singleton]
    by_cases same : seq = other <;> simp [same] <;> omega
  next =>
    rw [log, List.append_cons]
    refine (books.tagged.snoc (rightly_handled link.log rec)).snoc ⟨asking, ?_, ?_⟩
    next =>
      rw [commandOwner_append, commandNone]
      rfl
    next =>
      rw [wireOwner_append, wireNone]
      rfl
  next =>
    rw [log]
    intro reply other member carried
    refine books.sourced_append (fun reply other fresh carried => ?_) reply other member carried
    simp at fresh

theorem Books.handled (books : link.Books) (handles : Handles link rec after) : after.Books := by
  obtain ⟨commands, sound⟩ := books.sound
  cases handles with
  | replied reply state instant answers => exact books.replied reply state instant answers
  | @refused op io error bus seq reason asks stepped =>
    obtain rfl := (HostBus.step_sound sound stepped).2 error rfl
    exact books.replied (.rejected seq reason) link.server.adapter rfl asks.symm
  | @submitted cmd io bus seq asks stepped =>
    obtain ⟨ready, owes, wired⟩ := HostBus.submit_taken sound stepped
    obtain ⟨-, noWire⟩ := books.free ready
    refine books.took asks ready rfl ?_ ⟨_, (HostBus.step_sound sound stepped).1⟩ owes.symm ?_ rfl noWire
    next => simp [Adapter.outstanding, noWire]
    next => rw [noWire, wired]; rfl
  | @wired op io bus seq asks stepped =>
    have wire : op.op.isWire = true := by cases op <;> rfl
    have ready := HostBus.wire_ready wire stepped
    obtain ⟨noCommand, -⟩ := books.free ready
    have kept := (HostBus.step_sound sound stepped).1
    have mark : commandMark (op.op, .accepted) = none := by cases op <;> rfl
    rw [mark, Option.toList_none, List.append_nil] at kept
    have owes : bus.owes = false := (sound.same_owes kept).trans (HostBus.ready_free ready).1
    refine books.took asks ready rfl ?_ ⟨_, kept⟩ ?_ (HostBus.wire_wired wire stepped).symm noCommand rfl
    next => simp [Adapter.outstanding, noCommand]
    next => rw [noCommand, owes]; rfl

theorem Books.aside (books : link.Books) {bytes : List UInt8} {state : AdapterState} {more : List Entry}
    (entries : more = [] ∨ more = [.dropped, .out (.unknown 0xFF)]) :
    Books { link with server.rx := bytes, server.adapter := state, log := link.log ++ more } := by
  obtain rfl | rfl := entries
  next =>
    have same : link.log ++ [] = link.log := List.append_nil _
    exact ⟨books.sound, books.command, books.wire, by rw [same]; exact books.commandOwner,
      by rw [same]; exact books.wireOwner, by rw [same]; exact books.counts, by rw [same]; exact books.tagged,
      by rw [same]; exact books.sourced⟩
  next =>
    refine ⟨books.sound, books.command, books.wire, ?_, ?_, ?_, ?_, ?_⟩
    next =>
      rw [commandOwner_append]
      exact books.commandOwner
    next =>
      rw [wireOwner_append]
      exact books.wireOwner
    next =>
      intro seq
      have before := books.counts seq
      rw [answered_append, mute_append, asked_append]
      exact before
    next =>
      rw [List.append_cons]
      exact (@Tagged.snoc link.log .dropped books.tagged trivial).snoc trivial
    next =>
      intro reply seq member carried
      refine books.sourced_append (fun reply seq fresh carried => ?_) reply seq member carried
      obtain rfl : reply = .unknown 0xFF := by simpa using fresh
      cases carried

theorem Books.asked_of_outstanding (books : link.Books) {seq : UInt16} (member : seq ∈ link.outstanding) :
    0 < asked link.log seq := by
  have some := List.count_pos_iff.mpr member
  have whole := books.counts seq
  omega

theorem Books.said (books : link.Books) {reply : Reply} {seq : UInt16} (carries : reply.seq = some seq)
    (member : seq ∈ link.outstanding) (log : after.log = link.log ++ [.out reply])
    (sound : ∃ commands, after.bus.Sound commands) (command : after.server.active.isSome = after.bus.owes)
    (wire : after.server.wireActive.isSome = after.bus.wired)
    (commands : after.server.active = Entry.command link.server.active (.out reply))
    (wires : after.server.wireActive = Entry.wire link.server.wireActive (.out reply))
    (settles : ∀ other, (if reply.answers = some other then 1 else 0) + after.outstanding.count other =
      link.outstanding.count other)
    (rightly : Entry.Rightly link.log (.out reply)) : after.Books := by
  refine ⟨sound, command, wire, ?_, ?_, ?_, ?_, ?_⟩
  next =>
    rw [log, commandOwner_append, books.commandOwner, commands]
    rfl
  next =>
    rw [log, wireOwner_append, books.wireOwner, wires]
    rfl
  next =>
    intro other
    have before := books.counts other
    have settled := settles other
    have answers : answered [.out reply] other = if reply.answers = some other then 1 else 0 := by
      have same : (Entry.out reply).answers = reply.answers := rfl
      simp [answered, List.countP_cons, same]
    have asks : asked [.out reply] other = 0 := rfl
    have mutes : mute [.out reply] other = 0 := rfl
    rw [log, answered_append, mute_append, asked_append, answers, asks, mutes]
    omega
  next =>
    rw [log]
    exact books.tagged.snoc rightly
  next =>
    rw [log]
    intro found other member carried
    refine books.sourced_append (fun found other fresh carried => ?_) found other member carried
    obtain rfl : found = reply := by simpa using fresh
    obtain rfl := Option.some.inj (carries.symm.trans carried)
    rw [asked_append]
    exact Nat.add_pos_left (books.asked_of_outstanding ‹_›) _

theorem Books.tell (books : link.Books) {io : Io} {bus : HostBus} {event : Event}
    (polled : link.bus.poll io = some (bus, some event)) : (({ link with bus } : Adapter).tell event).Books := by
  obtain ⟨commands, sound⟩ := books.sound
  have kept := HostBus.poll_sound sound polled
  have command := books.command
  have wire := books.wire
  -- Whose the event is decides which of the two owners it settles.
  cases HostBus.poll_tells sound polled with
  | status before owes wired =>
    rw [before] at command
    obtain ⟨seq, active⟩ := Option.isSome_iff_exists.mp command
    have own : link.server.active.getD seqNone = seq := by rw [active]; rfl
    refine @Books.said link _ books _ seq (by rw [← own]; rfl) ?_ rfl ⟨_, kept⟩ ?_ ?_ rfl rfl ?_ ?_
    next => simp [Adapter.outstanding, active]
    next => exact command.trans owes.symm
    next => exact wire.trans wired.symm
    next =>
      intro other
      exact Nat.zero_add _
    next => exact (books.commandOwner.trans active).trans (congrArg some own.symm)
  | @done terminal before owes wired =>
    rw [before] at command
    obtain ⟨seq, active⟩ := Option.isSome_iff_exists.mp command
    have own : link.server.active.getD seqNone = seq := by rw [active]; rfl
    refine @Books.said link _ books (.terminal (link.server.active.getD seqNone) terminal) seq (congrArg some own)
      ?_ rfl ⟨_, kept⟩ ?_ ?_ rfl rfl ?_ ?_
    next => simp [Adapter.outstanding, active]
    next => exact owes.symm
    next => exact wire.trans wired.symm
    next =>
      intro other
      show (if some (link.server.active.getD seqNone) = some other then 1 else 0) +
        link.server.wireActive.toList.count other =
          (link.server.active.toList ++ link.server.wireActive.toList).count other
      rw [own, active, List.count_append, Option.toList_some, List.count_singleton]
      simp only [Option.some.injEq, beq_iff_eq]
    next => exact (books.commandOwner.trans active).trans (congrArg some own.symm)
  | @wireDone tick before owes wired =>
    rw [before] at wire
    obtain ⟨seq, active⟩ := Option.isSome_iff_exists.mp wire
    have own : link.server.wireActive.getD seqNone = seq := by rw [active]; rfl
    refine @Books.said link _ books (.wireDone (link.server.wireActive.getD seqNone) tick) seq (congrArg some own)
      ?_ rfl ⟨_, kept⟩ ?_ ?_ rfl rfl ?_ ?_
    next => simp [Adapter.outstanding, active]
    next => exact command.trans owes.symm
    next => exact wired.symm
    next =>
      intro other
      show (if some (link.server.wireActive.getD seqNone) = some other then 1 else 0) +
        (link.server.active.toList ++ []).count other =
          (link.server.active.toList ++ link.server.wireActive.toList).count other
      rw [own, active, List.append_nil, List.count_append, Option.toList_some, List.count_singleton, Nat.add_comm]
      simp only [Option.some.injEq, beq_iff_eq]
    next => exact (books.wireOwner.trans active).trans (congrArg some own.symm)

theorem Books.drop (books : link.Books) : link.drop.Books := by
  have kept := @Books.aside _ books [] link.server.adapter _ (.inr rfl)
  rwa [List.append_cons] at kept

theorem Books.extract (books : link.Books) (reads : Nat → Reads) : (link.extract reads).Books := by
  fun_induction Adapter.extract reads link with
  | case1 => exact books
  | case2 => exact books.drop
  | case3 => exact books
  | case4 link some len legal whole handled ih =>
    have after := books.handled (link.handle_cases (reads link.records.length) ((link.server.rx.drop 2).take len))
    have kept := @Books.aside _ after (link.server.rx.drop (2 + len)) handled.server.adapter [] (.inl rfl)
    rw [List.append_nil] at kept
    exact ih kept

theorem Books.onPipe (books : link.Books) (reads : Nat → Reads) (bytes : List UInt8) :
    (link.onPipe reads bytes).Books := by
  fun_induction Adapter.onPipe reads link bytes with
  | case1 => exact books
  | case2 link bytes some take filled none ih =>
    have fresh := @Books.aside _ books (link.server.rx ++ bytes.take take) link.server.adapter [] (.inl rfl)
    rw [List.append_nil] at fresh
    exact ih (fresh.extract reads).drop
  | case3 link bytes some take filled more ih =>
    have fresh := @Books.aside _ books (link.server.rx ++ bytes.take take) link.server.adapter [] (.inl rfl)
    rw [List.append_nil] at fresh
    exact ih (fresh.extract reads)

theorem Books.moved (books : link.Books) {bus : HostBus} (sound : ∃ commands, bus.Sound commands)
    (owes : bus.owes = link.bus.owes) (wired : bus.wired = link.bus.wired) : Books { link with bus } :=
  { books with
    sound := sound
    command := books.command.trans owes.symm
    wire := books.wire.trans wired.symm }

theorem Books.interrupt (books : link.Books) {op : Op} {io : Io} {bus : HostBus} {answer : Answer}
    (interrupt : op = .onTxComplete ∨ op = .onDeadline) (stepped : link.bus.step io op = some (bus, answer)) :
    Books { link with bus } := by
  obtain ⟨commands, sound⟩ := books.sound
  obtain ⟨owes, wired⟩ := HostBus.interrupt_wired sound interrupt stepped
  exact books.moved ⟨_, (HostBus.step_sound sound stepped).1⟩ owes wired

theorem Books.pumps (books : link.Books) (pumps : Pumps link after) : after.Books := by
  induction pumps with
  | @quiet link bus io polled =>
    obtain ⟨commands, sound⟩ := books.sound
    cases HostBus.poll_tells sound polled with
    | quiet owes wired => exact books.moved ⟨_, HostBus.poll_sound sound polled⟩ owes wired
  | event polled _ ih => exact ih (books.tell polled)

theorem Books.act (books : link.Books) {act : Act} (acted : link.act act = some after) : after.Books := by
  cases act with
  | pipe reads bytes =>
    obtain rfl := Option.some.inj acted
    exact books.onPipe reads bytes
  | pump ios => exact books.pumps (pump_cases acted)
  | takeAdapterRequest =>
    obtain rfl := Option.some.inj acted
    have kept := @Books.aside _ books link.server.rx { link.server.adapter with req := none } [] (.inl rfl)
    rwa [List.append_nil] at kept
  | onTxComplete io =>
    obtain rfl := Option.some.inj acted
    exact @Books.interrupt _ books .onTxComplete io _ _ (.inl rfl) rfl
  | onDeadline io =>
    obtain rfl := Option.some.inj acted
    exact @Books.interrupt _ books .onDeadline io _ _ (.inr rfl) rfl

end Adapter

theorem Served.books {fed : List UInt8} {link : Adapter} (served : Served fed link) : link.Books := by
  induction served with
  | new ticksPerUs rate =>
    refine ⟨⟨_, (Reached.new ticksPerUs rate).sound⟩, rfl, rfl, rfl, rfl, fun _ => rfl, ?_, ?_⟩
    next =>
      intro before entry after split
      simp at split
    next =>
      intro reply seq member
      cases member
  | act _ acted ih => exact ih.act acted

namespace Adapter

variable {link : Adapter} {fed : List UInt8} {recs : List (List UInt8)}

theorem Holds.come (holds : link.Holds fed) (done : link.records <+: recs)
    (all : ∀ whole, whole <+: recs → framed whole <+: fed → whole <+: link.records) (rec : List UInt8) :
    Come fed recs rec ↔ rec ∈ link.records := by
  constructor
  next =>
    rintro ⟨before, front, whole⟩
    exact (all _ front whole).subset (List.mem_append_right _ List.mem_cons_self)
  next =>
    intro member
    obtain ⟨before, rest, split⟩ := List.append_of_mem member
    have front : before ++ [rec] <+: link.records := ⟨rest, by rw [split, List.append_assoc]; rfl⟩
    refine ⟨before, front.trans done, (framed_front front).trans ?_⟩
    rw [← holds.stream]
    exact List.prefix_append _ _

theorem asked_pos (seq : UInt16) : 0 < asked link.log seq ↔ ∃ rec ∈ link.records, carries rec = some seq := by
  rw [asked, List.countP_pos_iff]
  constructor
  next =>
    rintro ⟨entry, member, asks⟩
    cases entry with
    | handled rec => exact ⟨rec, List.mem_filterMap.mpr ⟨_, member, rfl⟩, of_decide_eq_true asks⟩
    | took | out | dropped => cases of_decide_eq_true asks
  next =>
    rintro ⟨rec, member, same⟩
    obtain ⟨entry, found, record⟩ := List.mem_filterMap.mp member
    refine ⟨entry, found, decide_eq_true ?_⟩
    rw [Entry.asks, record]
    exact same

theorem mute_zero : (∀ seq, mute link.log seq = 0) ↔ ∀ rec ∈ link.records, verbless rec = false := by
  constructor
  next =>
    intro zero rec member
    obtain ⟨entry, found, record⟩ := List.mem_filterMap.mp member
    by_contra verb
    have verb : verbless rec = true := Bool.not_eq_false _ ▸ verb
    obtain ⟨seq, carried⟩ := verbless_carries verb
    have silent := List.countP_eq_zero.mp (zero seq) entry found
    rw [Entry.mutes, record, Option.filter_some, if_pos verb] at silent
    exact silent (decide_eq_true carried)
  next =>
    intro verbs seq
    refine List.countP_eq_zero.mpr fun entry found => ?_
    cases entry with
    | handled rec =>
      have verb := verbs rec (List.mem_filterMap.mpr ⟨_, found, rfl⟩)
      rw [Entry.mutes, Entry.record, Option.filter_some, verb]
      simp
    | took | out | dropped => simp [Entry.mutes, Entry.record]

theorem Books.single (books : link.Books) : link.outstanding.length ≤ 1 := by
  obtain ⟨commands, sound⟩ := books.sound
  have command := books.command
  have wire := books.wire
  cases owes : link.bus.owes with
  | true =>
    rw [sound.exclusive owes] at wire
    rw [outstanding, Option.isNone_iff_eq_none.mp (Option.isSome_eq_false_iff.mp wire)]
    cases link.server.active <;> simp
  | false =>
    rw [owes] at command
    rw [outstanding, Option.isNone_iff_eq_none.mp (Option.isSome_eq_false_iff.mp command)]
    cases link.server.wireActive <;> simp

theorem Books.ready (books : link.Books) : link.outstanding = [] ↔ link.bus.ready = true := by
  have command := books.command
  have wire := books.wire
  constructor
  next =>
    intro nobody
    obtain ⟨left, right⟩ := List.append_eq_nil_iff.mp nobody
    rw [Option.toList_eq_nil_iff.mp left] at command
    rw [Option.toList_eq_nil_iff.mp right] at wire
    exact HostBus.ready_of_free command.symm wire.symm
  next =>
    intro ready
    obtain ⟨left, right⟩ := books.free ready
    rw [outstanding, left, right]
    rfl

end Adapter

/-- In every run of records the server has room for, it handles them in order and drops nothing, and its
answers are on the sequence numbers of their requests. Every one is answered once as long as no SUBMIT
stops behind its sequence number. -/
theorem served_orderly {fed : List UInt8} {link : Adapter} {recs : List (List UInt8)} (sized : Sized recs)
    (served : Served fed link) (front : fed <+: framed recs) :
    link.Orderly fed recs ∧
      ((∀ seq, answered link.log seq + link.outstanding.count seq = asked link.log seq) ↔
        ∀ rec, Come fed recs rec → verbless rec = false) := by
  obtain ⟨holds, done, waits⟩ := served.holds sized front
  have books := served.books
  have all := fun whole front come => @Adapter.Holds.all _ _ _ whole sized holds done waits front come
  have come := holds.come done all
  constructor
  next =>
    refine ⟨done, all, holds.keeps, books.tagged, ?_, books.single, books.ready⟩
    intro reply seq member carried
    obtain ⟨rec, found, same⟩ := (Adapter.asked_pos seq).mp (books.sourced reply seq member carried)
    exact ⟨rec, (come rec).mpr found, same⟩
  next =>
    simp only [come, ← Adapter.mute_zero]
    refine forall_congr' fun seq => ?_
    have whole := books.counts seq
    omega

section Fresh

variable {rec : List UInt8}

theorem onPipe_fresh (least : 1 ≤ rec.length) (most : rec.length ≤ rxCap - 2) : fresh.onPipe still (framed [rec]) =
    { ({ fresh with server.rx := sealed rec } : Adapter).handle (still 0) rec with server.rx := [] } := by
  have cap : rxCap = 512 := rfl
  have same : framed [rec] = sealed rec := List.append_nil _
  have length := length_sealed rec
  have some : sealed rec ≠ [] := List.length_pos_iff.mp (by omega)
  have fits : fresh.server.rx.length + (sealed rec).length ≤ rxCap := by
    show 0 + _ ≤ _
    omega
  rw [same, Adapter.onPipe_fits some fits, Adapter.extract_sealed least most (List.append_nil _).symm,
    Adapter.extract_empty rfl]
  rfl

theorem served_fresh : Served (framed [rec]) (fresh.onPipe still (framed [rec])) :=
  @Served.act _ _ _ (.pipe still (framed [rec])) (.new 48 .b1000000) rfl

end Fresh

/-- Two response deadlines, and a HELLO between them. -/
def askedRecs : List (List UInt8) :=
  [[recSubmit, 7, 0, verbSetResponseDeadline, 100, 0], [recHello], [recSubmit, 8, 0, verbSetResponseDeadline, 200, 0]]

/-- The pipe cuts the first record and the last one, and a pump comes between its packets. -/
def askedRun : Option Adapter :=
  (((fresh.onPipe still ((framed askedRecs).take 3)).onPipe still (((framed askedRecs).drop 3).take 10)).pump
    (List.replicate 2 (still 0).io)).map fun link => link.onPipe still ((framed askedRecs).drop 13)

theorem served_orderly_split :
    ∃ link, askedRun = some link ∧ link.Orderly (framed askedRecs) askedRecs ∧
      (∀ seq, answered link.log seq + link.outstanding.count seq = asked link.log seq) ∧
      answered link.log 7 = 1 ∧ answered link.log 8 = 0 ∧ link.outstanding = [8] := by
  have sized : Sized askedRecs := by
    intro rec member
    simp only [askedRecs, List.mem_cons, List.not_mem_nil, or_false] at member
    rcases member with rfl | rfl | rfl <;> decide
  have outcome : askedRun.map (fun link => (answered link.log 7, answered link.log 8, link.outstanding)) =
      some (1, 0, [8]) := by
    decide +kernel
  obtain ⟨link, ran, facts⟩ := Option.map_eq_some_iff.mp outcome
  obtain ⟨one, none, waits⟩ : answered link.log 7 = 1 ∧ answered link.log 8 = 0 ∧ link.outstanding = [8] := by
    simpa using facts
  obtain ⟨middle, pumped, last⟩ := Option.map_eq_some_iff.mp ran
  have first := @Served.act _ _ _ (.pipe still ((framed askedRecs).take 3)) (.new 48 .b1000000) rfl
  have second := @Served.act _ _ _ (.pipe still (((framed askedRecs).drop 3).take 10)) first rfl
  have third := @Served.act _ _ _ (.pump (List.replicate 2 (still 0).io)) second pumped
  have served := @Served.act _ _ _ (.pipe still ((framed askedRecs).drop 13)) third (congrArg some last)
  have bytes : [] ++ (framed askedRecs).take 3 ++ ((framed askedRecs).drop 3).take 10 ++ [] ++ (framed askedRecs).drop 13 =
      framed askedRecs := by decide +kernel
  have whole := served_orderly sized (bytes ▸ served) List.prefix_rfl
  refine ⟨link, ran, whole.1, whole.2.mpr fun rec come => ?_, one, none, waits⟩
  obtain ⟨before, front, -⟩ := come
  have member := front.subset (List.mem_append_right _ List.mem_cons_self)
  simp only [askedRecs, List.mem_cons, List.not_mem_nil, or_false] at member
  rcases member with rfl | rfl | rfl <;> decide

/-- A SUBMIT of a sequence number and no verb. It is handled, and its answer names no sequence number. -/
theorem verbless_unanswered :
    Served (framed [[recSubmit, 7, 0]]) (fresh.onPipe still (framed [[recSubmit, 7, 0]])) ∧
      Sized [[recSubmit, 7, 0]] ∧
      asked (fresh.onPipe still (framed [[recSubmit, 7, 0]])).log 7 = 1 ∧
      answered (fresh.onPipe still (framed [[recSubmit, 7, 0]])).log 7 = 0 ∧
      (fresh.onPipe still (framed [[recSubmit, 7, 0]])).outstanding = [] := by
  refine ⟨served_fresh, sized_one (by decide) (by decide), ?_⟩
  rw [onPipe_fresh (by decide) (by decide)]
  decide

end OpenServo.Link
