import OpenServo.Link.Supply

set_option autoImplicit false

namespace OpenServo.Link

open OpenServo.Protocol OpenServo.Host

def Request.edges (reads : Reads) : Request → Nat
  | .edgeDrain max =>
    min (min max.toNat drainMax) reads.falls.length + min (min max.toNat drainMax) reads.rises.length
  | _ => 0

def edgesTaken (reads : Nat → Reads) : Nat → List Piece → Nat
  | _, [] => 0
  | k, .whole rec :: rest => (Request.ofRecord rec).edges (reads k) + edgesTaken reads (k + 1) rest
  | k, .junk :: rest => edgesTaken reads k rest

/-- The condition on a move. Four bytes of the pipe ask for ten at most, and every edge that is drained for two more;
three bytes of a record of the pump stand for four of the ring. -/
def Move.Spares (port : Port) : Move → Prop
  | .act (.pipe reads bytes) =>
    8 * bytes.length + 6 * edgesTaken reads port.link.records.length (packet port.link.server.rx bytes).1 + 30 ≤
      3 * port.txq.free
  | .act (.pump ios) =>
    ∃ len, Steady len (ios.flatMap Io.looks) ∧
      4 * supply port.link.bus.framer (ios.flatMap Io.looks) + 45 ≤ 3 * port.txq.free
  | _ => True

def Piece.drains : Piece → Bool
  | .whole rec =>
    match Request.ofRecord rec with
    | .edgeDrain _ => true
    | _ => false
  | .junk => false

def wholes (found : List Piece) : Nat :=
  found.countP fun piece => piece ≠ .junk

section Packets

variable {reads : Nat → Reads}

theorem edgesTaken_append (k : Nat) (front back : List Piece) :
    edgesTaken reads k (front ++ back) = edgesTaken reads k front + edgesTaken reads (k + wholes front) back := by
  induction front generalizing k with
  | nil => exact (Nat.zero_add _).symm
  | cons piece front ih =>
    cases piece with
    | whole rec =>
      have count : wholes (.whole rec :: front) = wholes front + 1 := by simp [wholes]
      have index : k + 1 + wholes front = k + (wholes front + 1) := by omega
      rw [List.cons_append, edgesTaken, edgesTaken, ih, count, index, Nat.add_assoc]
    | junk =>
      have count : wholes (.junk :: front) = wholes front := by simp [wholes]
      rw [List.cons_append, edgesTaken, edgesTaken, ih, count]

theorem fold_handled (found : List Piece) (toll : Toll) :
    (found.foldl (Toll.add reads) toll).handled = toll.handled + wholes found := by
  induction found generalizing toll with
  | nil => rfl
  | cons piece rest ih =>
    rw [List.foldl_cons, ih]
    cases piece with
    | whole rec =>
      have count : wholes (.whole rec :: rest) = wholes rest + 1 := by simp [wholes]
      rw [count]
      simp only [Toll.add]
      omega
    | junk =>
      have count : wholes (.junk :: rest) = wholes rest := by simp [wholes]
      rw [count]
      rfl

theorem refusal_le (result : Except SubmitError Unit) : refusal result ≤ 6 := by
  cases result with
  | ok => exact Nat.zero_le 6
  | error => exact Nat.le_refl 6

theorem edgeDrain_long {rec : List UInt8} {max : UInt8} (request : Request.ofRecord rec = .edgeDrain max) :
    2 ≤ rec.length := by
  match rec with
  | [] => cases request
  | [rtype] =>
    simp only [Request.ofRecord, Request.ofBody] at request
    repeat' split at request
    all_goals simp_all
  | _ :: _ :: _ => simp

theorem record_demand (reads : Nat → Reads) (bus : HostBus) (k : Nat) {rec : List UInt8} (least : 1 ≤ rec.length) :
    (Request.ofRecord rec).demand bus (reads k) ≤ 10 + 2 * (Request.ofRecord rec).edges (reads k) ∧
      3 * (Request.ofRecord rec).demand bus (reads k) ≤
        8 * (2 + rec.length) + 6 * (Request.ofRecord rec).edges (reads k) := by
  cases request : Request.ofRecord rec with
  | edgeDrain max =>
    have long := edgeDrain_long request
    simp only [Request.demand, Request.edges]
    omega
  | wire seq op =>
    have most := refusal_le (op.run bus (reads k).io.clock).2
    simp only [Request.demand, Request.edges]
    omega
  | submit seq cmd =>
    have most := refusal_le (bus.submit cmd (reads k).io).2
    simp only [Request.demand, Request.edges]
    omega
  | hello | enterBootloader | captureReset | setRails | unknown | malformed =>
    simp only [Request.demand, Request.edges]
    omega

theorem pieces_cost (reads : Nat → Reads) (buf : List UInt8) (toll : Toll) :
    3 * ((pieces buf).1.foldl (Toll.add reads) toll).bytes + 8 * (pieces buf).2.length ≤
      3 * toll.bytes + 8 * buf.length + 6 * edgesTaken reads toll.handled (pieces buf).1 := by
  fun_induction pieces buf generalizing toll with
  | case1 buf few => exact Nat.le_add_right _ _
  | case2 buf some breach =>
    simp only [List.foldl_cons, List.foldl_nil, Toll.add, List.length_nil]
    omega
  | case3 buf some legal few => exact Nat.le_add_right _ _
  | case4 buf some legal whole rest left found ih =>
    have later := ih (toll.add reads (.whole ((buf.drop 2).take (lengthAt buf))))
    have length : ((buf.drop 2).take (lengthAt buf)).length = lengthAt buf := by
      rw [List.length_take, List.length_drop]
      omega
    have cost := (@record_demand reads toll.bus toll.handled ((buf.drop 2).take (lengthAt buf)) (by omega)).2
    rw [length] at cost
    rw [found, List.length_drop] at later
    simp only [List.foldl_cons, edgesTaken] at later ⊢
    have paid : (toll.add reads (.whole ((buf.drop 2).take (lengthAt buf)))).bytes = toll.bytes + _ := rfl
    have next : (toll.add reads (.whole ((buf.drop 2).take (lengthAt buf)))).handled = toll.handled + 1 := rfl
    rw [paid, next] at later
    omega

theorem packet_cost (reads : Nat → Reads) {rx bytes : List UInt8} (waits : Waits rx) (toll : Toll) :
    3 * ((packet rx bytes).1.foldl (Toll.add reads) toll).bytes + 8 * (packet rx bytes).2.length ≤
      3 * toll.bytes + 8 * (rx.length + bytes.length) + 6 * edgesTaken reads toll.handled (packet rx bytes).1 := by
  fun_induction packet rx bytes generalizing toll with
  | case1 => simp
  | case2 rx bytes some take front left found none =>
    have room := waits.room
    have positive := List.length_pos_iff.mpr some
    omega
  | case3 rx bytes some take front left found more rest last behind ih =>
    have first := pieces_cost reads (rx ++ bytes.take take) toll
    have rested := pieces_waits (rx ++ bytes.take take)
    rw [found] at first rested
    have second := ih rested (front.foldl (Toll.add reads) toll)
    rw [behind, fold_handled] at second
    rw [List.length_append, List.length_take] at first
    rw [List.length_drop] at second
    simp only [List.foldl_append, edgesTaken_append] at first second ⊢
    have take_le : take ≤ bytes.length := Nat.min_le_right _ _
    omega

theorem pieces_start (reads : Nat → Reads) {rx : List UInt8} (waits : Waits rx) (more : List UInt8) (toll : Toll) :
    pieces (rx ++ more) = ([], rx ++ more) ∨
      3 * ((pieces (rx ++ more)).1.foldl (Toll.add reads) toll).bytes + 8 * (pieces (rx ++ more)).2.length ≤
        3 * toll.bytes + 30 + 8 * more.length + 6 * edgesTaken reads toll.handled (pieces (rx ++ more)).1 := by
  obtain ⟨buf, same⟩ : ∃ buf, rx ++ more = buf := ⟨_, rfl⟩
  have total : rx.length + more.length = buf.length := by rw [← same, List.length_append]
  rw [same, pieces]
  split
  next => exact .inl rfl
  next some =>
    split
    next =>
      refine .inr ?_
      simp only [List.foldl_cons, List.foldl_nil, Toll.add, List.length_nil]
      omega
    next legal =>
      split
      next => exact .inl rfl
      next whole =>
        refine .inr ?_
        have reach : rx.length ≤ 2 + lengthAt buf := by
          obtain short | ⟨short, -⟩ := waits
          next => omega
          next =>
            by_cases few : rx.length < 2
            next => omega
            next =>
              rw [← same, lengthAt_append (by omega)]
              omega
        have length : ((buf.drop 2).take (lengthAt buf)).length = lengthAt buf := by
          rw [List.length_take, List.length_drop]
          omega
        have cost := (@record_demand reads toll.bus toll.handled ((buf.drop 2).take (lengthAt buf)) (by omega)).1
        have later := pieces_cost reads (buf.drop (2 + lengthAt buf))
          (toll.add reads (.whole ((buf.drop 2).take (lengthAt buf))))
        have paid : (toll.add reads (.whole ((buf.drop 2).take (lengthAt buf)))).bytes = toll.bytes + _ := rfl
        have next : (toll.add reads (.whole ((buf.drop 2).take (lengthAt buf)))).handled = toll.handled + 1 := rfl
        rw [paid, next, List.length_drop] at later
        simp only [List.foldl_cons, edgesTaken]
        omega

theorem packet_said (reads : Nat → Reads) {rx bytes : List UInt8} (waits : Waits rx) (toll : Toll) :
    3 * ((packet rx bytes).1.foldl (Toll.add reads) toll).bytes ≤
      3 * toll.bytes + 30 + 8 * bytes.length + 6 * edgesTaken reads toll.handled (packet rx bytes).1 := by
  by_cases none : bytes = []
  next =>
    rw [packet, if_pos none]
    simp only [List.foldl_nil]
    omega
  next =>
    have room := waits.room
    have positive := List.length_pos_iff.mpr none
    rw [packet, if_neg none]
    dsimp only
    rw [if_neg (by omega)]
    generalize taken : min (rxCap - rx.length) bytes.length = take
    have rested := pieces_waits (rx ++ bytes.take take)
    obtain still | first := pieces_start reads waits (bytes.take take) toll
    next =>
      rw [still] at rested
      have short := rested.room
      rw [List.length_append, List.length_take] at short
      have all : take = bytes.length := by omega
      rw [still, all, List.drop_length, packet, if_pos rfl]
      simp only [List.append_nil, List.foldl_nil]
      omega
    next =>
      have second := @packet_cost reads _ (bytes.drop take) rested
        ((pieces (rx ++ bytes.take take)).1.foldl (Toll.add reads) toll)
      rw [List.length_take] at first
      rw [List.length_drop, fold_handled] at second
      simp only [List.foldl_append, edgesTaken_append]
      omega

end Packets

theorem Port.room_iff (port : Port) {act : Act} {after : Adapter} (acted : port.link.act act = some after) :
    port.txq.Room (port.link.news after) ↔ (Move.act act).Fits port := by
  rw [TxQueue.room_iff]
  cases act with
  | pipe reads bytes =>
    obtain rfl := Option.some.inj acted
    have paid := port.link.onPipe_paid reads bytes
    have total := Adapter.news_total paid.log
    have toll : spoken (port.link.onPipe reads bytes).log = _ := congrArg Toll.bytes paid.toll
    rw [Toll.fold_bytes] at toll
    have same := Nat.add_left_cancel (total.symm.trans toll)
    rw [same]
    rfl
  | pump ios =>
    obtain ⟨front, said⟩ := Adapter.pump_said acted
    have same := Nat.add_left_cancel ((Adapter.news_total front).symm.trans said)
    rw [same]
    rfl
  | takeAdapterRequest | onTxComplete io | onDeadline io =>
    rw [Adapter.news_same (Adapter.act_still rfl acted)]
    exact iff_of_true (Nat.zero_le _) trivial

theorem Adapter.act_waits {link after : Adapter} {act : Act} (waits : Waits link.server.rx)
    (acted : link.act act = some after) : Waits after.server.rx := by
  cases act with
  | pipe reads bytes =>
    obtain rfl := Option.some.inj acted
    rw [(link.onPipe_paid reads bytes).rx]
    exact packet_waits bytes waits
  | pump ios =>
    rw [(Adapter.pump_cases acted).keeps.1]
    exact waits
  | takeAdapterRequest | onTxComplete io | onDeadline io =>
    obtain rfl := Option.some.inj acted
    exact waits

theorem Port.move_overrun {port after : Port} {move : Move} (moved : port.move move = some after) :
    after.overrun = false ↔ port.overrun = false ∧ move.Fits port := by
  cases Port.move_cases moved with
  | act _ _ acted =>
    rw [← port.room_iff acted]
    simp
  | drain _ => exact (and_iff_left trivial).symm

theorem Ran.waits {moves : List (Port × Move)} {port : Port} (ran : Ran moves port) : Waits port.link.server.rx := by
  induction ran with
  | new => exact .inl Nat.zero_lt_two
  | move _ moved ih =>
    cases Port.move_cases moved with
    | act _ _ acted => exact Adapter.act_waits ih acted
    | drain _ => exact ih

theorem Ran.books {moves : List (Port × Move)} {port : Port} (ran : Ran moves port) : port.link.Books := by
  induction ran with
  | new ticksPerUs rate => exact (Served.new ticksPerUs rate).books
  | move _ moved ih =>
    cases Port.move_cases moved with
    | act _ _ acted => exact ih.act acted
    | drain _ => exact ih

theorem Ran.fits {moves : List (Port × Move)} {port : Port} {move : Move} (ran : Ran moves port)
    (spares : move.Spares port) : move.Fits port := by
  match move with
  | .act (.pipe reads bytes) =>
    have cost := @packet_said reads _ bytes ran.waits ⟨port.link.bus, port.link.records.length, 0⟩
    dsimp only at cost
    simp only [Move.Spares, Move.Fits] at spares ⊢
    omega
  | .act (.pump ios) =>
    obtain ⟨len, steady, few⟩ := spares
    obtain ⟨commands, sound⟩ := ran.books.sound
    have cost := told_supply sound steady
    simp only [Move.Fits]
    omega
  | .act .takeAdapterRequest | .act (.onTxComplete _) | .act (.onDeadline _) | .drain _ => exact trivial

theorem Ran.moved {moves : List (Port × Move)} {port before : Port} {move : Move} (ran : Ran moves port)
    (member : (before, move) ∈ moves) : ∃ earlier, Ran earlier before := by
  induction ran with
  | new => cases member
  | @move moves port after last ran _ ih =>
    obtain old | new := List.mem_append.mp member
    next => exact ih old
    next =>
      obtain ⟨rfl, rfl⟩ := Prod.mk.inj (List.mem_singleton.mp new)
      exact ⟨_, ran⟩

theorem overrun_fits {moves : List (Port × Move)} {port : Port} (ran : Ran moves port) :
    port.overrun = false ↔ ∀ before move, (before, move) ∈ moves → move.Fits before := by
  induction ran with
  | new => exact iff_of_true rfl (fun _ _ no => (by cases no))
  | move _ moved ih =>
    rw [Port.move_overrun moved, ih]
    constructor
    next =>
      rintro ⟨earlier, last⟩ before move member
      obtain old | new := List.mem_append.mp member
      next => exact earlier before move old
      next =>
        obtain ⟨rfl, rfl⟩ := Prod.mk.inj (List.mem_singleton.mp new)
        exact last
    next =>
      intro every
      exact ⟨fun before move old => every before move (List.mem_append_left _ old),
        every _ _ (List.mem_append_right _ List.mem_cons_self)⟩

theorem edges_said (reads : Nat → Reads) (found : List Piece) (toll : Toll) :
    toll.bytes + 10 * found.countP Piece.drains + 2 * edgesTaken reads toll.handled found ≤
      (found.foldl (Toll.add reads) toll).bytes := by
  induction found generalizing toll with
  | nil => exact Nat.le_refl _
  | cons piece rest ih =>
    have later := ih (toll.add reads piece)
    rw [List.foldl_cons, List.countP_cons]
    refine Nat.le_trans ?_ later
    cases piece with
    | junk =>
      have other : Piece.junk.drains = false := rfl
      simp only [Toll.add, edgesTaken, other]
      simp
    | whole rec =>
      have least : (if (Piece.whole rec).drains = true then 10 else 0) +
          2 * (Request.ofRecord rec).edges (reads toll.handled) ≤
            (Request.ofRecord rec).demand toll.bus (reads toll.handled) := by
        rw [Piece.drains]
        cases Request.ofRecord rec with
        | edgeDrain max =>
          simp only [Request.edges, Request.demand, if_true]
          omega
        | _ => exact Nat.zero_le _
      simp only [Toll.add, edgesTaken]
      split at least <;> simp_all <;> omega

/-- In a run whose moves all meet the condition no record is ever without room; in one that drains more edges than the
queue has room for some record is. -/
theorem edges_overrun {moves : List (Port × Move)} {port : Port} (ran : Ran moves port) :
    ((∀ before move, (before, move) ∈ moves → move.Spares before) → port.overrun = false) ∧
      ∀ before reads bytes, (before, .act (.pipe reads bytes)) ∈ moves →
        before.txq.free < 10 * (packet before.link.server.rx bytes).1.countP Piece.drains +
          2 * edgesTaken reads before.link.records.length (packet before.link.server.rx bytes).1 →
        port.overrun = true := by
  constructor
  next =>
    intro spares
    refine (overrun_fits ran).mpr fun before move member => ?_
    obtain ⟨earlier, reached⟩ := ran.moved member
    exact reached.fits (spares before move member)
  next =>
    intro before reads bytes member many
    refine eq_true_of_ne_false fun none => ?_
    have fits := (overrun_fits ran).mp none before _ member
    have said := edges_said reads (packet before.link.server.rx bytes).1
      ⟨before.link.bus, before.link.records.length, 0⟩
    simp only [Move.Fits] at fits
    dsimp only at said
    omega

section Gate

variable {port after : Port}

/-- Behind the gate a packet that takes no more than 336 edges meets the condition. -/
theorem packet_spares {reads : Nat → Reads} {bytes : List UInt8}
    (moved : port.move (.act (.pipe reads bytes)) = some after)
    (few : edgesTaken reads port.link.records.length (packet port.link.server.rx bytes).1 ≤ 336) :
    (Move.act (.pipe reads bytes)).Spares port := by
  have headroom : pumpHeadroom = 2048 := rfl
  have most : packetMax = 512 := rfl
  cases Port.move_cases moved with
  | act gate short _ =>
    have free := gate rfl
    rw [Act.bytes] at short
    rw [Move.Spares]
    omega

theorem pump_spares {look : Look} {ios : List Io} {looks : List Look}
    (moved : port.move (.act (.pump ios)) = some after) (split : ios.flatMap Io.looks = look :: looks)
    (steady : Steady 1024 (look :: looks)) (few : arrivals look looks ≤ 501) : (Move.act (.pump ios)).Spares port := by
  have headroom : pumpHeadroom = 2048 := rfl
  cases Port.move_cases moved with
  | act gate _ _ =>
    have free := gate rfl
    obtain ⟨size, -⟩ := steady look List.mem_cons_self
    have short : port.link.bus.framer.backlog look < 1024 := by
      rw [Framer.backlog, size]
      exact Nat.mod_lt _ (by decide)
    refine ⟨1024, split ▸ steady, ?_⟩
    rw [split, supply]
    omega

end Gate

section Fresh

variable {reads : Nat → Reads} {recs : List (List UInt8)}

def answeredPort (reads : Nat → Reads) (recs : List (List UInt8)) : Port :=
  { link := fresh.onPipe reads (framed recs)
    txq := (fresh.news (fresh.onPipe reads (framed recs))).foldl TxQueue.record {}
    overrun := !decide (({} : TxQueue).Room (fresh.news (fresh.onPipe reads (framed recs)))) }

theorem move_fresh (short : (framed recs).length ≤ packetMax) :
    Port.move { link := fresh } (.act (.pipe reads (framed recs))) = some (answeredPort reads recs) := by
  rw [Port.move]
  refine (if_neg ?_).trans rfl
  rintro (⟨-, few⟩ | long)
  next => exact absurd few (show ¬ ({} : TxQueue).free < pumpHeadroom by decide)
  next => exact absurd short (Nat.not_le_of_lt long)

theorem ran_fresh (short : (framed recs).length ≤ packetMax) :
    Ran [({ link := fresh }, .act (.pipe reads (framed recs)))] (answeredPort reads recs) :=
  .move (.new 48 .b1000000) (move_fresh short)

theorem fits_fresh (sized : Sized recs) (some : recs ≠ []) (short : (framed recs).length ≤ packetMax) :
    (Move.act (.pipe reads (framed recs))).Fits { link := fresh } ↔
      ((recs.map Piece.whole).foldl (Toll.add reads) ⟨fresh.bus, 0, 0⟩).bytes ≤ txqCap := by
  obtain ⟨rec, rest, rfl⟩ := List.exists_cons_of_ne_nil some
  have bytes : framed (rec :: rest) ≠ [] := by
    rw [framed_cons]
    exact List.length_pos_iff.mp (by rw [List.length_append, length_sealed]; omega)
  have pieces := @packet_fits [] _ bytes (by rwa [List.length_nil, Nat.zero_add])
  rw [List.nil_append, pieces_framed sized] at pieces
  have found : packet ({ link := fresh } : Port).link.server.rx (framed (rec :: rest)) = _ := pieces
  rw [Move.Fits, found]
  rfl

end Fresh

def pingRecs : List (List UInt8) :=
  [[recSubmit, 7, 0, verbExchange, 5, 0x10], [recEdgeDrain, 64]]

def quietLook : Look :=
  ⟨List.replicate 1024 0xFF, 0⟩

def heardLook : Look :=
  ⟨[0, 5, 3, 0x80, 17, 81] ++ List.replicate 1018 0xFF, 6⟩

def fewEdges (_ : Nat) : Reads :=
  ⟨⟨fun _ => 0, [], quietLook⟩, [1, 3], [0, 2, 4], false⟩

def heardIos : List Io :=
  [⟨fun _ => 500, [heardLook], heardLook⟩, ⟨fun _ => 600, [], heardLook⟩, ⟨fun _ => 700, [], heardLook⟩]

def pingBus : HostBus :=
  ((HostBus.new 48 .b1000000).submit (.exchange 5 0x10 []) (fewEdges 0).io).1.onTxComplete (fewEdges 0).io

theorem pingRecs_pieces : packet fresh.server.rx (framed pingRecs) = (pingRecs.map .whole, []) := by
  have sized : Sized pingRecs := by
    intro rec member
    obtain rfl | rfl : rec = _ ∨ rec = _ := by simpa [pingRecs] using member
    all_goals decide
  have pieces := @packet_fits [] (framed pingRecs) (by simp [pingRecs, framed_cons, sealed]) (by decide)
  rw [List.nil_append, pieces_framed sized] at pieces
  exact pieces

theorem pingRecs_paid : (answeredPort fewEdges pingRecs).link.toll =
    (pingRecs.map Piece.whole).foldl (Toll.add fewEdges) fresh.toll := by
  have paid := (fresh.onPipe_paid fewEdges (framed pingRecs)).toll
  rwa [pingRecs_pieces] at paid

theorem pingRecs_free : pumpHeadroom ≤ (answeredPort fewEdges pingRecs).txq.free := by
  have said := Adapter.news_total (fresh.onPipe_paid fewEdges (framed pingRecs)).log
  have paid : spoken (fresh.onPipe fewEdges (framed pingRecs)).log = _ := congrArg Toll.bytes pingRecs_paid
  have bytes : ((pingRecs.map Piece.whole).foldl (Toll.add fewEdges) fresh.toll).bytes = 20 := by decide +kernel
  have before : spoken fresh.log = 0 := rfl
  rw [paid, bytes, before, Nat.zero_add] at said
  have left := TxQueue.fold_free {} (fresh.news (fresh.onPipe fewEdges (framed pingRecs)))
  rw [← said] at left
  exact Nat.le_trans (by decide) left

theorem pingBus_polls : ∃ first second third one two, pingBus.poll heardIos[0] = some (first, some one) ∧
    first.poll heardIos[1] = some (second, some two) ∧ second.poll heardIos[2] = some (third, none) := by
  have polled : (pingBus.poll heardIos[0]).bind (fun one => (one.1.poll heardIos[1]).bind fun two =>
      (two.1.poll heardIos[2]).map fun three => (one.2.isSome, two.2.isSome, three.2.isSome)) =
        some (true, true, false) := by decide +kernel
  obtain ⟨⟨first, one⟩, firstPoll, rest⟩ := Option.bind_eq_some_iff.mp polled
  obtain ⟨⟨second, two⟩, secondPoll, rest⟩ := Option.bind_eq_some_iff.mp rest
  obtain ⟨⟨third, three⟩, thirdPoll, both⟩ := Option.map_eq_some_iff.mp rest
  obtain ⟨some, more, none⟩ : one.isSome = true ∧ two.isSome = true ∧ three.isSome = false := by simpa using both
  obtain ⟨one, rfl⟩ := Option.isSome_iff_exists.mp some
  obtain ⟨two, rfl⟩ := Option.isSome_iff_exists.mp more
  obtain rfl := Option.isSome_eq_false_iff.mp none |> Option.isNone_iff_eq_none.mp
  exact ⟨first, second, third, one, two, firstPoll, secondPoll, thirdPoll⟩

theorem edges_overrun_ping : ∃ moves port, Ran moves port ∧ moves.length = 4 ∧
    (∀ before move, (before, move) ∈ moves → move.Spares before) ∧ port.overrun = false := by
  obtain ⟨first, second, third, one, two, firstPoll, secondPoll, thirdPoll⟩ := pingBus_polls
  have asked : Port.move { link := fresh } (.act (.pipe fewEdges (framed pingRecs))) =
      some (answeredPort fewEdges pingRecs) := move_fresh (by decide)
  have free := pingRecs_free
  have bus : (answeredPort fewEdges pingRecs).link.bus.onTxComplete (fewEdges 0).io = pingBus :=
    congrArg (fun toll => toll.bus.onTxComplete (fewEdges 0).io) pingRecs_paid
  generalize answeredPort fewEdges pingRecs = waits at asked free bus
  have sent : ∃ after, waits.move (.act (.onTxComplete (fewEdges 0).io)) = some after ∧ after.link.bus = pingBus ∧
      after.txq = waits.txq := by
    have nothing : waits.link.news { waits.link with bus := waits.link.bus.onTxComplete (fewEdges 0).io } = [] :=
      Adapter.news_same rfl
    exact ⟨_, rfl, bus, congrArg (List.foldl TxQueue.record waits.txq) nothing⟩
  obtain ⟨after, sent, drained, queue⟩ := sent
  have told : ∃ last, after.move (.act (.pump heardIos)) = some last := by
    have pumps : (after.link.pump heardIos).isSome = true := by
      simp only [heardIos, List.getElem_cons_zero, List.getElem_cons_succ] at firstPoll secondPoll thirdPoll
      rw [heardIos, Adapter.pump, drained, firstPoll]
      dsimp only
      rw [Adapter.pump, Adapter.tell_bus, secondPoll]
      dsimp only
      rw [Adapter.pump, Adapter.tell_bus, thirdPoll]
      rfl
    obtain ⟨link, pumped⟩ := Option.isSome_iff_exists.mp pumps
    rw [Port.move, if_neg, Adapter.act, pumped]
    next => exact ⟨_, rfl⟩
    next =>
      rintro (⟨-, few⟩ | long)
      next => exact absurd (queue ▸ free) (Nat.not_le_of_lt few)
      next => exact absurd long (by decide)
  obtain ⟨last, told⟩ := told
  have taken : last.move (.drain 64) = some { last with txq := (last.txq.popInto 64).1 } := rfl
  have ran : Ran [({ link := fresh }, .act (.pipe fewEdges (framed pingRecs))),
      (waits, .act (.onTxComplete (fewEdges 0).io)), (after, .act (.pump heardIos)), (last, .drain 64)] _ :=
    Ran.move (Ran.move (Ran.move (Ran.move (Ran.new 48 .b1000000) asked) sent) told) taken
  have first : (Move.act (.pipe fewEdges (framed pingRecs))).Spares { link := fresh } := by
    refine packet_spares asked ?_
    rw [pingRecs_pieces]
    decide
  have steady : Steady 1024 [heardLook] := by
    intro look member
    obtain rfl := List.mem_singleton.mp member
    exact ⟨by rw [heardLook, List.length_append, List.length_replicate]; rfl, show 6 < 1024 by decide⟩
  have pump : (Move.act (.pump heardIos)).Spares after := pump_spares told rfl steady (Nat.zero_le _)
  refine ⟨_, _, ran, rfl, ?_, (edges_overrun ran).1 ?_⟩
  all_goals
    intro before move member
    simp only [List.mem_cons, Prod.mk.injEq, List.not_mem_nil, or_false] at member
    obtain ⟨rfl, rfl⟩ | ⟨rfl, rfl⟩ | ⟨rfl, rfl⟩ | ⟨rfl, rfl⟩ := member
    next => exact first
    next => exact trivial
    next => exact pump
    next => exact trivial

def edgy (k : Nat) : Reads :=
  ⟨⟨fun _ => 0, [], ⟨[], 0⟩⟩, List.replicate (1024 - 64 * k) 0, List.replicate (1024 - 64 * k) 0, false⟩

/-- Sixteen drains in one packet, and the queue was empty. -/
theorem drains_overrun :
    Ran [({ link := fresh }, .act (.pipe edgy (framed (List.replicate 16 [recEdgeDrain, 64]))))]
        (answeredPort edgy (List.replicate 16 [recEdgeDrain, 64])) ∧
      (answeredPort edgy (List.replicate 16 [recEdgeDrain, 64])).overrun = true := by
  have sized : Sized (List.replicate 16 [recEdgeDrain, 64]) := by
    intro rec member
    obtain rfl := List.eq_of_mem_replicate member
    decide
  have ran : Ran _ (answeredPort edgy (List.replicate 16 [recEdgeDrain, 64])) := ran_fresh (by decide)
  refine ⟨ran, eq_true_of_ne_false fun none => ?_⟩
  have fits := ((Port.move_overrun (move_fresh (by decide))).mp none).2
  exact absurd ((fits_fresh sized (List.cons_ne_nil _ _) (by decide)).mp fits) (by decide +kernel)

end OpenServo.Link
