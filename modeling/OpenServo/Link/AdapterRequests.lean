import OpenServo.Link.Pieces
import OpenServo.Shared.Mailbox
import OpenServo.Shared.Run
import Mathlib.Data.List.Induction

set_option autoImplicit false

namespace OpenServo.Link

open OpenServo.Protocol OpenServo.Host OpenServo.Shared

inductive Service where
  | bootloader
  | rails
deriving DecidableEq

def AdapterRequest.service : AdapterRequest → Service
  | .enterBootloader => .bootloader
  | .setRails _ _ => .rails

def railsRequest (state : UInt8) : AdapterRequest :=
  .setRails (state &&& 1 ≠ 0) (state &&& 2 ≠ 0)

def Reply.acknowledges : Reply → Option AdapterRequest
  | .bootloaderAck => some .enterBootloader
  | .railsAck state => some (railsRequest state)
  | .info _ | .status .. | .terminal .. | .rejected .. | .unknown _ | .wireDone .. | .edges .. | .captureAck => none

/-- A SET_RAILS that selects no rail is a readback: it drives nothing. -/
def Request.readback : Request → Bool
  | .setRails _ mask => mask.getD 0b11 &&& 0b11 = 0
  | _ => false

def Request.asks (request : Request) : Option (Service × Bool) :=
  match request with
  | .enterBootloader => some (.bootloader, request.readback)
  | .setRails _ _ => some (.rails, request.readback)
  | _ => none

structure Ack where
  req : AdapterRequest
  readback : Bool

structure Acks where
  current : List UInt8 := []
  said : List Ack := []

def Acks.see (acks : Acks) : Entry → Acks
  | .handled rec => { acks with current := rec }
  | .out reply =>
    { acks with
      said := acks.said ++ (reply.acknowledges.map fun req => ⟨req, (Request.ofRecord acks.current).readback⟩).toList }
  | .took _ _ | .dropped => acks

def Adapter.acks (link : Adapter) : List Ack :=
  (link.log.foldl Acks.see {}).said

structure Turn where
  acked : List Ack
  returned : Option AdapterRequest

structure Loop where
  link : Adapter
  turns : List Turn := []

/-- What can happen to the main loop's adapter. A turn without a packet brings no bytes. -/
inductive Beat where
  | turn (reads : Nat → Reads) (bytes : List UInt8)
  | pump (ios : List Io)
  | onTxComplete (io : Io)
  | onDeadline (io : Io)

namespace Loop

def boot (ticksPerUs : UInt32) (rate : BaudRate) : Loop :=
  { link := { bus := .new ticksPerUs rate } }

def step (loop : Loop) : Beat → Loop
  | .turn reads bytes =>
    let fed := loop.link.onPipe reads bytes
    let (link, returned) := fed.takeAdapterRequest
    { link, turns := loop.turns ++ [{ acked := fed.acks.drop loop.link.acks.length, returned }] }
  | .pump ios => { loop with link := (loop.link.pump ios).getD loop.link }
  | .onTxComplete io => { loop with link.bus := loop.link.bus.onTxComplete io }
  | .onDeadline io => { loop with link.bus := loop.link.bus.onDeadline io }

end Loop

def counted (readbacks : Bool) (acks : List Ack) : List AdapterRequest :=
  (acks.filter fun ack => !ack.readback || readbacks).map Ack.req

namespace Loop

def marks (readbacks : Bool) (loop : Loop) : List (Mark AdapterRequest) :=
  loop.turns.flatMap fun turn => batch (counted readbacks turn.acked) turn.returned

def delivered (loop : Loop) : AdapterRequest :=
  (lastOf AdapterRequest.service .rails (loop.turns.filterMap Turn.returned)).getD (railsRequest railsBootState)

def acknowledged (loop : Loop) : AdapterRequest :=
  (lastOf AdapterRequest.service .rails (loop.turns.flatMap fun turn => turn.acked.map Ack.req)).getD
    (railsRequest railsBootState)

structure CarriedOut (readbacks : Bool) (loop : Loop) : Prop where
  honoured : Honoured AdapterRequest.service (loop.marks readbacks)
  rails : loop.delivered = loop.acknowledged

end Loop

def Piece.asks : Piece → Option (Service × Bool)
  | .whole rec => (Request.ofRecord rec).asks
  | .junk => none

def lastDriving (asks : List (Service × Bool)) : Option Service :=
  ((asks.filter fun ask => !ask.2).getLast?).map Prod.fst

/-- Everything a packet asks for is of the kind that its last driving request is of. -/
def OneKind (readbacks : Bool) (asks : List (Service × Bool)) : Prop :=
  ∀ ask ∈ asks, !ask.2 || readbacks → lastDriving asks = some ask.1

def Loop.OneKind (readbacks : Bool) (loop : Loop) : Beat → Prop
  | .turn _ bytes => Link.OneKind readbacks ((packet loop.link.server.rx bytes).1.filterMap Piece.asks)
  | .pump _ | .onTxComplete _ | .onDeadline _ => True

structure Desk where
  adapter : AdapterState
  acks : List Ack

namespace Desk

def serve (desk : Desk) (request : Request) : Desk :=
  match request with
  | .enterBootloader =>
    { adapter := { desk.adapter with req := some .enterBootloader }
      acks := desk.acks ++ [⟨.enterBootloader, request.readback⟩] }
  | .setRails state mask =>
    let mask := mask.getD 0b11 &&& 0b11
    let rails := (desk.adapter.rails &&& ~~~mask) ||| (state &&& mask)
    { adapter := ⟨if mask ≠ 0 then some (railsRequest rails) else desk.adapter.req, rails⟩
      acks := desk.acks ++ [⟨railsRequest rails, request.readback⟩] }
  | _ => desk

def take (desk : Desk) : Piece → Desk
  | .whole rec => desk.serve (Request.ofRecord rec)
  | .junk => desk

end Desk

namespace Adapter

def desk (link : Adapter) : Desk :=
  ⟨link.server.adapter, link.acks⟩

variable (link : Adapter)

theorem acks_append {after : Adapter} {more : List Entry} (log : after.log = link.log ++ more) :
    after.acks = (more.foldl Acks.see (link.log.foldl Acks.see {})).said := by
  rw [acks, log, List.foldl_append]

theorem acks_idle {after : Adapter} {entry : Entry} (log : after.log = link.log ++ [entry])
    (idle : entry.reply.bind Reply.acknowledges = none) : after.acks = link.acks := by
  rw [acks_append link log]
  cases entry with
  | handled | took | dropped => rfl
  | out reply =>
    have none : reply.acknowledges = none := idle
    simp [Acks.see, none, acks]

theorem desk_drop : link.drop.desk = link.desk := by
  have acks : link.drop.acks = link.acks := by
    rw [acks_append link (List.append_assoc _ _ _)]
    exact List.append_nil _
  exact congrArg (Desk.mk link.server.adapter) acks

variable {link} {after : Adapter} {rec : List UInt8}

theorem acks_replied {reply : Reply} (log : after.log = link.log ++ [.handled rec, .out reply]) :
    after.acks = link.acks ++ (reply.acknowledges.map fun req => ⟨req, (Request.ofRecord rec).readback⟩).toList :=
  acks_append link log

theorem desk_idle {entry : Entry} (log : after.log = link.log ++ [.handled rec, entry])
    (idle : entry.reply.bind Reply.acknowledges = none) (adapter : after.server.adapter = link.server.adapter) :
    after.desk = link.desk := by
  have noted : (link.note (.handled rec)).acks = link.acks := acks_idle link rfl rfl
  have acks : after.acks = link.acks := by
    rw [← noted]
    refine acks_idle (link.note (.handled rec)) ?_ idle
    rw [log]
    exact List.append_cons _ _ _
  exact congrArg₂ Desk.mk adapter acks

theorem desk_wire (link : Adapter) (rec : List UInt8) (seq : UInt16) (op : WireOp) (io : Io) :
    ((link.note (.handled rec)).wire seq op io).desk = link.desk := by
  unfold wire
  dsimp only
  split <;> exact desk_idle (List.append_cons _ _ _).symm rfl rfl

theorem desk_submit (link : Adapter) (rec : List UInt8) (seq : UInt16) (cmd : Command) (io : Io) :
    ((link.note (.handled rec)).submit seq cmd io).desk = link.desk := by
  unfold submit
  dsimp only
  split <;> exact desk_idle (List.append_cons _ _ _).symm rfl rfl

theorem desk_handle (link : Adapter) (reads : Reads) (rec : List UInt8) :
    (link.handle reads rec).desk = link.desk.serve (Request.ofRecord rec) := by
  unfold handle
  dsimp only
  split
  next request => rw [request]; exact desk_idle (List.append_cons _ _ _).symm rfl rfl
  next request =>
    have acks := @acks_replied link
      (({ link.note (.handled rec) with server.adapter.req := some .enterBootloader } : Adapter).out .bootloaderAck)
      rec .bootloaderAck (List.append_cons _ _ _).symm
    rw [request] at acks ⊢
    exact congrArg (Desk.mk _) acks
  next state mask request =>
    have acks := @acks_replied link ((link.note (.handled rec)).setRails state mask) rec
      (.railsAck ((link.note (.handled rec)).setRails state mask).server.adapter.rails) (List.append_cons _ _ _).symm
    rw [request] at acks ⊢
    exact congrArg (Desk.mk _) acks
  next request => rw [request]; exact desk_wire link rec _ _ _
  next request => rw [request]; exact desk_idle (List.append_cons _ _ _).symm rfl rfl
  next request => rw [request]; exact desk_idle (List.append_cons _ _ _).symm rfl rfl
  next request => rw [request]; exact desk_submit link rec _ _ _
  next request => rw [request]; exact desk_idle (List.append_cons _ _ _).symm rfl rfl
  next request => rw [request]; exact desk_idle (List.append_cons _ _ _).symm rfl rfl

theorem trace_desk {reads : Nat → Reads} {link after : Adapter} {found : List Piece}
    (trace : Trace reads link found after) : after.desk = found.foldl Desk.take link.desk := by
  induction trace with
  | nil => rfl
  | fill rx later ih => exact ih
  | whole rec later ih =>
    rw [ih, desk_handle]
    rfl
  | junk later ih =>
    rw [ih, desk_drop]
    rfl

theorem onPipe_desk (link : Adapter) (reads : Nat → Reads) (bytes : List UInt8) :
    (link.onPipe reads bytes).desk = (packet link.server.rx bytes).1.foldl Desk.take link.desk :=
  trace_desk (link.onPipe_comes reads bytes).trace

theorem acks_tell (link : Adapter) (event : Event) : (link.tell event).acks = link.acks := by
  cases event <;> exact acks_idle link rfl rfl

theorem pump_desk {ios : List Io} {link after : Adapter} (pumped : link.pump ios = some after) :
    after.desk = link.desk := by
  fun_induction pump ios link with
  | case1 => cases pumped
  | case2 => cases pumped
  | case3 io ios link bus polled =>
    obtain rfl := Option.some.inj pumped
    rfl
  | case4 io ios link bus event polled ih =>
    have told : (({ link with bus } : Adapter).tell event).desk = link.desk := by
      have acks := acks_tell { link with bus } event
      cases event <;> exact congrArg (Desk.mk link.server.adapter) acks
    exact (ih pumped).trans told

end Adapter

def Ack.asks (ack : Ack) : Service × Bool :=
  (ack.req.service, ack.readback)

theorem counted_append_single (readbacks : Bool) (acks : List Ack) (ack : Ack) :
    counted readbacks (acks ++ [ack]) =
      if !ack.readback || readbacks then counted readbacks acks ++ [ack.req] else counted readbacks acks := by
  rw [counted, List.filter_append, List.map_append]
  cases counts : !ack.readback || readbacks <;> simp [counts, counted]

theorem lastDriving_append_single (asks : List (Service × Bool)) (ask : Service × Bool) :
    lastDriving (asks ++ [ask]) = if ask.2 then lastDriving asks else some ask.1 := by
  rw [lastDriving, List.filter_append, List.getLast?_append]
  cases drives : ask.2 <;> simp [drives, lastDriving]

structure Handed (rails : UInt8) (asks : List (Service × Bool)) (adapter : AdapterState) (acks : List Ack) : Prop where
  asked : acks.map Ack.asks = asks
  driving : adapter.req.map AdapterRequest.service = lastDriving asks
  latest : ∀ readbacks req, adapter.req = some req →
    lastOf AdapterRequest.service req.service (counted readbacks acks) = some req
  mirror : (lastOf AdapterRequest.service .rails (acks.map Ack.req)).getD (railsRequest rails) =
    railsRequest adapter.rails
  untouched : (∀ ack ∈ acks, ack.req.service = .rails → ack.readback) → adapter.rails = rails

namespace Handed

theorem nil (rails : UInt8) : Handed rails [] ⟨none, rails⟩ [] where
  asked := rfl
  driving := rfl
  latest := nofun
  mirror := rfl
  untouched _ := rfl

variable {rails : UInt8} {asks : List (Service × Bool)} {adapter : AdapterState} {acks : List Ack}

theorem counted_all (acks : List Ack) : counted true acks = acks.map Ack.req := by
  simp [counted]

theorem current (handed : Handed rails asks adapter acks) {req : AdapterRequest} (waits : adapter.req = some req)
    (kind : req.service = .rails) : req = railsRequest adapter.rails := by
  have last := handed.latest true req waits
  rw [counted_all, kind] at last
  have mirror := handed.mirror
  rwa [last, Option.getD_some] at mirror

theorem drive (handed : Handed rails asks adapter acks) (req : AdapterRequest) (state : UInt8)
    (drives : req.service = .rails → req = railsRequest state)
    (spares : req.service ≠ .rails → state = adapter.rails) :
    Handed rails (asks ++ [(req.service, false)]) ⟨some req, state⟩ (acks ++ [⟨req, false⟩]) where
  asked := by
    rw [List.map_append, handed.asked]
    rfl
  driving := by
    rw [lastDriving_append_single]
    rfl
  latest readbacks other waits := by
    obtain rfl := Option.some.inj waits
    rw [counted_append_single, if_pos (by rfl), lastOf_append_single, if_pos rfl]
  mirror := by
    rw [List.map_append, List.map_singleton, lastOf_append_single]
    split
    next kind => exact drives kind
    next kind =>
      rw [handed.mirror]
      exact congrArg railsRequest (spares kind).symm
  untouched idle := by
    have other : req.service ≠ .rails := fun kind =>
      absurd (idle ⟨req, false⟩ (List.mem_append_right _ List.mem_cons_self) kind) Bool.false_ne_true
    exact (spares other).trans (handed.untouched fun ack member => idle ack (List.mem_append_left _ member))

theorem readback (handed : Handed rails asks adapter acks) :
    Handed rails (asks ++ [(.rails, true)]) adapter (acks ++ [⟨railsRequest adapter.rails, true⟩]) where
  asked := by
    rw [List.map_append, handed.asked]
    rfl
  driving := by
    rw [lastDriving_append_single]
    exact handed.driving
  latest readbacks req waits := by
    have last := handed.latest readbacks req waits
    rw [counted_append_single]
    split
    next =>
      rw [lastOf_append_single]
      split
      next kind => exact congrArg some (handed.current waits kind.symm).symm
      next => exact last
    next => exact last
  mirror := by
    rw [List.map_append, List.map_singleton, lastOf_append_single]
    rfl
  untouched idle := handed.untouched fun ack member => idle ack (List.mem_append_left _ member)

theorem take (handed : Handed rails asks adapter acks) (before : List Ack) (piece : Piece) :
    ∃ adapter' acks', Desk.take ⟨adapter, before ++ acks⟩ piece = ⟨adapter', before ++ acks'⟩ ∧
      Handed rails (asks ++ piece.asks.toList) adapter' acks' := by
  have idle : Handed rails (asks ++ []) adapter acks := by rwa [List.append_nil]
  cases piece with
  | junk => exact ⟨adapter, acks, rfl, idle⟩
  | whole rec =>
    rw [Desk.take, Piece.asks]
    generalize Request.ofRecord rec = request
    cases request with
    | enterBootloader =>
      refine ⟨_, _, congrArg (Desk.mk _) (List.append_assoc _ _ _), ?_⟩
      exact handed.drive .enterBootloader adapter.rails nofun fun _ => rfl
    | setRails state mask =>
      refine ⟨_, _, congrArg (Desk.mk _) (List.append_assoc _ _ _), ?_⟩
      by_cases none : mask.getD 0b11 &&& 0b11 = 0
      next =>
        have whole := handed.readback
        have same : (adapter.rails &&& ~~~0) ||| (state &&& 0) = adapter.rails := by simp
        simpa [Request.asks, Request.readback, none, same] using whole
      next =>
        have whole (state : UInt8) : Handed rails (asks ++ [(.rails, false)]) ⟨some (railsRequest state), state⟩ _ :=
          handed.drive (railsRequest state) state (fun _ => rfl) fun other => absurd rfl other
        simpa [Request.asks, Request.readback, none] using whole _
    | hello | wire | edgeDrain | captureReset | submit | malformed | unknown => exact ⟨adapter, acks, rfl, idle⟩

theorem fold (before : List Ack) (rails : UInt8) (found : List Piece) :
    ∃ adapter acks, found.foldl Desk.take ⟨⟨none, rails⟩, before⟩ = ⟨adapter, before ++ acks⟩ ∧
      Handed rails (found.filterMap Piece.asks) adapter acks := by
  induction found using List.reverseRecOn with
  | nil => exact ⟨⟨none, rails⟩, [], congrArg (Desk.mk _) (List.append_nil _).symm, .nil rails⟩
  | append_singleton found piece ih =>
    obtain ⟨adapter, acks, same, handed⟩ := ih
    obtain ⟨adapter', acks', next, whole⟩ := handed.take before piece
    have asks : (found ++ [piece]).filterMap Piece.asks = found.filterMap Piece.asks ++ piece.asks.toList := by
      rw [List.filterMap_append]
      cases kind : piece.asks <;> simp [kind]
    refine ⟨adapter', acks', ?_, asks ▸ whole⟩
    rw [List.foldl_append, same]
    exact next

theorem honoured_iff (handed : Handed rails asks adapter acks) (readbacks : Bool) :
    Honoured AdapterRequest.service (batch (counted readbacks acks) adapter.req) ↔ OneKind readbacks asks := by
  rw [honoured_batch]
  constructor
  next =>
    intro all ask member counts
    rw [← handed.asked] at member
    obtain ⟨ack, inside, rfl⟩ := List.mem_map.mp member
    have one : ack.req ∈ counted readbacks acks :=
      List.mem_map.mpr ⟨ack, List.mem_filter.mpr ⟨inside, counts⟩, rfl⟩
    obtain ⟨last, found, kind⟩ := lastOf_of_mem AdapterRequest.service one
    rw [← handed.driving, ← all ack.req one, found]
    exact congrArg some kind
  next =>
    intro alike item member
    obtain ⟨ack, inside, rfl⟩ := List.mem_map.mp member
    obtain ⟨inside, counts⟩ := List.mem_filter.mp inside
    have asked : ack.asks ∈ asks := handed.asked ▸ List.mem_map_of_mem inside
    have kind := alike ack.asks asked counts
    rw [← handed.driving] at kind
    obtain ⟨req, waits, same⟩ := Option.map_eq_some_iff.mp kind
    have last := handed.latest readbacks req waits
    rw [waits, ← last]
    exact congrArg (lastOf _ · _) same.symm

theorem driven (handed : Handed rails asks adapter acks) {readbacks : Bool} (alike : OneKind readbacks asks) :
    (lastOf AdapterRequest.service .rails adapter.req.toList).getD (railsRequest rails) =
      railsRequest adapter.rails := by
  by_cases waits : ∃ req, adapter.req = some req ∧ req.service = .rails
  next =>
    obtain ⟨req, waits, kind⟩ := waits
    have one := lastOf_append_single AdapterRequest.service .rails [] req
    rw [if_pos kind] at one
    rw [waits, Option.toList_some, ← List.nil_append [req], one]
    exact handed.current waits kind
  next =>
    have none : lastOf AdapterRequest.service .rails adapter.req.toList = none := by
      cases found : adapter.req with
      | none => rfl
      | some req =>
        have other : req.service ≠ .rails := fun kind => waits ⟨req, found, kind⟩
        simp [lastOf, other]
    have same : adapter.rails = rails := by
      refine handed.untouched fun ack member kind => ?_
      by_contra drives
      have asked : ack.asks ∈ asks := handed.asked ▸ List.mem_map_of_mem member
      have last := alike ack.asks asked (by simp [Ack.asks, drives])
      rw [← handed.driving] at last
      obtain ⟨req, found, same⟩ := Option.map_eq_some_iff.mp last
      exact waits ⟨req, found, same.trans kind⟩
    rw [none, same]
    rfl

end Handed

namespace Loop

structure Rested (loop : Loop) : Prop where
  idle : loop.link.server.adapter.req = none
  mirror : loop.acknowledged = railsRequest loop.link.server.adapter.rails

theorem boot_rested (ticksPerUs : UInt32) (rate : BaudRate) : (boot ticksPerUs rate).Rested :=
  ⟨rfl, rfl⟩

variable {loop : Loop}

structure Turned (loop after : Loop) (asks : List (Service × Bool)) (adapter : AdapterState) (acks : List Ack) :
    Prop where
  handed : Handed loop.link.server.adapter.rails asks adapter acks
  turns : after.turns = loop.turns ++ [⟨acks, adapter.req⟩]
  adapter : after.link.server.adapter = ⟨none, adapter.rails⟩

theorem step_turns (loop : Loop) (reads : Nat → Reads) (bytes : List UInt8) {desk : Desk}
    (served : (packet loop.link.server.rx bytes).1.foldl Desk.take loop.link.desk = desk) :
    (loop.step (.turn reads bytes)).turns =
      loop.turns ++ [⟨desk.acks.drop loop.link.acks.length, desk.adapter.req⟩] := by
  have fed := (loop.link.onPipe_desk reads bytes).trans served
  rw [← fed]
  rfl

theorem turn_turned (rested : loop.Rested) (reads : Nat → Reads) (bytes : List UInt8) :
    ∃ adapter acks, Turned loop (loop.step (.turn reads bytes))
      ((packet loop.link.server.rx bytes).1.filterMap Piece.asks) adapter acks := by
  have start : loop.link.desk = ⟨⟨none, loop.link.server.adapter.rails⟩, loop.link.acks⟩ := by
    rw [← rested.idle]
    rfl
  obtain ⟨adapter, acks, same, handed⟩ :=
    Handed.fold loop.link.acks loop.link.server.adapter.rails (packet loop.link.server.rx bytes).1
  rw [← start] at same
  have turns := loop.step_turns reads bytes same
  rw [List.drop_left] at turns
  have fed : (loop.link.onPipe reads bytes).server.adapter = adapter :=
    congrArg Desk.adapter ((loop.link.onPipe_desk reads bytes).trans same)
  refine ⟨adapter, acks, handed, turns, ?_⟩
  exact congrArg (fun adapter : AdapterState => (⟨none, adapter.rails⟩ : AdapterState)) fed

variable {after : Loop} {asks : List (Service × Bool)} {adapter : AdapterState} {acks : List Ack}

namespace Turned

theorem acknowledged (turned : Turned loop after asks adapter acks) (rested : loop.Rested) :
    after.acknowledged = railsRequest adapter.rails := by
  have mirror := turned.handed.mirror
  rw [← rested.mirror] at mirror
  rw [← mirror, Loop.acknowledged, turned.turns, List.flatMap_append, lastOf_append, List.flatMap_singleton]
  exact Option.getD_or

theorem delivered (turned : Turned loop after asks adapter acks) :
    after.delivered = (lastOf AdapterRequest.service .rails adapter.req.toList).getD loop.delivered := by
  have returned : [(⟨acks, adapter.req⟩ : Turn)].filterMap Turn.returned = adapter.req.toList := by
    cases adapter.req <;> rfl
  rw [Loop.delivered, turned.turns, List.filterMap_append, lastOf_append, returned]
  exact Option.getD_or

theorem rested (turned : Turned loop after asks adapter acks) (rested : loop.Rested) : after.Rested := by
  refine ⟨?_, ?_⟩
  next => rw [turned.adapter]
  next => rw [turned.adapter, turned.acknowledged rested]

theorem carriedOut_iff (turned : Turned loop after asks adapter acks) (rested : loop.Rested) {readbacks : Bool}
    (before : loop.CarriedOut readbacks) : after.CarriedOut readbacks ↔ Link.OneKind readbacks asks := by
  have marks : after.marks readbacks = loop.marks readbacks ++ batch (counted readbacks acks) adapter.req := by
    rw [Loop.marks, turned.turns, List.flatMap_append, List.flatMap_singleton]
    rfl
  have honoured : Honoured AdapterRequest.service (after.marks readbacks) ↔ Link.OneKind readbacks asks := by
    rw [marks, honoured_append before.honoured]
    exact turned.handed.honoured_iff readbacks
  refine ⟨fun whole => honoured.mp whole.honoured, fun alike => ⟨honoured.mpr alike, ?_⟩⟩
  rw [turned.delivered, before.rails, rested.mirror, turned.acknowledged rested]
  exact turned.handed.driven alike

end Turned

theorem step_rested (loop : Loop) (beat : Beat) (rested : loop.Rested) : (loop.step beat).Rested := by
  cases beat with
  | turn reads bytes =>
    obtain ⟨adapter, acks, turned⟩ := turn_turned rested reads bytes
    exact turned.rested rested
  | onTxComplete io | onDeadline io => exact ⟨rested.idle, rested.mirror⟩
  | pump ios =>
    have same : ((loop.link.pump ios).getD loop.link).server.adapter = loop.link.server.adapter := by
      cases pumped : loop.link.pump ios with
      | none => rfl
      | some after => exact congrArg Desk.adapter (Adapter.pump_desk pumped)
    refine ⟨?_, ?_⟩
    next => exact (congrArg AdapterState.req same).trans rested.idle
    next => exact rested.mirror.trans (congrArg (railsRequest ·.rails) same.symm)

theorem step_carriedOut (readbacks : Bool) (loop : Loop) (beat : Beat) (rested : loop.Rested)
    (before : loop.CarriedOut readbacks) :
    (loop.step beat).CarriedOut readbacks ↔ loop.OneKind readbacks beat := by
  cases beat with
  | turn reads bytes =>
    obtain ⟨adapter, acks, turned⟩ := turn_turned rested reads bytes
    exact turned.carriedOut_iff rested before
  | pump ios | onTxComplete io | onDeadline io => exact iff_of_true ⟨before.honoured, before.rails⟩ trivial

end Loop

/-- In every run of the main loop the acknowledged requests are carried out throughout exactly when everything
that a packet asks for is of one kind. A readback may count as a request that has to be returned, or not. -/
theorem adapter_requests (readbacks : Bool) (ticksPerUs : UInt32) (rate : BaudRate) (beats : List Beat) :
    (∀ n, (run Loop.step (Loop.boot ticksPerUs rate) (beats.take n)).CarriedOut readbacks) ↔
      Meets Loop.step (Loop.OneKind readbacks) (Loop.boot ticksPerUs rate) beats := by
  have start : (Loop.boot ticksPerUs rate).CarriedOut readbacks := ⟨trivial, rfl⟩
  rw [run_invariant_iff Loop.step (Loop.OneKind readbacks) Loop.Rested (Loop.CarriedOut readbacks) Loop.step_rested
    (Loop.step_carriedOut readbacks) _ (Loop.boot_rested ticksPerUs rate), and_iff_right start]

theorem first_turn {recs : List (List UInt8)} (sized : Sized recs) (some : framed recs ≠ [])
    (fits : (framed recs).length ≤ rxCap) {desk : Desk}
    (served : (recs.map Piece.whole).foldl Desk.take ⟨{}, []⟩ = desk) :
    (run Loop.step (Loop.boot 48 .b1000000) [.turn still (framed recs)]).turns = [⟨desk.acks, desk.adapter.req⟩] := by
  have found : packet [] (framed recs) = (recs.map .whole, []) := by
    rw [packet_fits some (by simpa using fits)]
    exact pieces_framed sized
  refine (Loop.boot 48 .b1000000).step_turns still (framed recs) ?_
  exact (congrArg (fun found => found.1.foldl Desk.take ⟨{}, []⟩) found).trans served

/-- ENTER_BOOTLOADER and SET_RAILS in one packet: both are acknowledged, and the poll returns the second. -/
theorem packed_requests_lost :
    ¬ (run Loop.step (Loop.boot 48 .b1000000)
      [.turn still (framed [[recEnterBootloader], [recSetRails, 0, 3]])]).CarriedOut false ∧
    (run Loop.step (Loop.boot 48 .b1000000)
      [.turn still (framed [[recSetRails, 0, 3], [recEnterBootloader]])]).delivered ≠
    (run Loop.step (Loop.boot 48 .b1000000)
      [.turn still (framed [[recSetRails, 0, 3], [recEnterBootloader]])]).acknowledged := by
  have first := @first_turn [[recEnterBootloader], [recSetRails, 0, 3]] (by simp [Sized, rxCap]) (by decide)
    (by decide) _ rfl
  have second := @first_turn [[recSetRails, 0, 3], [recEnterBootloader]] (by simp [Sized, rxCap]) (by decide)
    (by decide) _ rfl
  constructor
  next =>
    intro carried
    have honoured := carried.honoured
    rw [Loop.marks, first] at honoured
    have both : Honoured AdapterRequest.service
      (batch [.enterBootloader, .setRails false false] (some (.setRails false false))) := honoured
    exact absurd ((honoured_batch _ _).mp both .enterBootloader (by decide)) (by decide)
  next =>
    rw [Loop.delivered, Loop.acknowledged, second]
    decide

end OpenServo.Link
