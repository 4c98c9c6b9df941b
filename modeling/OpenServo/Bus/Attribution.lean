import OpenServo.Bus.FrameView
import OpenServo.Bus.Moves
import OpenServo.Bus.Replies
import OpenServo.Core.Speculation
import OpenServo.Shared.Run

set_option autoImplicit false

namespace OpenServo.Bus

open OpenServo.Core OpenServo.Protocol OpenServo.Shared

structure Config where
  id : UInt8
  responseDeadlineUs : UInt16
  pendingId : Option UInt8
  pendingBaud : Option BaudRate
  pendingReboot : Option BootMode
  pendingCal : Option (UInt16 × UInt8)
deriving DecidableEq

def Config.call (config : Config) : Call → Config
  | .stageId id => { config with pendingId := some id }
  | .setId id => { config with id := id }
  | .stageBaud baud => { config with pendingBaud := some baud }
  | .setResponseDeadline us => { config with responseDeadlineUs := us }
  | .stageReboot mode => { config with pendingReboot := some mode }
  | .beginClockCal gapUs gaps => { config with pendingCal := some (gapUs, gaps) }
  | _ => config

def ServoBus.config (bus : ServoBus) : Config :=
  ⟨bus.id, bus.responseDeadlineUs, bus.pendingId, bus.pendingBaud, bus.pendingReboot, bus.clock.pendingCal⟩

/-- Everything a frame may change: the live table and the held writes, the configuration, and the rate, as the bus and
as its USART have it. -/
structure Standing where
  machine : Machine
  config : Config
  rate : BaudRate
  uart : BaudRate

def Servo.standing (servo : Servo) : Standing :=
  ⟨abstraction servo.session, servo.bus.config, servo.bus.rate, servo.bus.uart⟩

/-- What running one frame comes to: its request is carried out on the table and the configuration. -/
def Standing.frame (uid : List UInt8) (standing : Standing) (origin : Origin) : Standing :=
  match decode origin.view origin.id with
  | .own req mayReply _ =>
    let (s, calls) := carriedOut (clean uid standing.machine) origin.store req mayReply
    { standing with machine := abstraction s, config := calls.foldl Config.call standing.config }
  | _ => standing

def Standing.setRate (standing : Standing) (rate : BaudRate) : Standing :=
  { standing with rate := rate, uart := rate }

def Standing.release (standing : Standing) : Standing :=
  let config := { standing.config with id := standing.config.pendingId.getD standing.config.id, pendingId := none }
  match config.pendingBaud with
  | some baud => { standing with config := { config with pendingBaud := none } }.setRate baud
  | none => { standing with config := config }

def Standing.apply (uid : List UInt8) (standing : Standing) : Effect → Standing
  | .frame origin _ => standing.frame uid origin
  | .released => standing.release
  | .rescue => standing.setRate .b500000
  | .calStarted | .calAbandoned =>
    { standing with config := { standing.config with pendingCal := none } }

/-- A verdict is fresh when the ring still holds what was dispatched, and the engine its sum. -/
def Ruling.Fresh (ruling : Ruling) : Prop :=
  ∀ origin, ruling.origin = some origin →
    coveredOf ruling.view = coveredOf origin.view ∧ ruling.sum = origin.sum

instance (ruling : Ruling) : Decidable ruling.Fresh :=
  decidable_of_iff
    (∀ origin ∈ ruling.origin.toList,
      coveredOf ruling.view = coveredOf origin.view ∧ ruling.sum = origin.sum)
    (by simp [Ruling.Fresh])

def Trace.AllFresh (trace : Trace) : Prop :=
  ∀ ruling ∈ trace.rulings, ruling.Fresh

instance (trace : Trace) : Decidable trace.AllFresh :=
  inferInstanceAs (Decidable (∀ _ ∈ _, _))

def Trace.Verified (trace : Trace) (owner : Option FrameBytes) : Prop :=
  ∃ origin view, owner = some origin.view ∧ Effect.frame origin view ∈ trace.effects

/-- A request that was dispatched ahead of its verdict, and what became of it so far. -/
structure Speculated (uid : List UInt8) (session : Session) (owner : Option FrameBytes) (p : Pending)
    (origin : Origin) (req : Request) (mayReply : Bool) (slot : UInt8) : Prop where
  recorded : p.origin = some origin
  sum : origin.sum = bulkSum p.anchor (coveredOf origin.view)
  decoded : decode origin.view origin.id = .own req mayReply slot
  speculates : speculative req = true
  dispatched : session = (dispatch (clean uid (abstraction session)) origin.store req mayReply).1
  table : p.table =
    ((dispatch (clean uid (abstraction session)) origin.store req mayReply).2.2 == .pending)
  owner : p.staged = true → owner = some origin.view

structure Attributed (uid : List UInt8) (len : Nat) (start : Standing) (servo : Servo) : Prop where
  stages : Stages uid servo.session (abstraction servo.session)
  standing : servo.standing = servo.bus.trace.effects.foldl (Standing.apply uid) start
  verified : ∀ origin view, Effect.frame origin view ∈ servo.bus.trace.effects →
    CrcHolds view ∧ coveredOf view = coveredOf origin.view
  awaited : ∀ p, servo.bus.pending = some p →
    ∃ origin req mayReply slot,
      Speculated uid servo.session servo.bus.trace.owner p origin req mayReply slot
  backed : servo.bus.chain.active = true → servo.bus.trace.Verified servo.bus.trace.owner
  started : ∀ owner ∈ servo.bus.trace.started, servo.bus.trace.Verified owner
  logged : servo.bus.tx.wire.count .startFrame = servo.bus.trace.started.length
  anchored : servo.bus.framer.anchor < len

theorem foldl_call_config (calls : List Call) (handle : ReplyHandle) :
    (calls.foldl ReplyHandle.call handle).bus.config = calls.foldl Config.call handle.bus.config := by
  have stage (handle : ReplyHandle) (result : ResultCode) (alert : Bool) (spans : List (List UInt8)) :
      (handle.stage result alert spans).bus.config = handle.bus.config := by
    unfold ReplyHandle.stage
    dsimp only
    split <;> rfl
  induction calls generalizing handle with
  | nil => rfl
  | cons call calls ih =>
    rw [List.foldl_cons, List.foldl_cons, ih]
    congr 1
    cases call with
    | sendStatus result alert data => exact stage handle result alert [data]
    | sendStatusGather result alert spans => exact stage handle result alert spans
    | stageId | setId | stageBaud | setResponseDeadline | stageReboot | beginClockCal => rfl
    | save | wipe => rfl

theorem foldl_config_sends (calls : List Call) (config : Config)
    (only : ∀ call ∈ calls, sends call = true) : calls.foldl Config.call config = config := by
  induction calls generalizing config with
  | nil => rfl
  | cons call calls ih =>
    have sent := only call List.mem_cons_self
    have unchanged : config.call call = config := by
      cases call <;> first | rfl | cases sent
    rw [List.foldl_cons, unchanged]
    exact ih config (fun c member => only c (List.mem_cons_of_mem call member))

theorem speculative_sends {session : Session} {store : Option StoreAnswer} {req : Request}
    {mayReply : Bool} (speculates : speculative req = true) :
    ∀ call ∈ (dispatch session store req mayReply).2.1, sends call = true := by
  have acks (alert : Bool) (code : ResultCode) : ∀ call ∈ ackCode alert mayReply code, sends call = true := by
    intro call member
    simp only [ackCode] at member
    split at member
    next => rw [List.mem_singleton.mp member]; rfl
    next => cases member
  have one (result : ResultCode) (alert : Bool) (data : List UInt8) :
      ∀ call ∈ [Call.sendStatus result alert data], sends call = true := by
    intro call member
    rw [List.mem_singleton.mp member]
    rfl
  cases req with
  | ping =>
    simp only [dispatch, ping]
    split
    next => exact one _ _ _
    next => simp
  | read addr count =>
    simp only [dispatch, Core.read]
    split
    next => simp
    next =>
      split
      next => exact one _ _ _
      next =>
        split
        next => exact one _ _ _
        next => split <;> exact one _ _ _
  | readProfile slot =>
    simp only [dispatch, readProfile]
    split
    next => simp
    next =>
      split
      next => exact one _ _ _
      next =>
        split
        next => exact one _ _ _
        next =>
          split
          next => exact one _ _ _
          next =>
            split
            next => exact one _ _ _
            next => simp [sends]
  | write addr data hold =>
    simp only [dispatch, write]
    split <;> exact acks _ _
  | unsupported => exact acks _ _
  | commit | enumerate | assign | calibrate | mgmt => cases speculates

/-- Changes that leave the standing and the verdict that is out alone: a reply may go on the wire if its chain was
active, and its chain may end. -/
structure Carried (len : Nat) (before after : ServoBus) : Prop where
  config : after.config = before.config
  rate : after.rate = before.rate
  uart : after.uart = before.uart
  effects : after.trace.effects = before.trace.effects
  owner : after.trace.owner = before.trace.owner
  pending : after.pending = before.pending ∨ after.pending = none
  active : after.chain.active = true → before.chain.active = true
  started : ∀ owner ∈ after.trace.started,
    owner ∈ before.trace.started ∨ before.chain.active = true ∧ owner = before.trace.owner
  logged : after.tx.wire.count .startFrame + before.trace.started.length =
    before.tx.wire.count .startFrame + after.trace.started.length
  anchored : before.framer.anchor < len → after.framer.anchor < len

section Carried

variable {len : Nat} {first second third bus : ServoBus} {wake : Wake}

theorem Carried.refl (bus : ServoBus) : Carried len bus bus :=
  ⟨rfl, rfl, rfl, rfl, rfl, .inl rfl, id, fun _ => .inl, rfl, id⟩

theorem Carried.trans (before : Carried len first second) (after : Carried len second third) :
    Carried len first third := by
  refine ⟨after.config.trans before.config, after.rate.trans before.rate, after.uart.trans before.uart,
    after.effects.trans before.effects,
    after.owner.trans before.owner, ?_, fun active => before.active (after.active active), ?_, ?_,
    fun inside => after.anchored (before.anchored inside)⟩
  next =>
    rcases after.pending with kept | taken
    next => rw [kept]; exact before.pending
    next => exact .inr taken
  next =>
    intro owner member
    rcases after.started owner member with old | ⟨active, rfl⟩
    next => exact before.started owner old
    next => exact .inr ⟨before.active active, before.owner⟩
  next =>
    have left := before.logged
    have right := after.logged
    omega

theorem trigger_logged (tx : TxEngine) (crc : CrcEngine) (override : Option ResultCode) :
    (tx.trigger crc override).1.wire.count .startFrame =
      tx.wire.count .startFrame + if tx.staged then 1 else 0 := by
  cases state : tx.state with
  | staged key => simp [TxEngine.trigger, TxEngine.staged, state]
  | idle | streaming => simp [TxEngine.trigger, TxEngine.staged, state]

theorem abort_logged (tx : TxEngine) :
    tx.abort.wire.count .startFrame = tx.wire.count .startFrame := by
  simp only [TxEngine.abort]
  split <;> simp

theorem trigger_carried (carried : Carried len first bus) (licensed : first.chain.active = true)
    (override : Option ResultCode) : Carried len first (bus.trigger override) := by
  refine ⟨carried.config, carried.rate, carried.uart, carried.effects, carried.owner,
    carried.pending, carried.active, ?_, ?_, carried.anchored⟩
  next =>
    intro owner member
    simp only [ServoBus.trigger] at member
    split at member
    next =>
      rcases List.mem_append.mp member with old | new
      next => exact carried.started owner old
      next =>
        rw [List.mem_singleton.mp new, carried.owner]
        exact .inr ⟨licensed, rfl⟩
    next => exact carried.started owner member
  next =>
    have logged := carried.logged
    have fired := trigger_logged bus.tx bus.crc override
    simp only [ServoBus.trigger]
    split
    next staged =>
      rw [if_pos staged] at fired
      simp only [List.length_append, List.length_singleton]
      omega
    next absent =>
      rw [if_neg absent] at fired
      omega

theorem onDeadline_active (chain : Chain) (now : UInt32)
    (active : (chain.onDeadline now).1.active = true) : chain.active = true := by
  cases state : chain.state with
  | idle => simp [Chain.onDeadline, state, Chain.active] at active
  | pending | waiting => simp [Chain.active, state]

theorem onDeadline_licensed (chain : Chain) (now : UInt32) (out : (chain.onDeadline now).2 ≠ .none) :
    chain.active = true := by
  cases state : chain.state with
  | idle => simp [Chain.onDeadline, state] at out
  | pending | waiting => simp [Chain.active, state]

theorem Carried.chain (carried : Carried len first bus) {chain : Chain}
    (active : chain.active = true → bus.chain.active = true) :
    Carried len first { bus with chain := chain } :=
  ⟨carried.config, carried.rate, carried.uart, carried.effects, carried.owner,
    carried.pending, fun now => carried.active (active now), carried.started, carried.logged,
    carried.anchored⟩

theorem Carried.read (carried : Carried len first bus) (reads : Nat) :
    Carried len first { bus with reads := reads } :=
  ⟨carried.config, carried.rate, carried.uart, carried.effects, carried.owner,
    carried.pending, carried.active, carried.started, carried.logged, carried.anchored⟩

theorem routeChain_carried {out : ChainOut} (carried : Carried len first bus)
    (licensed : out ≠ .none → first.chain.active = true) :
    Carried len first (bus.routeChain wake out) := by
  by_cases silent : out = .none
  next =>
    subst silent
    exact carried
  next =>
    refine routeChain_keeps ?_ ?_ ?_ carried out
    next =>
      intro bus tick carried
      have read := carried.read (bus.reads + 1)
      exact ⟨read.config, read.rate, read.uart, read.effects, read.owner, read.pending,
        read.active, read.started, read.logged, read.anchored⟩
    next =>
      intro bus now carried
      exact (carried.read (bus.reads + 1)).chain (onDeadline_active _ _)
    next =>
      intro bus override carried
      refine trigger_carried ?_ (licensed silent) override
      exact ⟨carried.config, carried.rate, carried.uart, carried.effects, carried.owner, carried.pending,
        carried.active, carried.started, carried.logged, carried.anchored⟩

theorem dropStaged_carried (bus : ServoBus) : Carried len bus bus.dropStaged := by
  refine ⟨rfl, rfl, rfl, rfl, rfl, .inl rfl, fun active => (by cases active), fun _ => .inl, ?_, id⟩
  simp only [ServoBus.dropStaged, ServoBus.stray]
  split
  next => rw [abort_logged]
  next => rfl

theorem reject_carried (shape : RingShape len) {ring : List UInt8} (length : ring.length = len)
    (bus : ServoBus) (anchor : Nat) : Carried len bus (bus.reject ring anchor) := by
  refine ⟨rfl, rfl, rfl, rfl, rfl, .inl rfl, id, fun _ => .inl, rfl, fun _ => ?_⟩
  change ringWrap (anchor + 1) ring.length % 65536 < len
  rw [length, shape.wrap_eq]
  exact Nat.lt_of_le_of_lt (Nat.mod_le _ _) (Nat.mod_lt _ (pow_pos shape.pow))

@[simp] theorem pendingCal_driftShape (clock : ClockTracker) (ring : List UInt8) (anchor footprint : Nat) :
    (ServoBus.driftShape clock ring anchor footprint).pendingCal = clock.pendingCal := by
  simp only [ServoBus.driftShape]
  split
  next => rfl
  next => split <;> rfl

theorem accept_carried (bus : ServoBus) (ring : List UInt8) (anchor footprint : Nat) :
    Carried len bus (bus.accept ring anchor footprint) := by
  refine ⟨?_, rfl, rfl, rfl, rfl, .inl rfl, id, fun _ => .inl, rfl, id⟩
  simp [ServoBus.config, ServoBus.accept, ServoBus.driftNoteVerified]

theorem Quiet.carried {before after : ServoBus} (quiet : Quiet before after) :
    Carried len before after := by
  have anchor : after.framer.anchor = before.framer.anchor := by rw [quiet.framer]
  have cal := quiet.clock
  rw [quiet.rest]
  refine ⟨?_, rfl, rfl, rfl, rfl, .inl rfl, id, fun _ => .inl, rfl, fun inside => ?_⟩
  next => simp [ServoBus.config, cal]
  next => exact anchor ▸ inside

theorem yieldReply_carried (bus : ServoBus) : Carried len bus (Servo.yieldReply bus wake) := by
  unfold Servo.yieldReply
  split
  next =>
    dsimp only
    split
    next =>
      refine ⟨rfl, rfl, rfl, rfl, rfl, .inl rfl, fun active => (by cases active), fun _ => .inl, ?_, id⟩
      exact congrArg (· + bus.trace.started.length) (abort_logged bus.tx)
    next => exact (Carried.refl bus).read _
  next => exact .refl bus

theorem chainDue_carried (bus : ServoBus) (now : UInt32) :
    Carried len bus (Servo.chainDue bus wake now) := by
  refine routeChain_carried ?_ (onDeadline_licensed bus.chain now)
  exact ⟨rfl, rfl, rfl, rfl, rfl, .inl rfl, onDeadline_active bus.chain now, fun _ => .inl, rfl, id⟩

theorem breakObserved_carried (bus : ServoBus) (now : UInt32) :
    Carried len bus (bus.routeChain wake (bus.chain.onBreakObserved now)) := by
  refine routeChain_carried (.refl bus) (fun out => ?_)
  unfold Chain.onBreakObserved at out
  split at out
  next remaining silent state => simp [Chain.active, state]
  next => exact absurd rfl out

theorem onStatusEnd_carried (bus : ServoBus) (packetEnd : UInt32) :
    Carried len bus
      ({ bus with chain := (bus.chain.onStatusEnd packetEnd).1 }.routeChain wake
        (bus.chain.onStatusEnd packetEnd).2) := by
  cases state : bus.chain.state with
  | waiting remaining silent =>
    have active : bus.chain.active = true := by simp [Chain.active, state]
    exact routeChain_carried ((Carried.refl bus).chain (fun _ => active)) (fun _ => active)
  | idle | pending =>
    have unmoved : bus.chain.onStatusEnd packetEnd = (bus.chain, .none) := by
      simp [Chain.onStatusEnd, state]
    rw [unmoved]
    exact routeChain_carried (.refl bus) (fun out => absurd rfl out)

end Carried

section Keep

variable {uid : List UInt8} {len : Nat} {start : Standing} {servo : Servo} {wake : Wake}

theorem Attributed.rebus (attributed : Attributed uid len start servo) {bus : ServoBus}
    (more : List Effect)
    (standing : Servo.standing ⟨bus, servo.session⟩ = more.foldl (Standing.apply uid) servo.standing)
    (effects : bus.trace.effects = servo.bus.trace.effects ++ more)
    (frameless : ∀ origin view, Effect.frame origin view ∉ more)
    (pending : bus.pending = servo.bus.pending ∨ bus.pending = none)
    (owner : bus.trace.owner = servo.bus.trace.owner)
    (backed : bus.chain.active = true → bus.trace.Verified bus.trace.owner)
    (started : ∀ owner ∈ bus.trace.started, bus.trace.Verified owner)
    (logged : bus.tx.wire.count .startFrame = bus.trace.started.length)
    (anchored : bus.framer.anchor < len) : Attributed uid len start ⟨bus, servo.session⟩ := by
  refine ⟨attributed.stages, ?_, ?_, ?_, backed, started, logged, anchored⟩
  next =>
    rw [standing, effects, List.foldl_append, attributed.standing]
  next =>
    intro origin view member
    change Effect.frame origin view ∈ bus.trace.effects at member
    rw [effects] at member
    rcases List.mem_append.mp member with old | new
    next => exact attributed.verified origin view old
    next => exact absurd new (frameless origin view)
  next =>
    intro p out
    rcases pending with kept | taken
    next =>
      obtain ⟨origin, req, mayReply, slot, speculated⟩ := attributed.awaited p (kept ▸ out)
      exact ⟨origin, req, mayReply, slot, owner ▸ speculated⟩
    next => cases taken.symm.trans out

theorem Trace.Verified.mono {before after : Trace} {owner : Option FrameBytes} {more : List Effect}
    (verified : before.Verified owner) (effects : after.effects = before.effects ++ more) :
    after.Verified owner := by
  obtain ⟨origin, view, same, member⟩ := verified
  exact ⟨origin, view, same, effects ▸ List.mem_append_left more member⟩

theorem Carried.attributed {bus : ServoBus} (carried : Carried len servo.bus bus)
    (attributed : Attributed uid len start servo) : Attributed uid len start ⟨bus, servo.session⟩ := by
  have effects : bus.trace.effects = servo.bus.trace.effects ++ [] := by
    rw [carried.effects, List.append_nil]
  refine attributed.rebus [] ?_ effects (by simp) carried.pending carried.owner ?_ ?_ ?_
    (carried.anchored attributed.anchored)
  next => simp [Servo.standing, carried.config, carried.rate, carried.uart]
  next =>
    intro active
    rw [carried.owner]
    exact (attributed.backed (carried.active active)).mono effects
  next =>
    intro owner member
    rcases carried.started owner member with old | ⟨active, rfl⟩
    next => exact (attributed.started owner old).mono effects
    next => exact (attributed.backed active).mono effects
  next =>
    have logged := carried.logged
    have before := attributed.logged
    omega

end Keep

end OpenServo.Bus
