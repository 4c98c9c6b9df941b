import OpenServo.Bus.Moves
import OpenServo.Bus.Replies
import OpenServo.Shared.Run

set_option autoImplicit false

namespace OpenServo.Bus

open OpenServo.Core OpenServo.Protocol OpenServo.Shared

/-- Who owns the one staged frame: a chain with a live deadline, or a verdict that is still out. -/
structure Pipelined (chain : Chain) (tx : TxEngine) (pending : Option Pending)
    (chainAt : Option UInt32) : Prop where
  sequenced : chain.active = true → tx.staged = true ∧ chainAt.isSome = true
  owned : tx.staged = true → chain.active = true ∨ ∃ p, pending = some p ∧ p.staged = true
  awaited : ∀ p, pending = some p → chain.active = false ∧ p.staged = tx.staged
  ghosts : tx.ghostTriggers = 0

abbrev Pipeline (bus : ServoBus) : Prop :=
  Pipelined bus.chain bus.tx bus.pending bus.chainAt

structure Loaded (bus : ServoBus) : Prop where
  staged : bus.tx.staged = true
  pending : bus.pending = none
  ghosts : bus.tx.ghostTriggers = 0

section Chain

variable {bus : ServoBus} {wake : Wake}

theorem Pipelined.pending_none {chain : Chain} {tx : TxEngine} {pending : Option Pending}
    {chainAt : Option UInt32} (pipeline : Pipelined chain tx pending chainAt) (active : chain.active = true) :
    pending = none := by
  cases out : pending with
  | none => rfl
  | some p =>
    have idle := (pipeline.awaited p out).1
    rw [active] at idle
    cases idle

theorem Pipeline.loaded (pipeline : Pipeline bus) (active : bus.chain.active = true) : Loaded bus :=
  ⟨(pipeline.sequenced active).1, pipeline.pending_none active, pipeline.ghosts⟩

theorem pipelined_empty {chain : Chain} {tx : TxEngine} {pending : Option Pending}
    {chainAt : Option UInt32} (idle : chain.active = false) (empty : tx.staged = false)
    (unowned : ∀ p, pending = some p → p.staged = false) (ghosts : tx.ghostTriggers = 0) :
    Pipelined chain tx pending chainAt := by
  refine ⟨?_, ?_, ?_, ghosts⟩
  next => simp [idle]
  next => simp [empty]
  next =>
    intro p out
    exact ⟨idle, by rw [unowned p out, empty]⟩

def Routable (bus : ServoBus) : ChainOut → Prop
  | .none => Pipeline bus
  | .wait _ => bus.chain.active = true ∧ Loaded bus
  | .trigger _ => bus.chain.active = false ∧ Loaded bus

theorem routable_onDeadline (active : bus.chain.active = true) (loaded : Loaded bus) (now : UInt32) :
    Routable { bus with chain := (bus.chain.onDeadline now).1 } (bus.chain.onDeadline now).2 ∧
      (bus.chain.onDeadline now).1.remaining < bus.chain.remaining := by
  have same (chain : Chain) : Loaded { bus with chain := chain } :=
    ⟨loaded.staged, loaded.pending, loaded.ghosts⟩
  cases state : bus.chain.state with
  | idle => simp [Chain.active, state] at active
  | pending silent =>
    simp only [Chain.onDeadline, Chain.remaining, state]
    exact ⟨⟨rfl, same _⟩, Nat.zero_lt_one⟩
  | waiting remaining silent =>
    have down := Chain.countDown_toNat remaining
    simp only [Chain.onDeadline, Chain.remaining, state]
    by_cases last : Chain.countDown remaining = 0
    next =>
      rw [if_pos last]
      exact ⟨⟨rfl, same _⟩, Nat.succ_pos _⟩
    next =>
      rw [if_neg last]
      have positive : (Chain.countDown remaining).toNat ≠ 0 := by
        intro zero
        exact last (UInt8.toNat_inj.mp zero)
      exact ⟨⟨rfl, same _⟩, by simp only; omega⟩

theorem routeChainLoop_pipeline (fuel : Nat) (bus : ServoBus) (out : ChainOut)
    (enough : bus.chain.remaining < fuel) (routable : Routable bus out) :
    Pipeline (ServoBus.routeChainLoop wake fuel bus out) := by
  induction fuel generalizing bus out with
  | zero => omega
  | succ fuel ih =>
    cases out with
    | none => exact routable
    | trigger silent =>
      obtain ⟨idle, loaded⟩ := routable
      refine pipelined_empty idle (TxEngine.staged_trigger _ _ _) ?_ ?_
      next => simp [ServoBus.routeChainLoop, ServoBus.trigger, ServoBus.noteShot, loaded.pending]
      next => exact (TxEngine.ghostTriggers_trigger loaded.staged _ _).trans loaded.ghosts
    | wait tick =>
      obtain ⟨active, loaded⟩ := routable
      unfold ServoBus.routeChainLoop
      dsimp only
      split
      next =>
        refine ⟨fun _ => ⟨loaded.staged, rfl⟩, fun _ => .inl active, ?_, loaded.ghosts⟩
        intro p out
        cases loaded.pending.symm.trans out
      next =>
        have read : Loaded (bus.readNow wake).2 := ⟨loaded.staged, loaded.pending, loaded.ghosts⟩
        obtain ⟨next, fewer⟩ := @routable_onDeadline (bus.readNow wake).2 active read (bus.readNow wake).1
        exact ih _ _ (Nat.lt_of_lt_of_le fewer (Nat.lt_succ_iff.mp enough)) next

theorem routeChain_pipeline {out : ChainOut} (routable : Routable bus out) :
    Pipeline (bus.routeChain wake out) :=
  routeChainLoop_pipeline _ bus out (Nat.lt_succ_self _) routable

theorem sequenceReply_pipeline (loaded : Loaded bus) (slot : UInt8) (packetEnd : UInt32) :
    Pipeline (bus.sequenceReply wake slot packetEnd) := by
  have routable (bus : ServoBus) (loaded : Loaded bus) (gap : UInt32) :
      Routable
        { bus with
          chain := (Chain.onReplyStaged slot packetEnd gap bus.reclaim bus.frameAllowance).1
          asked := some ⟨bus.trace.spot, bus.framer.anchor, slot, bus.trace.owner⟩ }
        (Chain.onReplyStaged slot packetEnd gap bus.reclaim bus.frameAllowance).2 := by
    rw [Chain.onReplyStaged]
    split <;> exact ⟨rfl, loaded.staged, loaded.pending, loaded.ghosts⟩
  have read : Loaded (bus.replyDelay wake).2 := by
    obtain ⟨reads, -, same⟩ := bus.replyDelay_bus wake
    rw [same]
    exact ⟨loaded.staged, loaded.pending, loaded.ghosts⟩
  exact routeChain_pipeline (routable (bus.replyDelay wake).2 read (bus.replyDelay wake).1)

theorem dropStaged_pipeline (pending : bus.pending = none) (ghosts : bus.tx.ghostTriggers = 0) :
    Pipeline bus.dropStaged ∧ bus.dropStaged.tx.staged = false ∧ bus.dropStaged.chain.active = false := by
  have empty : bus.dropStaged.tx.staged = false := by
    simp only [ServoBus.dropStaged, ServoBus.stray]
    split
    next => exact TxEngine.staged_abort _
    next not => simpa using not
  have kept : bus.dropStaged.tx.ghostTriggers = 0 := by
    simp only [ServoBus.dropStaged, ServoBus.stray]
    split <;> simp [ghosts]
  refine ⟨pipelined_empty rfl empty ?_ kept, empty, rfl⟩
  intro p out
  cases pending.symm.trans out

end Chain

section Frames

variable {servo : Servo} {wake : Wake}

theorem sequence_pipeline {staged : Bool} (pending : servo.bus.pending = none)
    (idle : servo.bus.chain.active = false) (ghosts : servo.bus.tx.ghostTriggers = 0)
    (own : staged = servo.bus.tx.staged) (slot : UInt8) (packetEnd : UInt32) :
    Pipeline (servo.sequence wake staged slot packetEnd).bus := by
  unfold Servo.sequence
  split
  next both =>
    have here : servo.bus.tx.staged = true := by simpa [own] using both
    exact sequenceReply_pipeline ⟨here, pending, ghosts⟩ slot packetEnd
  next neither =>
    have empty : servo.bus.tx.staged = false := by simpa [own] using neither
    refine pipelined_empty idle empty ?_ ghosts
    intro p out
    cases pending.symm.trans out

theorem settled_pipeline {staged : Bool} (pending : servo.bus.pending = none)
    (idle : servo.bus.chain.active = false) (ghosts : servo.bus.tx.ghostTriggers = 0)
    (own : staged = servo.bus.tx.staged) (table : Bool) (slot : UInt8) (packetEnd : UInt32) :
    Pipeline ((servo.settleTable table).sequence wake staged slot packetEnd).bus := by
  obtain ⟨untouched, tx⟩ := servo.settleTable_spec table
  refine sequence_pipeline (untouched.pending.trans pending) ?_ (untouched.ghostTriggers.trans ghosts)
    ?_ slot packetEnd
  next => rw [untouched.chain, idle]
  next => rw [tx, own]

theorem verify_pipeline {p : Pending} (pending : servo.bus.pending = none)
    (idle : servo.bus.chain.active = false) (ghosts : servo.bus.tx.ghostTriggers = 0)
    (own : p.staged = servo.bus.tx.staged) : Pipeline (servo.verify wake p).bus := by
  have pass (servo : Servo) (pending : servo.bus.pending = none)
      (idle : servo.bus.chain.active = false) (ghosts : servo.bus.tx.ghostTriggers = 0)
      (own : p.staged = servo.bus.tx.staged) : Pipeline (servo.verdictPass wake p).bus :=
    @settled_pipeline (servo.accept wake p) wake _ pending idle ghosts own p.table p.slot p.packetEnd
  have fail (servo : Servo) (pending : servo.bus.pending = none)
      (ghosts : servo.bus.tx.ghostTriggers = 0) : Pipeline (servo.verdictFail wake p).bus :=
    (dropStaged_pipeline pending ghosts).1
  unfold Servo.verify
  dsimp only
  split
  next => exact pass (servo.rule wake p).1 pending idle ghosts own
  next => exact fail (servo.rule wake p).1 pending ghosts

theorem dispatched_bus {after : Servo} {anchor footprint : Nat} {staged : Bool} {slot : UInt8}
    {out : Dispatched} {origin : Origin} (empty : servo.bus.tx.staged = false)
    (dispatched : servo.dispatchDecoded wake anchor footprint = some (after, staged, slot, out, origin)) :
    after.bus.chain = servo.bus.chain ∧ after.bus.pending = servo.bus.pending ∧
      after.bus.chainAt = servo.bus.chainAt ∧
      after.bus.tx.ghostTriggers = servo.bus.tx.ghostTriggers ∧ staged = after.bus.tx.staged := by
  obtain ⟨req, mayReply, handle, dispatches⟩ := Servo.dispatchDecoded_cases dispatched
  have untouched := dispatches.untouched
  have own := dispatches.tx_staged empty
  have bus := dispatches.bus
  split at bus <;> rw [bus] <;> rw [bus] at own <;>
    exact ⟨untouched.chain, untouched.pending, untouched.chainAt, untouched.ghostTriggers, own.symm⟩

theorem routeSpine_pipeline (pipeline : Pipeline servo.bus) (idle : servo.bus.chain.active = false)
    (free : servo.bus.tx.busy = false) (span : FrameSpan) (complete : Bool)
    (taken : complete = true → servo.bus.pending = none) :
    Pipeline (servo.routeSpine wake span complete).bus := by
  have empty : servo.bus.tx.staged = false := by
    cases staged : servo.bus.tx.staged with
    | false => rfl
    | true => rw [TxEngine.staged_busy staged] at free; cases free
  unfold Servo.routeSpine
  dsimp only
  split
  next after staged slot out origin dispatched =>
    obtain ⟨chain, pending, chainAt, ghosts, own⟩ :=
      @dispatched_bus (servo.feed wake span) _ _ _ _ _ _ _ _ empty dispatched
    unfold Servo.await
    split
    next whole =>
      exact verify_pipeline (pending.trans (taken whole)) (by rw [chain]; exact idle)
        (ghosts.trans pipeline.ghosts) own
    next =>
      have quiet : after.bus.chain.active = false := by rw [chain]; exact idle
      refine ⟨?_, ?_, ?_, ghosts.trans pipeline.ghosts⟩
      next => simp [quiet]
      next => exact fun here => .inr ⟨_, rfl, own.trans here⟩
      next =>
        intro p out
        obtain rfl := Option.some.inj out
        exact ⟨quiet, own⟩
  next =>
    split
    next whole =>
      exact @verify_pipeline (servo.feed wake span) wake _ (taken whole) idle pipeline.ghosts empty.symm
    next => exact pipeline

theorem routeVerdictFirst_pipeline (pipeline : Pipeline servo.bus) (taken : servo.bus.pending = none)
    (span : FrameSpan) : Pipeline (servo.routeVerdictFirst wake span).bus := by
  have executes (servo : Servo) (pending : servo.bus.pending = none)
      (idle : servo.bus.chain.active = false) (empty : servo.bus.tx.staged = false)
      (ghosts : servo.bus.tx.ghostTriggers = 0) : Pipeline (servo.execute wake span).bus := by
    unfold Servo.execute
    split
    next =>
      refine pipelined_empty idle empty ?_ ghosts
      intro p out
      cases pending.symm.trans out
    next after staged slot out origin dispatched =>
      obtain ⟨chain, kept, -, same, own⟩ := dispatched_bus empty dispatched
      exact @settled_pipeline { after with bus := after.bus.noteFrame (some origin) origin.view } wake
        staged (kept.trans pending) (by rw [← idle]; exact congrArg Chain.active chain)
        (same.trans ghosts) own (out == .pending) slot span.packetEnd
  unfold Servo.routeVerdictFirst
  dsimp only
  split
  next =>
    have dropped := @dropStaged_pipeline ((servo.bus.readLag wake).2.accept wake.ring span.anchor
      span.footprint) taken pipeline.ghosts
    exact executes _ taken dropped.2.2 dropped.2.1 dropped.1.ghosts
  next => exact pipeline

theorem routeFrame_pipeline (pipeline : Pipeline servo.bus) (span : FrameSpan) (complete : Bool)
    (taken : complete = true → servo.bus.pending = none) :
    Pipeline (servo.routeFrame wake span complete).bus := by
  unfold Servo.routeFrame
  split
  next =>
    split
    next =>
      refine routeChain_pipeline ?_
      unfold Chain.onStatusEnd
      split
      next remaining silent state =>
        have active : servo.bus.chain.active = true := by simp [Chain.active, state]
        have loaded := pipeline.loaded active
        split <;> exact ⟨rfl, loaded.staged, loaded.pending, loaded.ghosts⟩
      next => exact pipeline
    next => exact pipeline
  next =>
    split
    next free =>
      simp only [Bool.and_eq_true, Bool.not_eq_true'] at free
      exact routeSpine_pipeline pipeline free.1.1 free.1.2 span complete taken
    next =>
      split
      next => exact pipeline
      next whole => exact routeVerdictFirst_pipeline pipeline (taken (by simpa using whole)) span

theorem onFrameEnd_pipeline (pipeline : Pipeline servo.bus) (span : FrameSpan) :
    Pipeline (servo.onFrameEnd wake span).bus := by
  unfold Servo.onFrameEnd
  dsimp only
  split
  next p out =>
    obtain ⟨idle, own⟩ := pipeline.awaited p out
    split
    next => exact verify_pipeline rfl idle pipeline.ghosts own
    next =>
      have dropped := @dropStaged_pipeline { servo.bus with pending := none } rfl pipeline.ghosts
      exact routeFrame_pipeline dropped.1 span true (fun _ => rfl)
  next out =>
    have taken : Pipeline { servo.bus with pending := none } := by
      refine ⟨pipeline.sequenced, ?_, by simp, pipeline.ghosts⟩
      intro staged
      rcases pipeline.owned staged with active | ⟨p, here, -⟩
      next => exact .inl active
      next => cases out.symm.trans here
    exact @routeFrame_pipeline { servo with bus := { servo.bus with pending := none } } wake taken span
      true (fun _ => rfl)

theorem yieldReply_pipeline {bus : ServoBus} (pipeline : Pipeline bus) :
    Pipeline (Servo.yieldReply bus wake) := by
  unfold Servo.yieldReply
  split
  next conditions =>
    have taken : bus.pending = none := by
      simp only [Bool.and_eq_true] at conditions
      exact Option.isNone_iff_eq_none.mp conditions.2
    dsimp only
    split
    next =>
      refine pipelined_empty rfl (TxEngine.staged_abort _) ?_ ?_
      next => intro p out; cases taken.symm.trans out
      next => exact (TxEngine.ghostTriggers_abort _).trans pipeline.ghosts
    next => exact pipeline
  next => exact pipeline

theorem chainDue_pipeline {bus : ServoBus} (pipeline : Pipeline bus) (now : UInt32) :
    Pipeline (Servo.chainDue bus wake now) := by
  refine routeChain_pipeline ?_
  cases active : bus.chain.active with
  | true =>
    have loaded := pipeline.loaded active
    exact (@routable_onDeadline { bus with chainAt := none } active
      ⟨loaded.staged, loaded.pending, loaded.ghosts⟩ now).1
  | false =>
    have idle : bus.chain.state = .idle := by
      simp only [Chain.active] at active
      split at active
      next state => exact state
      next => cases active
    have unmoved : bus.chain.onDeadline now = (bus.chain, .none) := by simp [Chain.onDeadline, idle]
    change Routable { bus with chainAt := none, chain := (bus.chain.onDeadline now).1 }
      (bus.chain.onDeadline now).2
    rw [unmoved]
    exact ⟨by simp [active], pipeline.owned, pipeline.awaited, pipeline.ghosts⟩

theorem onTxComplete_pipeline {bus : ServoBus} (pipeline : Pipeline bus) :
    Pipeline (bus.onTxComplete wake) := by
  obtain ⟨staged, ghosts⟩ := TxEngine.onArmComplete_spec bus.tx bus.crc (wake.lag bus.reads)
  have kept : Pipelined bus.chain (bus.tx.onArmComplete bus.crc (wake.lag bus.reads)).1 bus.pending
      bus.chainAt :=
    ⟨by rw [staged]; exact pipeline.sequenced, by rw [staged]; exact pipeline.owned,
      by rw [staged]; exact pipeline.awaited, ghosts.trans pipeline.ghosts⟩
  unfold ServoBus.onTxComplete
  dsimp only
  split
  next => exact kept
  next =>
    split <;> split <;> exact kept

theorem onRescueBreak_pipeline {bus : ServoBus} (pipeline : Pipeline bus) :
    Pipeline (bus.onRescueBreak wake) := by
  unfold ServoBus.onRescueBreak
  split
  next => exact pipeline
  next =>
    refine pipelined_empty rfl (TxEngine.staged_abort _) (by intro p out; cases out) ?_
    exact (TxEngine.ghostTriggers_abort _).trans pipeline.ghosts

theorem calBreak_pipeline {bus : ServoBus} (pipeline : Pipeline bus) (now : UInt32) :
    Pipeline (Servo.calBreak bus wake now) := by
  unfold Servo.calBreak
  dsimp only
  split <;> exact pipeline

theorem move_pipeline {after : Servo} (pipeline : Pipeline servo.bus) (move : Move wake servo after) :
    Pipeline after.bus := by
  cases move with
  | quiet bus quiet =>
    rw [quiet.rest]
    exact pipeline
  | look framerAt silent => exact pipeline
  | covered span endDue out =>
    exact @routeFrame_pipeline { servo.looked wake with bus := { (servo.looked wake).bus with
      framerAt := some endDue } } wake pipeline span false (by simp)
  | ended span out => exact @onFrameEnd_pipeline (servo.looked wake) wake pipeline span
  | yieldReply => exact yieldReply_pipeline pipeline
  | breakObserved now =>
    refine routeChain_pipeline ?_
    unfold Chain.onBreakObserved
    split
    next remaining silent state =>
      have active : servo.bus.chain.active = true := by simp [Chain.active, state]
      exact ⟨active, pipeline.loaded active⟩
    next => exact pipeline
  | chainDue now => exact chainDue_pipeline pipeline now
  | calBreak now active => exact calBreak_pipeline pipeline now
  | abandonCal => exact pipeline

end Frames

theorem run_pipeline (ticksPerUs : UInt32) (id : UInt8) (rate : BaudRate) (responseDeadlineUs : UInt16)
    (session : Session) (events : List BusEvent) :
    Pipeline (run busStep (servoBoot ticksPerUs id rate responseDeadlineUs session) events).bus := by
  apply run_invariant busStep (fun _ _ => True) (fun servo => Pipeline servo.bus)
  next =>
    intro servo event pipeline _
    exact @busStep_invariant (fun servo => Pipeline servo.bus) event
      (fun _ _ before move => move_pipeline before move) (fun _ before => onTxComplete_pipeline before)
      (fun _ before => onRescueBreak_pipeline before) servo pipeline
  next => exact pipelined_empty rfl rfl (by intro p out; cases out) rfl
  next => exact meets_trivial _ _ _

/-- `ghostTriggers` counts the triggers that found no staged frame. -/
theorem reply_pipeline (ticksPerUs : UInt32) (id : UInt8) (rate : BaudRate) (responseDeadlineUs : UInt16)
    (session : Session) (events : List BusEvent) :
    let bus := (run busStep (servoBoot ticksPerUs id rate responseDeadlineUs session) events).bus
    (bus.chain.active = true → bus.tx.staged = true ∧ bus.chainAt.isSome = true) ∧
      (bus.tx.staged = true →
        bus.chain.active = true ∨ ∃ p, bus.pending = some p ∧ p.staged = true) ∧
      bus.tx.ghostTriggers = 0 := by
  have pipeline := run_pipeline ticksPerUs id rate responseDeadlineUs session events
  exact ⟨pipeline.sequenced, pipeline.owned, pipeline.ghosts⟩

end OpenServo.Bus
