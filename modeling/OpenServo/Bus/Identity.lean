import OpenServo.Bus.Deferral
import OpenServo.Bus.Inert
import OpenServo.Core.Hooks

set_option autoImplicit false

namespace OpenServo.Bus

open OpenServo.Core OpenServo.Protocol OpenServo.Shared

section Calls

variable {wake : Wake}

theorem aloof_stage (handle : ReplyHandle) (result : ResultCode) (alert : Bool) (spans : List (List UInt8)) :
    Aloof handle.bus (handle.stage result alert spans).bus := by
  rcases TxEngine.stageGather_cases handle.bus.tx handle.bus.crc handle.bus.id result alert spans with
    ⟨e, refused⟩ | ⟨idle, tx, engine, staged, -⟩
  next =>
    simp only [ReplyHandle.stage, refused]
    exact .refl _
  next =>
    simp only [ReplyHandle.stage, staged]
    refine .of_eq rfl rfl rfl rfl rfl rfl rfl fun busy => ?_
    rw [idle] at busy
    cases busy

theorem lawful_of_calls {P : ServoBus → Prop} (aloof : ∀ {before after}, P before → Aloof before after → P after)
    (calls : ∀ handle call, P handle.bus → P (ReplyHandle.call handle call).bus) :
    Lawful wake (fun servo => P servo.bus) := by
  have fold (calls : List Call) (handle : ReplyHandle) (before : P handle.bus) :
      P (calls.foldl ReplyHandle.call handle).bus := by
    induction calls generalizing handle with
    | nil => exact before
    | cons call rest ih => exact ih _ (calls handle call before)
  refine ⟨fun before still => aloof before still, fun before => before, ?_, fun before => fold _ _ before⟩
  intro servo after anchor footprint staged slot out origin before dispatched
  obtain ⟨req, mayReply, handle, dispatches⟩ := Servo.dispatchDecoded_cases dispatched
  have called : P handle.bus := by
    rw [dispatches.called]
    exact fold _ _ (aloof before (.of_eq rfl rfl rfl rfl rfl rfl rfl id))
  have bus := dispatches.bus
  split at bus <;> rw [bus]
  next => exact aloof called (.of_eq rfl rfl rfl rfl rfl rfl rfl id)
  next => exact called

end Calls

/-- Since the rate marks `base`: the rate is the rescue rate and none waits to replace it, or the baud register was
written. -/
def Sticky (base : List RateMark) (bus : ServoBus) : Prop :=
  ∃ more, bus.rates = base ++ more ∧
    ((∃ baud, .written baud ∈ more) ∨ bus.rate = .b500000 ∧ bus.uart = .b500000 ∧ bus.pendingBaud = none)

section Sticky

variable {base : List RateMark} {wake : Wake}

theorem Sticky.aloof {before after : ServoBus} (sticky : Sticky base before) (aloof : Aloof before after) :
    Sticky base after := by
  rw [Sticky, aloof.rates, aloof.rate, aloof.uart, aloof.pendingBaud]
  exact sticky

theorem Sticky.call (handle : ReplyHandle) (call : Call) (sticky : Sticky base handle.bus) :
    Sticky base (handle.call call).bus := by
  cases call with
  | sendStatus result alert data => exact sticky.aloof (aloof_stage handle result alert [data])
  | sendStatusGather result alert spans => exact sticky.aloof (aloof_stage handle result alert spans)
  | stageBaud baud =>
    obtain ⟨more, marks, -⟩ := sticky
    refine ⟨more ++ [.written baud], ?_, .inl ⟨baud, by simp⟩⟩
    simp only [ReplyHandle.call, ServoBus.stray, marks, List.append_assoc]
  | stageId | setId | setResponseDeadline | stageReboot | beginClockCal | save | wipe => exact sticky

theorem onTxComplete_cases (bus : ServoBus) :
    (Aloof bus (bus.onTxComplete wake)) ∨
      ((bus.onTxComplete wake).id = bus.pendingId.getD bus.id ∧
        (bus.onTxComplete wake).rate = bus.pendingBaud.getD bus.rate ∧
        (bus.onTxComplete wake).uart = bus.pendingBaud.getD bus.uart ∧
        (bus.onTxComplete wake).pendingId = none ∧ (bus.onTxComplete wake).pendingBaud = none ∧
        (bus.onTxComplete wake).rates = bus.rates ∧ (bus.onTxComplete wake).strays = bus.strays) := by
  unfold ServoBus.onTxComplete
  dsimp only
  split
  next armed =>
    exact .inl (.of_eq rfl rfl rfl rfl rfl rfl rfl fun _ => TxEngine.onArmComplete_busy armed)
  next =>
    right
    cases id : bus.pendingId <;> cases baud : bus.pendingBaud <;>
      simp [ServoBus.readLag, ServoBus.note, ServoBus.setRate, id, baud]

theorem Sticky.onTxComplete {bus : ServoBus} (sticky : Sticky base bus) : Sticky base (bus.onTxComplete wake) := by
  rcases onTxComplete_cases bus with aloof | ⟨-, rate, uart, -, pendingBaud, rates, -⟩
  next => exact sticky.aloof aloof
  next =>
    obtain ⟨more, marks, held⟩ := sticky
    refine ⟨more, rates.trans marks, held.imp id fun ⟨rescued, wire, waits⟩ => ?_⟩
    rw [waits] at rate uart
    exact ⟨rate.trans rescued, uart.trans wire, pendingBaud⟩

theorem Sticky.onRescueBreak {bus : ServoBus} (sticky : Sticky base bus) : Sticky base (bus.onRescueBreak wake) := by
  unfold ServoBus.onRescueBreak
  split
  next => exact sticky
  next =>
    obtain ⟨more, marks, held⟩ := sticky
    refine ⟨more ++ [.rescued], ?_, held.imp ?_ ?_⟩
    next => rw [← List.append_assoc, ← marks]; rfl
    next =>
      rintro ⟨baud, written⟩
      exact ⟨baud, List.mem_append_left _ written⟩
    next => exact fun old => ⟨rfl, rfl, old.2.2⟩

theorem Sticky.run {servo : Servo} (sticky : Sticky base servo.bus) (events : List BusEvent) :
    Sticky base (run busStep servo events).bus := by
  apply run_invariant busStep (fun _ _ => True) (fun servo => Sticky base servo.bus)
  next =>
    intro servo event sticky _
    have lawful : Lawful event.wake (fun servo => Sticky base servo.bus) := lawful_of_calls Sticky.aloof Sticky.call
    exact @busStep_invariant (fun servo => Sticky base servo.bus) event (fun _ _ before move => lawful.move before move)
      (fun _ before => before.onTxComplete) (fun _ before => before.onRescueBreak) servo sticky
  next => exact sticky
  next => exact meets_trivial _ _ _

end Sticky

/-- A rescue break that finds no reply on the wire and no rate change waiting drops what is in flight, and the rate it
sets stands until the baud register is written after it. -/
theorem rescue_sticky (ticksPerUs : UInt32) (id : UInt8) (rate : BaudRate) (responseDeadlineUs : UInt16)
    (session : Session) (early late : List BusEvent) (wake : Wake)
    (still : (run busStep (servoBoot ticksPerUs id rate responseDeadlineUs session) early).bus.tx.streaming = false)
    (clear : (run busStep (servoBoot ticksPerUs id rate responseDeadlineUs session) early).bus.pendingBaud = none) :
    let servo := run busStep (servoBoot ticksPerUs id rate responseDeadlineUs session) early
    let rescued := busStep servo (.rescueBreak wake)
    (rescued.bus.pending = none ∧ rescued.bus.tx.busy = false ∧
      rescued.bus.framer = servo.bus.framer.resync (wake.cursor servo.bus.reads)) ∧
      ∃ more, (run busStep rescued late).bus.rates = rescued.bus.rates ++ more ∧
        ((∃ baud, .written baud ∈ more) ∨
          (run busStep rescued late).bus.rate = .b500000 ∧ (run busStep rescued late).bus.uart = .b500000 ∧
            (run busStep rescued late).bus.pendingBaud = none) := by
  intro servo rescued
  have taken : rescued.bus.pending = none ∧ rescued.bus.tx.busy = false ∧
      rescued.bus.framer = servo.bus.framer.resync (wake.cursor servo.bus.reads) ∧
      rescued.bus.rate = .b500000 ∧ rescued.bus.uart = .b500000 ∧
      rescued.bus.pendingBaud = servo.bus.pendingBaud := by
    simp only [rescued, busStep, ServoBus.onRescueBreak]
    rw [if_neg (by simp [servo, still])]
    exact ⟨rfl, servo.bus.tx.abort_idle, rfl, rfl, rfl, rfl⟩
  obtain ⟨pending, busy, framer, rate, uart, waits⟩ := taken
  have sticky : Sticky rescued.bus.rates rescued.bus :=
    ⟨[], (List.append_nil _).symm, .inr ⟨rate, uart, waits.trans clear⟩⟩
  exact ⟨⟨pending, busy, framer⟩, sticky.run late⟩

def pingRing (first : List UInt8) : List UInt8 :=
  first ++ [0x00, 0x05, 0x03, 0x10, 0x11, 0x3D] ++ List.replicate (506 - first.length) 0x55

def pingRun (first : List UInt8) : List BusEvent :=
  let ring := pingRing first
  let cursor := first.length + 6
  .brk (steady ring cursor 40000) :: .deadline (steady ring cursor 40192) ::
    List.replicate 3 (.txComplete (steady ring cursor 40300))

theorem rescue_sticky_ping :
    (run busStep (busStep servoFive (.rescueBreak (steady (pingRing []) 0 20000))) (pingRun [])).bus.rate =
      .b500000 := by
  have marks : (run busStep (busStep servoFive (.rescueBreak (steady (pingRing []) 0 20000))) (pingRun [])).bus.rates =
      [.rescued] := by
    decide +kernel
  have booted : (busStep servoFive (.rescueBreak (steady (pingRing []) 0 20000))).bus.rates = [.rescued] := rfl
  rw [servoFive] at marks booted ⊢
  obtain ⟨-, more, rates, held⟩ := rescue_sticky 16 5 .b1000000 250 (boot (zeroStore _) []) [] (pingRun [])
    (steady (pingRing []) 0 20000) rfl rfl
  rw [run_nil, marks, booted, List.self_eq_append_right] at rates
  subst rates
  rcases held with ⟨baud, written⟩ | ⟨rate, -⟩
  next => cases written
  next => exact rate

def silentBaud : List UInt8 := [0x00, 0x05, 0x06, 0x34, 0x11, 0x00, 0x03, 0x96, 0x61]

/-- A rate written before the rescue, with no reply to leave behind, lands behind the first reply after it. -/
theorem stale_rate_lands :
    let wake := steady (pingRing silentBaud) 9 20000
    let servo := run busStep servoFive [.brk (steady (pingRing silentBaud) 9 0)]
    let rescued := busStep servo (.rescueBreak wake)
    servo.bus.tx.busy = false ∧ rescued.bus.rate = .b500000 ∧
      (run busStep rescued (pingRun silentBaud)).bus.rates = rescued.bus.rates ∧
      (run busStep rescued (pingRun silentBaud)).bus.rate = .b3000000 := by
  decide +kernel

def ServoBus.rescued (bus : ServoBus) : Bool :=
  bus.rates.getLast? == some .rescued

def ServoBus.nextId (bus : ServoBus) : UInt8 :=
  bus.pendingId.getD bus.id

def ServoBus.nextRate (bus : ServoBus) : BaudRate :=
  bus.pendingBaud.getD bus.rate

/-- The bus has, or is about to have, the identity the table gives it; what it is about to have leaves with the reply
in the engine. -/
structure Named (table : ControlTable) (bus : ServoBus) : Prop where
  backed : bus.strays = [] → bus.deferred = true → bus.tx.busy = true
  id : bus.strays = [] → idHook.read table = some bus.nextId
  rate : bus.rescued = false → ∀ baud, baudHook.read table = some baud → bus.nextRate = baud
  wire : bus.uart = bus.rate

section Named

variable {table : ControlTable} {wake : Wake}

theorem Named.aloof {before after : ServoBus} (named : Named table before) (aloof : Aloof before after) :
    Named table after := by
  refine ⟨?_, ?_, ?_, by rw [aloof.uart, aloof.rate, named.wire]⟩
  next =>
    intro straight deferred
    rw [aloof.deferred_eq] at deferred
    exact aloof.busy straight deferred (named.backed (aloof.strays straight) deferred)
  next =>
    intro straight
    rw [ServoBus.nextId, aloof.pendingId, aloof.id]
    exact named.id (aloof.strays straight)
  next =>
    rw [ServoBus.rescued, ServoBus.nextRate, aloof.rates, aloof.pendingBaud, aloof.rate]
    exact named.rate

structure Renames (calls : List Call) (before after : ServoBus) : Prop where
  strays : after.strays = [] → before.strays = []
  backed : after.strays = [] → (before.deferred = true → before.tx.busy = true) →
    after.deferred = true → after.tx.busy = true
  id : after.strays = [] → after.nextId = idHook.last calls before.nextId
  rate : after.nextRate = baudHook.last calls before.nextRate
  rescued : after.rescued = false → baudHook.Mute calls → before.rescued = false
  wire : before.uart = before.rate → after.uart = after.rate

theorem Aloof.renames {before after : ServoBus} (aloof : Aloof before after) {calls : List Call}
    (names : idHook.Mute calls) (rates : baudHook.Mute calls) : Renames calls before after := by
  refine ⟨aloof.strays, ?_, ?_, ?_, ?_, fun same => by rw [aloof.uart, same, aloof.rate]⟩
  next =>
    intro straight backed deferred
    rw [aloof.deferred_eq] at deferred
    exact aloof.busy straight deferred (backed deferred)
  next =>
    intro straight
    rw [Hook.last_of_mute names, ServoBus.nextId, aloof.pendingId, aloof.id, ServoBus.nextId]
  next => rw [Hook.last_of_mute rates, ServoBus.nextRate, aloof.pendingBaud, aloof.rate, ServoBus.nextRate]
  next =>
    rw [ServoBus.rescued, ServoBus.rescued, aloof.rates]
    exact fun standing _ => standing

theorem Renames.trans {calls more : List Call} {first second third : ServoBus} (early : Renames calls first second)
    (late : Renames more second third) : Renames (calls ++ more) first third := by
  refine ⟨fun straight => early.strays (late.strays straight), ?_, ?_, ?_, ?_, fun same => late.wire (early.wire same)⟩
  next =>
    intro straight backed
    exact late.backed straight (early.backed (late.strays straight) backed)
  next =>
    intro straight
    rw [late.id straight, early.id (late.strays straight), Hook.last, Hook.last, Hook.last, List.foldl_append]
  next => rw [late.rate, early.rate, Hook.last, Hook.last, Hook.last, List.foldl_append]
  next =>
    intro standing mute
    refine early.rescued (late.rescued standing ?_) ?_
    next => exact fun call member => mute call (List.mem_append_right _ member)
    next => exact fun call member => mute call (List.mem_append_left _ member)

theorem call_renames (handle : ReplyHandle) (call : Call) : Renames [call] handle.bus (handle.call call).bus := by
  have unmarked {lost : Bool} {how : Stray} {bus : ServoBus} (straight : (bus.stray lost how).strays = []) :
      bus.strays = [] ∧ lost = false := by
    obtain ⟨before, here⟩ := List.append_eq_nil_iff.mp straight
    cases lost with
    | true => cases here
    | false => exact ⟨before, rfl⟩
  have mute {V : Type} {hook : Hook V} (silent : hook.told call = none) : hook.Mute [call] :=
    List.forall_mem_singleton.mpr silent
  cases call with
  | sendStatus result alert data => exact (aloof_stage handle result alert [data]).renames (mute rfl) (mute rfl)
  | sendStatusGather result alert spans => exact (aloof_stage handle result alert spans).renames (mute rfl) (mute rfl)
  | setResponseDeadline | stageReboot | beginClockCal | save | wipe =>
    refine Aloof.renames ?_ (mute rfl) (mute rfl)
    exact .of_eq rfl rfl rfl rfl rfl rfl rfl id
  | stageId id =>
    refine ⟨fun straight => (unmarked straight).1, ?_, fun _ => rfl, rfl, fun standing _ => standing, fun same => same⟩
    intro straight _ _
    have busy : handle.bus.tx.busy = true := by simpa using (unmarked straight).2
    exact busy
  | setId newId =>
    refine ⟨fun straight => (unmarked straight).1, fun _ backed => backed, ?_, rfl, fun standing _ => standing,
      fun same => same⟩
    intro straight
    have none : handle.bus.pendingId = none := Option.not_isSome_iff_eq_none.mp
      (Bool.eq_false_iff.mp (unmarked straight).2)
    simp [ReplyHandle.call, ServoBus.stray, ServoBus.nextId, none, idHook, Hook.last]
  | stageBaud baud =>
    refine ⟨fun straight => (unmarked straight).1, ?_, fun _ => rfl, rfl, ?_, fun same => same⟩
    next =>
      intro straight _ _
      have busy : handle.bus.tx.busy = true := by simpa using (unmarked straight).2
      exact busy
    next =>
      intro _ silent
      exact absurd (silent _ List.mem_cons_self) (by simp [baudHook])

theorem foldl_call_renames (calls : List Call) (handle : ReplyHandle) :
    Renames calls handle.bus (calls.foldl ReplyHandle.call handle).bus := by
  induction calls generalizing handle with
  | nil => exact (Aloof.refl handle.bus).renames (by simp [Hook.Mute]) (by simp [Hook.Mute])
  | cons call rest ih => exact (call_renames handle call).trans (ih _)

theorem Named.renames {after : ControlTable} {calls : List Call} {bus told : ServoBus} (named : Named table bus)
    (renames : Renames calls bus told) (ids : idHook.Tells table after calls)
    (bauds : baudHook.Tells table after calls) : Named after told := by
  refine ⟨?_, ?_, ?_, renames.wire named.wire⟩
  next => exact fun straight => renames.backed straight (named.backed (renames.strays straight))
  next =>
    intro straight
    rw [renames.id straight]
    refine congrArg some (ids.last rfl ?_).symm
    intro _ was
    rw [named.id (renames.strays straight)] at was
    exact Option.some.inj was
  next =>
    intro standing baud now
    rw [renames.rate]
    exact bauds.last now fun mute was => named.rate (renames.rescued standing mute) baud was

theorem Named.onTxComplete {bus : ServoBus} (named : Named table bus) : Named table (bus.onTxComplete wake) := by
  rcases onTxComplete_cases bus with aloof | ⟨id, rate, uart, pendingId, pendingBaud, rates, strays⟩
  next => exact named.aloof aloof
  next =>
    refine ⟨?_, ?_, ?_, ?_⟩
    next =>
      intro _ deferred
      simp [ServoBus.deferred, pendingId, pendingBaud] at deferred
    next =>
      rw [strays, ServoBus.nextId, pendingId, id]
      exact named.id
    next =>
      rw [ServoBus.rescued, rates, ServoBus.nextRate, pendingBaud, rate]
      exact named.rate
    next => rw [uart, rate, named.wire]

theorem Named.onRescueBreak {bus : ServoBus} (named : Named table bus) : Named table (bus.onRescueBreak wake) := by
  unfold ServoBus.onRescueBreak
  split
  next => exact named
  next =>
    have unmarked {rest : ServoBus} (straight : (rest.stray (bus.tx.busy && bus.deferred) .dropped).strays = []) :
        rest.strays = [] ∧ (bus.tx.busy && bus.deferred) = false := by
      obtain ⟨before, here⟩ := List.append_eq_nil_iff.mp straight
      refine ⟨before, ?_⟩
      cases lost : (bus.tx.busy && bus.deferred) with
      | true => rw [lost] at here; cases here
      | false => rfl
    refine ⟨?_, ?_, ?_, rfl⟩
    next =>
      intro straight deferred
      have clear := unmarked straight
      have busy := named.backed clear.1 deferred
      rw [busy, show bus.deferred = true from deferred] at clear
      cases clear.2
    next => exact fun straight => named.id (unmarked straight).1
    next =>
      intro standing
      simp [ServoBus.rescued, ServoBus.armDeadline, ServoBus.readNow, ServoBus.note, ServoBus.stray] at standing

structure Governed (uid : List UInt8) (servo : Servo) : Prop where
  stages : ∃ m, Stages uid servo.session m
  named : Named servo.session.table servo.bus

theorem governed_lawful (uid : List UInt8) : Lawful wake (Governed uid) where
  aloof governed aloof := ⟨governed.stages, governed.named.aloof aloof⟩
  reverts governed := by
    obtain ⟨⟨m, stages⟩, named⟩ := governed
    have reverted := revert_eq _ ▸ stages.revertDangling
    rw [stages.table, ← reverted.table] at named
    exact ⟨⟨m, reverted⟩, named⟩
  dispatches := by
    intro servo after anchor footprint staged slot out origin governed dispatched
    obtain ⟨⟨m, stages⟩, named⟩ := governed
    obtain ⟨req, mayReply, handle, dispatches⟩ := Servo.dispatchDecoded_cases dispatched
    have dangling := frameStep_stages stages ⟨wake.store servo.bus.reads, req, mayReply, .dangling⟩
    have held : ∃ m, Stages uid after.session m := by
      rw [dispatches.session]
      exact ⟨_, dangling⟩
    refine ⟨held, ?_⟩
    have read : Named servo.session.table { servo.bus with reads := servo.bus.reads + 1 } :=
      named.aloof (.of_eq rfl rfl rfl rfl rfl rfl rfl id)
    have told : Named after.session.table handle.bus := by
      have renames := foldl_call_renames (dispatch servo.session (wake.store servo.bus.reads) req mayReply).2.1
        { bus := { servo.bus with reads := servo.bus.reads + 1 }, tolerant := Servo.tolerates req }
      rw [dispatches.session, dispatches.called]
      exact read.renames renames (idHook_sound.dispatch stages _ req mayReply)
        (baudHook_sound.dispatch stages _ req mayReply)
    have bus := dispatches.bus
    split at bus <;> rw [bus]
    next => exact told.aloof (.of_eq rfl rfl rfl rfl rfl rfl rfl id)
    next => exact told
  commits := by
    intro servo governed
    obtain ⟨⟨m, stages⟩, named⟩ := governed
    have renames := foldl_call_renames (commit servo.session).2 { bus := servo.bus }
    exact ⟨stages.commit, named.renames renames (idHook_sound.commit stages) (baudHook_sound.commit stages)⟩

theorem Governed.run {uid : List UInt8} {servo : Servo} (governed : Governed uid servo) (events : List BusEvent) :
    Governed uid (run busStep servo events) := by
  apply run_invariant busStep (fun _ _ => True) (Governed uid)
  next =>
    intro servo event governed _
    exact @busStep_invariant (Governed uid) event (fun _ _ before move => (governed_lawful uid).move before move)
      (fun _ before => ⟨before.stages, before.named.onTxComplete⟩)
      (fun _ before => ⟨before.stages, before.named.onRescueBreak⟩) servo governed
  next => exact governed
  next => exact meets_trivial _ _ _

end Named

def install (ticksPerUs : UInt32) (table : ControlTable) (uid : List UInt8) : Servo :=
  servoBoot ticksPerUs (peek table Addr.id)
    ((BaudRate.fromIdx (peek table Addr.baudRateIdx)).getD .b500000)
    (u16FromLe (peek table Addr.responseDeadlineUs) (peek table (Addr.responseDeadlineUs + 1)))
    (boot table uid)

theorem install_governed (ticksPerUs : UInt32) (table : ControlTable) (uid : List UInt8) :
    Governed uid (install ticksPerUs table uid) := by
  refine ⟨⟨⟨table, []⟩, rfl, rfl, by simp, rfl⟩, ⟨fun _ deferred => (by cases deferred), fun _ => rfl, ?_, rfl⟩⟩
  intro _ baud named
  have named : BaudRate.fromIdx (peek table Addr.baudRateIdx) = some baud := named
  simp [install, servoBoot, ServoBus.nextRate, named]

/-- In every run in which each change of id or rate finds a reply in the engine, no reply that one waits for is
dropped, and ASSIGN comes while none waits: a bus with no reply in the engine has the identity of the table. -/
theorem identity_follows_table (ticksPerUs : UInt32) (table : ControlTable) (uid : List UInt8)
    (events : List BusEvent)
    (straight : (run busStep (install ticksPerUs table uid) events).bus.strays = [])
    (idle : (run busStep (install ticksPerUs table uid) events).bus.tx.busy = false) :
    let servo := run busStep (install ticksPerUs table uid) events
    servo.bus.id = peek servo.session.table Addr.id ∧
      (servo.bus.rescued = false → ∀ baud,
        BaudRate.fromIdx (peek servo.session.table Addr.baudRateIdx) = some baud →
          servo.bus.rate = baud ∧ servo.bus.uart = baud) := by
  intro servo
  have named : Named servo.session.table servo.bus := ((install_governed ticksPerUs table uid).run events).named
  have settled : servo.bus.deferred = false := by
    rw [← Bool.not_eq_true]
    intro deferred
    rw [named.backed straight deferred] at idle
    cases idle
  simp only [ServoBus.deferred, Bool.or_eq_false_iff, Option.isSome_eq_false_iff, Option.isNone_iff_eq_none]
    at settled
  have id := named.id straight
  have rate := named.rate
  simp only [ServoBus.nextId, ServoBus.nextRate, settled.1, settled.2, Option.getD_none] at id rate
  refine ⟨(Option.some.inj id).symm, fun standing baud now => ?_⟩
  have same := rate standing baud now
  exact ⟨same, named.wire.trans same⟩

def fifthTable : ControlTable :=
  poke (zeroStore _) Addr.id [5, 1]

def aloneRing (frame : List UInt8) : List UInt8 :=
  frame ++ List.replicate (512 - frame.length) 0x55

def renameRun : List BusEvent :=
  let ring := aloneRing [0x00, 0x05, 0x06, 0x30, 0x10, 0x00, 0x07, 0xC7, 0x52]
  .brk (steady ring 9 0) :: .deadline (steady ring 9 192) :: List.replicate 3 (.txComplete (steady ring 9 300))

theorem identity_follows_table_renamed :
    (run busStep (install 16 fifthTable []) renameRun).bus.id = 7 := by
  have outcome : (run busStep (install 16 fifthTable []) renameRun).bus.strays = [] ∧
      (run busStep (install 16 fifthTable []) renameRun).bus.tx.busy = false ∧
      peek (run busStep (install 16 fifthTable []) renameRun).session.table Addr.id = 7 := by
    decide +kernel
  have follows := (identity_follows_table 16 fifthTable [] renameRun outcome.1 outcome.2.1).1
  exact follows.trans outcome.2.2

/-- The same WRITE without an ack: the table has the new id, the bus keeps the old one. -/
theorem silent_rename_waits :
    let ring := aloneRing [0x00, 0x05, 0x06, 0x34, 0x10, 0x00, 0x07, 0xC6, 0x62]
    let servo := run busStep (install 16 fifthTable []) [.brk (steady ring 9 0)]
    servo.bus.trace.rulings.map Ruling.passed = [true] ∧ servo.bus.tx.busy = false ∧ servo.bus.pending = none ∧
      peek servo.session.table Addr.id = 7 ∧ servo.bus.id = 5 := by
  decide +kernel

end OpenServo.Bus
