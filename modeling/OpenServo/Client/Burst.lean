import OpenServo.Host.Burst

set_option autoImplicit false

namespace OpenServo.Client

open OpenServo.Protocol OpenServo.Host

/-- Each frame behind its length. One that the length byte cannot carry is refused before anything is sent. -/
def wireBurst (frames : List (List UInt8)) : Option (List UInt8) :=
  frames.foldlM
    (fun stream frame =>
      if frame.isEmpty || 255 < frame.length then none else some (stream ++ [UInt8.ofNat frame.length] ++ frame))
    []

theorem frame_refused_iff (frame : List UInt8) :
    (frame.isEmpty || decide (255 < frame.length)) = true ↔ ¬ Framed frame := by
  rw [Framed, Bool.or_eq_true, List.isEmpty_iff, ← List.length_eq_zero_iff, decide_eq_true_eq]
  omega

theorem wireBurst_iff (frames : List (List UInt8)) (stream : List UInt8) :
    wireBurst frames = some stream ↔ (∀ frame ∈ frames, Framed frame) ∧ stream = burstStream frames := by
  suffices whole : ∀ built, frames.foldlM
      (fun stream frame =>
        if frame.isEmpty || 255 < frame.length then none else some (stream ++ [UInt8.ofNat frame.length] ++ frame))
      built = some stream ↔ (∀ frame ∈ frames, Framed frame) ∧ stream = built ++ burstStream frames from whole []
  induction frames with
  | nil =>
    intro built
    rw [show burstStream [] = [] from rfl, List.append_nil, List.foldlM_nil]
    exact ⟨fun same => ⟨nofun, (Option.some.inj same).symm⟩, fun both => congrArg some both.2.symm⟩
  | cons frame rest ih =>
    intro built
    rw [List.foldlM_cons, List.forall_mem_cons, burstStream_cons]
    by_cases framed : Framed frame
    next =>
      rw [if_neg fun bad => (frame_refused_iff frame).mp bad framed]
      refine (ih _).trans ?_
      simp [framed]
    next =>
      rw [if_pos ((frame_refused_iff frame).mpr framed)]
      exact iff_of_false nofun fun both => framed both.1.1

structure BurstLaw (bus : HostBus) : Prop where
  taken : ∀ stream, (bus.wireBurst stream).2 = .ok () ↔ ∃ frames, Fits frames ∧ stream = burstStream frames
  refused : ∀ stream, (bus.wireBurst stream).2 ≠ .ok () → (bus.wireBurst stream).1 = bus
  carried : ∀ frames after log, Fits frames → Bursting (bus.wireBurst (burstStream frames)).1 after log →
    Carried bus frames after log
  built : ∀ frames, Fits frames → ∃ stream, wireBurst frames = some stream ∧ (bus.wireBurst stream).2 = .ok () ∧
    ∀ others, Fits others → (stream = burstStream others ↔ others = frames)

/-- In every run: an engine with nothing out takes the streams of frames that fit and no others, sends their
frames one at each completion, gives the wire back once and has one end to report. -/
theorem burst_law {bus : HostBus} {log : List (Op × Answer)} (reached : Reached bus log) (ready : bus.ready = true) :
    BurstLaw bus where
  taken := Host.wireBurst_iff ready
  refused := Host.wireBurst_refused bus
  carried _ _ _ fits := burst_carried reached.staged ready fits
  built frames fits := by
    refine ⟨burstStream frames, (wireBurst_iff frames _).mpr ⟨fits.framed, rfl⟩,
      (Host.wireBurst_iff ready _).mpr ⟨frames, fits, rfl⟩, fun others more => ⟨fun same => ?_, fun same => same ▸ rfl⟩⟩
    exact (burstStream_inj fits.framed more.framed same).symm

/-- A burst of two frames, and then a train of two breaks behind its announce. -/
def earlierCalls : List (Op × Io) :=
  let still (tick : UInt32) : Io := ⟨fun _ => tick, [], ⟨List.replicate 64 0xFF, 0⟩⟩
  [(.wireBurst [2, 0xAA, 0xBB, 1, 0xCC], still 0), (.onTxComplete, still 10), (.onTxComplete, still 20), (.poll, still 30),
    (.wireTrain [0x55] 100 2, still 40), (.onTxComplete, still 50), (.onDeadline, still 5000), (.onDeadline, still 10000),
    (.onDeadline, still 15000), (.poll, still 16000)]

theorem burst_law_again : ∃ bus log, Reached bus log ∧ log.length = 10 ∧ BurstLaw bus := by
  have made : ((HostBus.new 48 .b1000000).calls earlierCalls).map (fun end_ => (end_.1.ready, end_.2.length)) =
      some (true, 10) := by
    decide +kernel
  obtain ⟨⟨bus, log⟩, ran, marks⟩ := Option.map_eq_some_iff.mp made
  obtain ⟨ready, count⟩ := Prod.mk.inj marks
  have reached := (Reached.new 48 .b1000000).calls ran
  exact ⟨bus, [] ++ log, reached, count, burst_law reached ready⟩

end OpenServo.Client
