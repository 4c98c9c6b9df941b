import OpenServo.Motion.Kernel

set_option autoImplicit false

namespace OpenServo.Motion

namespace Kernel

variable (k : Kernel) (t : Tick) (scan : Scan) (run : Bool)

theorem gate_frame :
    k.gate t run =
      { k with
        fusion := (k.gate t run).fusion
        traj := (k.gate t run).traj
        cur := (k.gate t run).cur
        vel := (k.gate t run).vel
        iRefCc := (k.gate t run).iRefCc
        omegaRef := (k.gate t run).omegaRef
        hold := (k.gate t run).hold
        runPrev := run
        modePrev := t.life.mode } := by
  cases run <;> cases prev : k.runPrev <;> by_cases same : t.life.mode = k.modePrev <;>
    simp [gate, edge, prev, same]

theorem profile_frame :
    k.profile t run =
      { k with
        traj := (k.profile t run).traj
        omegaRef := (k.profile t run).omegaRef
        hold := (k.profile t run).hold } := by
  cases run with
  | false => rfl
  | true => cases mode : t.life.mode <;> simp [profile, mode]

theorem regulate_frame :
    k.regulate t run =
      { k with
        iRefCc := (k.regulate t run).iRefCc
        vel := (k.regulate t run).vel } := by
  cases run with
  | false => rfl
  | true =>
    cases mode : t.life.mode with
    | position => cases hold : k.hold <;> simp [regulate, mode, hold]
    | velocity => simp [regulate, mode]
    | current => simp [regulate, mode]
    | openLoop => simp [regulate, mode]

theorem closedLoop_iRefCc : (k.closedLoop t scan).1.iRefCc = k.iRefCc := by
  cases hold : k.hold with
  | true => simp [closedLoop, hold]
  | false => cases stuck : k.stuck scan <;> simp [closedLoop, hold, stuck]

theorem closedLoop_frame :
    (k.closedLoop t scan).1 =
      { k with
        iRefCc := (k.closedLoop t scan).1.iRefCc
        cur := (k.closedLoop t scan).1.cur
        dutyQ15 := (k.closedLoop t scan).1.dutyQ15
        decay := (k.closedLoop t scan).1.decay } := by
  cases hold : k.hold with
  | true => simp [closedLoop, hold]
  | false => cases stuck : k.stuck scan <;> simp [closedLoop, hold, stuck]

theorem command_frame :
    (k.command t scan run).1 =
      { k with
        iRefCc := (k.command t scan run).1.iRefCc
        cur := (k.command t scan run).1.cur
        dutyQ15 := (k.command t scan run).1.dutyQ15
        decay := (k.command t scan run).1.decay } := by
  by_cases gate : run = true ∧ k.faults.mask = 0
  next =>
    simp only [command, gate, decide_true, Bool.and_self, if_true]
    cases t.life.mode with
    | openLoop => rfl
    | current => exact closedLoop_frame { k with iRefCc := k.iBand.clamp t.life.goalCurrent.toInt } t scan
    | velocity => exact k.closedLoop_frame t scan
    | position => exact k.closedLoop_frame t scan
  next => simp [command, gate]

end Kernel

end OpenServo.Motion
