import OpenServo.Core.StagedRefinement

set_option autoImplicit false

namespace OpenServo.Core

open OpenServo.Protocol OpenServo.Shared OpenServo.Table

/-- The requests a bus may dispatch before it knows the verdict: all they do is answer and stage. -/
def speculative : Request → Bool
  | .ping | .read .. | .readProfile .. | .write .. | .unsupported => true
  | _ => false

def clean (uid : List UInt8) (m : Machine) : Session :=
  { table := m.table, staged := StagedWrites.ofWrites m.held, uid := uid }

theorem revertDangling_pending (s : Session) : s.revertDangling.pending = none := by
  simp only [Session.revertDangling]
  split
  next => rfl
  next absent => exact absent

section Stages

variable {uid : List UInt8} {s : Session} {m : Machine}

theorem Stages.abstraction_eq (stages : Stages uid s m) : abstraction s = m := by
  rw [abstraction, stages.table, stages.held_eq]

theorem Stages.cleaned (stages : Stages uid s m) : Stages uid (clean uid m) m :=
  ⟨rfl, rfl, stages.lands, rfl⟩

theorem Stages.dispatch_eq (stages : Stages uid s m) (store : Option StoreAnswer) (req : Request)
    (mayReply : Bool) : dispatch s store req mayReply = dispatch (clean uid m) store req mayReply := by
  have same : s.revertDangling = (clean uid m).revertDangling := by
    rw [stages.revertDangling_eq]
    simp [clean, Session.revertDangling, stages.uid, stages.table]
  simp only [dispatch, same]

end Stages

theorem write_pending {s : Session} (idle : s.pending = none) (mayReply : Bool) (addr : Nat)
    (data : FrameBytes) (hold : Bool) :
    (write s mayReply addr data hold).1.pending.isSome =
      ((write s mayReply addr data hold).2.2 == .pending) := by
  simp only [write]
  split <;> simp [idle]

theorem dispatch_pending (s : Session) (store : Option StoreAnswer) (req : Request) (mayReply : Bool) :
    (dispatch s store req mayReply).1.pending.isSome =
      ((dispatch s store req mayReply).2.2 == .pending) := by
  have idle := revertDangling_pending s
  cases req with
  | ping | read | readProfile | enumerate | calibrate | unsupported => simp [dispatch, idle]
  | write addr data hold => exact write_pending idle mayReply addr data hold
  | commit => simp [dispatch, applyCommit, idle]
  | assign target newId =>
    simp only [dispatch, assign_table]
    split <;> simp [idle]
  | mgmt op args =>
    simp only [dispatch]
    by_cases other : op = .save
    next =>
      subst other
      simp only [mgmt, save_table]
      split <;> simp [idle]
    next => simp [mgmt_session _ store mayReply op other, idle]

/-- What a dispatch and the verdict on it come to, when the frame was good. -/
def carriedOut (s : Session) (store : Option StoreAnswer) (req : Request) (mayReply : Bool) :
    Session × List Call :=
  let (s, calls, out) := dispatch s store req mayReply
  let (s, more) := if out == .pending then commit s else (s, [])
  (s, calls ++ more)

theorem carriedOut_session (s : Session) (store : Option StoreAnswer) (req : Request) (mayReply : Bool) :
    (carriedOut s store req mayReply).1 = frameStep s ⟨store, req, mayReply, .pass⟩ := by
  have pending := dispatch_pending s store req mayReply
  simp only [carriedOut, frameStep, settle]
  split
  next => rfl
  next done =>
    have idle : (dispatch s store req mayReply).1.pending = none := by
      rw [← Option.not_isSome_iff_eq_none, pending]
      exact done
    simp [commit, idle]

section Run

variable {uid : List UInt8} {s : Session} {m : Machine}

theorem Stages.carriedOut (stages : Stages uid s m) (store : Option StoreAnswer) (req : Request)
    (mayReply : Bool) :
    Stages uid (carriedOut s store req mayReply).1 (abstraction (Core.carriedOut s store req mayReply).1) := by
  have next := frameStep_stages stages ⟨store, req, mayReply, .pass⟩
  rw [carriedOut_session, next.abstraction_eq]
  exact next

theorem speculative_step {store : Option StoreAnswer} {req : Request} {mayReply : Bool}
    (speculates : speculative req = true) {verdict : Verdict} (held : verdict ≠ .pass) :
    m.step dirtyBit uid ⟨store, req, mayReply, verdict⟩ = m := by
  cases req with
  | ping | read | readProfile | unsupported => rfl
  | write addr data hold => simp [Machine.step, held]
  | commit | enumerate | assign | calibrate | mgmt => cases speculates

theorem Stages.dispatched (stages : Stages uid s m) {req : Request} (speculates : speculative req = true)
    (store : Option StoreAnswer) (mayReply : Bool) : Stages uid (dispatch s store req mayReply).1 m := by
  have next := frameStep_stages stages ⟨store, req, mayReply, .dangling⟩
  rw [speculative_step speculates (by simp)] at next
  exact next

theorem Stages.reverted (stages : Stages uid s m) {req : Request} (speculates : speculative req = true)
    (store : Option StoreAnswer) (mayReply : Bool) :
    Stages uid (revert (dispatch s store req mayReply).1) m := by
  have next := frameStep_stages stages ⟨store, req, mayReply, .fail⟩
  rw [speculative_step speculates (by simp)] at next
  exact next

end Run

end OpenServo.Core
