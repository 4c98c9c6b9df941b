import OpenServo.Bus.Replies

set_option autoImplicit false

namespace OpenServo.Bus

open OpenServo.Core OpenServo.Protocol

def answered (calls : List Call) : Bool :=
  calls.any sends

/-- Whom the dispatcher lets answer a request: of the UID-addressed ones only the match does, and a train is listened
to in silence. -/
def elects (uid : List UInt8) : Request → Bool
  | .enumerate prefixLen prefixBits => uidPrefixMatches uid prefixLen prefixBits
  | .assign target _ => target == uid
  | .calibrate .. => false
  | _ => true

section Answered

variable (alert mayReply : Bool)

@[simp] theorem answered_ackCode (code : ResultCode) : answered (ackCode alert mayReply code) = mayReply := by
  cases mayReply <;> rfl

@[simp] theorem answered_ack (result : Except Table.Error Unit) :
    answered (ack alert mayReply result) = mayReply :=
  answered_ackCode alert mayReply _

@[simp] theorem answered_append (first second : List Call) :
    answered (first ++ second) = (answered first || answered second) :=
  List.any_append

@[simp] theorem answered_dispatchEvents (table : ControlTable) (addr len : Nat) :
    answered (dispatchEvents table addr len) = false := by
  rw [answered, List.any_eq_false]
  intro call member
  rw [sends_dispatchEvents table addr len call member]
  exact Bool.false_ne_true

theorem answered_commitSpans (table : ControlTable) (spans : List (Nat × Nat)) :
    answered (commitSpans table spans).2 = false := by
  induction spans generalizing table with
  | nil => rfl
  | cons span rest ih =>
    obtain ⟨addr, len⟩ := span
    simp only [commitSpans, answered_append, answered_dispatchEvents, Bool.false_or]
    exact ih _

variable (s : Session) (store : Option StoreAnswer)

theorem answered_read (addr count : Nat) : answered (read s mayReply addr count) = mayReply := by
  cases mayReply
  next => rfl
  next =>
    simp only [Core.read, Bool.not_true, Bool.false_eq_true, if_false]
    split
    next => rfl
    next =>
      split
      next => rfl
      next => split <;> rfl

theorem answered_readProfile (slot : UInt8) : answered (readProfile s mayReply slot) = mayReply := by
  cases mayReply
  next => rfl
  next =>
    simp only [readProfile, Bool.not_true, Bool.false_eq_true, if_false]
    split
    next => rfl
    next =>
      split
      next => rfl
      next =>
        split
        next => rfl
        next => split <;> rfl

theorem answered_mgmt (op : MgmtOp) : answered (mgmt s store mayReply op).2 = mayReply := by
  cases op with
  | save =>
    simp only [mgmt, save]
    split
    next => simp
    next =>
      split
      next => simp
      next => split <;> cases mayReply <;> rfl
  | factory =>
    simp only [mgmt, factory]
    split
    next => simp
    next =>
      split
      next => simp
      next => split <;> cases mayReply <;> rfl
  | reboot => cases mayReply <;> rfl
  | enum | assign | cal => exact answered_ackCode _ _ _

@[simp] theorem revertDangling_uid : s.revertDangling.uid = s.uid := by
  unfold Session.revertDangling
  split <;> rfl

theorem dispatch_answered (req : Request) :
    answered (dispatch s store req mayReply).2.1 = (mayReply && elects s.uid req) := by
  cases req with
  | ping => cases mayReply <;> rfl
  | read addr count => exact (answered_read _ _ _ _).trans (Bool.and_true _).symm
  | readProfile slot => exact (answered_readProfile _ _ _).trans (Bool.and_true _).symm
  | write addr data hold =>
    simp only [dispatch, write, elects, Bool.and_true]
    split <;> exact answered_ackCode _ _ _
  | commit =>
    simp only [dispatch, applyCommit, answered_append, answered_ack, answered_commitSpans, elects,
      Bool.or_false, Bool.and_true]
  | enumerate prefixLen prefixBits =>
    simp only [dispatch, enumerate, elects, revertDangling_uid]
    cases mayReply && uidPrefixMatches s.uid prefixLen prefixBits <;> rfl
  | assign target newId =>
    simp only [dispatch, assign, elects, revertDangling_uid]
    by_cases same : target = s.uid
    next =>
      rw [if_neg (not_not_intro same)]
      subst same
      split <;> cases mayReply <;> simp [answered, sends, Core.ack, ackCode]
    next =>
      rw [if_pos same]
      simp [answered, same]
  | calibrate => cases mayReply <;> rfl
  | mgmt op args => exact (answered_mgmt _ _ _ _).trans (Bool.and_true _).symm
  | unsupported => exact (answered_ackCode _ _ _).trans (Bool.and_true _).symm

end Answered

def Answers (view : FrameBytes) (own : UInt8) (s : Session) (store : Option StoreAnswer) (slot : UInt8) : Prop :=
  ∃ req mayReply, decode view own = .own req mayReply slot ∧ answered (dispatch s store req mayReply).2.1 = true

theorem answers_iff {view : FrameBytes} {own : UInt8} {s : Session} {store : Option StoreAnswer} {slot : UInt8} :
    Answers view own s store slot ↔ ∃ req, decode view own = .own req true slot ∧ elects s.uid req = true := by
  constructor
  next =>
    rintro ⟨req, mayReply, mine, sent⟩
    rw [dispatch_answered, Bool.and_eq_true] at sent
    obtain ⟨rfl, elected⟩ := sent
    exact ⟨req, mine, elected⟩
  next =>
    rintro ⟨req, mine, elected⟩
    exact ⟨req, true, mine, by rw [dispatch_answered, elected]; rfl⟩

section Listed

theorem slotOf_isSome (ids : FrameBytes) (id : UInt8) : (slotOf ids id).isSome ↔ id ∈ ids.bytes := by
  simp [slotOf, List.findIdx?_isSome]

theorem findSlot_isSome {A : Type} (idOf : A → UInt8) (entries : List A) (id : UInt8) :
    (findSlot idOf entries id).isSome ↔ id ∈ entries.map idOf := by
  simp only [findSlot, Option.isSome_map, List.find?_isSome, List.mem_map, beq_iff_eq]
  constructor
  next =>
    rintro ⟨⟨entry, k⟩, member, same⟩
    exact ⟨entry, List.mem_of_getElem? (List.mem_zipIdx_iff_getElem?.mp member), same⟩
  next =>
    rintro ⟨entry, member, same⟩
    obtain ⟨k, here⟩ := List.mem_iff_getElem?.mp member
    exact ⟨(entry, k), List.mem_zipIdx_iff_getElem?.mpr here, same⟩

variable {inst : Inst} {pay : FrameBytes} {own : UInt8}

def reads : Request → Bool
  | .read .. | .readProfile .. => true
  | _ => false

theorem gread_own {req : Request} {mayReply : Bool} {slot : UInt8}
    (mine : gread inst pay own = .own req mayReply slot) :
    mayReply = true ∧ reads req = true ∧ ∃ ids, listedIds inst pay = some ids ∧ own ∈ ids := by
  simp only [gread] at mine
  simp only [listedIds]
  cases profile : inst.profile <;> cases target : inst.perTarget <;> simp only [profile, target] at mine ⊢
  next =>
    split at mine
    next g parsed =>
      split at mine
      next k found =>
        cases mine
        exact ⟨rfl, rfl, _, by rw [parsed, Option.map_some], (slotOf_isSome _ _).mp (by rw [found]; rfl)⟩
      next => cases mine
    next => cases mine
  next =>
    split at mine
    next k t found =>
      cases mine
      obtain ⟨entries, parsed, found⟩ := Option.bind_eq_some_iff.mp found
      exact ⟨rfl, rfl, _, by rw [parsed, Option.map_some],
        (findSlot_isSome _ _ _).mp (by rw [show findSlot _ _ _ = _ from found]; rfl)⟩
    next => cases mine
  next =>
    split at mine
    next g parsed =>
      split at mine
      next k found =>
        cases mine
        exact ⟨rfl, rfl, _, by rw [parsed, Option.map_some], (slotOf_isSome _ _).mp (by rw [found]; rfl)⟩
      next => cases mine
    next => cases mine
  next =>
    split at mine
    next k t found =>
      cases mine
      obtain ⟨entries, parsed, found⟩ := Option.bind_eq_some_iff.mp found
      exact ⟨rfl, rfl, _, by rw [parsed, Option.map_some],
        (findSlot_isSome _ _ _).mp (by rw [show findSlot _ _ _ = _ from found]; rfl)⟩
    next => cases mine

theorem gread_of_mem {ids : List UInt8} (list : listedIds inst pay = some ids) (member : own ∈ ids) :
    ∃ req slot, gread inst pay own = .own req true slot := by
  simp only [listedIds] at list
  simp only [gread]
  cases profile : inst.profile <;> cases target : inst.perTarget <;> simp only [profile, target] at list
  next =>
    obtain ⟨g, parsed, rfl⟩ := Option.map_eq_some_iff.mp list
    obtain ⟨k, found⟩ := Option.isSome_iff_exists.mp ((slotOf_isSome _ _).mpr member)
    exact ⟨_, _, by simp only [parsed, found]; rfl⟩
  next =>
    obtain ⟨entries, parsed, rfl⟩ := Option.map_eq_some_iff.mp list
    obtain ⟨⟨k, t⟩, found⟩ := Option.isSome_iff_exists.mp ((findSlot_isSome _ _ _).mpr member)
    exact ⟨_, _, by simp only [parsed, Option.bind_some, GreadPerTarget.find, found]; rfl⟩
  next =>
    obtain ⟨g, parsed, rfl⟩ := Option.map_eq_some_iff.mp list
    obtain ⟨k, found⟩ := Option.isSome_iff_exists.mp ((slotOf_isSome _ _).mpr member)
    exact ⟨_, _, by simp only [parsed, found]; rfl⟩
  next =>
    obtain ⟨entries, parsed, rfl⟩ := Option.map_eq_some_iff.mp list
    obtain ⟨⟨k, t⟩, found⟩ := Option.isSome_iff_exists.mp ((findSlot_isSome _ _ _).mpr member)
    exact ⟨_, _, by simp only [parsed, Option.bind_some, GreadProfilePerTarget.find, found]; rfl⟩

end Listed

end OpenServo.Bus
