import OpenServo.Core.Persist
import OpenServo.Core.StagedRefinement

set_option autoImplicit false

namespace OpenServo.Core

open OpenServo.Protocol OpenServo.Shared OpenServo.Table

/-- A constraint on single bytes that validation enforces on every write, whatever the table it is
checked against, and that the bookkeeping bytes and an assigned id meet. -/
structure Enforced (allow : Nat → UInt8 → Prop) : Prop where
  validated : ∀ (table : ControlTable) (addr : Nat) (head tail : List UInt8),
    controlTable.validate table addr head tail = .ok () → Fits allow (addr, head ++ tail)
  flags : ∀ b, allow Addr.statusFlags b
  assigned : ∀ id, isUnicast id = true → allow Addr.id id

def Machine.Respects (allow : Nat → UInt8 → Prop) (m : Machine) : Prop :=
  Shared.Respects allow m.table ∧ ∀ write ∈ m.held, Fits allow write

section Enforced

variable {allow : Nat → UInt8 → Prop} (enforced : Enforced allow)

include enforced

theorem Enforced.landed {table : ControlTable} (respects : Shared.Respects allow table) (addr len : Nat) :
    Shared.Respects allow (dirtyBit.landed table addr len) := by
  simp only [dirtyBit, markDirtyIfPersistent]
  split
  next => exact respects.poke (fits_singleton (enforced.flags _))
  next => exact respects

theorem Enforced.land {table : ControlTable} (respects : Shared.Respects allow table)
    {writes : List (Nat × List UInt8)} (fits : ∀ write ∈ writes, Fits allow write) :
    Shared.Respects allow (Machine.land dirtyBit table writes) := by
  have marked (spans : List (Nat × List UInt8)) (table : ControlTable)
      (respects : Shared.Respects allow table) :
      Shared.Respects allow
        (spans.foldl (fun table write => dirtyBit.landed table write.1 write.2.length) table) := by
    induction spans generalizing table with
    | nil => exact respects
    | cons span rest ih => exact ih _ (enforced.landed respects span.1 span.2.length)
  exact marked writes _ (respects.foldl_poke fits)

theorem Enforced.step {m : Machine} (respects : m.Respects allow) (uid : List UInt8) (frame : Frame) :
    (m.step dirtyBit uid frame).Respects allow := by
  obtain ⟨store, req, mayReply, verdict⟩ := frame
  cases req with
  | write addr data hold =>
    simp only [Machine.step]
    split
    next passed =>
      have fits : Fits allow (addr, data.bytes) := enforced.validated _ _ _ _ passed.1.1
      split
      next =>
        refine ⟨respects.1, ?_⟩
        intro write member
        rcases List.mem_append.mp member with earlier | new
        next => exact respects.2 write earlier
        next => exact List.mem_singleton.mp new ▸ fits
      next =>
        refine ⟨enforced.land respects.1 ?_, respects.2⟩
        intro write member
        exact List.mem_singleton.mp member ▸ fits
    next => exact respects
  | commit => exact ⟨enforced.land respects.1 respects.2, by simp [Machine.step]⟩
  | assign target newId =>
    simp only [Machine.step]
    split
    next taken =>
      refine ⟨enforced.land respects.1 ?_, respects.2⟩
      intro write member
      exact List.mem_singleton.mp member ▸ fits_singleton (enforced.assigned newId taken.2)
    next => exact respects
  | mgmt op args =>
    cases op with
    | save =>
      simp only [Machine.step]
      split
      next => exact ⟨respects.1.poke (fits_singleton (enforced.flags _)), respects.2⟩
      next => exact respects
    | enum | assign | reboot | factory | cal => exact respects
  | ping | read | readProfile | enumerate | calibrate | unsupported => exact respects

end Enforced

theorem allowedByte_enforced : Enforced controlTable.allowedByte where
  validated := fun _ _ _ _ ok => RegisterMap.validate_fits_allowed controlTable_wellFormed ok
  flags := by
    have apart : ∀ rule ∈ controlTable.allowedRules, rule.addr ≠ Addr.statusFlags := by decide
    exact fun b rule member same => absurd same (apart rule member)
  assigned := by
    have apart : ∀ rule ∈ controlTable.allowedRules, rule.addr ≠ Addr.id := by decide
    exact fun id _ rule member same => absurd same (apart rule member)

theorem fits_of_persistedByte {persisted : Nat → Option UInt8} (allowed : fieldsAllowed persisted = true)
    {write : Nat × List UInt8}
    (brought : ∀ i < write.2.length, persisted (write.1 + i) = some (write.2.getD i 0)) :
    Fits controlTable.allowedByte write := by
  intro i within rule member same
  have checked := List.all_eq_true.mp allowed rule member
  simp only [same, brought i within] at checked
  exact List.contains_iff_mem.mp checked

theorem parseSlot_body {slot : List UInt8} {len bodyLen : Nat} {magic version : UInt8} {seq : UInt16}
    {body : List UInt8} (parsed : parseSlot slot len bodyLen magic version = some (seq, body)) :
    body.length = len - headerLen := by
  simp only [parseSlot] at parsed
  split at parsed
  next => cases parsed
  next long =>
    split at parsed
    next => cases parsed
    next =>
      split at parsed
      next => cases parsed
      next =>
        split at parsed
        next => cases parsed
        next =>
          obtain ⟨-, rfl⟩ := Prod.mk.inj (Option.some.inj parsed)
          simp
          omega

theorem Image.parse_fits {slot : List UInt8} {image : Image} (parsed : Image.parse slot = some image) :
    Fits controlTable.allowedByte (configBase + Addr.id, image.config.drop Addr.id) ∧
      Fits controlTable.allowedByte (profileBase, image.profile) := by
  simp only [Image.parse, Option.bind_eq_bind, Option.bind_eq_some_iff] at parsed
  obtain ⟨⟨seq, body⟩, gated, kept⟩ := parsed
  have length := parseSlot_body gated
  simp only [Option.ite_none_right_eq_some, Option.some.injEq] at kept
  obtain ⟨allowed, rfl⟩ := kept
  simp only [imageLen, headerLen, configSize, profileSize] at length
  constructor
  next =>
    apply fits_of_persistedByte allowed
    intro i within
    simp only [List.length_drop, List.length_take, configSize, Addr.id] at within
    have inside : configBase + Addr.id + i < configBase + configSize := by
      simp only [configBase, configSize, Addr.id]; omega
    rw [Image.persistedByte, if_pos ⟨by simp [configBase], inside⟩]
    simp [configBase, List.getD_eq_getElem?_getD, List.getElem?_drop]
  next =>
    apply fits_of_persistedByte allowed
    intro i within
    simp only [List.length_drop, configSize] at within
    have beyond : ¬ profileBase + i < configBase + configSize := by
      simp only [configBase, configSize, profileBase]; omega
    have inside : profileBase + i < profileBase + profileSize := by
      simp only [profileSize]; omega
    simp [Image.persistedByte, beyond, inside]

theorem CalibImage.parse_fits {slot : List UInt8} {image : CalibImage}
    (parsed : CalibImage.parse slot = some image) :
    Fits controlTable.allowedByte (calibBase, image.calib) := by
  simp only [CalibImage.parse, Option.bind_eq_bind, Option.bind_eq_some_iff] at parsed
  obtain ⟨⟨seq, body⟩, gated, kept⟩ := parsed
  have length := parseSlot_body gated
  simp only [Option.ite_none_right_eq_some, Option.some.injEq] at kept
  obtain ⟨allowed, rfl⟩ := kept
  simp only [calibImageLen, headerLen, calibSize] at length
  apply fits_of_persistedByte allowed
  intro i within
  have inside : calibBase + i < calibBase + calibSize := by
    simp only [calibSize] at within ⊢; omega
  simp [CalibImage.persistedByte, inside]

theorem pickNewest_mem {T : Type} {a b : Option T} {seq : T → UInt16} {image : T}
    (picked : (pickNewest a b seq).1 = some image) : a = some image ∨ b = some image := by
  cases a with
  | none => exact .inr (by simpa [pickNewest] using picked)
  | some first =>
    cases b with
    | none => exact .inl (by simpa [pickNewest] using picked)
    | some second =>
      simp only [pickNewest] at picked
      split at picked
      next => exact .inl picked
      next => exact .inr picked

theorem bootOverlay_respects {table : ControlTable}
    (respects : Shared.Respects controlTable.allowedByte table) (slotA slotB : List UInt8) :
    Shared.Respects controlTable.allowedByte (bootOverlay table slotA slotB).1 := by
  simp only [bootOverlay]
  split
  next image picked =>
    have fits := (pickNewest_mem picked).elim Image.parse_fits Image.parse_fits
    exact (respects.poke fits.1).poke fits.2
  next => exact respects

theorem bootOverlayCalib_respects {table : ControlTable}
    (respects : Shared.Respects controlTable.allowedByte table) (slotA slotB : List UInt8) :
    Shared.Respects controlTable.allowedByte (bootOverlayCalib table slotA slotB).1 := by
  simp only [bootOverlayCalib]
  split
  next image picked =>
    exact respects.poke ((pickNewest_mem picked).elim CalibImage.parse_fits CalibImage.parse_fits)
  next => exact respects

def keepsAllowed (write : Nat × List UInt8) : Bool :=
  controlTable.allowedRules.all (fun rule =>
    rule.addr < write.1 || write.1 + write.2.length ≤ rule.addr ||
      rule.allowed.contains (write.2.getD (rule.addr - write.1) 0))

theorem fits_of_keepsAllowed {write : Nat × List UInt8} (keeps : keepsAllowed write = true) :
    Fits controlTable.allowedByte write := by
  intro i within rule member same
  have checked := List.all_eq_true.mp keeps rule member
  simp only [same, Nat.add_sub_cancel_left, Bool.or_eq_true, decide_eq_true_eq] at checked
  rcases checked with (before | beyond) | allowed
  next => omega
  next => omega
  next => exact List.contains_iff_mem.mp allowed

/-- No seeded field but the drive polarity is a bool or an enum, so the check never reads a default. -/
theorem seedWrites_fits (defaults : ConfigDefaults) :
    ∀ write ∈ seedWrites defaults, Fits controlTable.allowedByte write := by
  have all : (seedWrites defaults).all keepsAllowed = true := by rfl
  exact fun write member => fits_of_keepsAllowed (List.all_eq_true.mp all write member)

inductive Action where
  | seed (defaults : ConfigDefaults)
  | overlay (slotA slotB : List UInt8)
  | overlayCalib (slotA slotB : List UInt8)
  | frame (frame : Frame)

def Action.load (table : ControlTable) : Action → ControlTable
  | .seed defaults => seedConfigDefaults defaults table
  | .overlay slotA slotB => (bootOverlay table slotA slotB).1
  | .overlayCalib slotA slotB => (bootOverlayCalib table slotA slotB).1
  | .frame _ => table

def actStep (s : Session) : Action → Session
  | .frame frame => frameStep s frame
  | action => { s with table := action.load s.table }

def Machine.act (uid : List UInt8) (m : Machine) : Action → Machine
  | .frame frame => m.step dirtyBit uid frame
  | action => { m with table := action.load m.table }

theorem actStep_stages {device : List UInt8} {s : Session} {m : Machine} (stages : Stages device s m)
    (action : Action) : Stages device (actStep s action) (m.act device action) := by
  cases action with
  | frame frame => exact frameStep_stages stages frame
  | seed | overlay | overlayCalib =>
    simp only [actStep, Machine.act, stages.table]
    exact ⟨stages.uid, rfl, stages.lands, stages.buffer⟩

theorem Machine.act_respects {m : Machine} (respects : m.Respects controlTable.allowedByte)
    (uid : List UInt8) (action : Action) : (m.act uid action).Respects controlTable.allowedByte := by
  cases action with
  | frame frame => exact allowedByte_enforced.step respects uid frame
  | seed defaults => exact ⟨respects.1.foldl_poke (seedWrites_fits defaults), respects.2⟩
  | overlay slotA slotB => exact ⟨bootOverlay_respects respects.1 slotA slotB, respects.2⟩
  | overlayCalib slotA slotB => exact ⟨bootOverlayCalib_respects respects.1 slotA slotB, respects.2⟩

theorem zeroStore_respects : Shared.Respects controlTable.allowedByte (zeroStore controlTable.size) := by
  have zero : ∀ rule ∈ controlTable.allowedRules, (0 : UInt8) ∈ rule.allowed := by decide
  intro addr _ rule member _
  rw [peek_zeroStore]
  exact zero rule member

theorem discriminants_valid (uid : List UInt8) (actions : List Action) :
    ∀ rule ∈ controlTable.allowedRules,
      rule.Holds (run actStep (boot (zeroStore controlTable.size) uid) actions).table := by
  have inside : ∀ rule ∈ controlTable.allowedRules, rule.addr < controlTable.size := by decide
  have stages : Stages uid (run actStep (boot (zeroStore _) uid) actions)
      (run (Machine.act uid) ⟨zeroStore _, []⟩ actions) := by
    apply run_simulation actStep (Machine.act uid) (Stages uid)
    next => exact fun s m action stages => actStep_stages stages action
    next => exact ⟨rfl, rfl, by simp, rfl⟩
  have respects : (run (Machine.act uid) ⟨zeroStore _, []⟩ actions).Respects controlTable.allowedByte := by
    apply run_invariant (Machine.act uid) (fun _ _ => True) (Machine.Respects controlTable.allowedByte)
    next => exact fun m action respects _ => Machine.act_respects respects uid action
    next => exact ⟨zeroStore_respects, by simp⟩
    next => exact meets_trivial _ _ _
  intro rule member
  rw [AllowedRule.Holds, stages.table]
  exact respects.1 rule.addr (inside rule member) rule member rfl

theorem discriminants_valid_mode :
    (⟨388, [0, 1, 2, 3]⟩ : AllowedRule).Holds (run actStep (boot (zeroStore controlTable.size) [])
      [.frame ⟨none, .write 388 (.ofList [7]) false, true, .pass⟩]).table :=
  discriminants_valid [] _ _ (by decide)

end OpenServo.Core
