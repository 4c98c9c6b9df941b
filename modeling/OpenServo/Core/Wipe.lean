import OpenServo.Core.PowerSafe

set_option autoImplicit false

namespace OpenServo.Core

open OpenServo.Protocol OpenServo.Shared OpenServo.Table

def Erasure.Tears (page : Page) : Erasure → Prop
  | .failed => True
  | .left bytes =>
    match page with
    | .config _ => Image.parse (bytes.take imageLen) = none
    | .calibFront _ | .calibTail _ => CalibImage.parse (bytes.take calibImageLen) = none

/-- Which pages the erases took, of those the wipe got to. -/
def took (erases : List (Page × Erasure)) (page : Page) : Bool :=
  erases.any fun erase => decide (erase.1 = page ∧ erase.2 ≠ .failed)

def tookConfig (erases : List (Page × Erasure)) (slot : Slot) : Bool :=
  took erases (.config slot)

def tookCalib (erases : List (Page × Erasure)) (slot : Slot) : Bool :=
  took erases (.calibFront slot) || took erases (.calibTail slot)

def eraseAll (flash : Flash) (erases : List (Page × Erasure)) : Flash :=
  erases.foldl (fun flash erase => flash.erase erase.1 erase.2) flash

theorem took_cons (erase : Page × Erasure) (rest : List (Page × Erasure)) (page : Page) :
    took (erase :: rest) page = (decide (erase.1 = page ∧ erase.2 ≠ .failed) || took rest page) := rfl

theorem parse_eraseAll {erases : List (Page × Erasure)} (tears : ∀ erase ∈ erases, erase.2.Tears erase.1)
    (flash : Flash) (slot : Slot) :
    Image.parse ((eraseAll flash erases).slotBytes slot) =
      if tookConfig erases slot then none else Image.parse (flash.slotBytes slot) := by
  induction erases generalizing flash with
  | nil => rfl
  | cons erase rest ih =>
    obtain ⟨page, erasure⟩ := erase
    have later := ih (fun erase member => tears erase (List.mem_cons_of_mem _ member)) (flash.erase page erasure)
    have torn := tears _ List.mem_cons_self
    rw [show eraseAll flash ((page, erasure) :: rest) = eraseAll (flash.erase page erasure) rest from rfl, later,
      tookConfig, tookConfig, took_cons]
    cases erasure with
    | failed => simp [Flash.erase]
    | left bytes =>
      cases page with
      | config erased =>
        by_cases here : erased = slot
        next =>
          subst here
          simp [Flash.erase, Flash.slotBytes_leave, show Image.parse (bytes.take imageLen) = none from torn]
        next => simp [Flash.erase, Flash.slotBytes_leave, here, Ne.symm here]
      | calibFront erased | calibTail erased => simp [Flash.erase, Flash.slotBytes, Flash.leaveCalib]

theorem parse_calib_eraseAll {erases : List (Page × Erasure)}
    (tears : ∀ erase ∈ erases, erase.2.Tears erase.1) (flash : Flash) (slot : Slot) :
    CalibImage.parse ((eraseAll flash erases).calibSlotBytes slot) =
      if tookCalib erases slot then none else CalibImage.parse (flash.calibSlotBytes slot) := by
  induction erases generalizing flash with
  | nil => rfl
  | cons erase rest ih =>
    obtain ⟨page, erasure⟩ := erase
    have later := ih (fun erase member => tears erase (List.mem_cons_of_mem _ member)) (flash.erase page erasure)
    have torn := tears _ List.mem_cons_self
    rw [show eraseAll flash ((page, erasure) :: rest) = eraseAll (flash.erase page erasure) rest from rfl, later,
      tookCalib, tookCalib, took_cons, took_cons]
    cases erasure with
    | failed => simp [Flash.erase]
    | left bytes =>
      cases page with
      | config erased => simp [Flash.erase, Flash.calibSlotBytes, Flash.leave]
      | calibFront erased | calibTail erased =>
        by_cases here : erased = slot
        next =>
          subst here
          simp [Flash.erase, Flash.calibSlotBytes_leaveCalib,
            show CalibImage.parse (bytes.take calibImageLen) = none from torn]
        next => simp [Flash.erase, Flash.calibSlotBytes_leaveCalib, here, Ne.symm here]

/-- The erases of one image kind, of those that took, spare no superseded image where they took the
newest. -/
def Flash.Clears (flash : Flash) (erases : List (Page × Erasure)) : Prop :=
  ∀ newest, flash.newestSlot = some newest → tookConfig erases newest = true →
    tookConfig erases newest.other = true ∨ Image.parse (flash.slotBytes newest.other) = none ∨
      Image.parse (flash.slotBytes newest.other) = flash.newest

def Flash.ClearsCalib (flash : Flash) (erases : List (Page × Erasure)) : Prop :=
  ∀ newest, flash.newestCalibSlot = some newest → tookCalib erases newest = true →
    tookCalib erases newest.other = true ∨ CalibImage.parse (flash.calibSlotBytes newest.other) = none ∨
      CalibImage.parse (flash.calibSlotBytes newest.other) = flash.newestCalib

theorem Flash.newestSlot_iff {flash : Flash} {slot : Slot} :
    flash.newestSlot = some slot ↔
      flash.newest ≠ none ∧
        slot = .ofSide ((readSlots Image.parse flash.slotBytes).spare (ahead Image.seq)).other := by
  rw [newestSlot, pickNewest_eq, Option.map_eq_some_iff, Slot.ofSide_other, Option.ne_none_iff_exists']
  constructor
  next => exact fun ⟨image, held, same⟩ => ⟨⟨image, held⟩, same.symm⟩
  next => exact fun ⟨⟨image, held⟩, same⟩ => ⟨image, held, same.symm⟩

theorem Flash.newestCalibSlot_iff {flash : Flash} {slot : Slot} :
    flash.newestCalibSlot = some slot ↔
      flash.newestCalib ≠ none ∧
        slot = .ofSide
          ((readSlots CalibImage.parse flash.calibSlotBytes).spare (ahead CalibImage.seq)).other := by
  rw [newestCalibSlot, pickNewest_eq, Option.map_eq_some_iff, Slot.ofSide_other, Option.ne_none_iff_exists']
  constructor
  next => exact fun ⟨image, held, same⟩ => ⟨⟨image, held⟩, same.symm⟩
  next => exact fun ⟨⟨image, held⟩, same⟩ => ⟨image, held, same.symm⟩

theorem newest_eraseAll_iff {erases : List (Page × Erasure)}
    (tears : ∀ erase ∈ erases, erase.2.Tears erase.1) (flash : Flash) :
    ((eraseAll flash erases).newest = flash.newest ∨ (eraseAll flash erases).newest = none) ↔
      flash.Clears erases := by
  have lost : readSlots Image.parse (eraseAll flash erases).slotBytes =
      (readSlots Image.parse flash.slotBytes).lose (fun side => tookConfig erases (.ofSide side)) := by
    funext side
    exact parse_eraseAll tears flash (.ofSide side)
  simp only [Flash.Clears, Flash.newestSlot_iff]
  rw [Flash.newest_eq, Flash.newest_eq, lost, Slots.current_lose]
  constructor
  next =>
    rintro clears _ ⟨held, rfl⟩ gone
    rw [← Slot.ofSide_other, Side.other_other]
    exact clears held gone
  next =>
    intro clears held gone
    have spared := clears _ ⟨held, rfl⟩ gone
    rw [← Slot.ofSide_other, Side.other_other] at spared
    exact spared

theorem newestCalib_eraseAll_iff {erases : List (Page × Erasure)}
    (tears : ∀ erase ∈ erases, erase.2.Tears erase.1) (flash : Flash) :
    ((eraseAll flash erases).newestCalib = flash.newestCalib ∨ (eraseAll flash erases).newestCalib = none) ↔
      flash.ClearsCalib erases := by
  have lost : readSlots CalibImage.parse (eraseAll flash erases).calibSlotBytes =
      (readSlots CalibImage.parse flash.calibSlotBytes).lose (fun side => tookCalib erases (.ofSide side)) := by
    funext side
    exact parse_calib_eraseAll tears flash (.ofSide side)
  simp only [Flash.ClearsCalib, Flash.newestCalibSlot_iff]
  rw [Flash.newestCalib_eq, Flash.newestCalib_eq, lost, Slots.current_lose]
  constructor
  next =>
    rintro clears _ ⟨held, rfl⟩ gone
    rw [← Slot.ofSide_other, Side.other_other]
    exact clears held gone
  next =>
    intro clears held gone
    have spared := clears _ ⟨held, rfl⟩ gone
    rw [← Slot.ofSide_other, Side.other_other] at spared
    exact spared

/-- A wipe that a power cut or a failed erase stops: the next boot loads the images that were newest, or
none, exactly when no superseded image outlives the newest of its kind. -/
theorem wipe_stopped_iff (flash : Flash) (erasures : List Erasure)
    (tears : ∀ erase ∈ wipePages.zip erasures, erase.2.Tears erase.1) :
    (((flash.wipe erasures).newest = flash.newest ∨ (flash.wipe erasures).newest = none) ∧
        ((flash.wipe erasures).newestCalib = flash.newestCalib ∨ (flash.wipe erasures).newestCalib = none)) ↔
      flash.Clears (wipePages.zip erasures) ∧ flash.ClearsCalib (wipePages.zip erasures) :=
  and_congr (newest_eraseAll_iff tears flash) (newestCalib_eraseAll_iff tears flash)

theorem parse_erased {slot : List UInt8} (erased : ∀ b ∈ slot, b = 0xFF) : Image.parse slot = none := by
  by_contra valid
  obtain ⟨image, parsed⟩ := Option.ne_none_iff_exists'.mp valid
  have magic := (Image.parse_iff.mp parsed).1.magic
  exact absurd (erased _ (List.mem_of_getElem? magic)) (by decide)

theorem parse_calib_erased {slot : List UInt8} (erased : ∀ b ∈ slot, b = 0xFF) :
    CalibImage.parse slot = none := by
  by_contra valid
  obtain ⟨image, parsed⟩ := Option.ne_none_iff_exists'.mp valid
  have magic := (CalibImage.parse_iff.mp parsed).1.magic
  exact absurd (erased _ (List.mem_of_getElem? magic)) (by decide)

theorem ConfigStore.wipe_ok {store : ConfigStore} {erasures : List Erasure}
    (done : (store.wipe erasures).2 = .ok ()) :
    (store.flash.wipe erasures).newest = none ∧ (store.flash.wipe erasures).newestCalib = none := by
  simp only [wipe] at done
  split at done
  next => cases done
  next blank =>
    simp only [List.any_cons, List.any_nil, Bool.or_false, Bool.or_eq_true, not_or, Bool.not_eq_true,
      List.any_eq_false, bne_iff_ne, ne_eq, not_not] at blank
    obtain ⟨⟨a, calibA⟩, b, calibB⟩ := blank
    constructor
    next => rw [Flash.newest, parse_erased a, parse_erased b]; rfl
    next => rw [Flash.newestCalib, parse_calib_erased calibA, parse_calib_erased calibB]; rfl

theorem erased_tears (slot : Slot) (count : Nat) :
    (Erasure.left (List.replicate count 0xFF)).Tears (.config slot) := by
  rw [Erasure.Tears, List.take_replicate]
  exact parse_erased (fun b member => List.eq_of_mem_replicate member)

def pageErased : Erasure :=
  .left (List.replicate imageLen 0xFF)

def supersededFlash : Flash where
  slots := fun slot =>
    if slot = .a then assemble 3 (List.replicate configSize 1) zeroSettings.profile
    else assemble 2 zeroSettings.config zeroSettings.profile
  calibSlots := erasedFlash.calibSlots

theorem parse_supersededFlash :
    Image.parse (supersededFlash.slotBytes .a) =
        some ⟨3, List.replicate configSize 1, zeroSettings.profile⟩ ∧
      Image.parse (supersededFlash.slotBytes .b) = some ⟨2, zeroSettings.config, zeroSettings.profile⟩ := by
  have allowed : Fits controlTable.allowedByte (configBase, List.replicate configSize 1) := by
    intro i within rule member same
    have one : ∀ rule ∈ controlTable.allowedRules, (1 : UInt8) ∈ rule.allowed := by decide
    have inside : i < configSize := by simpa using within
    simpa [List.getD_eq_getElem?_getD, List.getElem?_replicate, inside] using one rule member
  have whole (seq : UInt16) (config profile : List UInt8) (configLen : config.length = configSize)
      (profileLen : profile.length = profileSize) :
      (assemble seq config profile).take imageLen = assemble seq config profile :=
    List.take_of_length_le (by simp [assemble, header, configLen, profileLen, imageLen, Nat.add_assoc])
  have read (image : Image) (configLen : image.config.length = configSize)
      (profileLen : image.profile.length = profileSize) (allowed : image.Allowed) :
      Image.parse ((assemble image.seq image.config image.profile).take imageLen) = some image := by
    have parsed := Image.parse_assemble configLen profileLen []
    rw [whole _ _ _ configLen profileLen]
    rwa [List.append_nil, iff_true_intro allowed, iff_true] at parsed
  exact ⟨read ⟨3, List.replicate configSize 1, zeroSettings.profile⟩ List.length_replicate
      zeroSettings.profileLen ⟨allowed, zeroSettings_allowed.profile⟩,
    read ⟨2, _, _⟩ zeroSettings.configLen zeroSettings.profileLen
      ⟨zeroSettings_allowed.config, zeroSettings_allowed.profile⟩⟩

/-- Power lost after the first erase brings back the superseded image. -/
theorem wipe_cut_resurrects :
    supersededFlash.newest = some ⟨3, List.replicate configSize 1, zeroSettings.profile⟩ ∧
      (supersededFlash.wipe [pageErased]).newest = some ⟨2, zeroSettings.config, zeroSettings.profile⟩ ∧
      ¬ ((supersededFlash.wipe [pageErased]).newest = supersededFlash.newest ∨
        (supersededFlash.wipe [pageErased]).newest = none) := by
  obtain ⟨first, second⟩ := parse_supersededFlash
  have tears : ∀ erase ∈ wipePages.zip [pageErased], erase.2.Tears erase.1 := by
    intro erase member
    obtain rfl := List.mem_singleton.mp (show erase ∈ [(Page.config .a, pageErased)] from member)
    exact erased_tears .a imageLen
  have kept := parse_eraseAll tears supersededFlash
  have gone : tookConfig (wipePages.zip [pageErased]) .a = true := by decide
  have spared : tookConfig (wipePages.zip [pageErased]) .b = false := by decide
  have before : supersededFlash.newest = some ⟨3, List.replicate configSize 1, zeroSettings.profile⟩ := by
    rw [Flash.newest, first, second]
    rfl
  have after : (supersededFlash.wipe [pageErased]).newest =
      some ⟨2, zeroSettings.config, zeroSettings.profile⟩ := by
    have same : supersededFlash.wipe [pageErased] =
        eraseAll supersededFlash (wipePages.zip [pageErased]) := rfl
    rw [Flash.newest, same, kept, kept, gone, spared, second]
    rfl
  refine ⟨before, after, ?_⟩
  rw [before, after]
  intro either
  rcases either with same | none
  next => exact absurd (congrArg Image.seq (Option.some.inj same)) (by decide)
  next => cases none

theorem wipe_stopped_both :
    (supersededFlash.wipe [pageErased, pageErased]).newest = supersededFlash.newest ∨
      (supersededFlash.wipe [pageErased, pageErased]).newest = none := by
  have tears : ∀ erase ∈ wipePages.zip [pageErased, pageErased], erase.2.Tears erase.1 := by
    intro erase member
    have either : erase = (.config .a, pageErased) ∨ erase = (.config .b, pageErased) := by
      simpa [wipePages] using member
    rcases either with rfl | rfl
    next => exact erased_tears .a imageLen
    next => exact erased_tears .b imageLen
  have took (slot : Slot) : tookConfig (wipePages.zip [pageErased, pageErased]) slot = true := by
    cases slot <;> decide
  have missed (slot : Slot) : tookCalib (wipePages.zip [pageErased, pageErased]) slot = false := by
    cases slot <;> decide
  exact ((wipe_stopped_iff supersededFlash [pageErased, pageErased] tears).mpr
    ⟨fun newest _ _ => .inl (took newest.other), fun newest _ gone => by rw [missed] at gone; cases gone⟩).1

end OpenServo.Core
