import OpenServo.Core.RuleInvariants

set_option autoImplicit false

namespace OpenServo.Core

open OpenServo.Protocol OpenServo.Shared OpenServo.Table

def slotWord (slot : List UInt8) (i : Nat) : UInt16 :=
  u16FromLe (slot.getD i 0) (slot.getD (i + 1) 0)

def slotBody (bodyLen : Nat) (slot : List UInt8) : List UInt8 :=
  (slot.drop headerLen).take bodyLen

structure Carries (magic version : UInt8) (bodyLen : Nat) (slot : List UInt8) : Prop where
  long : headerLen + bodyLen ≤ slot.length
  magic : slot[0]? = some magic
  version : slot[1]? = some version
  length : slotWord slot 4 = UInt16.ofNat bodyLen
  crc : slotWord slot 6 = oscCrc (slot.take 6 ++ slotBody bodyLen slot)

section Codec

variable {magic version : UInt8} {bodyLen : Nat}

theorem slotWord_take {slot : List UInt8} {len i : Nat} (inside : i + 1 < len) :
    slotWord (slot.take len) i = slotWord slot i := by
  simp [slotWord, List.getD_eq_getElem?_getD, inside, Nat.lt_of_succ_lt inside]

theorem slotWord_eq_iff {slot : List UInt8} {i bodyLen : Nat} (fits : bodyLen < 65536) :
    (slotWord slot i).toNat = bodyLen ↔ slotWord slot i = UInt16.ofNat bodyLen := by
  rw [← UInt16.toNat_inj, UInt16.toNat_ofNat', Nat.mod_eq_of_lt fits]

theorem getElem?_eq_iff_getD {slot : List UInt8} {i : Nat} {b : UInt8} (inside : i < slot.length) :
    slot[i]? = some b ↔ slot.getD i 0 = b := by
  rw [List.getD_eq_getElem?_getD, List.getElem?_eq_getElem inside, Option.getD_some, Option.some.injEq]

theorem parseSlot_iff {slot : List UInt8} {seq : UInt16} {body : List UInt8} (fits : bodyLen < 65536) :
    parseSlot slot (headerLen + bodyLen) bodyLen magic version = some (seq, body) ↔
      Carries magic version bodyLen slot ∧ seq = slotWord slot 2 ∧ body = slotBody bodyLen slot := by
  simp only [parseSlot]
  split
  next short =>
    constructor
    next => intro refused; cases refused
    next => exact fun accepted => absurd accepted.1.long (by omega)
  next long =>
    have roomy : headerLen + bodyLen ≤ slot.length := by omega
    have two : 1 < slot.length := by simp only [headerLen] at roomy; omega
    have head : (slot.take (headerLen + bodyLen)).getD 0 0 = slot.getD 0 0 := by
      simp [List.getD_eq_getElem?_getD, headerLen, show 0 < 8 + bodyLen by omega]
    have next : (slot.take (headerLen + bodyLen)).getD 1 0 = slot.getD 1 0 := by
      simp [List.getD_eq_getElem?_getD, headerLen, show 1 < 8 + bodyLen by omega]
    have words (i : Nat) (inside : i + 1 < headerLen) :
        u16FromLe ((slot.take (headerLen + bodyLen)).getD i 0)
          ((slot.take (headerLen + bodyLen)).getD (i + 1) 0) = slotWord slot i :=
      slotWord_take (by omega)
    have front : (slot.take (headerLen + bodyLen)).take 6 = slot.take 6 := by
      rw [List.take_take, show min 6 (headerLen + bodyLen) = 6 by simp [headerLen]; omega]
    have rest : (slot.take (headerLen + bodyLen)).drop headerLen = slotBody bodyLen slot := by
      rw [List.drop_take, Nat.add_sub_cancel_left, slotBody]
    rw [head, next, words 4 (by decide), words 6 (by decide), words 2 (by decide), front, rest]
    have joined : oscCrcContinue (oscCrc (slot.take 6)) (slotBody bodyLen slot) =
        oscCrc (slot.take 6 ++ slotBody bodyLen slot) := (oscCrcContinue_append 0 _ _).symm
    rw [joined]
    have carried : Carries magic version bodyLen slot ↔
        (slot.getD 0 0 = magic ∧ slot.getD 1 0 = version) ∧ (slotWord slot 4).toNat = bodyLen ∧
          oscCrc (slot.take 6 ++ slotBody bodyLen slot) = slotWord slot 6 := by
      constructor
      next =>
        intro gates
        exact ⟨⟨(getElem?_eq_iff_getD (by omega)).mp gates.magic,
          (getElem?_eq_iff_getD two).mp gates.version⟩,
          (slotWord_eq_iff fits).mpr gates.length, gates.crc.symm⟩
      next =>
        rintro ⟨⟨first, second⟩, length, crc⟩
        exact ⟨roomy, (getElem?_eq_iff_getD (by omega)).mpr first, (getElem?_eq_iff_getD two).mpr second,
          (slotWord_eq_iff fits).mp length, crc.symm⟩
    rw [carried]
    grind

theorem foldl_oscCrcContinue (crc : UInt16) (segments : List (List UInt8)) :
    segments.foldl oscCrcContinue crc = oscCrcContinue crc segments.flatten := by
  induction segments generalizing crc with
  | nil => rfl
  | cons segment rest ih => rw [List.foldl_cons, ih, List.flatten_cons, oscCrcContinue_append]

@[simp] theorem length_slotHeader (seq : UInt16) (segments : List (List UInt8)) :
    (slotHeader magic version bodyLen seq segments).length = headerLen := rfl

theorem slot_front {slot : List UInt8} (long : headerLen ≤ slot.length) :
    ∃ m v s₀ s₁ l₀ l₁ c₀ c₁ rest, slot = m :: v :: s₀ :: s₁ :: l₀ :: l₁ :: c₀ :: c₁ :: rest := by
  rcases slot with _ | ⟨m, _ | ⟨v, _ | ⟨s₀, _ | ⟨s₁, _ | ⟨l₀, _ | ⟨l₁, _ | ⟨c₀, _ | ⟨c₁, rest⟩⟩⟩⟩⟩⟩⟩⟩
  all_goals first
    | exact ⟨_, _, _, _, _, _, _, _, _, rfl⟩
    | simp [headerLen] at long

/-- A slot carries an image exactly when an assembled one is what it starts with. -/
theorem carries_iff {slot : List UInt8} {seq : UInt16} {body : List UInt8} (size : body.length = bodyLen)
    {segments : List (List UInt8)} (split : segments.flatten = body) :
    Carries magic version bodyLen slot ∧ seq = slotWord slot 2 ∧ body = slotBody bodyLen slot ↔
      slotHeader magic version bodyLen seq segments ++ body <+: slot := by
  constructor
  next =>
    rintro ⟨carries, rfl, taken⟩
    obtain ⟨m, v, s₀, s₁, l₀, l₁, c₀, c₁, rest, rfl⟩ :=
      slot_front (Nat.le_trans (Nat.le_add_right _ _) carries.long)
    have first : m = magic := Option.some.inj carries.magic
    have second : v = version := Option.some.inj carries.version
    have length : u16ToLe (UInt16.ofNat bodyLen) = [l₀, l₁] := by
      rw [← carries.length]
      exact u16ToLe_fromLe l₀ l₁
    have seq : u16ToLe (slotWord (m :: v :: s₀ :: s₁ :: l₀ :: l₁ :: c₀ :: c₁ :: rest) 2) = [s₀, s₁] :=
      u16ToLe_fromLe s₀ s₁
    have crc : u16ToLe (oscCrcContinue (oscCrc [m, v, s₀, s₁, l₀, l₁]) body) = [c₀, c₁] := by
      rw [oscCrc, ← oscCrcContinue_append, taken]
      exact (congrArg u16ToLe carries.crc).symm.trans (u16ToLe_fromLe c₀ c₁)
    have header : slotHeader magic version bodyLen
        (slotWord (m :: v :: s₀ :: s₁ :: l₀ :: l₁ :: c₀ :: c₁ :: rest) 2) segments =
          [m, v, s₀, s₁, l₀, l₁, c₀, c₁] := by
      simp only [slotHeader, seq, length, foldl_oscCrcContinue, split, ← first, ← second]
      exact congrArg ([m, v, s₀, s₁, l₀, l₁] ++ ·) crc
    rw [header, taken]
    exact List.prefix_append_right_inj [m, v, s₀, s₁, l₀, l₁, c₀, c₁] |>.mpr (List.take_prefix bodyLen rest)
  next =>
    rintro ⟨rest, rfl⟩
    have front : (slotHeader magic version bodyLen seq segments).take 6 =
        [magic, version] ++ u16ToLe seq ++ u16ToLe (UInt16.ofNat bodyLen) := rfl
    have held : slotBody bodyLen (slotHeader magic version bodyLen seq segments ++ body ++ rest) = body := by
      rw [slotBody, List.append_assoc, ← length_slotHeader seq segments, List.drop_left, ← size, List.take_left]
    refine ⟨⟨?_, rfl, rfl, ?_, ?_⟩, ?_, held.symm⟩
    next => simp [size]
    next => exact u16FromLe_toLe (UInt16.ofNat bodyLen)
    next =>
      rw [held, List.append_assoc, List.take_append_of_le_length (by simp [headerLen]), front, oscCrc,
        oscCrcContinue_append, ← oscCrc, ← split, ← foldl_oscCrcContinue]
      exact u16FromLe_toLe _
    next => exact (u16FromLe_toLe seq).symm

end Codec

theorem fieldsAllowed_iff {persisted : Nat → Option UInt8} {regions : List (Nat × List UInt8)}
    (covers : ∀ addr b, persisted addr = some b ↔
      ∃ region ∈ regions, ∃ i < region.2.length, addr = region.1 + i ∧ b = region.2.getD i 0) :
    fieldsAllowed persisted = true ↔ ∀ region ∈ regions, Fits controlTable.allowedByte region := by
  constructor
  next =>
    intro allowed region member
    exact fits_of_persistedByte allowed
      (fun i within => (covers _ _).mpr ⟨region, member, i, within, rfl, rfl⟩)
  next =>
    intro fits
    apply List.all_eq_true.mpr
    intro rule member
    split
    next b persisted =>
      obtain ⟨region, inside, i, within, at_, rfl⟩ := (covers _ _).mp persisted
      exact List.contains_iff_mem.mpr (fits region inside i within rule member at_)
    next => rfl

theorem Image.persistedByte_iff {image : Image} (config : image.config.length = configSize)
    (profile : image.profile.length = profileSize) (addr : Nat) (b : UInt8) :
    image.persistedByte addr = some b ↔
      ∃ region ∈ [(configBase, image.config), (profileBase, image.profile)],
        ∃ i < region.2.length, addr = region.1 + i ∧ b = region.2.getD i 0 := by
  simp only [List.mem_cons, List.not_mem_nil, or_false, exists_eq_or_imp, exists_eq_left, config, profile,
    Image.persistedByte]
  split
  next inside =>
    constructor
    next =>
      intro found
      exact .inl ⟨addr - configBase, by omega, by omega, (Option.some.inj found).symm⟩
    next =>
      rintro (⟨i, within, rfl, rfl⟩ | ⟨i, within, rfl, -⟩)
      next => rw [Nat.add_sub_cancel_left]
      next => simp only [configBase, configSize, profileBase] at inside; omega
  next outside =>
    split
    next inside =>
      constructor
      next =>
        intro found
        exact .inr ⟨addr - profileBase, by omega, by omega, (Option.some.inj found).symm⟩
      next =>
        rintro (⟨i, within, rfl, -⟩ | ⟨i, within, rfl, rfl⟩)
        next => omega
        next => rw [Nat.add_sub_cancel_left]
    next beyond =>
      constructor
      next => intro found; cases found
      next =>
        rintro (⟨i, within, rfl, -⟩ | ⟨i, within, rfl, -⟩)
        next => omega
        next => omega

theorem CalibImage.persistedByte_iff {image : CalibImage} (calib : image.calib.length = calibSize)
    (addr : Nat) (b : UInt8) :
    image.persistedByte addr = some b ↔
      ∃ region ∈ [(calibBase, image.calib)],
        ∃ i < region.2.length, addr = region.1 + i ∧ b = region.2.getD i 0 := by
  simp only [List.mem_cons, List.not_mem_nil, or_false, exists_eq_left, calib, CalibImage.persistedByte]
  split
  next inside =>
    constructor
    next =>
      intro found
      exact ⟨addr - calibBase, by omega, by omega, (Option.some.inj found).symm⟩
    next =>
      rintro ⟨i, within, rfl, rfl⟩
      rw [Nat.add_sub_cancel_left]
  next outside =>
    constructor
    next => intro found; cases found
    next =>
      rintro ⟨i, within, rfl, -⟩
      omega

def Image.Allowed (image : Image) : Prop :=
  Fits controlTable.allowedByte (configBase, image.config) ∧
    Fits controlTable.allowedByte (profileBase, image.profile)

def CalibImage.Allowed (image : CalibImage) : Prop :=
  Fits controlTable.allowedByte (calibBase, image.calib)

def Image.ofSlot (slot : List UInt8) : Image :=
  let body := slotBody (configSize + profileSize) slot
  ⟨slotWord slot 2, body.take configSize, body.drop configSize⟩

def CalibImage.ofSlot (slot : List UInt8) : CalibImage :=
  ⟨slotWord slot 2, slotBody calibSize slot⟩

theorem Image.parse_iff {slot : List UInt8} {image : Image} :
    Image.parse slot = some image ↔
      Carries imageMagic imageVersion (configSize + profileSize) slot ∧ (Image.ofSlot slot).Allowed ∧
        image = Image.ofSlot slot := by
  have gated (seq : UInt16) (body : List UInt8) :=
    @parseSlot_iff imageMagic imageVersion (configSize + profileSize) slot seq body (by decide)
  have pass (carries : Carries imageMagic imageVersion (configSize + profileSize) slot) :
      fieldsAllowed (Image.ofSlot slot).persistedByte = true ↔ (Image.ofSlot slot).Allowed := by
    have long := carries.long
    have config : (Image.ofSlot slot).config.length = configSize := by
      simp only [Image.ofSlot, slotBody, List.length_take, List.length_drop]; omega
    have profile : (Image.ofSlot slot).profile.length = profileSize := by
      simp only [Image.ofSlot, slotBody, List.length_take, List.length_drop]; omega
    rw [fieldsAllowed_iff (Image.persistedByte_iff config profile)]
    simp [Image.Allowed]
  simp only [Image.parse, Option.bind_eq_bind, Option.bind_eq_some_iff, Prod.exists,
    Option.ite_none_right_eq_some, Option.some.injEq]
  constructor
  next =>
    rintro ⟨seq, body, parsed, allowed, rfl⟩
    obtain ⟨carries, rfl, rfl⟩ := (gated seq body).mp parsed
    exact ⟨carries, (pass carries).mp allowed, rfl⟩
  next =>
    rintro ⟨carries, allowed, rfl⟩
    exact ⟨_, _, (gated _ _).mpr ⟨carries, rfl, rfl⟩, (pass carries).mpr allowed, rfl⟩

theorem CalibImage.parse_iff {slot : List UInt8} {image : CalibImage} :
    CalibImage.parse slot = some image ↔
      Carries calibImageMagic calibImageVersion calibSize slot ∧ (CalibImage.ofSlot slot).Allowed ∧
        image = CalibImage.ofSlot slot := by
  have gated (seq : UInt16) (body : List UInt8) :=
    @parseSlot_iff calibImageMagic calibImageVersion calibSize slot seq body (by decide)
  have pass (carries : Carries calibImageMagic calibImageVersion calibSize slot) :
      fieldsAllowed (CalibImage.ofSlot slot).persistedByte = true ↔ (CalibImage.ofSlot slot).Allowed := by
    have long := carries.long
    have calib : (CalibImage.ofSlot slot).calib.length = calibSize := by
      simp only [CalibImage.ofSlot, slotBody, List.length_take, List.length_drop]; omega
    rw [fieldsAllowed_iff (CalibImage.persistedByte_iff calib)]
    simp [CalibImage.Allowed]
  simp only [CalibImage.parse, Option.bind_eq_bind, Option.bind_eq_some_iff, Prod.exists,
    Option.ite_none_right_eq_some, Option.some.injEq]
  constructor
  next =>
    rintro ⟨seq, body, parsed, allowed, rfl⟩
    obtain ⟨carries, rfl, rfl⟩ := (gated seq body).mp parsed
    exact ⟨carries, (pass carries).mp allowed, rfl⟩
  next =>
    rintro ⟨carries, allowed, rfl⟩
    exact ⟨_, _, (gated _ _).mpr ⟨carries, rfl, rfl⟩, (pass carries).mpr allowed, rfl⟩

theorem ofSlot_assemble {image : Image} (config : image.config.length = configSize)
    (profile : image.profile.length = profileSize) {slot : List UInt8} :
    Carries imageMagic imageVersion (configSize + profileSize) slot ∧ image = Image.ofSlot slot ↔
      assemble image.seq image.config image.profile <+: slot := by
  have shape : assemble image.seq image.config image.profile =
      slotHeader imageMagic imageVersion (configSize + profileSize) image.seq [image.config, image.profile] ++
        (image.config ++ image.profile) := by
    rw [← List.append_assoc]
    rfl
  have parts (body : List UInt8) : image.config ++ image.profile = body ↔
      image.config = body.take configSize ∧ image.profile = body.drop configSize := by
    constructor
    next =>
      rintro rfl
      rw [← config]
      exact ⟨List.take_left.symm, List.drop_left.symm⟩
    next =>
      rintro ⟨front, rest⟩
      rw [front, rest, List.take_append_drop]
  rw [shape, ← carries_iff (by rw [List.length_append, config, profile]) (by simp), parts]
  obtain ⟨seq, configBytes, profileBytes⟩ := image
  simp only [Image.ofSlot, Image.mk.injEq]

theorem ofSlot_calibAssemble {image : CalibImage} (calib : image.calib.length = calibSize)
    {slot : List UInt8} :
    Carries calibImageMagic calibImageVersion calibSize slot ∧ image = CalibImage.ofSlot slot ↔
      calibAssemble image.seq image.calib <+: slot := by
  rw [calibAssemble, calibHeader, ← carries_iff calib (by simp)]
  obtain ⟨seq, calibBytes⟩ := image
  simp only [CalibImage.ofSlot, CalibImage.mk.injEq]

theorem Image.parse_assemble {image : Image} (config : image.config.length = configSize)
    (profile : image.profile.length = profileSize) (rest : List UInt8) :
    Image.parse (assemble image.seq image.config image.profile ++ rest) = some image ↔ image.Allowed := by
  obtain ⟨carries, same⟩ := (ofSlot_assemble config profile).mpr (List.prefix_append _ rest)
  rw [Image.parse_iff, ← same]
  simp [carries]

theorem CalibImage.parse_calibAssemble {image : CalibImage} (calib : image.calib.length = calibSize)
    (rest : List UInt8) :
    CalibImage.parse (calibAssemble image.seq image.calib ++ rest) = some image ↔ image.Allowed := by
  obtain ⟨carries, same⟩ := (ofSlot_calibAssemble calib).mpr (List.prefix_append _ rest)
  rw [CalibImage.parse_iff, ← same]
  simp [carries]

theorem slotBody_take (bodyLen : Nat) (slot : List UInt8) :
    slotBody bodyLen (slot.take (headerLen + bodyLen)) = slotBody bodyLen slot := by
  rw [slotBody, slotBody, List.drop_take, Nat.add_sub_cancel_left, List.take_take, Nat.min_self]

/-- The gates look no further than the image: what follows it in the slot changes nothing. -/
theorem carries_take {magic version : UInt8} {bodyLen : Nat} (slot : List UInt8) :
    Carries magic version bodyLen (slot.take (headerLen + bodyLen)) ↔ Carries magic version bodyLen slot := by
  have byte (i : Nat) (inside : i < headerLen) : (slot.take (headerLen + bodyLen))[i]? = slot[i]? := by
    rw [List.getElem?_take_of_lt (by omega)]
  have word (i : Nat) (inside : i + 1 < headerLen) :
      slotWord (slot.take (headerLen + bodyLen)) i = slotWord slot i := slotWord_take (by omega)
  have front : (slot.take (headerLen + bodyLen)).take 6 = slot.take 6 := by
    rw [List.take_take, show min 6 (headerLen + bodyLen) = 6 by simp [headerLen]; omega]
  constructor
  next =>
    intro carries
    have long := carries.long
    rw [List.length_take] at long
    refine ⟨by omega, ?_, ?_, ?_, ?_⟩
    next => rw [← byte 0 (by decide), carries.magic]
    next => rw [← byte 1 (by decide), carries.version]
    next => rw [← word 4 (by decide), carries.length]
    next => rw [← word 6 (by decide), carries.crc, front, slotBody_take]
  next =>
    intro carries
    have long := carries.long
    refine ⟨by rw [List.length_take]; omega, ?_, ?_, ?_, ?_⟩
    next => rw [byte 0 (by decide), carries.magic]
    next => rw [byte 1 (by decide), carries.version]
    next => rw [word 4 (by decide), carries.length]
    next => rw [word 6 (by decide), carries.crc, front, slotBody_take]

theorem Image.ofSlot_take (slot : List UInt8) : Image.ofSlot (slot.take imageLen) = Image.ofSlot slot := by
  have body := slotBody_take (configSize + profileSize) slot
  have seq : slotWord (slot.take imageLen) 2 = slotWord slot 2 := slotWord_take (by decide)
  rw [show headerLen + (configSize + profileSize) = imageLen from rfl] at body
  simp only [Image.ofSlot, body, seq]

theorem CalibImage.ofSlot_take (slot : List UInt8) :
    CalibImage.ofSlot (slot.take calibImageLen) = CalibImage.ofSlot slot := by
  have body := slotBody_take calibSize slot
  have seq : slotWord (slot.take calibImageLen) 2 = slotWord slot 2 := slotWord_take (by decide)
  rw [show headerLen + calibSize = calibImageLen from rfl] at body
  simp only [CalibImage.ofSlot, body, seq]

theorem Image.parse_isSome_iff (slot : List UInt8) :
    (Image.parse slot).isSome ↔
      Carries imageMagic imageVersion (configSize + profileSize) (slot.take imageLen) ∧
        (Image.ofSlot (slot.take imageLen)).Allowed := by
  rw [Option.isSome_iff_exists, Image.ofSlot_take,
    show slot.take imageLen = slot.take (headerLen + (configSize + profileSize)) from rfl, carries_take]
  simp only [Image.parse_iff]
  constructor
  next => exact fun ⟨_, carries, allowed, _⟩ => ⟨carries, allowed⟩
  next => exact fun ⟨carries, allowed⟩ => ⟨_, carries, allowed, rfl⟩

theorem CalibImage.parse_isSome_iff (slot : List UInt8) :
    (CalibImage.parse slot).isSome ↔
      Carries calibImageMagic calibImageVersion calibSize (slot.take calibImageLen) ∧
        (CalibImage.ofSlot (slot.take calibImageLen)).Allowed := by
  rw [Option.isSome_iff_exists, CalibImage.ofSlot_take,
    show slot.take calibImageLen = slot.take (headerLen + calibSize) from rfl, carries_take]
  simp only [CalibImage.parse_iff]
  constructor
  next => exact fun ⟨_, carries, allowed, _⟩ => ⟨carries, allowed⟩
  next => exact fun ⟨carries, allowed⟩ => ⟨_, carries, allowed, rfl⟩

theorem Image.parse_sizes {slot : List UInt8} {image : Image} (parsed : Image.parse slot = some image) :
    image.config.length = configSize ∧ image.profile.length = profileSize := by
  obtain ⟨carries, -, rfl⟩ := Image.parse_iff.mp parsed
  have long := carries.long
  simp only [Image.ofSlot, slotBody, List.length_take, List.length_drop]
  omega

theorem CalibImage.parse_size {slot : List UInt8} {image : CalibImage}
    (parsed : CalibImage.parse slot = some image) : image.calib.length = calibSize := by
  obtain ⟨carries, -, rfl⟩ := CalibImage.parse_iff.mp parsed
  have long := carries.long
  simp only [CalibImage.ofSlot, slotBody, List.length_take, List.length_drop]
  omega

theorem peek_overlayPersistent (table : ControlTable) {config profile : List UInt8}
    (configLen : config.length = configSize) (profileLen : profile.length = profileSize) {addr : Nat}
    (inside : addr < tableSize) :
    peek (overlayPersistent table config profile) addr =
      if configBase + Addr.id ≤ addr ∧ addr < configBase + configSize then config.getD (addr - configBase) 0
      else if profileBase ≤ addr ∧ addr < profileBase + profileSize then profile.getD (addr - profileBase) 0
      else peek table addr := by
  have within : addr < controlTable.size := inside
  rw [overlayPersistent, peek_poke _ _ _ _ within, peek_poke _ _ _ _ within]
  rw [List.length_drop, configLen, profileLen]
  have sizes : configBase = 0 ∧ configSize = 128 ∧ profileBase = 640 ∧ profileSize = 64 ∧ Addr.id = 16 := by
    decide
  by_cases own : configBase + Addr.id ≤ addr ∧ addr < configBase + configSize
  next =>
    rw [if_neg (by omega), if_pos (by omega), if_pos own, List.getD_eq_getElem?_getD,
      List.getElem?_drop, List.getD_eq_getElem?_getD,
      show Addr.id + (addr - (configBase + Addr.id)) = addr - configBase by omega]
  next =>
    rw [if_neg own]
    by_cases held : profileBase ≤ addr ∧ addr < profileBase + profileSize
    next => rw [if_pos held, if_pos held]
    next => rw [if_neg held, if_neg held, if_neg (by omega)]

theorem peek_overlayPersistentCalib (table : ControlTable) {calib : List UInt8}
    (calibLen : calib.length = calibSize) {addr : Nat} (inside : addr < tableSize) :
    peek (overlayPersistentCalib table calib) addr =
      if calibBase ≤ addr ∧ addr < calibBase + calibSize then calib.getD (addr - calibBase) 0
      else peek table addr := by
  have within : addr < controlTable.size := inside
  rw [overlayPersistentCalib, peek_poke _ _ _ _ within, calibLen]

/-- The saved-image codec, for both image kinds: a saved image reads back as it was saved exactly when
its regions hold allowed values, a slot's first bytes alone decide whether it is one, and applying it
replaces the persisted bytes and no others. -/
theorem savedImages_codec :
    (∀ (seq : UInt16) (config : Vector UInt8 configSize) (profile : Vector UInt8 profileSize),
      let image : Image := ⟨seq, config.toList, profile.toList⟩
      Image.parse (assemble seq config.toList profile.toList) = some image ↔ image.Allowed) ∧
    (∀ slot : List UInt8,
      (Image.parse slot).isSome ↔
        Carries imageMagic imageVersion (configSize + profileSize) (slot.take imageLen) ∧
          (Image.ofSlot (slot.take imageLen)).Allowed) ∧
    (∀ (table : ControlTable) (slot : List UInt8) (image : Image) (addr : Nat),
      Image.parse slot = some image → addr < tableSize →
        peek (overlayPersistent table image.config image.profile) addr =
          if configBase + Addr.id ≤ addr ∧ addr < configBase + configSize then
            image.config.getD (addr - configBase) 0
          else if profileBase ≤ addr ∧ addr < profileBase + profileSize then
            image.profile.getD (addr - profileBase) 0
          else peek table addr) ∧
    (∀ (seq : UInt16) (calib : Vector UInt8 calibSize),
      let image : CalibImage := ⟨seq, calib.toList⟩
      CalibImage.parse (calibAssemble seq calib.toList) = some image ↔ image.Allowed) ∧
    (∀ slot : List UInt8,
      (CalibImage.parse slot).isSome ↔
        Carries calibImageMagic calibImageVersion calibSize (slot.take calibImageLen) ∧
          (CalibImage.ofSlot (slot.take calibImageLen)).Allowed) ∧
    (∀ (table : ControlTable) (slot : List UInt8) (image : CalibImage) (addr : Nat),
      CalibImage.parse slot = some image → addr < tableSize →
        peek (overlayPersistentCalib table image.calib) addr =
          if calibBase ≤ addr ∧ addr < calibBase + calibSize then image.calib.getD (addr - calibBase) 0
          else peek table addr) := by
  refine ⟨?_, Image.parse_isSome_iff, ?_, ?_, CalibImage.parse_isSome_iff, ?_⟩
  next =>
    intro seq config profile image
    have read := @Image.parse_assemble image config.length_toList profile.length_toList []
    rwa [List.append_nil] at read
  next =>
    intro table slot image addr parsed inside
    obtain ⟨config, profile⟩ := Image.parse_sizes parsed
    exact peek_overlayPersistent table config profile inside
  next =>
    intro seq calib image
    have read := @CalibImage.parse_calibAssemble image calib.length_toList []
    rwa [List.append_nil] at read
  next =>
    intro table slot image addr parsed inside
    exact peek_overlayPersistentCalib table (CalibImage.parse_size parsed) inside

end OpenServo.Core
