import OpenServo.Usb.Bus

set_option autoImplicit false

namespace OpenServo.Usb

open OpenServo.Protocol OpenServo.Shared

section Stage

variable {size : Nat}

theorem readBytes_add (store : Store size) (addr first second : Nat) :
    readBytes store addr (first + second) = readBytes store addr first ++ readBytes store (addr + first) second := by
  simp [readBytes, List.range_add, Nat.add_assoc]

theorem readBytes_take (store : Store size) (addr : Nat) {count n : Nat} (few : n ≤ count) :
    (readBytes store addr count).take n = readBytes store addr n := by
  obtain ⟨more, rfl⟩ := Nat.exists_eq_add_of_le few
  rw [readBytes_add, List.take_left' (length_readBytes store addr n)]

theorem readBytes_head (store : Store size) (head body : List UInt8) (fits : head.length + body.length ≤ size) :
    readBytes (poke (poke store head.length body) 0 head) 0 (head.length + body.length) = head ++ body := by
  rw [readBytes_add, readBytes_poke _ 0 head (by omega), Nat.zero_add,
    readBytes_poke_outside _ 0 head head.length body.length (.inr (by omega)), readBytes_poke store head.length body fits]

end Stage

theorem length_widened (text : List UInt8) : (widened text).length = 2 * text.length := by
  induction text with
  | nil => rfl
  | cons c text ih =>
    simp only [widened, List.flatMap_cons, List.length_append, List.length_cons, List.length_nil] at ih ⊢
    omega

namespace UsbDevice

variable {dev : UsbDevice}

def text (dev : UsbDevice) (idx : UInt8) : Option (List UInt8) :=
  if idx = 0 then some [0x09, 0x04]
  else if idx = 1 then some (widened strManufacturer)
  else if idx = 2 then some (widened strProduct)
  else if idx = 3 then some (widened (readBytes dev.serial 0 24))
  else if idx = 4 then some (widened strInterface)
  else none

def descriptor (dev : UsbDevice) (kind idx : UInt8) : Option (List UInt8) :=
  if kind = descDevice then some deviceDesc
  else if kind = descConfig then some (configDesc dev.mps)
  else if kind = descQualifier then some qualifierDesc
  else if kind = descOtherSpeed then none
  else if kind = descBos then some bosDesc
  else if kind = descString then (dev.text idx).map fun text => [.ofNat (2 + text.length), descString] ++ text
  else none

def answer (dev : UsbDevice) (setup : Setup) : Option (List UInt8) :=
  if setup.reqType = 0x80 ∧ setup.request = 6 then
    dev.descriptor (setup.value >>> 8).toUInt8 (setup.value &&& 0xFF).toUInt8
  else if 0x80 ≤ setup.reqType ∧ setup.reqType ≤ 0x82 ∧ setup.request = 0 then some [0, 0]
  else if setup.reqType = 0x00 ∧ setup.request = 5 then some []
  else if setup.reqType = 0x00 ∧ setup.request = 9 then
    if setup.value = 0 then some [] else if setup.value = 1 then some [] else none
  else if setup.reqType = 0x80 ∧ setup.request = 8 then some [if dev.configured then 1 else 0]
  else if setup.reqType = 0x81 ∧ setup.request = 10 then some [0]
  else if setup.reqType = 0x01 ∧ setup.request = 11 ∧ setup.value = 0 then some []
  else if setup.reqType = 0x02 ∧ setup.request = 1 ∧ setup.value = 0 then some []
  else if setup.reqType = 0xC0 ∧ setup.request = msVendorCode ∧ setup.index = 7 then some msOsDesc
  else none

def Staged (dev : UsbDevice) : Option Nat → Option (List UInt8) → Prop
  | reply, none => reply = none
  | reply, some bytes => reply = some bytes.length ∧ readBytes dev.stage 0 bytes.length = bytes

theorem staged_setStage (dev : UsbDevice) {bytes : List UInt8} (fits : bytes.length ≤ 256) :
    (dev.setStage bytes).Staged (some bytes.length) (some bytes) :=
  ⟨rfl, readBytes_poke dev.stage 0 bytes (by omega)⟩

theorem stringBody_staged (idx : UInt8) : match dev.text idx with
    | none => dev.stringBody idx = none
    | some text => ∃ after, dev.stringBody idx = some (after, 2 + text.length) ∧
        after.stage = poke dev.stage 2 text ∧ text.length < 254 := by
  unfold text stringBody utf16String
  split_ifs
  next => exact ⟨_, rfl, rfl, by decide⟩
  next => exact ⟨_, by rw [length_widened], rfl, by rw [length_widened]; decide⟩
  next => exact ⟨_, by rw [length_widened], rfl, by rw [length_widened]; decide⟩
  next => exact ⟨_, by rw [length_widened], rfl, by rw [length_widened, length_readBytes]; decide⟩
  next => exact ⟨_, by rw [length_widened], rfl, by rw [length_widened]; decide⟩
  next => rfl

theorem staged_ite {p : Prop} [Decidable p] {out out' : UsbDevice × Option Nat} {reply reply' : Option (List UInt8)}
    (pos : out.1.Staged out.2 reply) (neg : out'.1.Staged out'.2 reply') :
    (if p then out else out').1.Staged (if p then out else out').2 (if p then reply else reply') := by
  split
  next => exact pos
  next => exact neg

theorem loadDescriptor_staged (kind idx : UInt8) :
    (dev.loadDescriptor kind idx).1.Staged (dev.loadDescriptor kind idx).2 (dev.descriptor kind idx) := by
  refine staged_ite (staged_setStage dev (by decide)) (staged_ite (@staged_setStage dev (configDesc dev.mps) ?_)
    (staged_ite (staged_setStage dev (by decide)) (staged_ite rfl (staged_ite (staged_setStage dev (by decide))
      (staged_ite ?_ rfl)))))
  next => simp [configDesc, u16ToLe]
  next =>
    have body := @stringBody_staged dev idx
    cases text : dev.text idx with
    | none =>
      rw [text] at body
      rw [body]
      rfl
    | some bytes =>
      rw [text] at body
      obtain ⟨after, same, stage, short⟩ := body
      rw [same]
      have whole := readBytes_head dev.stage [.ofNat (2 + bytes.length), descString] bytes (by simp; omega)
      have length : ([.ofNat (2 + bytes.length), descString] ++ bytes).length = 2 + bytes.length := by
        rw [List.length_append]
        rfl
      refine ⟨congrArg some length.symm, ?_⟩
      rw [length]
      simp only [setStage, stage]
      exact whole

theorem serve_staged (setup : Setup) : (dev.serve setup).1.Staged (dev.serve setup).2 (dev.answer setup) := by
  unfold serve answer
  refine staged_ite (loadDescriptor_staged _ _) (staged_ite (staged_setStage dev (by decide)) (staged_ite ⟨rfl, rfl⟩ ?_))
  refine staged_ite (staged_ite ⟨rfl, rfl⟩ (staged_ite ⟨rfl, rfl⟩ rfl)) (staged_ite ?flag ?_)
  case flag => exact @staged_setStage dev [if dev.configured then 1 else 0] (by simp)
  refine staged_ite (staged_setStage dev (by decide)) (staged_ite ⟨rfl, rfl⟩ (staged_ite ⟨rfl, rfl⟩ (staged_ite ?_ rfl)))
  exact @staged_setStage dev msOsDesc (by decide +kernel)

/-- A host that asked for more can tell where the answer ends: its last packet is short. -/
def Ends (reply : Option (List UInt8)) : Prop :=
  ∀ bytes, reply = some bytes → bytes.length = 0 ∨ bytes.length % ep0Mps ≠ 0

theorem ends_some {bytes : List UInt8} (ends : bytes.length = 0 ∨ bytes.length % ep0Mps ≠ 0) : Ends (some bytes) := by
  rintro _ ⟨⟩
  exact ends

theorem ends_none : Ends none := by
  rintro _ ⟨⟩

theorem ends_ite {p : Prop} [Decidable p] {reply reply' : Option (List UInt8)} (pos : Ends reply) (neg : Ends reply') :
    Ends (if p then reply else reply') := by
  split
  next => exact pos
  next => exact neg

theorem text_length (idx : UInt8) : ∀ text, dev.text idx = some text → text.length ∈ [2, 26, 40, 48, 16] := by
  unfold text
  split_ifs
  all_goals rintro _ ⟨⟩
  next => decide
  next => rw [length_widened]; decide
  next => rw [length_widened]; decide
  next => rw [length_widened, length_readBytes]; decide
  next => rw [length_widened]; decide

theorem descriptor_ends (kind idx : UInt8) : Ends (dev.descriptor kind idx) := by
  refine ends_ite (ends_some (by decide)) (ends_ite (ends_some ?_) (ends_ite (ends_some (by decide)) (ends_ite ends_none
    (ends_ite (ends_some (by decide)) (ends_ite ?_ ends_none)))))
  next => simp [configDesc, u16ToLe, ep0Mps]
  next =>
    intro bytes found
    obtain ⟨text, body, rfl⟩ := Option.map_eq_some_iff.mp found
    have length := text_length idx text body
    simp only [List.mem_cons, List.not_mem_nil, or_false] at length
    rw [List.length_append, ep0Mps]
    rcases length with length | length | length | length | length <;> rw [length] <;> decide

theorem answer_ends (setup : Setup) : Ends (dev.answer setup) := by
  have empty : Ends (some []) := ends_some (.inl rfl)
  refine ends_ite (descriptor_ends _ _) (ends_ite (ends_some (by decide)) (ends_ite empty ?_))
  refine ends_ite (ends_ite empty (ends_ite empty ends_none)) (ends_ite (ends_some ?_) (ends_ite (ends_some (by decide)) ?_))
  next => simp [ep0Mps]
  next => exact ends_ite empty (ends_ite empty (ends_ite (ends_some (by decide +kernel)) ends_none))

end UsbDevice

end OpenServo.Usb
