import OpenServo.Protocol.GroupGrammar

set_option autoImplicit false

namespace OpenServo.Protocol

open OpenServo.Shared OpenServo.Shared.Iterates FrameBytes

theorem find?_eq_zipIdx {F : Type} (entries : List F) (p : F → Bool) (start : Nat) :
    entries.find? p = ((entries.zipIdx start).find? fun e => p e.1).map Prod.fst := by
  induction entries generalizing start with
  | nil => rfl
  | cons head tail ih =>
    rw [List.zipIdx_cons]
    by_cases here : p head = true
    next => simp [here]
    next =>
      rw [List.find?_cons_of_neg here, ih (start + 1)]
      simp [here]

theorem eq_ofNat_iff {k : Nat} (few : k < 256) (slot : UInt8) : slot.toNat = k ↔ slot = UInt8.ofNat k := by
  rw [← UInt8.toNat_inj, UInt8.toNat_ofNat_of_lt' few]

section Lookups

variable {F : Type} {idOf : F → UInt8} {entries : List F}

theorem findSlot_finds (few : entries.length ≤ maxPayload) :
    Finds idOf entries (fun k e r => r.1.toNat = k ∧ r.2 = e) (findSlot idOf entries) := by
  refine .of_zipIdx (fun k e => (UInt8.ofNat k, e)) ?_ (fun _ => rfl)
  rintro k e ⟨slot, e'⟩ below
  have most : maxPayload = 252 := rfl
  rw [eq_ofNat_iff (by omega), Prod.mk.injEq]

theorem slotOf_finds {ids : FrameBytes} (few : ids.bytes.length ≤ maxPayload) :
    Finds (fun b => b) ids.bytes (fun k _ slot => slot.toNat = k) (slotOf ids) := by
  refine .of_zipIdx (fun k _ => UInt8.ofNat k) ?_ ?_
  next =>
    intro k e slot below
    have most : maxPayload = 252 := rfl
    exact eq_ofNat_iff (by omega) slot
  next =>
    intro id
    rw [slotOf, List.findIdx?_eq_fst_find?_zipIdx, Option.map_map]
    rfl

theorem find?_finds {R : Type} (say : F → R) :
    Finds idOf entries (fun _ e r => r = say e) (fun id => (entries.find? fun e => idOf e == id).map say) := by
  refine .of_zipIdx (fun _ e => say e) (fun _ _ _ _ => Iff.rfl) fun id => ?_
  rw [find?_eq_zipIdx entries _ 0, Option.map_map]
  rfl

end Lookups

def greadUniform : GroupForm (UInt16 × UInt16) UInt8 UInt8 GreadUniform UInt8 where
  head h front := front = u16ToLe h.1 ++ u16ToLe h.2
  entry _ id wire := wire = [id]
  parse := GreadUniform.parse
  headOf g := (g.addr, g.count)
  entries := GreadUniform.ids
  next _ := FrameBytes.next
  plain := id
  data _ := none
  idOf := id
  find g := slotOf g.ids
  tells k _ slot := slot.toNat = k

def greadPerTarget : GroupForm Unit GreadTarget GreadTarget FrameBytes (UInt8 × GreadTarget) where
  head _ front := front = []
  entry _ t wire := wire = t.id :: u16ToLe t.addr ++ u16ToLe t.count
  parse := GreadPerTarget.parse
  headOf _ := ()
  entries := id
  next _ := GreadPerTarget.next
  plain := id
  data _ := none
  idOf := GreadTarget.id
  find := GreadPerTarget.find
  tells k t r := r.1.toNat = k ∧ r.2 = t

def greadProfileUniform : GroupForm UInt8 UInt8 UInt8 GreadProfileUniform UInt8 where
  head slot front := front = [slot]
  entry _ id wire := wire = [id]
  parse := GreadProfileUniform.parse
  headOf := GreadProfileUniform.slot
  entries := GreadProfileUniform.ids
  next _ := FrameBytes.next
  plain := id
  data _ := none
  idOf := id
  find g := slotOf g.ids
  tells k _ slot := slot.toNat = k

def greadProfilePerTarget :
    GroupForm Unit GreadProfileTarget GreadProfileTarget FrameBytes (UInt8 × GreadProfileTarget) where
  head _ front := front = []
  entry _ t wire := wire = [t.id, t.slot]
  parse := GreadProfilePerTarget.parse
  headOf _ := ()
  entries := id
  next _ := GreadProfilePerTarget.next
  plain := id
  data _ := none
  idOf := GreadProfileTarget.id
  find := GreadProfilePerTarget.find
  tells k t r := r.1.toNat = k ∧ r.2 = t

def gwriteUniform :
    GroupForm (UInt16 × UInt8) (UInt8 × List UInt8) (UInt8 × FrameBytes) GwriteUniform FrameBytes where
  head h front := h.2 ≠ 0 ∧ front = u16ToLe h.1 ++ [h.2]
  entry h e wire := e.2.length = h.2.toNat ∧ wire = e.1 :: e.2
  parse := GwriteUniform.parse
  headOf g := (g.addr, g.count)
  entries := GwriteUniform.entries
  next g := GwriteUniform.next (1 + g.count.toNat)
  plain := plainEntry
  data e := some e.2
  idOf := Prod.fst
  find := GwriteUniform.find
  tells _ e r := r = e.2

def gwritePerTarget :
    GroupForm Unit (UInt8 × UInt16 × List UInt8) GwriteTarget FrameBytes GwriteTarget where
  head _ front := front = []
  entry _ t wire := ∃ count : UInt8, t.2.2.length = count.toNat ∧ wire = t.1 :: u16ToLe t.2.1 ++ count :: t.2.2
  parse := GwritePerTarget.parse
  headOf _ := ()
  entries := id
  next _ := GwritePerTarget.next
  plain := plainTarget
  data t := some t.data
  idOf := GwriteTarget.id
  find := GwritePerTarget.find
  tells _ t r := r = t

section Ids

theorem ids_iter (ids : FrameBytes) : entriesOf FrameBytes.next ids.len ids = ids.bytes :=
  entriesOf_eq next_takes ids.bytes (fun _ _ => trivial) ids (by simp) ids.len (Nat.le_of_eq ids.length_bytes)

theorem next_shrinks {view rest : FrameBytes} {b : UInt8} (taken : view.next = some (b, rest)) :
    rest.len < view.len := by
  obtain ⟨head, tail⟩ := view
  cases head with
  | cons b' head =>
    obtain ⟨-, rfl⟩ := Prod.mk.inj (Option.some.inj taken)
    simp [len]
  | nil =>
    cases tail with
    | cons b' tail =>
      obtain ⟨-, rfl⟩ := Prod.mk.inj (Option.some.inj taken)
      simp [len]
    | nil => cases taken

theorem sub_shorter {view part : FrameBytes} {start len : Nat} (cut : view.sub start len = some part) :
    part.len ≤ view.len := by
  obtain ⟨_, fits, -⟩ := inside_of_sub cut
  omega

theorem map_id_id {F : Type} (next : FrameBytes → Option (F × FrameBytes)) :
    (fun view => (next view).map (Prod.map id id)) = next := by
  funext view
  simp

end Ids

theorem map_some_iff {G A B : Type} {o : Option G} {f : G → A} {f' : G → B} (arrange : A → B)
    (injective : Function.Injective arrange) (same : ∀ g, f' g = arrange (f g)) (a : A) :
    o.map f = some a ↔ o.map f' = some (arrange a) := by
  cases o with
  | none => simp
  | some g => simp [same, injective.eq_iff]

def arrange {A B C : Type} (a : (A × B) × C) : A × B × C :=
  (a.1.1, a.1.2, a.2)

theorem arrange_injective {A B C : Type} : Function.Injective (@arrange A B C) := by
  rintro ⟨⟨a, b⟩, c⟩ ⟨⟨a', b'⟩, c'⟩ same
  simpa [arrange, and_assoc] using same

def bare {C : Type} (a : Unit × C) : C :=
  a.2

theorem bare_injective {C : Type} : Function.Injective (@bare C) := by
  rintro ⟨⟨⟩, c⟩ ⟨⟨⟩, c'⟩ same
  exact congrArg (Prod.mk ()) same

theorem greadUniform_derives (h : UInt16 × UInt16) (es wire : List UInt8) :
    greadUniform.Derives h es wire ↔ es ≠ [] ∧ wire = u16ToLe h.1 ++ u16ToLe h.2 ++ es := by
  have derives := @GroupForm.derives_iff _ _ _ _ _ greadUniform (fun _ => True) _ (fun _ _ => True) (fun _ id => [id])
    (fun _ _ => (and_iff_right trivial).symm) (fun _ _ _ => (and_iff_right trivial).symm) h es wire
  simpa using derives

theorem greadUniform_iter (g : GreadUniform) : greadUniform.iter g = g.ids.bytes :=
  ids_iter g.ids

theorem greadUniform_faithful : greadUniform.Faithful (fun _ _ => True) (fun _ id => [id]) := by
  constructor
  case reads =>
    intro view h es
    have same (g : GreadUniform) : (g.addr, g.count, g.ids.bytes) =
        arrange (greadUniform.headOf g, (greadUniform.iter g).map greadUniform.plain) := by
      rw [greadUniform_iter]
      exact congrArg (fun ids => (g.addr, g.count, ids)) (List.map_id _).symm
    rw [greadUniform_derives, map_some_iff arrange arrange_injective same]
    exact (greadUniform_reads.parse_iff view trivial (h.1, h.2, es)).trans (and_iff_right rfl)
  case takes =>
    intro g
    show Takes bytes _ _ fun view => (FrameBytes.next view).map (Prod.map id id)
    rw [map_id_id]
    exact next_takes
  case whole => exact fun _ g _ => ⟨g.ids.bytes, fun _ _ => trivial, by simp [greadUniform]⟩
  case shorter =>
    intro view g parsed
    simp only [greadUniform, GreadUniform.parse, Option.bind_eq_bind, Option.bind_eq_some_iff, Option.pure_def,
      Option.guard_eq_some', Option.some.injEq] at parsed
    obtain ⟨_, -, _, -, -, -, ids, cut, -, -, rfl⟩ := parsed
    exact sub_shorter cut
  case shrinks => exact fun _ _ _ _ => next_shrinks
  case slices => exact fun _ _ _ _ _ _ no => (by cases no)
  case finds =>
    intro g few
    rw [greadUniform_iter] at few ⊢
    exact slotOf_finds few

theorem greadProfileUniform_derives (slot : UInt8) (es wire : List UInt8) :
    greadProfileUniform.Derives slot es wire ↔ es ≠ [] ∧ wire = slot :: es := by
  have derives := @GroupForm.derives_iff _ _ _ _ _ greadProfileUniform (fun _ => True) _ (fun _ _ => True)
    (fun _ id => [id]) (fun _ _ => (and_iff_right trivial).symm) (fun _ _ _ => (and_iff_right trivial).symm) slot es wire
  simpa using derives

theorem greadProfileUniform_iter (g : GreadProfileUniform) : greadProfileUniform.iter g = g.ids.bytes :=
  ids_iter g.ids

theorem greadProfileUniform_faithful : greadProfileUniform.Faithful (fun _ _ => True) (fun _ id => [id]) := by
  constructor
  case reads =>
    intro view slot es
    have same (g : GreadProfileUniform) : (g.slot, g.ids.bytes) =
        id (greadProfileUniform.headOf g, (greadProfileUniform.iter g).map greadProfileUniform.plain) := by
      rw [greadProfileUniform_iter]
      exact congrArg (fun ids => (g.slot, ids)) (List.map_id _).symm
    rw [greadProfileUniform_derives, map_some_iff id Function.injective_id same]
    exact (greadProfileUniform_reads.parse_iff view trivial (slot, es)).trans (and_iff_right rfl)
  case takes =>
    intro g
    show Takes bytes _ _ fun view => (FrameBytes.next view).map (Prod.map id id)
    rw [map_id_id]
    exact next_takes
  case whole => exact fun _ g _ => ⟨g.ids.bytes, fun _ _ => trivial, by simp [greadProfileUniform]⟩
  case shorter =>
    intro view g parsed
    simp only [greadProfileUniform, GreadProfileUniform.parse, Option.bind_eq_bind, Option.bind_eq_some_iff,
      Option.pure_def, Option.guard_eq_some', Option.some.injEq] at parsed
    obtain ⟨_, -, -, -, ids, cut, -, -, rfl⟩ := parsed
    exact sub_shorter cut
  case shrinks => exact fun _ _ _ _ => next_shrinks
  case slices => exact fun _ _ _ _ _ _ no => (by cases no)
  case finds =>
    intro g few
    rw [greadProfileUniform_iter] at few ⊢
    exact slotOf_finds few

section PerTarget

variable {E : Type}

theorem strides_derives {F G R : Type} {form : GroupForm Unit E F G R} {ok : E → Prop} {encode : E → List UInt8}
    (heads : ∀ h front, form.head h front ↔ front = []) (writes : ∀ h e wire, form.entry h e wire ↔ ok e ∧ wire = encode e)
    (h : Unit) (es : List E) (wire : List UInt8) :
    form.Derives h es wire ↔ (es ≠ [] ∧ ∀ e ∈ es, ok e) ∧ wire = es.flatMap encode := by
  have derives := @GroupForm.derives_iff _ _ _ _ _ form (fun _ => True) (fun _ => []) (fun _ => ok) (fun _ => encode)
    (fun h front => (heads h front).trans (and_iff_right trivial).symm) writes h es wire
  simpa using derives

theorem strides_whole (strides : Strides E) {view entries : FrameBytes}
    (parsed : (if view.len = 0 ∨ view.len % strides.stride ≠ 0 then none else some view) = some entries) :
    entries = view ∧ ∃ es : List E, (∀ e ∈ es, strides.ok e) ∧ entries.bytes = es.flatMap strides.encode := by
  split at parsed
  next => cases parsed
  next even =>
    obtain rfl := Option.some.inj parsed
    obtain ⟨-, all, wire⟩ := (strides.iter_iff view _).mp ⟨by tauto, rfl⟩
    exact ⟨rfl, _, all, wire⟩

end PerTarget

theorem greadPerTarget_faithful :
    greadPerTarget.Faithful (fun _ => greadTargets.ok) (fun _ => greadTargets.encode) := by
  constructor
  case reads =>
    intro view h es
    have same (g : FrameBytes) : GreadPerTarget.iter g =
        bare (greadPerTarget.headOf g, (greadPerTarget.iter g).map greadPerTarget.plain) := (List.map_id _).symm
    rw [strides_derives (fun _ _ => Iff.rfl) (fun _ _ _ => (and_iff_right trivial).symm),
      map_some_iff bare bare_injective same]
    exact (greadTargets.reads.parse_iff view trivial es).trans (and_iff_right rfl)
  case takes =>
    intro g
    show Takes bytes _ _ fun view => (GreadPerTarget.next view).map (Prod.map id id)
    rw [map_id_id]
    exact greadTargets.takes
  case whole => exact fun view g parsed => (strides_whole greadTargets parsed).2
  case shorter =>
    intro view g parsed
    obtain rfl := (strides_whole greadTargets parsed).1
    exact Nat.le_refl _
  case shrinks =>
    intro g view e rest taken
    simp only [greadPerTarget, GreadPerTarget.next, Option.bind_eq_bind, Option.bind_eq_some_iff, Option.pure_def,
      Option.guard_eq_some', Option.some.injEq, Prod.mk.injEq] at taken
    obtain ⟨-, enough, _, -, _, -, _, -, _, cut, -, rfl⟩ := taken
    have size := sub_len cut
    omega
  case slices => exact fun _ _ _ _ _ _ no => (by cases no)
  case finds => exact fun g few => findSlot_finds few

theorem greadProfilePerTarget_faithful :
    greadProfilePerTarget.Faithful (fun _ => greadProfileTargets.ok) (fun _ => greadProfileTargets.encode) := by
  constructor
  case reads =>
    intro view h es
    have same (g : FrameBytes) : GreadProfilePerTarget.iter g =
        bare (greadProfilePerTarget.headOf g, (greadProfilePerTarget.iter g).map greadProfilePerTarget.plain) :=
      (List.map_id _).symm
    rw [strides_derives (fun _ _ => Iff.rfl) (fun _ _ _ => (and_iff_right trivial).symm),
      map_some_iff bare bare_injective same]
    exact (greadProfileTargets.reads.parse_iff view trivial es).trans (and_iff_right rfl)
  case takes =>
    intro g
    show Takes bytes _ _ fun view => (GreadProfilePerTarget.next view).map (Prod.map id id)
    rw [map_id_id]
    exact greadProfileTargets.takes
  case whole => exact fun view g parsed => (strides_whole greadProfileTargets parsed).2
  case shorter =>
    intro view g parsed
    obtain rfl := (strides_whole greadProfileTargets parsed).1
    exact Nat.le_refl _
  case shrinks =>
    intro g view e rest taken
    simp only [greadProfilePerTarget, GreadProfilePerTarget.next, Option.bind_eq_bind, Option.bind_eq_some_iff,
      Option.pure_def, Option.guard_eq_some', Option.some.injEq, Prod.mk.injEq] at taken
    obtain ⟨-, enough, _, -, _, -, _, cut, -, rfl⟩ := taken
    have size := sub_len cut
    omega
  case slices => exact fun _ _ _ _ _ _ no => (by cases no)
  case finds => exact fun g few => findSlot_finds few

theorem gwriteUniform_derives (h : UInt16 × UInt8) (es : List (UInt8 × List UInt8)) (wire : List UInt8) :
    gwriteUniform.Derives h es wire ↔ (h.2 ≠ 0 ∧ es ≠ [] ∧ ∀ e ∈ es, e.2.length = h.2.toNat) ∧
      wire = u16ToLe h.1 ++ h.2 :: es.flatMap fun e => e.1 :: e.2 := by
  have derives := @GroupForm.derives_iff _ _ _ _ _ gwriteUniform (fun h => h.2 ≠ 0) (fun h => u16ToLe h.1 ++ [h.2])
    (fun h e => e.2.length = h.2.toNat) (fun _ e => e.1 :: e.2) (fun _ _ => Iff.rfl) (fun _ _ _ => Iff.rfl) h es wire
  rw [derives, ← and_assoc, List.append_assoc]
  rfl

theorem gwriteUniform_parsed {view : FrameBytes} {g : GwriteUniform} (parsed : GwriteUniform.parse view = some g) :
    view.sub 3 (view.len - 3) = some g.entries ∧ g.entries.len ≠ 0 ∧ g.entries.len % (1 + g.count.toNat) = 0 := by
  simp only [GwriteUniform.parse, Option.bind_eq_bind, Option.bind_eq_some_iff, Option.pure_def,
    Option.guard_eq_some', Option.some.injEq] at parsed
  obtain ⟨_, -, _, -, -, -, -, -, entries, cut, -, listed, -, even, rfl⟩ := parsed
  exact ⟨cut, listed, even⟩

theorem gwriteUniform_cuts (stride : Nat) (positive : 0 < stride) {view rest : FrameBytes} {e : UInt8 × FrameBytes}
    (taken : GwriteUniform.next stride view = some (e, rest)) :
    view.Inside e.2 ∧ view.Inside rest ∧ rest.len < view.len := by
  simp only [GwriteUniform.next, Option.bind_eq_bind, Option.bind_eq_some_iff, Option.pure_def,
    Option.guard_eq_some', Option.some.injEq, Prod.mk.injEq] at taken
  obtain ⟨-, enough, _, -, data, cut, _, behind, rfl, rfl⟩ := taken
  have size := sub_len behind
  exact ⟨inside_of_sub cut, inside_of_sub behind, by omega⟩

theorem gwriteUniform_faithful :
    gwriteUniform.Faithful (fun g e => e.2.length = g.count.toNat) (fun _ e => e.1 :: e.2) := by
  constructor
  case reads =>
    intro view h es
    have same (g : GwriteUniform) : (g.addr, g.count, g.iter.map plainEntry) =
        arrange (gwriteUniform.headOf g, (gwriteUniform.iter g).map gwriteUniform.plain) := rfl
    rw [gwriteUniform_derives, map_some_iff arrange arrange_injective same]
    exact (gwriteUniform_reads.parse_iff view trivial (h.1, h.2, es)).trans (and_iff_right rfl)
  case takes => exact fun g => (gwriteEntries g.count.toNat).takes
  case whole =>
    intro view g parsed
    obtain ⟨-, listed, even⟩ := gwriteUniform_parsed parsed
    obtain ⟨-, all, wire⟩ := ((gwriteEntries g.count.toNat).iter_iff g.entries _).mp ⟨⟨listed, even⟩, rfl⟩
    exact ⟨_, all, wire⟩
  case shorter => exact fun view g parsed => sub_shorter (gwriteUniform_parsed parsed).1
  case shrinks => exact fun g view e rest taken => (gwriteUniform_cuts _ (by omega) taken).2.2
  case slices =>
    intro view g parsed
    refine GroupForm.slices_of_cuts (.inr (inside_of_sub (gwriteUniform_parsed parsed).1))
      (fun view e rest taken => (gwriteUniform_cuts _ (by omega) taken).2.2) ?_
    intro view e rest taken
    obtain ⟨data, behind, -⟩ := gwriteUniform_cuts _ (by omega) taken
    refine ⟨fun part here => ?_, behind⟩
    obtain rfl := Option.some.inj here
    exact data
  case finds => exact fun _ _ => find?_finds Prod.snd

theorem encodeTarget_iff (t : UInt8 × UInt16 × List UInt8) (wire : List UInt8) :
    (∃ count : UInt8, t.2.2.length = count.toNat ∧ wire = t.1 :: u16ToLe t.2.1 ++ count :: t.2.2) ↔
      t.2.2.length ≤ 255 ∧ wire = encodeTarget t := by
  constructor
  next =>
    rintro ⟨count, size, rfl⟩
    have bound := count.toNat_lt
    refine ⟨by omega, ?_⟩
    rw [encodeTarget, size, UInt8.ofNat_toNat]
  next =>
    rintro ⟨short, rfl⟩
    exact ⟨UInt8.ofNat t.2.2.length, (UInt8.toNat_ofNat_of_lt' (show _ < 256 by omega)).symm, rfl⟩

theorem gwritePerTarget_parsed {view g : FrameBytes} (parsed : GwritePerTarget.parse view = some g) :
    g = view ∧ GwritePerTarget.walk view.len view = some () := by
  simp only [GwritePerTarget.parse, Option.bind_eq_bind, Option.bind_eq_some_iff, Option.pure_def,
    Option.guard_eq_some', Option.some.injEq] at parsed
  obtain ⟨-, -, _, walked, rfl⟩ := parsed
  exact ⟨rfl, walked⟩

theorem gwritePerTarget_cuts {view rest : FrameBytes} {t : GwriteTarget}
    (taken : GwritePerTarget.next view = some (t, rest)) :
    view.Inside t.data ∧ view.Inside rest ∧ rest.len < view.len := by
  simp only [GwritePerTarget.next, Option.bind_eq_bind, Option.bind_eq_some_iff, Option.pure_def,
    Option.guard_eq_some', Option.some.injEq, Prod.mk.injEq] at taken
  obtain ⟨-, enough, _, -, _, -, _, -, data, cut, _, behind, rfl, rfl⟩ := taken
  have size := sub_len behind
  exact ⟨inside_of_sub cut, inside_of_sub behind, by omega⟩

theorem gwritePerTarget_faithful :
    gwritePerTarget.Faithful (fun _ t => t.2.2.length ≤ 255) (fun _ => encodeTarget) := by
  constructor
  case reads =>
    intro view h es
    have same (g : FrameBytes) : (GwritePerTarget.iter g).map plainTarget =
        bare (gwritePerTarget.headOf g, (gwritePerTarget.iter g).map gwritePerTarget.plain) := rfl
    rw [strides_derives (fun _ _ => Iff.rfl) (fun _ => encodeTarget_iff), map_some_iff bare bare_injective same]
    exact (gwritePerTarget_reads.parse_iff view trivial es).trans (and_iff_right rfl)
  case takes => exact fun _ => gwriteTargets_takes
  case whole =>
    intro view g parsed
    obtain ⟨rfl, walked⟩ := gwritePerTarget_parsed parsed
    exact (walk_iff _ g (Nat.le_refl _)).mp walked
  case shorter =>
    intro view g parsed
    obtain ⟨rfl, -⟩ := gwritePerTarget_parsed parsed
    exact Nat.le_refl _
  case shrinks => exact fun _ view t rest taken => (gwritePerTarget_cuts taken).2.2
  case slices =>
    intro view g parsed
    refine GroupForm.slices_of_cuts (.inl (gwritePerTarget_parsed parsed).1)
      (fun view t rest taken => (gwritePerTarget_cuts taken).2.2) ?_
    intro view t rest taken
    obtain ⟨data, behind, -⟩ := gwritePerTarget_cuts taken
    refine ⟨fun part here => ?_, behind⟩
    obtain rfl := Option.some.inj here
    exact data
  case finds =>
    intro g _
    have finds := @find?_finds _ GwriteTarget.id (gwritePerTarget.iter g) _ id
    simp only [Option.map_id_fun, id] at finds
    exact finds

inductive Subtracts (stride : Nat) : Nat → Nat → Prop where
  | done {rem : Nat} : rem < stride → Subtracts stride rem rem
  | turn {rem out : Nat} : stride ≤ rem → Subtracts stride (rem - stride) out → Subtracts stride rem out

theorem subtracts_mod {stride : Nat} (positive : 0 < stride) (rem : Nat) : Subtracts stride rem (rem % stride) := by
  induction rem using Nat.strongRecOn with
  | _ rem ih =>
    by_cases fits : stride ≤ rem
    next =>
      rw [Nat.mod_eq_sub_mod fits]
      exact .turn fits (ih (rem - stride) (by omega))
    next =>
      rw [Nat.mod_eq_of_lt (by omega)]
      exact .done (by omega)

def skipTarget (rest : FrameBytes) : Option FrameBytes := do
  let count ← rest.u8At 3
  let skip := 4 + count.toNat
  guard (skip ≤ rest.len)
  rest.sub skip (rest.len - skip)

inductive Walks : FrameBytes → Option Unit → Prop where
  | done {rest : FrameBytes} : rest.len = 0 → Walks rest (some ())
  | short {rest : FrameBytes} : rest.len ≠ 0 → skipTarget rest = none → Walks rest none
  | turn {rest next : FrameBytes} {out : Option Unit} :
      rest.len ≠ 0 → skipTarget rest = some next → Walks next out → Walks rest out

theorem walk_walks (fuel : Nat) (view : FrameBytes) (enough : view.len ≤ fuel) :
    Walks view (GwritePerTarget.walk fuel view) := by
  induction fuel generalizing view with
  | zero =>
    have none : view.len = 0 := by omega
    rw [GwritePerTarget.walk, guard, if_pos none]
    exact .done none
  | succ fuel ih =>
    have turn : GwritePerTarget.walk (fuel + 1) view =
        if view.len = 0 then some () else (skipTarget view).bind (GwritePerTarget.walk fuel) := by
      rw [GwritePerTarget.walk, skipTarget]
      simp only [Option.bind_eq_bind, Option.bind_assoc]
    rw [turn]
    split
    next none => exact .done none
    next some =>
      cases skipped : skipTarget view with
      | none => exact .short some skipped
      | some next =>
        have shorter : next.len ≤ fuel := by
          simp only [skipTarget, Option.bind_eq_bind, Option.bind_eq_some_iff, Option.guard_eq_some'] at skipped
          obtain ⟨_, -, -, fits, cut⟩ := skipped
          have size := sub_len cut
          omega
        exact .turn some skipped (ih next shorter)

structure GroupLaws (view : FrameBytes) : Prop where
  greadUniform : greadUniform.Law view
  greadPerTarget : greadPerTarget.Law view
  greadProfileUniform : greadProfileUniform.Law view
  greadProfilePerTarget : greadProfilePerTarget.Law view
  gwriteUniform : gwriteUniform.Law view
  gwritePerTarget : gwritePerTarget.Law view

structure LoopsEnd (view : FrameBytes) : Prop where
  greadUniform : greadUniform.Ends view
  greadPerTarget : greadPerTarget.Ends view
  greadProfileUniform : greadProfileUniform.Ends view
  greadProfilePerTarget : greadProfilePerTarget.Ends view
  gwriteUniform : gwriteUniform.Ends view
  gwritePerTarget : gwritePerTarget.Ends view
  ragged : ∀ (count : UInt8) (rem : Nat), Subtracts (1 + count.toNat) rem (rem % (1 + count.toNat))
  walk : Walks view (GwritePerTarget.walk view.len view)

/-- The laws of the group payloads, wherever a payload is split; and the end of every loop, over any bytes. -/
theorem group_grammar (view : FrameBytes) (fits : view.len ≤ maxPayload) :
    GroupLaws view ∧ ∀ any, LoopsEnd any := by
  constructor
  next =>
    constructor
    case greadUniform => exact greadUniform_faithful.law fits
    case greadPerTarget => exact greadPerTarget_faithful.law fits
    case greadProfileUniform => exact greadProfileUniform_faithful.law fits
    case greadProfilePerTarget => exact greadProfilePerTarget_faithful.law fits
    case gwriteUniform => exact gwriteUniform_faithful.law fits
    case gwritePerTarget => exact gwritePerTarget_faithful.law fits
  next =>
    intro any
    constructor
    case greadUniform => exact greadUniform_faithful.ends any
    case greadPerTarget => exact greadPerTarget_faithful.ends any
    case greadProfileUniform => exact greadProfileUniform_faithful.ends any
    case greadProfilePerTarget => exact greadProfilePerTarget_faithful.ends any
    case gwriteUniform => exact gwriteUniform_faithful.ends any
    case gwritePerTarget => exact gwritePerTarget_faithful.ends any
    case ragged => exact fun count rem => subtracts_mod (by omega) rem
    case walk => exact walk_walks any.len any (Nat.le_refl _)

theorem group_grammar_split : FrameBytes.len ⟨[3, 0, 1, 1, 9, 4, 0], [2, 2, 7, 8]⟩ ≤ maxPayload ∧
    GroupLaws ⟨[3, 0, 1, 1, 9, 4, 0], [2, 2, 7, 8]⟩ :=
  ⟨by decide, (group_grammar ⟨[3, 0, 1, 1, 9, 4, 0], [2, 2, 7, 8]⟩ (by decide)).1⟩

end OpenServo.Protocol
