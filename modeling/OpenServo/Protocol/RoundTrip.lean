import OpenServo.Protocol.Formats

set_option autoImplicit false

namespace OpenServo.Protocol

open OpenServo.Shared

section Writes

theorem gated_iff {refused valid : Prop} [Decidable refused] {dst wire written : List UInt8} {size : Nat}
    (gate : ¬ refused ↔ valid ∧ size ≤ Build.cap dst) (length : wire.length = size)
    (same : valid → written = copyAt dst 0 wire) (n : Nat) (out : List UInt8) :
    (if refused then none else some (size, written)) = some (n, out) ↔
      valid ∧ wire.length ≤ min dst.length maxPayload ∧ n = wire.length ∧ out = copyAt dst 0 wire := by
  rw [length]
  split
  next closed =>
    refine ⟨fun no => (by cases no), ?_⟩
    rintro ⟨fine, room, -, -⟩
    exact absurd closed (gate.mpr ⟨fine, room⟩)
  next opened =>
    obtain ⟨fine, room⟩ := gate.mp opened
    rw [Option.some.injEq, Prod.mk.injEq, same fine]
    exact ⟨fun ⟨count, result⟩ => ⟨fine, room, count.symm, result.symm⟩,
      fun ⟨_, _, count, result⟩ => ⟨count.symm, result.symm⟩⟩

theorem room_iff {valid : Prop} (fine : valid) {size room : Nat} : ¬ room < size ↔ valid ∧ size ≤ room := by
  rw [Nat.not_lt, and_iff_right fine]

theorem read_writes : readFormat.Writes maxPayload (Form.build .read) := by
  rintro dst ⟨addr, count⟩ n out
  exact gated_iff (room_iff trivial) rfl
    (fun _ => copyAt_append dst (u16ToLe addr) (u16ToLe count)) n out

theorem profile_writes : profileFormat.Writes maxPayload (Form.build .profile) := by
  intro dst (slot : UInt8) n out
  exact @gated_iff (Build.cap dst < 1) True _ dst [slot] _ 1 (room_iff trivial) rfl (fun _ => rfl) n out

theorem write_writes : writeFormat.Writes maxPayload (Form.build .write) := by
  rintro dst ⟨addr, data⟩ n out
  exact gated_iff (room_iff trivial)
    (by rw [List.length_append, length_u16ToLe]) (fun _ => copyAt_append dst (u16ToLe addr) data) n out

theorem not_empty_or_lt {T : Type} (ids : List T) (room total : Nat) :
    ¬ (ids.isEmpty || decide (room < total)) = true ↔ ids ≠ [] ∧ total ≤ room := by
  simp [List.isEmpty_iff]

theorem greadUniform_writes : greadUniformFormat.Writes maxPayload (Form.build .greadUniform) := by
  rintro dst ⟨addr, count, ids⟩ n out
  have front : Build.greadUniform dst addr count ids =
      if ids.isEmpty || Build.cap dst < 4 + ids.length then none
      else some (4 + ids.length, copyAt (copyAt (copyAt dst 0 (u16ToLe addr)) 2 (u16ToLe count)) 4 ids) := by
    unfold Build.greadUniform
    dsimp only
    split
    next => rfl
    next opened =>
      have room := ((not_empty_or_lt ids _ _).mp opened).2
      rw [Build.read, if_neg (by omega)]
      rfl
  have merged : copyAt (copyAt (copyAt dst 0 (u16ToLe addr)) 2 (u16ToLe count)) 4 ids =
      copyAt dst 0 (u16ToLe addr ++ u16ToLe count ++ ids) := by
    rw [← copyAt_append dst (u16ToLe addr ++ u16ToLe count), ← copyAt_append dst (u16ToLe addr)]
    rfl
  refine (iff_of_eq (congrArg (· = some (n, out)) front)).trans ?_
  refine gated_iff (not_empty_or_lt ids _ _) ?_ (fun _ => merged) n out
  show (u16ToLe addr ++ u16ToLe count ++ ids).length = 4 + ids.length
  rw [List.length_append]
  rfl

theorem entries_writes {T : Type} {encode : T → List UInt8} {stride : Nat}
    (size : ∀ t, (encode t).length = stride) :
    (entriesFormat (fun _ => True) encode).Writes maxPayload (Build.entries encode stride) := by
  intro dst targets n out
  refine gated_iff ?_ (length_flatMap fun t _ => size t) (fun _ => rfl) n out
  rw [not_empty_or_lt]
  exact and_congr_left fun _ => ⟨fun listed => ⟨listed, fun _ _ => trivial⟩, fun both => both.1⟩

theorem greadProfileUniform_writes :
    greadProfileUniformFormat.Writes maxPayload (Form.build .greadProfileUniform) := by
  rintro dst ⟨slot, ids⟩ n out
  refine gated_iff (not_empty_or_lt ids _ _) ?_ (fun _ => copyAt_append dst [slot] ids) n out
  show (slot :: ids).length = 1 + ids.length
  rw [List.length_cons, Nat.add_comm]

structure Holds (dst wire : List UInt8) (g : Build.Gwrite) : Prop where
  fits : wire.length ≤ Build.cap dst
  dst : g.dst = copyAt dst 0 wire
  len : g.len = wire.length

theorem foldlM_push {T : Type} {push : Build.Gwrite → T → Option Build.Gwrite} {ok : T → Prop}
    {encode : T → List UInt8} {dst : List UInt8}
    (step : ∀ wire g t, Holds dst wire g → ∀ g', push g t = some g' ↔
      ok t ∧ Holds dst (wire ++ encode t) g')
    (targets : List T) (wire : List UInt8) (g : Build.Gwrite) (holds : Holds dst wire g) (g' : Build.Gwrite) :
    targets.foldlM push g = some g' ↔
      (∀ t ∈ targets, ok t) ∧ Holds dst (wire ++ targets.flatMap encode) g' := by
  induction targets generalizing wire g with
  | nil =>
    simp only [List.foldlM_nil, List.flatMap_nil, List.append_nil, Option.pure_def, Option.some.injEq]
    constructor
    next =>
      rintro rfl
      exact ⟨by simp, holds⟩
    next =>
      rintro ⟨-, same⟩
      obtain ⟨dst', len'⟩ := g
      obtain ⟨dst'', len''⟩ := g'
      simp only [Build.Gwrite.mk.injEq]
      exact ⟨holds.dst.trans same.dst.symm, holds.len.trans same.len.symm⟩
  | cons t targets ih =>
    simp only [List.foldlM_cons, Option.bind_eq_bind, Option.bind_eq_some_iff, List.flatMap_cons,
      List.forall_mem_cons]
    constructor
    next =>
      rintro ⟨middle, first, rest⟩
      obtain ⟨fine, pushed⟩ := (step wire g t holds middle).mp first
      obtain ⟨all, whole⟩ := (ih _ middle pushed).mp rest
      rw [List.append_assoc] at whole
      exact ⟨⟨fine, all⟩, whole⟩
    next =>
      rintro ⟨⟨fine, all⟩, whole⟩
      have fits := whole.fits
      simp only [List.length_append] at fits
      have pushed : Holds dst (wire ++ encode t) ⟨copyAt dst 0 (wire ++ encode t), (wire ++ encode t).length⟩ :=
        ⟨by rw [List.length_append]; omega, rfl, rfl⟩
      refine ⟨_, (step wire g t holds _).mpr ⟨fine, pushed⟩, (ih _ _ pushed).mpr ⟨all, ?_⟩⟩
      rw [List.append_assoc]
      exact whole

theorem cap_copyAt {dst wire : List UInt8} (fits : wire.length ≤ Build.cap dst) :
    Build.cap (copyAt dst 0 wire) = Build.cap dst := by
  have room : wire.length ≤ dst.length := Nat.le_trans fits (Nat.min_le_left _ _)
  rw [Build.cap, length_copyAt room, Build.cap]

theorem push_iff {dst wire more written : List UInt8} {refused : Prop} [Decidable refused] {ok : Prop}
    {g g' : Build.Gwrite} {stop : Nat} (holds : Holds dst wire g)
    (gate : ¬ refused ↔ ok ∧ stop ≤ Build.cap g.dst) (size : stop = g.len + more.length)
    (same : written = copyAt g.dst g.len more) :
    (if refused then none else some (⟨written, stop⟩ : Build.Gwrite)) = some g' ↔
      ok ∧ Holds dst (wire ++ more) g' := by
  have total : stop = (wire ++ more).length := by rw [size, holds.len, List.length_append]
  have result : written = copyAt dst 0 (wire ++ more) := by
    rw [same, holds.dst, holds.len, copyAt_append]
  rw [holds.dst, cap_copyAt holds.fits] at gate
  split
  next closed =>
    refine ⟨fun no => (by cases no), ?_⟩
    rintro ⟨fine, whole⟩
    exact absurd closed (gate.mpr ⟨fine, total ▸ whole.fits⟩)
  next opened =>
    obtain ⟨fine, room⟩ := gate.mp opened
    rw [Option.some.injEq]
    constructor
    next =>
      rintro rfl
      exact ⟨fine, total ▸ room, result, total⟩
    next =>
      rintro ⟨-, whole⟩
      obtain ⟨dst', len'⟩ := g'
      rw [Build.Gwrite.mk.injEq]
      exact ⟨result.trans whole.dst.symm, total.trans whole.len.symm⟩

theorem uniform_push (count : UInt8) {dst wire : List UInt8} {g : Build.Gwrite} (entry : UInt8 × List UInt8)
    (holds : Holds dst wire g) (g' : Build.Gwrite) :
    Build.GwriteUniform.push count g entry = some g' ↔
      entry.2.length = count.toNat ∧ Holds dst (wire ++ entry.1 :: entry.2) g' := by
  obtain ⟨id, data⟩ := entry
  have merged : copyAt (copyAt g.dst g.len [id]) (g.len + 1) data = copyAt g.dst g.len (id :: data) := by
    rw [holds.dst, holds.len, copyAt_append, show wire.length + 1 = (wire ++ [id]).length by simp, copyAt_append,
      copyAt_append, List.append_assoc]
    rfl
  simp only [Build.GwriteUniform.push]
  by_cases fine : data.length = count.toNat
  next =>
    rw [if_neg (not_not_intro fine)]
    refine push_iff holds ?_ ?_ merged
    next => rw [Nat.not_lt, and_iff_right fine]
    next => rw [List.length_cons]; omega
  next =>
    rw [if_pos fine]
    exact ⟨fun no => (by cases no), fun right => absurd right.1 fine⟩

theorem gwriteUniform_writes : gwriteUniformFormat.Writes maxPayload (Form.build .gwriteUniform) := by
  rintro dst ⟨addr, count, targets⟩ n out
  let head := u16ToLe addr ++ [count]
  have empty : Build.gwriteUniform dst addr count targets = some (n, out) ↔
      (count ≠ 0 ∧ head.length ≤ Build.cap dst) ∧
        ∃ g, targets.foldlM (Build.GwriteUniform.push count) ⟨copyAt dst 0 head, head.length⟩ = some g ∧
          Build.GwriteUniform.finish g = some (n, out) := by
    have merged : copyAt (copyAt dst 0 (u16ToLe addr)) 2 [count] = copyAt dst 0 head :=
      copyAt_append dst (u16ToLe addr) [count]
    simp only [Build.gwriteUniform, Build.GwriteUniform.new, Option.bind_eq_bind, Option.bind_eq_some_iff, merged]
    constructor
    next =>
      rintro ⟨g, made, rest⟩
      split at made
      next => cases made
      next opened =>
        rw [not_or, Nat.not_lt] at opened
        obtain rfl := Option.some.inj made
        exact ⟨opened, rest⟩
    next =>
      rintro ⟨⟨nonzero, room⟩, rest⟩
      have room : 3 ≤ Build.cap dst := room
      refine ⟨_, if_neg (by rw [not_or, Nat.not_lt]; exact ⟨nonzero, room⟩), rest⟩
  refine empty.trans ?_
  -- Each target that is pushed appends its bytes, or is refused.
  have pushes (fits : head.length ≤ Build.cap dst) (g : Build.Gwrite) :=
    foldlM_push (fun wire g t holds g' => uniform_push count t holds g') targets head
      ⟨copyAt dst 0 head, head.length⟩ ⟨fits, rfl, rfl⟩ g
  have encoded : gwriteUniformFormat.encode (addr, count, targets) =
      head ++ targets.flatMap fun e => e.1 :: e.2 := by
    simp [gwriteUniformFormat, Format.plain, head]
  rw [encoded]
  constructor
  next =>
    rintro ⟨⟨nonzero, fits⟩, g, pushed, finished⟩
    obtain ⟨all, holds⟩ := (pushes fits g).mp pushed
    simp only [Build.GwriteUniform.finish] at finished
    split at finished
    next more =>
      obtain ⟨rfl, rfl⟩ : g.len = n ∧ g.dst = out := by simpa using finished
      refine ⟨⟨nonzero, ?_, all⟩, holds.fits, holds.len, holds.dst⟩
      rintro rfl
      rw [holds.len] at more
      exact absurd more (by simp [head, u16ToLe])
    next => cases finished
  next =>
    rintro ⟨⟨nonzero, listed, all⟩, room, rfl, rfl⟩
    have listed : targets ≠ [] := listed
    have fits : head.length ≤ Build.cap dst := by
      rw [List.length_append] at room
      exact Nat.le_trans (Nat.le_add_right _ _) room
    refine ⟨⟨nonzero, fits⟩, _, (pushes fits ⟨_, _⟩).mpr ⟨all, room, rfl, rfl⟩, ?_⟩
    refine if_pos ?_
    obtain ⟨t, rest, rfl⟩ := List.exists_cons_of_ne_nil listed
    simp

theorem perTarget_push {dst wire : List UInt8} {g : Build.Gwrite} (entry : UInt8 × UInt16 × List UInt8)
    (holds : Holds dst wire g) (g' : Build.Gwrite) :
    Build.GwritePerTarget.push g entry = some g' ↔
      entry.2.2.length ≤ 255 ∧ Holds dst (wire ++ encodeTarget entry) g' := by
  obtain ⟨id, addr, data⟩ := entry
  have same : [id] ++ u16ToLe addr ++ [UInt8.ofNat data.length] ++ data = encodeTarget (id, addr, data) := by
    simp [encodeTarget]
  simp only [Build.GwritePerTarget.push, same]
  by_cases fine : data.length ≤ 255
  next =>
    rw [if_neg (Nat.not_lt.mpr fine)]
    refine push_iff holds ?_ ?_ rfl
    next => rw [Nat.not_lt, and_iff_right fine]
    next =>
      simp only [encodeTarget, List.length_append, List.length_cons, length_u16ToLe]
      omega
  next =>
    rw [if_pos (Nat.lt_of_not_le fine)]
    exact ⟨fun no => (by cases no), fun right => absurd right.1 fine⟩

theorem gwritePerTarget_writes :
    (entriesFormat (fun t : UInt8 × UInt16 × List UInt8 => t.2.2.length ≤ 255) encodeTarget).Writes maxPayload
      (Form.build .gwritePerTarget) := by
  intro dst targets n out
  have start : Holds dst [] (Build.GwritePerTarget.new dst) :=
    ⟨Nat.zero_le _, by simp [Build.GwritePerTarget.new, copyAt], rfl⟩
  have pushes (g : Build.Gwrite) :=
    foldlM_push (fun wire g t holds g' => perTarget_push t holds g') targets [] (Build.GwritePerTarget.new dst) start g
  show Build.gwritePerTarget dst targets = some (n, out) ↔ _
  simp only [Build.gwritePerTarget, Option.bind_eq_bind, Option.bind_eq_some_iff, pushes, List.nil_append]
  constructor
  next =>
    rintro ⟨g, ⟨all, holds⟩, finished⟩
    simp only [Build.GwritePerTarget.finish] at finished
    split at finished
    next more =>
      obtain ⟨rfl, rfl⟩ : g.len = n ∧ g.dst = out := by simpa using finished
      refine ⟨⟨?_, all⟩, holds.fits, holds.len, holds.dst⟩
      rintro rfl
      rw [holds.len] at more
      exact absurd more (by simp)
    next => cases finished
  next =>
    rintro ⟨⟨listed, all⟩, room, rfl, rfl⟩
    refine ⟨⟨_, _⟩, ⟨all, room, rfl, rfl⟩, if_pos ?_⟩
    obtain ⟨t, rest, rfl⟩ := List.exists_cons_of_ne_nil listed
    simp [encodeTarget]

theorem mgmt_writes : mgmtFormat.Writes maxPayload (Form.build .mgmt) := by
  intro dst (op : MgmtOp) n out
  exact @gated_iff (Build.cap dst < 1) True _ dst [op.asByte] _ 1 (room_iff trivial) rfl (fun _ => rfl) n out

theorem mgmtAssign_writes : (subOpFormat .assign assignArgsFormat).Writes maxPayload (Form.build .mgmtAssign) := by
  rintro dst ⟨uid, newId⟩ n out
  have length : (List.ofFn uid).length = uidLen := List.length_ofFn
  have merged : copyAt (copyAt (copyAt dst 0 [MgmtOp.assign.asByte]) 1 (List.ofFn uid)) (1 + uidLen) [newId] =
      copyAt dst 0 (MgmtOp.assign.asByte :: (List.ofFn uid ++ [newId])) := by
    have first := copyAt_append dst [MgmtOp.assign.asByte] (List.ofFn uid)
    have second := copyAt_append dst ([MgmtOp.assign.asByte] ++ List.ofFn uid) [newId]
    rw [List.length_append, length] at second
    exact (congrArg (copyAt · (1 + uidLen) [newId]) first).trans second
  refine gated_iff (room_iff trivial) ?_ (fun _ => merged) n out
  show (MgmtOp.assign.asByte :: (List.ofFn uid ++ [newId])).length = 2 + uidLen
  rw [List.length_cons, List.length_append, length]
  rfl

theorem mgmtCal_writes : (subOpFormat .cal calArgsFormat).Writes maxPayload (Form.build .mgmtCal) := by
  rintro dst ⟨gapUs, gaps⟩ n out
  have merged : copyAt (copyAt (copyAt dst 0 [MgmtOp.cal.asByte]) 1 (u16ToLe gapUs)) 3 [gaps] =
      copyAt dst 0 (MgmtOp.cal.asByte :: (u16ToLe gapUs ++ [gaps])) := by
    have first := copyAt_append dst [MgmtOp.cal.asByte] (u16ToLe gapUs)
    have second := copyAt_append dst ([MgmtOp.cal.asByte] ++ u16ToLe gapUs) [gaps]
    exact (congrArg (copyAt · 3 [gaps]) first).trans second
  refine gated_iff ?_ rfl (fun _ => merged) n out
  rw [not_or, not_or, Nat.not_lt, ← and_assoc]
  rfl

theorem mgmtEnum_writes : (subOpFormat .enum enumArgsFormat).Writes maxPayload (Form.build .mgmtEnum) := by
  rintro dst ⟨prefixLen, bits⟩ n out
  let body := (List.ofFn bits).take (prefixBytes prefixLen)
  have merged : copyAt (copyAt (copyAt dst 0 [MgmtOp.enum.asByte]) 1 [prefixLen]) 2 body =
      copyAt dst 0 (MgmtOp.enum.asByte :: prefixLen :: body) := by
    have first := copyAt_append dst [MgmtOp.enum.asByte] [prefixLen]
    have second := copyAt_append dst [MgmtOp.enum.asByte, prefixLen] body
    exact (congrArg (copyAt · 2 body) first).trans second
  show Build.mgmtEnum dst prefixLen bits = some (n, out) ↔ _
  unfold Build.mgmtEnum
  by_cases low : prefixLen.toNat ≤ uidLen * 8
  next =>
    rw [if_neg (Nat.not_lt.mpr low)]
    refine gated_iff (room_iff low) ?_ (fun _ => merged) n out
    show (MgmtOp.enum.asByte :: prefixLen :: body).length = 2 + prefixBytes prefixLen
    have short : prefixBytes prefixLen ≤ uidLen := by
      simp only [prefixBytes, uidLen] at low ⊢
      omega
    rw [List.length_cons, List.length_cons, List.length_take, List.length_ofFn, Nat.min_eq_left short]
    omega
  next =>
    rw [if_pos (Nat.lt_of_not_le low)]
    exact ⟨fun no => (by cases no), fun right => absurd right.1 low⟩

end Writes

/-- Builder and parser of every form: what is built parses back to what it was built from, what parses is rebuilt byte
for byte, and a builder refuses just what no payload that fits parses to. -/
theorem codec_round_trips (form : Form) :
    RoundTrips maxPayload FrameBytes.bytes form.Meant form.used form.parse form.build := by
  have onto := FrameBytes.exists_view
  cases form with
  | read => exact Format.roundTrips onto read_reads read_writes
  | profile => exact Format.roundTrips onto profile_reads profile_writes
  | write => exact Format.roundTrips onto write_reads write_writes
  | greadUniform => exact Format.roundTrips onto greadUniform_reads greadUniform_writes
  | greadPerTarget =>
    exact Format.roundTrips onto greadTargets.reads (entries_writes fun t => greadTargets.size t trivial)
  | greadProfileUniform => exact Format.roundTrips onto greadProfileUniform_reads greadProfileUniform_writes
  | greadProfilePerTarget =>
    exact Format.roundTrips onto greadProfileTargets.reads
      (entries_writes fun t => greadProfileTargets.size t trivial)
  | gwriteUniform => exact Format.roundTrips onto gwriteUniform_reads gwriteUniform_writes
  | gwritePerTarget => exact Format.roundTrips onto gwritePerTarget_reads gwritePerTarget_writes
  | mgmt => exact Format.roundTrips onto mgmt_reads mgmt_writes
  | mgmtEnum => exact Format.roundTrips onto (subOp_reads .enum enumArgs_reads) mgmtEnum_writes
  | mgmtAssign => exact Format.roundTrips onto (subOp_reads .assign assignArgs_reads) mgmtAssign_writes
  | mgmtCal => exact Format.roundTrips onto (subOp_reads .cal calArgs_reads) mgmtCal_writes

/-- A prefix byte that is not sent is lost, and a SAVE with an argument is not a bare one. -/
theorem unsent_bytes_lost :
    (∃ dst bits n out, Form.build .mgmtEnum dst (0, bits) = some (n, out) ∧
      ∀ view, view.bytes = out.take n → Form.parse .mgmtEnum view ≠ some (0, bits)) ∧
      ∃ view, Form.parse .mgmt view = some MgmtOp.save ∧ view.len ≤ maxPayload ∧
        ∀ dst n out, Form.build .mgmt dst MgmtOp.save = some (n, out) → out.take n ≠ view.bytes := by
  constructor
  next =>
    refine ⟨[0, 0], fun _ => 1, 2, [0x01, 0], rfl, ?_⟩
    intro view payload same
    have fits := Format.roundTrips FrameBytes.exists_view (subOp_reads .enum enumArgs_reads) mgmtEnum_writes
    have back := fits.parses [0, 0] (0, fun _ => 1) 2 [0x01, 0] rfl view payload
    have bits := congrFun (congrArg Prod.snd (Option.some.inj (back.symm.trans same))) ⟨0, by decide⟩
    exact absurd bits (by decide)
  next =>
    refine ⟨.ofList [0x03, 7], rfl, by decide, ?_⟩
    intro dst n out built same
    obtain ⟨-, -, count, rfl⟩ := (mgmt_writes dst .save n out).mp built
    have count : n = 1 := count
    have length := congrArg List.length same
    rw [count, List.length_take] at length
    have two : (FrameBytes.ofList [0x03, 7]).bytes.length = 2 := rfl
    rw [two] at length
    omega

end OpenServo.Protocol
