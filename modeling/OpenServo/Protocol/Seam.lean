import Mathlib.Data.Option.Basic
import OpenServo.Protocol.Build

set_option autoImplicit false

namespace OpenServo.Protocol

namespace FrameBytes

/-- The same bytes in one segment: what two equal views have in common. -/
def flat (view : FrameBytes) : FrameBytes :=
  ofList view.bytes

variable (view : FrameBytes) (start len i : Nat)

@[simp] theorem flat_bytes : view.flat.bytes = view.bytes :=
  bytes_ofList view.bytes

@[simp] theorem flat_len : view.flat.len = view.len := by
  rw [← length_bytes, flat_bytes, length_bytes]

@[simp] theorem flat_u8At : view.flat.u8At i = view.u8At i := by
  rw [u8At_eq, u8At_eq, flat_bytes]

@[simp] theorem flat_u16LeAt : view.flat.u16LeAt i = view.u16LeAt i := by
  simp only [u16LeAt, flat_u8At]

theorem ofList_sub (bytes : List UInt8) :
    (ofList bytes).sub start len =
      if bytes.length < start + len then none else some (ofList (bytes.extract start (start + len))) := by
  have size : (ofList bytes).len = bytes.length := by simp [ofList, FrameBytes.len]
  simp only [sub, size]
  split
  next => rfl
  next fits =>
    split
    next beyond =>
      have beyond : bytes.length ≤ start := beyond
      simp [ofList, List.extract_eq_take_drop, show len = 0 by omega]
    next =>
      rw [if_pos (show start + len ≤ (ofList bytes).head.length by simp only [ofList]; omega)]
      rfl

@[simp] theorem flat_sub : view.flat.sub start len = (view.sub start len).map flat := by
  have parts := congrArg (Option.map ofList) (view.sub_bytes start len)
  rw [Option.map_map] at parts
  refine Eq.trans ?_ parts.symm
  rw [flat, ofList_sub, length_bytes]
  split <;> rfl

end FrameBytes

/-- What `f` makes of a view does not depend on where its seam is. `flat` forgets the seams in the result. -/
def Hides {A : Type} (flat : A → A) (f : FrameBytes → A) : Prop :=
  ∀ head tail, flat (f ⟨head, tail⟩) = f (.ofList (head ++ tail))

theorem Hides.of_flat {A : Type} {flat : A → A} {f : FrameBytes → A} (same : ∀ view, f view.flat = flat (f view)) :
    Hides flat f :=
  fun head tail => (same ⟨head, tail⟩).symm

section Entries

variable {A B : Type} {next : FrameBytes → Option (A × FrameBytes)} {flat : A → A}

theorem entriesOf_flat (step : ∀ rest, next rest.flat = (next rest).map (Prod.map flat FrameBytes.flat))
    (fuel : Nat) (rest : FrameBytes) :
    entriesOf next fuel rest.flat = (entriesOf next fuel rest).map flat := by
  induction fuel generalizing rest with
  | zero => rfl
  | succ fuel ih =>
    simp only [entriesOf, step]
    cases next rest with
    | none => rfl
    | some entry => simp only [Option.map_some, Prod.map, ih, List.map_cons]

theorem find?_flat {p : A → Bool} (same : ∀ a, p (flat a) = p a) (entries : List A) :
    (entries.map flat).find? p = (entries.find? p).map flat := by
  rw [List.find?_map]
  congr 2
  exact funext same

end Entries

def WriteReq.flat (w : WriteReq) : WriteReq :=
  { w with data := w.data.flat }

def MgmtReq.flat (m : MgmtReq) : MgmtReq :=
  { m with args := m.args.flat }

def GreadUniform.flat (g : GreadUniform) : GreadUniform :=
  { g with ids := g.ids.flat }

def GreadProfileUniform.flat (g : GreadProfileUniform) : GreadProfileUniform :=
  { g with ids := g.ids.flat }

def GwriteUniform.flat (g : GwriteUniform) : GwriteUniform :=
  { g with entries := g.entries.flat }

def GwriteUniform.flatEntry (entry : UInt8 × FrameBytes) : UInt8 × FrameBytes :=
  (entry.1, entry.2.flat)

def GwriteTarget.flat (t : GwriteTarget) : GwriteTarget :=
  { t with data := t.data.flat }

section Parsers

variable (view : FrameBytes)

theorem ReadReq.parse_flat : ReadReq.parse view.flat = ReadReq.parse view := by
  simp [ReadReq.parse]

theorem ProfileReq.parse_flat : ProfileReq.parse view.flat = ProfileReq.parse view := by
  simp [ProfileReq.parse]

theorem WriteReq.parse_flat : WriteReq.parse view.flat = (WriteReq.parse view).map WriteReq.flat := by
  simp [WriteReq.parse, WriteReq.flat, Option.map_bind, Option.bind_map, Function.comp_def]

theorem MgmtReq.parse_flat : MgmtReq.parse view.flat = (MgmtReq.parse view).map MgmtReq.flat := by
  simp [MgmtReq.parse, MgmtReq.flat, Option.map_bind, Option.bind_map, Function.comp_def]

theorem EnumReq.parse_flat : EnumReq.parse view.flat = EnumReq.parse view := by
  simp [EnumReq.parse, Option.bind_map]

theorem AssignReq.parse_flat : AssignReq.parse view.flat = AssignReq.parse view := by
  simp [AssignReq.parse, Option.bind_map]

theorem CalReq.parse_flat : CalReq.parse view.flat = CalReq.parse view := by
  simp [CalReq.parse]

theorem GreadUniform.parse_flat :
    GreadUniform.parse view.flat = (GreadUniform.parse view).map GreadUniform.flat := by
  simp [GreadUniform.parse, GreadUniform.flat, Option.map_bind, Option.bind_map, Function.comp_def]

theorem GreadPerTarget.parse_flat :
    GreadPerTarget.parse view.flat = (GreadPerTarget.parse view).map FrameBytes.flat := by
  simp only [GreadPerTarget.parse, FrameBytes.flat_len]
  split <;> rfl

theorem GreadProfileUniform.parse_flat :
    GreadProfileUniform.parse view.flat = (GreadProfileUniform.parse view).map GreadProfileUniform.flat := by
  simp [GreadProfileUniform.parse, GreadProfileUniform.flat, Option.map_bind, Option.bind_map, Function.comp_def]

theorem GreadProfilePerTarget.parse_flat :
    GreadProfilePerTarget.parse view.flat = (GreadProfilePerTarget.parse view).map FrameBytes.flat := by
  simp only [GreadProfilePerTarget.parse, FrameBytes.flat_len]
  split <;> rfl

theorem GwriteUniform.parse_flat :
    GwriteUniform.parse view.flat = (GwriteUniform.parse view).map GwriteUniform.flat := by
  simp [GwriteUniform.parse, GwriteUniform.flat, Option.map_bind, Option.bind_map, Function.comp_def]

theorem GwritePerTarget.walk_flat (fuel : Nat) : walk fuel view.flat = walk fuel view := by
  induction fuel generalizing view with
  | zero => simp [walk]
  | succ fuel ih => simp [walk, Option.bind_map, ih]

theorem GwritePerTarget.parse_flat :
    GwritePerTarget.parse view.flat = (GwritePerTarget.parse view).map FrameBytes.flat := by
  simp [GwritePerTarget.parse, walk_flat, Option.map_bind]

end Parsers

section Lists

variable (view : FrameBytes) (id : UInt8)

theorem slotOf_flat : slotOf view.flat id = slotOf view id := by
  rw [slotOf, slotOf, FrameBytes.flat_bytes]

theorem GreadPerTarget.iter_flat : iter view.flat = iter view := by
  have step (rest : FrameBytes) : next rest.flat = (next rest).map (Prod.map (fun t => t) FrameBytes.flat) := by
    simp [next, Option.map_bind, Option.bind_map]
  rw [iter, FrameBytes.flat_len, entriesOf_flat step, List.map_id', iter]

theorem GreadPerTarget.find_flat : find view.flat id = find view id := by
  rw [find, iter_flat, find]

theorem GreadProfilePerTarget.iter_flat : iter view.flat = iter view := by
  have step (rest : FrameBytes) : next rest.flat = (next rest).map (Prod.map (fun t => t) FrameBytes.flat) := by
    simp [next, Option.map_bind, Option.bind_map]
  rw [iter, FrameBytes.flat_len, entriesOf_flat step, List.map_id', iter]

theorem GreadProfilePerTarget.find_flat : find view.flat id = find view id := by
  rw [find, iter_flat, find]

theorem GwriteUniform.iter_flat (g : GwriteUniform) : g.flat.iter = g.iter.map flatEntry := by
  have step (rest : FrameBytes) : next (1 + g.count.toNat) rest.flat =
      (next (1 + g.count.toNat) rest).map (Prod.map flatEntry FrameBytes.flat) := by
    simp [next, flatEntry, Option.map_bind, Option.bind_map, Function.comp_def]
  rw [iter, flat, FrameBytes.flat_len, entriesOf_flat step, iter]

theorem GwriteUniform.find_flat (g : GwriteUniform) : g.flat.find id = (g.find id).map FrameBytes.flat := by
  have found := @find?_flat _ flatEntry (fun entry => entry.1 == id) (fun _ => rfl) g.iter
  rw [← iter_flat] at found
  show (g.flat.iter.find? _).map Prod.snd = ((g.iter.find? _).map Prod.snd).map FrameBytes.flat
  rw [found, Option.map_map, Option.map_map]
  rfl

theorem GwritePerTarget.iter_flat : iter view.flat = (iter view).map GwriteTarget.flat := by
  have step (rest : FrameBytes) : next rest.flat = (next rest).map (Prod.map GwriteTarget.flat FrameBytes.flat) := by
    simp [next, GwriteTarget.flat, Option.map_bind, Option.bind_map, Function.comp_def]
  rw [iter, FrameBytes.flat_len, entriesOf_flat step, iter]

theorem GwritePerTarget.find_flat : find view.flat id = (find view id).map GwriteTarget.flat := by
  show (iter view.flat).find? _ = ((iter view).find? _).map GwriteTarget.flat
  rw [iter_flat]
  exact @find?_flat _ GwriteTarget.flat (fun target => target.id == id) (fun _ => rfl) (iter view)

end Lists

end OpenServo.Protocol
