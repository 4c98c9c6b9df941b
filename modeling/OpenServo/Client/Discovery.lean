import OpenServo.Client.PrefixWire
import Mathlib.Data.List.Perm.Subperm

set_option autoImplicit false

namespace OpenServo.Client

open OpenServo.Protocol OpenServo.Core OpenServo.Shared

def Reply.Quiet (reply : Reply) : Prop :=
  reply.statuses = [] ∧ reply.garble = 0 ∧ reply.trailing = false

def Reply.Clean (reply : Reply) (uid : Uid) : Prop :=
  (∃ id, reply.statuses = [⟨id, some .ok, List.ofFn uid⟩]) ∧ reply.garble = 0 ∧ reply.trailing = false

def under (fleet : List Uid) (len : UInt8) (bits : Uid) : List Uid :=
  fleet.filter fun uid => uidPrefixMatches (List.ofFn uid) len (List.ofFn bits)

/-- Something was heard, and it was not the one clean status of a UID of the prefix. -/
def Reply.Collided (reply : Reply) (len : UInt8) (bits : Uid) : Prop :=
  ¬ reply.Quiet ∧ ∀ uid, reply.Clean uid → uidPrefixMatches (List.ofFn uid) len (List.ofFn bits) = false

/-- Several servos at once collide, or one of them is captured. -/
def Reply.Tells (reply : Reply) (captures : Bool) (fleet : List Uid) (len : UInt8) (bits : Uid) : Prop :=
  match under fleet len bits with
  | [] => reply.Quiet
  | [uid] => reply.Clean uid
  | several => reply.Collided len bits ∨ captures = true ∧ ∃ uid ∈ several, reply.Clean uid

def Bus.Elects {S : Type} (bus : Bus S) (captures : Bool) (fleet : List Uid) : Prop :=
  ∀ s payload len bits, Form.parse .mgmtEnum (.ofList payload) = some (len, bits) →
    ∃ reply s', bus.exchange s broadcast mgmtInst payload = .ok (reply, s') ∧ reply.Tells captures fleet len bits

section Under

variable {fleet : List Uid} {bits : Uid} {len : UInt8}

theorem under_zero (fleet : List Uid) : under fleet 0 (fun _ => 0) = fleet := by
  simp [under, uidPrefixMatches]

theorem uidPrefixMatches_used (uid : Uid) (short : len.toNat ≤ 8 * uidLen) :
    uidPrefixMatches (List.ofFn uid) (Form.used .mgmtEnum (len, bits)).1
      (List.ofFn (Form.used .mgmtEnum (len, bits)).2) = uidPrefixMatches (List.ofFn uid) len (List.ofFn bits) := by
  rw [Bool.eq_iff_iff]
  show uidPrefixMatches (List.ofFn uid) len _ = true ↔ _
  rw [uidPrefixMatches_iff uid _ short, uidPrefixMatches_iff uid _ short, agreeTo_used]

theorem tells_used {reply : Reply} {captures : Bool} (short : len.toNat ≤ 8 * uidLen) :
    reply.Tells captures fleet (Form.used .mgmtEnum (len, bits)).1 (Form.used .mgmtEnum (len, bits)).2 ↔
      reply.Tells captures fleet len bits := by
  have same := fun uid => @uidPrefixMatches_used bits len uid short
  simp only [Reply.Tells, under, Reply.Collided, same]

theorem under_withBit (zero : ZeroFrom bits len.toNat) (inside : len.toNat < 8 * uidLen) (v : Bool) :
    under fleet (len + 1) (withBit bits len v) =
      (under fleet len bits).filter fun uid => bitAt uid len.toNat == v := by
  have next := toNat_succ inside
  rw [under, under, List.filter_filter]
  refine List.filter_congr fun uid _ => ?_
  rw [Bool.eq_iff_iff, Bool.and_eq_true, beq_iff_eq, uidPrefixMatches_iff uid _ (by omega),
    uidPrefixMatches_iff uid _ (Nat.le_of_lt inside), agreeTo_withBit (zero _ (Nat.le_refl _)) inside, and_comm]

theorem under_children (zero : ZeroFrom bits len.toNat) (inside : len.toNat < 8 * uidLen) (v : Bool) :
    (under fleet (len + 1) (withBit bits len v) ++ under fleet (len + 1) (withBit bits len !v)).Perm
      (under fleet len bits) := by
  have other : (fun uid => bitAt uid len.toNat == !v) = fun uid => !(bitAt uid len.toNat == v) := by
    funext uid
    cases bitAt uid len.toNat <;> cases v <;> rfl
  rw [under_withBit zero inside, under_withBit zero inside, other]
  exact List.filter_append_perm _ _

theorem under_full (distinct : fleet.Nodup) (deep : len = full) : (under fleet len bits).length ≤ 1 := by
  have same : ∀ uid ∈ under fleet len bits, uid = bits := by
    intro uid member
    have agree := (List.mem_filter.mp member).2
    rw [deep] at agree
    rw [uidPrefixMatches_iff uid bits (by decide)] at agree
    exact (agreeTo_full uid bits).mp agree
  have distinct : (under fleet len bits).Nodup := distinct.filter _
  cases list : under fleet len bits with
  | nil => simp
  | cons first rest =>
    cases rest with
    | nil => simp
    | cons second rest =>
      rw [list] at same distinct
      have twins : first = second := (same first (by simp)).trans (same second (by simp)).symm
      simp [twins] at distinct

end Under

inductive Finds (captures : Bool) : List Uid → Verdict → Prop where
  | empty : Finds captures [] .empty
  | lone (id : UInt8) (uid : Uid) : Finds captures [uid] (.candidate ⟨uid, id⟩)
  | collision {several : List Uid} (many : 2 ≤ several.length) : Finds captures several .collision
  | captured {several : List Uid} (may : captures = true) (many : 2 ≤ several.length) (id : UInt8) {uid : Uid}
      (member : uid ∈ several) : Finds captures several (.candidate ⟨uid, id⟩)

/-- The UIDs of the first list are those of the second, or some of them where a collision may be captured. -/
structure Accounts (captures : Bool) (told owed : List Uid) : Prop where
  subperm : told.Subperm owed
  perm : captures = false → told.Perm owed

namespace Accounts

variable {captures : Bool} {told owed rest : List Uid}

theorem of_perm (same : told.Perm owed) : Accounts captures told owed :=
  ⟨same.subperm, fun _ => same⟩

theorem trans {last : List Uid} (first : Accounts captures told owed) (second : Accounts captures owed last) :
    Accounts captures told last :=
  ⟨first.subperm.trans second.subperm, fun exact => (first.perm exact).trans (second.perm exact)⟩

theorem append_right (same : Accounts captures told owed) (front rest : List Uid) :
    Accounts captures (front ++ told ++ rest) (front ++ owed ++ rest) where
  subperm := (List.subperm_append_right rest).mpr ((List.subperm_append_left front).mpr same.subperm)
  perm := fun exact => ((same.perm exact).append_left front).append_right rest

end Accounts

theorem Finds.accounts {captures : Bool} {owed : List Uid} {node : Found}
    (finds : Finds captures owed (.candidate node)) : Accounts captures [node.uid] owed := by
  cases finds with
  | lone id uid => exact .of_perm (List.Perm.refl _)
  | captured may many id member =>
    refine ⟨List.singleton_subperm_iff.mpr member, fun exact => ?_⟩
    rw [may] at exact
    cases exact

def Yields {S A : Type} (call : Call S A) (P : A → Prop) : Prop :=
  ∀ s, ∃ a s', call s = some (.ok (a, s')) ∧ P a

section Yields

variable {S A B : Type}

theorem Yields.pure {P : A → Prop} {a : A} (holds : P a) : Yields (S := S) (pure a) P :=
  fun s => ⟨a, s, rfl, holds⟩

theorem Yields.bind {call : Call S A} {next : A → Call S B} {P : A → Prop} {Q : B → Prop}
    (first : Yields call P) (second : ∀ a, P a → Yields (next a) Q) : Yields (call >>= next) Q := by
  intro s
  obtain ⟨a, s', back, holds⟩ := first s
  obtain ⟨b, s'', done, right⟩ := second a holds s'
  refine ⟨b, s'', ?_, right⟩
  show (ExceptT.bind (call s) fun p => next p.1 p.2 : Option _) = _
  rw [back]
  exact done

theorem Yields.modify (f : S → S) : Yields (modify f : Call S Unit) fun _ => True :=
  fun s => ⟨(), f s, rfl, trivial⟩

end Yields

section Probes

variable {S : Type} {bus : Bus S} {captures : Bool} {fleet : List Uid} {len : UInt8} {bits : Uid}

theorem verdict_quiet {reply : Reply} (quiet : reply.Quiet) : Bus.verdict reply len bits = .empty := by
  obtain ⟨none, garble, trailing⟩ := quiet
  simp [Bus.verdict, none, garble, trailing]

theorem verdict_clean {reply : Reply} {uid : Uid} (clean : reply.Clean uid) :
    ∃ id, Bus.verdict reply len bits = if matchesPrefix uid bits len then .candidate ⟨uid, id⟩ else .collision := by
  obtain ⟨⟨id, one⟩, garble, trailing⟩ := clean
  exact ⟨id, by simp [Bus.verdict, one, garble, trailing, uidOf_ofFn]⟩

theorem verdict_collided {reply : Reply} (short : len.toNat ≤ 8 * uidLen) (collided : reply.Collided len bits) :
    Bus.verdict reply len bits = .collision := by
  obtain ⟨heard, none⟩ := collided
  unfold Bus.verdict
  split
  next statuses clean =>
    simp only [Bool.and_eq_true, decide_eq_true_eq, Bool.not_eq_true'] at clean
    exact absurd ⟨statuses, clean⟩ heard
  next status statuses clean =>
    simp only [Bool.and_eq_true, decide_eq_true_eq, Bool.not_eq_true'] at clean
    split
    next full =>
      obtain ⟨fine, size⟩ := full
      have foreign := none (Form.uidOf status.payload)
        ⟨⟨status.id, by rw [ofFn_uidOf size, statuses, ← fine]⟩, clean⟩
      rw [← Bool.not_eq_true, uidPrefixMatches_iff _ _ short, ← matchesPrefix_iff] at foreign
      exact if_neg foreign
    next => rfl
  next => rfl

theorem verdict_finds {reply : Reply} (short : len.toNat ≤ 8 * uidLen)
    (tells : reply.Tells captures fleet len bits) :
    Finds captures (under fleet len bits) (Bus.verdict reply len bits) := by
  have elected : ∀ uid ∈ under fleet len bits, reply.Clean uid →
      ∃ id, Bus.verdict reply len bits = .candidate ⟨uid, id⟩ := by
    intro uid member clean
    obtain ⟨id, verdict⟩ := @verdict_clean len bits reply uid clean
    have agree := (uidPrefixMatches_iff uid bits short).mp (List.mem_filter.mp member).2
    rw [if_pos ((matchesPrefix_iff uid bits len).mpr agree)] at verdict
    exact ⟨id, verdict⟩
  unfold Reply.Tells at tells
  split at tells
  next none =>
    rw [none, verdict_quiet tells]
    exact .empty
  next uid one =>
    obtain ⟨id, verdict⟩ := elected uid (by simp [one]) tells
    rw [one, verdict]
    exact .lone id uid
  next several some more =>
    have many : 2 ≤ (under fleet len bits).length := by
      cases list : under fleet len bits with
      | nil => exact (some list).elim
      | cons first rest =>
        cases rest with
        | nil => exact (more first list).elim
        | cons second rest => simp
    rcases tells with collided | ⟨may, uid, member, clean⟩
    next =>
      rw [verdict_collided short collided]
      exact .collision many
    next =>
      obtain ⟨id, verdict⟩ := elected uid member clean
      rw [verdict]
      exact .captured may many id member

theorem probe_finds (elects : bus.Elects captures fleet) (short : len.toNat ≤ 8 * uidLen) :
    Yields (bus.probe len bits) (Finds captures (under fleet len bits)) := by
  obtain ⟨n, p, built, reads⟩ := probe_reads bits short
  have parsed := reads _ (FrameBytes.bytes_ofList (p.take n))
  unfold Bus.probe
  rw [built]
  apply Yields.bind (P := fun reply => Finds captures (under fleet len bits) (Bus.verdict reply len bits))
  next =>
    intro s
    obtain ⟨reply, s', exchanged, tells⟩ := elects s (p.take n) _ _ parsed
    exact ⟨reply, s', congrArg some exchanged, verdict_finds short ((tells_used short).mp tells)⟩
  next =>
    intro reply finds
    cases verdict : Bus.verdict reply len bits with
    | collision =>
      rw [verdict] at finds
      exact (Yields.modify _).bind fun _ _ => .pure finds
    | candidate found =>
      rw [verdict] at finds
      exact .pure finds
    | empty =>
      rw [verdict] at finds
      exact .pure finds

theorem reprobe_finds (elects : bus.Elects captures fleet) (short : len.toNat ≤ 8 * uidLen) (retries : Nat)
    {verdict : Verdict} (finds : Finds captures (under fleet len bits) verdict) :
    Yields (bus.reprobe len bits retries verdict) (Finds captures (under fleet len bits)) := by
  induction retries generalizing verdict with
  | zero => exact .pure finds
  | succ retries ih =>
    cases verdict with
    | empty =>
      refine (Yields.modify _).bind fun _ _ => ?_
      exact (probe_finds elects short).bind fun _ again => ih again
    | candidate found => exact .pure finds
    | collision => exact .pure finds

theorem probeSettled_finds (elects : bus.Elects captures fleet) (short : len.toNat ≤ 8 * uidLen) :
    Yields (bus.probeSettled len bits) (Finds captures (under fleet len bits)) :=
  (probe_finds elects short).bind fun _ finds => reprobe_finds elects short _ finds

end Probes

section Walk

variable {S : Type} {bus : Bus S} {captures : Bool} {fleet : List Uid}

def Node (node : UInt8 × Uid) : Prop :=
  node.1.toNat ≤ 8 * uidLen ∧ ZeroFrom node.2 node.1.toNat

def weight (node : UInt8 × Uid) : Nat :=
  2 ^ (8 * uidLen + 1 - node.1.toNat) - 1

def pending (fleet : List Uid) (stack : List (UInt8 × Uid)) : List Uid :=
  stack.flatMap fun node => under fleet node.1 node.2

theorem lt_full {len : UInt8} (short : len.toNat ≤ 8 * uidLen) (shallow : len ≠ full) : len.toNat < 8 * uidLen := by
  rcases Nat.lt_or_eq_of_le short with below | deep
  next => exact below
  next => exact absurd (UInt8.toNat_inj.mp deep) shallow

theorem children_node {len : UInt8} {bits : Uid} (node : Node (len, bits)) (inside : len.toNat < 8 * uidLen) :
    ∀ child ∈ Bus.children len bits, Node child := by
  have deeper := toNat_succ inside
  have either : ∀ v, Node (len + 1, withBit bits len v) := by
    intro v
    refine ⟨?_, node.2.withBit inside v⟩
    show (len + 1).toNat ≤ 8 * uidLen
    omega
  simp [Bus.children, either]

theorem children_weight {len : UInt8} {bits : Uid} (inside : len.toNat < 8 * uidLen) :
    ((Bus.children len bits).map weight).sum < weight (len, bits) := by
  have deeper := toNat_succ inside
  have halves : 2 ^ (8 * uidLen + 1 - len.toNat) = 2 * 2 ^ (8 * uidLen + 1 - (len + 1).toNat) := by
    rw [← Nat.pow_succ', deeper]
    congr 1
    omega
  have some : 0 < 2 ^ (8 * uidLen + 1 - (len + 1).toNat) := Nat.two_pow_pos _
  simp only [Bus.children, weight, List.map_cons, List.map_nil, List.sum_cons, List.sum_nil, halves]
  omega

theorem weight_pos {node : UInt8 × Uid} (short : node.1.toNat ≤ 8 * uidLen) : 0 < weight node := by
  have more : 2 ^ 1 ≤ 2 ^ (8 * uidLen + 1 - node.1.toNat) := Nat.pow_le_pow_right (by decide) (by omega)
  simp only [weight]
  omega

/-- What one node of the walk may do: the UIDs it finds and those it leaves to its children are those under it. -/
structure Visits (captures : Bool) (fleet : List Uid) (node : UInt8 × Uid) (found : List Found)
    (visit : List Found × List (UInt8 × Uid)) : Prop where
  accounts : ∃ got, visit.1 = found ++ got ∧
    Accounts captures (got.map Found.uid ++ pending fleet visit.2) (under fleet node.1 node.2)
  nodes : ∀ child ∈ visit.2, Node child
  lighter : (visit.2.map weight).sum < weight node

theorem Visits.leaf (node : UInt8 × Uid) (found got : List Found) (short : node.1.toNat ≤ 8 * uidLen)
    (accounts : Accounts captures (got.map Found.uid) (under fleet node.1 node.2)) :
    Visits captures fleet node found (found ++ got, []) where
  accounts := ⟨got, rfl, by rw [pending, List.flatMap_nil, List.append_nil]; exact accounts⟩
  nodes := by simp
  lighter := weight_pos short

theorem Visits.descend {len : UInt8} {bits : Uid} (found : List Found) (node : Node (len, bits))
    (inside : len.toNat < 8 * uidLen) :
    Visits captures fleet (len, bits) found (found, Bus.children len bits) where
  accounts := by
    refine ⟨[], (List.append_nil found).symm, .of_perm ?_⟩
    simp only [pending, Bus.children, List.map_nil, List.nil_append, List.flatMap_cons, List.flatMap_nil,
      List.append_nil]
    exact under_children node.2 inside true
  nodes := children_node node inside
  lighter := children_weight inside

theorem visit_visits (elects : bus.Elects captures fleet) (distinct : fleet.Nodup) {len : UInt8} {bits : Uid}
    (node : Node (len, bits)) (found : List Found) :
    Yields (bus.visit len bits found) (Visits captures fleet (len, bits) found) := by
  have short : len.toNat ≤ 8 * uidLen := node.1
  refine (probeSettled_finds elects short).bind fun verdict finds => ?_
  cases verdict with
  | empty =>
    generalize told : under fleet len bits = owed at finds
    cases finds
    have quiet : Accounts captures (([] : List Found).map Found.uid) (under fleet len bits) := by
      rw [told]
      exact .of_perm (List.Perm.refl _)
    have leaf := Visits.leaf (len, bits) found [] short quiet
    rw [List.append_nil] at leaf
    exact .pure leaf
  | candidate first =>
    by_cases deep : len = full
    next =>
      simp only [deep, if_true]
      rw [deep] at short finds
      exact .pure (Visits.leaf (full, bits) found [first] short finds.accounts)
    next =>
      have inside := lt_full short deep
      have deeper := toNat_succ inside
      simp only [deep, if_false]
      refine (probeSettled_finds elects (by omega)).bind fun own elected => ?_
      refine (probeSettled_finds elects (by omega)).bind fun sib quiet => ?_
      have descends : Yields (S := S) (pure (found, Bus.children len bits)) (Visits captures fleet (len, bits) found) :=
        .pure (.descend found node inside)
      cases own with
      | empty => exact descends
      | collision => exact descends
      | candidate second =>
        cases sib with
        | collision => exact descends
        | candidate third => exact descends
        | empty =>
          by_cases same : second.uid = first.uid
          next =>
            simp only [same, if_true]
            -- The sibling has none, so all of them are the child's.
            have all := @under_children fleet bits len node.2 inside (bit first.uid len)
            generalize told : under fleet (len + 1) (withBit bits len !(bit first.uid len)) = others at quiet
            cases quiet
            rw [told, List.append_nil] at all
            exact .pure (Visits.leaf (len, bits) found [second] short
              (elected.accounts.trans (.of_perm all)))
          next =>
            simp only [same, if_false]
            exact descends
  | collision =>
    by_cases deep : len = full
    next =>
      -- Two UIDs cannot agree in all their bits.
      have one := @under_full fleet bits len distinct deep
      generalize told : under fleet len bits = several at finds
      rw [told] at one
      cases finds with
      | collision many => omega
    next =>
      simp only [deep, if_false]
      exact .pure (.descend found node (lt_full short deep))

structure Roster (captures : Bool) (fleet : List Uid) (found : List Found) : Prop where
  accounts : Accounts captures (found.map Found.uid) fleet
  sorted : (found.map Found.uid).Pairwise fun first second => uidLe first second = true

theorem uidLe_iff (first second : Uid) : uidLe first second = true ↔ List.ofFn first ≤ List.ofFn second :=
  decide_eq_true_iff

theorem uidLe_trans (first second third : Uid) (low : uidLe first second = true) (high : uidLe second third = true) :
    uidLe first third = true := by
  rw [uidLe_iff] at low high ⊢
  exact List.le_trans low high

theorem uidLe_total (first second : Uid) : (uidLe first second || uidLe second first) = true := by
  rw [Bool.or_eq_true, uidLe_iff, uidLe_iff]
  exact List.le_total _ _

theorem Roster.sort {found : List Found} (accounts : Accounts captures (found.map Found.uid) fleet) :
    Roster captures fleet (found.mergeSort fun first second => uidLe first.uid second.uid) where
  accounts := (Accounts.of_perm ((List.mergeSort_perm found _).map Found.uid)).trans accounts
  sorted := by
    rw [List.pairwise_map]
    apply List.pairwise_mergeSort
    next => exact fun first second third => uidLe_trans first.uid second.uid third.uid
    next => exact fun first second => uidLe_total first.uid second.uid

theorem walkFrom_roster (elects : bus.Elects captures fleet) (distinct : fleet.Nodup) (turns : Nat)
    {stack : List (UInt8 × Uid)} {found : List Found} (nodes : ∀ node ∈ stack, Node node)
    (enough : (stack.map weight).sum < turns)
    (accounts : Accounts captures (found.map Found.uid ++ pending fleet stack) fleet) :
    Yields (bus.walkFrom turns stack found) (Roster captures fleet) := by
  induction turns generalizing stack found with
  | zero => omega
  | succ turns ih =>
    cases stack with
    | nil =>
      rw [pending, List.flatMap_nil, List.append_nil] at accounts
      exact .pure (.sort accounts)
    | cons node stack =>
      obtain ⟨len, bits⟩ := node
      rw [List.map_cons, List.sum_cons] at enough
      refine (visit_visits elects distinct (nodes _ (by simp)) found).bind fun visit visits => ?_
      obtain ⟨got, more, kept⟩ := visits.accounts
      have lighter := visits.lighter
      refine ih ?_ ?_ ?_
      next =>
        intro child member
        rcases List.mem_append.mp member with above | below
        next => exact visits.nodes child above
        next => exact nodes child (by simp [below])
      next =>
        rw [List.map_append, List.sum_append]
        omega
      next =>
        refine Accounts.trans ?_ accounts
        have step := kept.append_right (found.map Found.uid) (pending fleet stack)
        simpa [more, pending, List.append_assoc] using step

/-- Turns that are always enough: the nodes of the whole tree, and one to find the stack empty. -/
def walkTurns : Nat := 2 ^ (8 * uidLen + 1)

theorem walk_roster (elects : bus.Elects captures fleet) (distinct : fleet.Nodup) {turns : Nat}
    (enough : walkTurns ≤ turns) : Yields (bus.walk turns) (Roster captures fleet) := by
  have some : 0 < walkTurns := Nat.two_pow_pos _
  refine walkFrom_roster elects distinct turns ?_ ?_ ?_
  next =>
    intro node member
    rw [List.mem_singleton.mp member]
    exact ⟨Nat.zero_le _, zeroFrom_zero _⟩
  next =>
    show weight (0, fun _ => 0) + 0 < turns
    have whole : weight (0, fun _ => 0) = walkTurns - 1 := rfl
    omega
  next =>
    rw [pending, List.flatMap_singleton, under_zero]
    exact .of_perm (List.Perm.refl _)

theorem rewalk_roster (elects : bus.Elects captures fleet) (distinct : fleet.Nodup) {turns : Nat}
    (enough : walkTurns ≤ turns) (walks : Nat) {prev : List Found} (roster : Roster captures fleet prev) :
    Yields (bus.rewalk turns walks prev) (Roster captures fleet) := by
  induction walks generalizing prev with
  | zero => exact .pure roster
  | succ walks ih =>
    refine (Yields.modify _).bind fun _ _ => ?_
    refine (walk_roster elects distinct enough).bind fun next again => ?_
    by_cases same : next = prev
    next =>
      simp only [same, if_true]
      exact .pure roster
    next =>
      simp only [same, if_false]
      exact ih again

end Walk

def cleanReply (uid : Uid) : Reply :=
  ⟨[⟨0, some .ok, List.ofFn uid⟩], 0, false⟩

def superposed (captures : Bool) : List Uid → Reply
  | [] => ⟨[], 0, false⟩
  | [uid] => cleanReply uid
  | uid :: _ => if captures then cleanReply uid else ⟨[], 1, false⟩

def ideal (captures : Bool) (fleet : List Uid) : Bus Unit where
  exchange _ _ _ payload :=
    .ok (match Form.parse .mgmtEnum (.ofList payload) with
      | none => ⟨[], 0, false⟩
      | some (len, bits) => superposed captures (under fleet len bits), ())
  pause _ _ := ()

theorem ideal_elects (captures : Bool) (fleet : List Uid) : (ideal captures fleet).Elects captures fleet := by
  intro s payload len bits parsed
  refine ⟨superposed captures (under fleet len bits), (), by simp only [ideal, parsed], ?_⟩
  unfold Reply.Tells
  cases under fleet len bits with
  | nil => exact ⟨rfl, rfl, rfl⟩
  | cons uid rest =>
    cases rest with
    | nil => exact ⟨⟨0, rfl⟩, rfl, rfl⟩
    | cons second rest =>
      cases captures with
      | false => exact .inl ⟨fun quiet => absurd quiet.2.1 (by simp [superposed]),
          fun _ clean => absurd clean.2.1 (by simp [superposed])⟩
      | true => exact .inr ⟨rfl, uid, by simp, ⟨0, rfl⟩, rfl, rfl⟩

/-- Discovery comes back with the fleet, once each and in the order of the UID bytes, and where a collision may be
captured as one of the UIDs it is of, with some of it. -/
theorem discovers {S : Type} (bus : Bus S) {fleet : List Uid} (distinct : fleet.Nodup) {turns : Nat}
    (enough : walkTurns ≤ turns) (s : S) :
    (bus.Elects false fleet → ∃ found s', bus.discover turns s = some (.ok (found, s')) ∧
      (found.map Found.uid).Perm fleet ∧ (found.map Found.uid).Nodup ∧
        (found.map Found.uid).Pairwise fun first second => uidLe first second = true) ∧
      (bus.Elects true fleet → ∃ found s', bus.discover turns s = some (.ok (found, s')) ∧
        found.map Found.uid ⊆ fleet ∧ (found.map Found.uid).Nodup ∧
          (found.map Found.uid).Pairwise fun first second => uidLe first second = true) := by
  have finds : ∀ captures, bus.Elects captures fleet → Yields (bus.discover turns) (Roster captures fleet) :=
    fun captures elects => (walk_roster elects distinct enough).bind fun _ roster =>
      rewalk_roster elects distinct enough _ roster
  constructor
  next =>
    intro elects
    obtain ⟨found, s', back, roster⟩ := finds false elects s
    have whole := roster.accounts.perm rfl
    exact ⟨found, s', back, whole, whole.nodup_iff.mpr distinct, roster.sorted⟩
  next =>
    intro elects
    obtain ⟨found, s', back, roster⟩ := finds true elects s
    have part := roster.accounts.subperm
    have ⟨kept, same, sublist⟩ := part
    exact ⟨found, s', back, part.subset, same.nodup_iff.mp (distinct.sublist sublist), roster.sorted⟩

theorem discovers_pair :
    (∃ found s', (ideal false [fun _ => 0, fun _ => 1]).discover walkTurns () = some (.ok (found, s')) ∧
      (found.map Found.uid).Perm [fun _ => 0, fun _ => 1]) ∧
      ∃ found s', (ideal true [fun _ => 0, fun _ => 1]).discover walkTurns () = some (.ok (found, s')) ∧
        found.map Found.uid ⊆ [fun _ => 0, fun _ => 1] := by
  have distinct : [(fun _ => 0 : Uid), fun _ => 1].Nodup := by decide
  constructor
  next =>
    have whole := discovers (ideal false [fun _ => 0, fun _ => 1]) distinct (Nat.le_refl _) ()
    obtain ⟨found, s', back, whole, -⟩ := whole.1 (ideal_elects false _)
    exact ⟨found, s', back, whole⟩
  next =>
    have captured := discovers (ideal true [fun _ => 0, fun _ => 1]) distinct (Nat.le_refl _) ()
    obtain ⟨found, s', back, part, -⟩ := captured.2 (ideal_elects true _)
    exact ⟨found, s', back, part⟩

end OpenServo.Client
