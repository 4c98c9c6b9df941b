import OpenServo.Host.Stream

set_option autoImplicit false

namespace OpenServo.Host

open OpenServo.Protocol OpenServo.Shared

def Framer.backlog (framer : Framer) (look : Look) : Nat :=
  (look.cursor + look.ring.length - framer.anchor % look.ring.length) % look.ring.length

/-- A frame pays for all of its bytes, and garble for one at least. -/
inductive Spends (framer : Framer) (look : Look) : Framer × Step → Prop where
  | rests (step : Step) (rest : step = .idle ∨ step = .partialFrame) : Spends framer look (framer, step)
  | garble {after : Framer} (n : UInt16) (less : after.backlog look < framer.backlog look) :
      Spends framer look (after, .garble n)
  | frame {after : Framer} (f : Frame) (paid : after.backlog look + (f.payload.len + 6) ≤ framer.backlog look) :
      Spends framer look (after, .frame f)

section Steps

variable {framer : Framer} {look : Look} {n : Nat}

theorem backlog_moved (some : 0 < n)
    (waits : n ≤ (look.cursor + look.ring.length - framer.anchor) % look.ring.length) :
    (Framer.mk ((framer.anchor + n) % look.ring.length)).backlog look + n ≤ framer.backlog look := by
  simp only [Framer.backlog, Nat.mod_mod]
  rcases Nat.eq_zero_or_pos look.ring.length with none | size
  next =>
    simp only [none, Nat.mod_zero, Nat.add_zero] at waits ⊢
    omega
  next =>
    generalize look.ring.length = len at waits size ⊢
    generalize ahead : look.cursor + len - framer.anchor = gap at waits ⊢
    have inside : gap % len ≤ gap := Nat.mod_le gap len
    have whole := Nat.div_add_mod (framer.anchor + n) len
    have turned : look.cursor + len - (framer.anchor + n) % len = gap - n + len * ((framer.anchor + n) / len) := by
      omega
    have split := Nat.div_add_mod gap len
    have left : gap - n = gap % len - n + len * (gap / len) := by omega
    have short := Nat.mod_lt gap size
    have start := Nat.div_add_mod framer.anchor len
    have first : look.cursor + len - framer.anchor % len = gap + len * (framer.anchor / len) := by omega
    rw [turned, Nat.add_mul_mod_self_left, left, Nat.add_mul_mod_self_left, Nat.mod_eq_of_lt (by omega), first,
      Nat.add_mul_mod_self_left]
    omega

theorem payloadView_len (ring : List UInt8) (start n : Nat) : (payloadView ring start n).len ≤ n := by
  simp only [payloadView, FrameBytes.len, List.extract_eq_take_drop, List.length_take, List.length_drop]
  omega

theorem hunt_spends {avail : Nat} (gap : (look.cursor + look.ring.length - framer.anchor) % look.ring.length = avail)
    (some : avail ≠ 0) : Spends framer look (framer.hunt look.ring avail) := by
  have least := huntFrom_ge look.ring framer.anchor avail avail 1
  have most := huntFrom_le look.ring framer.anchor avail avail 1 (by omega)
  have moved := @backlog_moved framer look _ least (most.trans_eq gap.symm)
  exact .garble _ (by omega)

theorem step_spends (framer : Framer) (look : Look) : Spends framer look (framer.step look) := by
  unfold Framer.step
  dsimp only
  generalize gap : (look.cursor + look.ring.length - framer.anchor) % look.ring.length = avail
  split
  next => exact .rests _ (.inl rfl)
  next some =>
    split
    next => exact hunt_spends gap some
    next =>
      split
      next => exact .rests _ (.inr rfl)
      next =>
        split
        next => exact hunt_spends gap some
        next shaped =>
          split
          next => exact .rests _ (.inr rfl)
          next whole =>
            split
            next => exact hunt_spends gap some
            next =>
              have positive : 0 < footprint (look.ring.getD ((framer.anchor + 2) % look.ring.length) 0) :=
                Nat.add_pos_left (by decide) _
              have moved := @backlog_moved framer look _ positive ((Nat.le_of_not_lt whole).trans_eq gap.symm)
              rw [Bool.not_eq_true', Bool.not_eq_false] at shaped
              simp only [Framer.validShape, Bool.and_eq_true, decide_eq_true_eq] at shaped
              have atLeast : 3 ≤ (look.ring.getD ((framer.anchor + 2) % look.ring.length) 0).toNat :=
                UInt8.le_iff_toNat_le.mp shaped.1.1.1
              have view := payloadView_len look.ring ((framer.anchor + 4) % look.ring.length)
                ((look.ring.getD ((framer.anchor + 2) % look.ring.length) 0).toNat - 3)
              simp only [footprint] at moved
              exact .frame _ (by dsimp only [footprint]; omega)

end Steps

end OpenServo.Host
