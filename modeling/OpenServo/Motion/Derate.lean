import OpenServo.Motion.Limits
import OpenServo.Motion.Reciprocal

set_option autoImplicit false

namespace OpenServo.Motion

open OpenServo.Shared

namespace LimitState

section Foldback

variable (cfg : LimitCfg) {t : Int} (s : LimitState)

theorem updateDerate_cutoff (hot : cfg.cutoffCc.toInt ≤ t) : (s.updateDerate t cfg).derateCache = 0 :=
  if_pos hot

theorem updateDerate_full (cool : t < cfg.cutoffCc.toInt)
    (free : t < cfg.derateStartCc.toInt ∨ cfg.cutoffCc.toInt ≤ cfg.derateStartCc.toInt) :
    (s.updateDerate t cfg).derateCache = cfg.currentLimitCounts.toNat := by
  have steps : t < cfg.derateStartCc.toInt ∨ cfg.cutoffCc.toInt - cfg.derateStartCc.toInt ≤ 0 := by omega
  simp only [updateDerate]
  rw [if_neg (by omega), if_pos steps]

theorem updateDerate_between (started : cfg.derateStartCc.toInt ≤ t) (cool : t < cfg.cutoffCc.toInt) :
    (s.updateDerate t cfg).derateCache =
      min (recipDiv (cfg.currentLimitCounts.toNat * (cfg.cutoffCc.toInt - t).toNat)
        (cfg.cutoffCc.toInt - cfg.derateStartCc.toInt).toNat) cfg.currentLimitCounts.toNat := by
  simp only [updateDerate]
  rw [if_neg (by omega), if_neg (by omega)]

theorem updateDerate_le : (s.updateDerate t cfg).derateCache ≤ cfg.currentLimitCounts.toNat := by
  simp only [updateDerate]
  split
  next => exact Nat.zero_le _
  next =>
    split
    next => exact Nat.le_refl _
    next => exact Nat.min_le_right _ _

theorem updateDerate_antitone (s' : LimitState) {t' : Int} (warmer : t ≤ t') :
    (s'.updateDerate t' cfg).derateCache ≤ (s.updateDerate t cfg).derateCache := by
  rcases Int.lt_or_le t' cfg.cutoffCc.toInt with cool | hot
  next =>
    by_cases free : t < cfg.derateStartCc.toInt ∨ cfg.cutoffCc.toInt ≤ cfg.derateStartCc.toInt
    next =>
      rw [s.updateDerate_full cfg (by omega) free]
      exact s'.updateDerate_le cfg
    next =>
      rw [s.updateDerate_between cfg (by omega) (by omega), s'.updateDerate_between cfg (by omega) (by omega)]
      have less : (cfg.cutoffCc.toInt - t').toNat ≤ (cfg.cutoffCc.toInt - t).toNat := by omega
      have quotient := recipDiv_mono (cfg.cutoffCc.toInt - cfg.derateStartCc.toInt).toNat
        (Nat.mul_le_mul_left cfg.currentLimitCounts.toNat less)
      exact Nat.le_min.mpr ⟨Nat.le_trans (Nat.min_le_left _ _) quotient, Nat.min_le_right _ _⟩
  next =>
    rw [s'.updateDerate_cutoff cfg hot]
    exact Nat.zero_le _

theorem updateDerate_near (started : cfg.derateStartCc.toInt ≤ t) (cool : t < cfg.cutoffCc.toInt) :
    let exact := (cfg.currentLimitCounts.toNat * (cfg.cutoffCc.toInt - t)) /
      (cfg.cutoffCc.toInt - cfg.derateStartCc.toInt)
    (((s.updateDerate t cfg).derateCache : Int) - exact).natAbs ≤ exact.natAbs / 65536 + 2 := by
  intro exact
  rw [s.updateDerate_between cfg started cool]
  obtain ⟨head, tall⟩ := Int.eq_ofNat_of_zero_le (show 0 ≤ cfg.cutoffCc.toInt - t by omega)
  obtain ⟨span, wide⟩ := Int.eq_ofNat_of_zero_le (show 0 ≤ cfg.cutoffCc.toInt - cfg.derateStartCc.toInt by omega)
  have low := cfg.derateStartCc.le_toInt
  have high := cfg.cutoffCc.toInt_lt
  have limit := cfg.currentLimitCounts.toNat_lt
  have same : exact = (cfg.currentLimitCounts.toNat * head / span : Nat) := by
    simp only [exact, tall, wide]
    norm_cast
  rw [tall, wide, same, Int.toNat_natCast, Int.toNat_natCast, Int.natAbs_natCast]
  have word : cfg.currentLimitCounts.toNat * head < 2 ^ 32 := by
    calc cfg.currentLimitCounts.toNat * head
      _ ≤ 65535 * 65535 := Nat.mul_le_mul (by omega) (by omega)
      _ < 2 ^ 32 := by decide
  obtain ⟨most, least⟩ := @recipDiv_near _ span word (by omega) (by omega)
  -- The exact value is below the limit too, so the cap only brings the two nearer.
  have capped : cfg.currentLimitCounts.toNat * head / span ≤ cfg.currentLimitCounts.toNat := by
    apply Nat.div_le_of_le_mul
    rw [Nat.mul_comm span]
    exact Nat.mul_le_mul_left _ (by omega)
  omega

end Foldback

theorem derate_law (cfg : LimitCfg) (s s' : LimitState) (t t' : Int) :
    let exact := (cfg.currentLimitCounts.toNat * (cfg.cutoffCc.toInt - t)) /
      (cfg.cutoffCc.toInt - cfg.derateStartCc.toInt)
    (t ≤ t' → (s'.updateDerate t' cfg).derateCache ≤ (s.updateDerate t cfg).derateCache) ∧
      (s.updateDerate t cfg).derateCache ≤ cfg.currentLimitCounts.toNat ∧
      (t < cfg.derateStartCc.toInt → t < cfg.cutoffCc.toInt →
        (s.updateDerate t cfg).derateCache = cfg.currentLimitCounts.toNat) ∧
      (cfg.cutoffCc.toInt ≤ t → (s.updateDerate t cfg).derateCache = 0) ∧
      (cfg.derateStartCc.toInt ≤ t → t < cfg.cutoffCc.toInt →
        (((s.updateDerate t cfg).derateCache : Int) - exact).natAbs ≤ exact.natAbs / 65536 + 2) :=
  ⟨s.updateDerate_antitone cfg s', s.updateDerate_le cfg, fun below cool => s.updateDerate_full cfg cool (.inl below),
    s.updateDerate_cutoff cfg, s.updateDerate_near cfg⟩

def foldbackCfg : LimitCfg :=
  ⟨1000, .yield, true, 10, 2, 100, 50, 500, 6000, 8000, -1000, 1000⟩

theorem derate_law_half :
    ((({} : LimitState).updateDerate 7500 foldbackCfg).derateCache ≤
        (({} : LimitState).updateDerate 7000 foldbackCfg).derateCache) ∧
      (((({} : LimitState).updateDerate 7000 foldbackCfg).derateCache : Int) - 500).natAbs ≤ 2 := by
  obtain ⟨falls, -, -, -, near⟩ := derate_law foldbackCfg {} {} 7000 7500
  exact ⟨falls (by decide), near (by decide) (by decide)⟩

end LimitState

end OpenServo.Motion
