import Mathlib.Algebra.Order.Ring.Nat
import AnalysisWebhooks.Decimal.Binary

namespace AnalysisWebhooks.Decimal

theorem leadingBit_eq : leadingBit = 2 ^ 52 := by
  decide

theorem infiniteBits_eq : infiniteBits = 2047 * 2 ^ 52 := by
  rw [infiniteBits, leadingBit_eq]

theorem roundedQuotient_le (n d : Nat) : roundedQuotient n d ≤ n / d + 1 := by
  unfold roundedQuotient
  dsimp only
  split <;> omega

theorem roundedQuotient_of_dvd {n d : Nat} (hd : 0 < d) (h : d ∣ n) :
    roundedQuotient n d = n / d := by
  have hr : n % d = 0 := Nat.mod_eq_zero_of_dvd h
  unfold roundedQuotient
  dsimp only
  rw [hr, if_neg]
  simp
  omega

def aligned (n : Nat) : Nat × Nat :=
  scaled n 1 (n.log2 - 52)

theorem aligned_of_lt {n : Nat} (h : n.log2 < 52) : aligned n = (n * 2 ^ (52 - n.log2), 1) := by
  have hnum : (-((n.log2 : Int) - 52)).toNat = 52 - n.log2 := by omega
  have hden : ((n.log2 : Int) - 52).toNat = 0 := by omega
  rw [aligned, scaled, hnum, hden, Nat.shiftLeft_eq, Nat.shiftLeft_zero]

theorem aligned_of_le {n : Nat} (h : 52 ≤ n.log2) : aligned n = (n, 2 ^ (n.log2 - 52)) := by
  have hnum : (-((n.log2 : Int) - 52)).toNat = 0 := by omega
  have hden : ((n.log2 : Int) - 52).toNat = n.log2 - 52 := by omega
  rw [aligned, scaled, hnum, hden, Nat.shiftLeft_zero, Nat.shiftLeft_eq, Nat.one_mul]

theorem aligned_pos (n : Nat) : 0 < (aligned n).2 := by
  rcases Nat.lt_or_ge n.log2 52 with h | h
  · rw [aligned_of_lt h]
    exact Nat.one_pos
  · rw [aligned_of_le h]
    exact Nat.two_pow_pos _

theorem aligned_quotient {n : Nat} (h0 : n ≠ 0) :
    2 ^ 52 ≤ (aligned n).1 / (aligned n).2 ∧ (aligned n).1 / (aligned n).2 < 2 ^ 53 := by
  have low : 2 ^ n.log2 ≤ n := Nat.log2_self_le h0
  have high : n < 2 ^ (n.log2 + 1) := Nat.lt_log2_self
  rcases Nat.lt_or_ge n.log2 52 with h | h
  · rw [aligned_of_lt h, Nat.div_one]
    constructor
    · calc 2 ^ 52 = 2 ^ n.log2 * 2 ^ (52 - n.log2) := by rw [← Nat.pow_add]; congr 1; omega
        _ ≤ n * 2 ^ (52 - n.log2) := Nat.mul_le_mul_right _ low
    · calc n * 2 ^ (52 - n.log2) < 2 ^ (n.log2 + 1) * 2 ^ (52 - n.log2) :=
            Nat.mul_lt_mul_of_pos_right high (Nat.two_pow_pos _)
        _ = 2 ^ 53 := by rw [← Nat.pow_add]; congr 1; omega
  · rw [aligned_of_le h]
    constructor
    · rw [Nat.le_div_iff_mul_le (Nat.two_pow_pos _), ← Nat.pow_add]
      exact Nat.le_trans (Nat.pow_le_pow_right Nat.two_pos (by omega)) low
    · rw [Nat.div_lt_iff_lt_mul (Nat.two_pow_pos _), ← Nat.pow_add]
      exact Nat.lt_of_lt_of_le high (Nat.pow_le_pow_right Nat.two_pos (by omega))

theorem quotientExponent_one {n : Nat} (h0 : n ≠ 0) : quotientExponent n 1 = n.log2 - 52 := by
  have full := (aligned_quotient h0).1
  have one : Nat.log2 1 = 0 := by decide
  have guess : max ((n.log2 : Int) - (Nat.log2 1 : Nat) - 52) (-1074) = n.log2 - 52 := by
    rw [one]
    omega
  unfold quotientExponent
  dsimp only
  rw [guess, leadingBit_eq, if_neg]
  rw [Bool.and_eq_true, decide_eq_true_eq, not_and]
  exact fun hlt => absurd hlt (Nat.not_lt.2 full)

theorem nearestBits_lt {n : Nat} (bound : n.log2 ≤ 1023)
    (whole : n.log2 = 1023 → (aligned n).2 ∣ (aligned n).1) : nearestBits n 1 < infiniteBits := by
  by_cases h0 : n = 0
  · subst h0
    decide
  have high := (aligned_quotient h0).2
  have rounded := roundedQuotient_le (aligned n).1 (aligned n).2
  have top : n.log2 = 1023 → roundedQuotient (aligned n).1 (aligned n).2 < 2 ^ 53 := by
    intro hlog
    rw [roundedQuotient_of_dvd (aligned_pos n) (whole hlog)]
    exact high
  unfold nearestBits
  rw [if_neg (by simpa using h0), quotientExponent_one h0, infiniteBits_eq, leadingBit_eq]
  change min (if roundedQuotient (aligned n).1 (aligned n).2 < 2 ^ 52 then
    roundedQuotient (aligned n).1 (aligned n).2
    else ((n.log2 : Int) - 52 + 1074).toNat * 2 ^ 52 + roundedQuotient (aligned n).1 (aligned n).2)
    (2047 * 2 ^ 52) < _
  generalize roundedQuotient (aligned n).1 (aligned n).2 = q at rounded top ⊢
  rcases Nat.lt_or_ge n.log2 1023 with hlog | hlog
  · split <;> omega
  · have := top (Nat.le_antisymm bound hlog)
    split <;> omega

theorem finite_ofBits {bits : Nat} {d : Dyadic} (h : Binary.ofBits bits = .finite d) :
    d.mantissa < 2 ^ 53 ∧ d.exponent ≤ 971 := by
  have fraction : bits % leadingBit < 2 ^ 52 := by
    rw [leadingBit_eq]
    exact Nat.mod_lt _ (Nat.two_pow_pos 52)
  have exponent : bits / leadingBit % 2048 < 2048 := Nat.mod_lt _ (by decide)
  unfold Binary.ofBits at h
  dsimp only at h
  split at h
  · split at h <;> cases h
  · rename_i notLast
    split at h
    · cases h
      constructor
      · exact Nat.lt_trans fraction (by decide)
      · exact Int.le_of_lt (by decide : (-1074 : Int) < 971)
    · cases h
      rw [beq_iff_eq] at notLast
      dsimp only
      rw [leadingBit_eq] at *
      omega

theorem log2_le_of_lt {n k : Nat} (h : n < 2 ^ k) (bound : k ≤ 1024) : n.log2 ≤ 1023 := by
  by_cases h0 : n = 0
  · subst h0
    decide
  · have := (Nat.log2_lt h0).2 h
    omega

theorem nearestBits_mul_lt {m k : Nat} (hm : m < 2 ^ 53) (hk : k ≤ 971) :
    nearestBits (m * 2 ^ k) 1 < infiniteBits := by
  have small : m * 2 ^ k < 2 ^ (53 + k) := by
    rw [Nat.pow_add]
    exact Nat.mul_lt_mul_of_pos_right hm (Nat.two_pow_pos k)
  refine nearestBits_lt (log2_le_of_lt small (by omega)) fun hlog => ?_
  -- only the largest exponent gives a number of 1024 binary digits
  have h0 : m * 2 ^ k ≠ 0 := by
    intro h0
    rw [h0] at hlog
    cases hlog
  have large := (Nat.log2_lt h0).2 small
  have exponent : (m * 2 ^ k).log2 - 52 = k := by omega
  rw [aligned_of_le (by omega), exponent]
  exact Nat.dvd_mul_left _ m

theorem natAbs_truncated (d : Dyadic) :
    d.truncated.natAbs = d.mantissa * 2 ^ d.exponent.toNat / 2 ^ (-d.exponent).toNat := by
  unfold Dyadic.truncated Dyadic.fraction
  dsimp only
  rw [Nat.shiftLeft_eq, Nat.shiftLeft_eq, Nat.one_mul]
  split
  · rw [Int.natAbs_neg, Int.natAbs_natCast]
  · rw [Int.natAbs_natCast]

theorem isSome_floatOfInt?_truncated {bits : Nat} {d : Dyadic}
    (h : Binary.ofBits bits = .finite d) :
    (floatOfInt? (max 0 d.truncated)).isSome = true := by
  obtain ⟨mantissa, exponent⟩ := finite_ofBits h
  have near : nearestBits (max 0 d.truncated).natAbs 1 < infiniteBits := by
    rcases Int.le_total d.truncated 0 with negative | positive
    · rw [Int.max_eq_left negative]
      decide
    · rw [Int.max_eq_right positive, natAbs_truncated]
      rcases Int.le_total d.exponent 0 with small | large
      · have whole : d.exponent.toNat = 0 := by omega
        have bound : d.mantissa / 2 ^ (-d.exponent).toNat < 2 ^ 53 :=
          Nat.lt_of_le_of_lt (Nat.div_le_self ..) mantissa
        rw [whole, Nat.pow_zero, Nat.mul_one]
        simpa using nearestBits_mul_lt (k := 0) bound (by decide)
      · have whole : (-d.exponent).toNat = 0 := by omega
        rw [whole, Nat.pow_zero, Nat.div_one]
        exact nearestBits_mul_lt mantissa (by omega)
  unfold floatOfInt?
  dsimp only
  rw [if_neg (by simpa using Nat.ne_of_lt near)]
  rfl

end AnalysisWebhooks.Decimal
