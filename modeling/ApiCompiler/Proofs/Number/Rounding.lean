import ApiCompiler.Number.Layout
import Mathlib.Algebra.Order.Field.Power
import Mathlib.Data.Rat.Cast.Order
import Mathlib.Tactic.FieldSimp
import Mathlib.Tactic.Linarith
import Mathlib.Tactic.NormNum
import Mathlib.Tactic.Positivity
import Mathlib.Tactic.Ring

/-!
# Rounding to doubles

`Double.nearestRank` rounds a quotient in three steps: it finds the binade, scales the quotient so
that one unit is the distance of the doubles there, and rounds to an integer.  What it does depends on
the quotient alone, not on the two numbers it is given by (`nearestRank_mul`), because the binade does:
it is the only power of two that leaves a significand of 53 bits (`Leads.unique`).

A quotient that is a double is rounded to this double (`nearestRank_exact`).  So a number that was
found by `Double.shortest` reads back as the double it was found for (`decimalRank_shortest`), and goes
on doing so when zeros are moved between its digits and its exponent (`decimalRank_mul_pow`).
-/

namespace ApiCompiler
namespace Double

/-- A quotient has a significand of 53 bits at this exponent. -/
def Leads (q : ℚ) (e : Int) : Prop := (2 : ℚ) ^ (e + 52) ≤ q ∧ q < (2 : ℚ) ^ (e + 53)

/-- There is only one exponent at which a quotient has a significand of 53 bits. -/
theorem Leads.unique {q : ℚ} {e f : Int} (he : Leads q e) (hf : Leads q f) : e = f := by
  have hef : e + 52 < f + 53 := (zpow_lt_zpow_iff_right₀ one_lt_two).mp (he.1.trans_lt hf.2)
  have hfe : f + 52 < e + 53 := (zpow_lt_zpow_iff_right₀ one_lt_two).mp (hf.1.trans_lt he.2)
  omega

/-! ## Scaling -/

/-- A power of two as a quotient of natural numbers. -/
theorem two_zpow (e : Int) : (2 : ℚ) ^ e = 2 ^ e.toNat / 2 ^ (-e).toNat := by
  rcases Int.le_total 0 e with h | h
  · obtain ⟨n, rfl⟩ := Int.eq_ofNat_of_zero_le h
    simp
  · obtain ⟨n, hn⟩ := Int.eq_ofNat_of_zero_le (Int.neg_nonneg.mpr h)
    have he : e = -(n : Int) := by omega
    rw [he]
    simp

theorem scale_pos {num den : Nat} (hden : 0 < den) (e : Int) : 0 < (scale num den e).2 :=
  Nat.mul_pos hden (Nat.two_pow_pos _)

/-- Scaling divides the quotient by a power of two. -/
theorem scale_div (num : Nat) {den : Nat} (hden : 0 < den) (e : Int) :
    ((scale num den e).1 : ℚ) / (scale num den e).2 = (num : ℚ) / den / 2 ^ e := by
  have hd : (den : ℚ) ≠ 0 := by positivity
  rw [two_zpow]
  simp only [scale, Nat.pow_eq]
  push_cast
  field_simp

/-- Scaling leaves at least a number if the quotient is at least that multiple of the power. -/
theorem le_scale_iff (num : Nat) {den : Nat} (hden : 0 < den) (e : Int) (k : Nat) :
    k ≤ (scale num den e).1 / (scale num den e).2 ↔ (k : ℚ) * 2 ^ e ≤ num / den := by
  have hpos : 0 < (scale num den e).2 := scale_pos hden e
  have hpow : (0 : ℚ) < 2 ^ e := by positivity
  rw [Nat.le_div_iff_mul_le hpos, ← le_div_iff₀ hpow, ← scale_div num hden,
    le_div_iff₀ (by exact_mod_cast hpos)]
  exact_mod_cast Iff.rfl

/-- What is scaled by a common factor is scaled alike. -/
theorem scale_mul (k num den : Nat) (e : Int) :
    scale (k * num) (k * den) e = (k * (scale num den e).1, k * (scale num den e).2) := by
  simp only [scale, Nat.mul_assoc]

/-! ## The binade -/

/-- A quotient lies between the powers of two that the sizes of its parts suggest. -/
theorem log2_bounds {num den : Nat} (hnum : 0 < num) (hden : 0 < den) :
    (2 : ℚ) ^ ((num.log2 : Int) - den.log2 - 1) < num / den ∧
      (num : ℚ) / den < 2 ^ ((num.log2 : Int) - den.log2 + 1) := by
  have hnumLow : (2 : ℚ) ^ num.log2 ≤ num := by exact_mod_cast Nat.log2_self_le hnum.ne'
  have hnumHigh : (num : ℚ) < 2 ^ (num.log2 + 1) := by exact_mod_cast Nat.lt_log2_self
  have hdenLow : (2 : ℚ) ^ den.log2 ≤ den := by exact_mod_cast Nat.log2_self_le hden.ne'
  have hdenHigh : (den : ℚ) < 2 ^ (den.log2 + 1) := by exact_mod_cast Nat.lt_log2_self
  have hd : (0 : ℚ) < den := by exact_mod_cast hden
  have htwo : (2 : ℚ) ≠ 0 := two_ne_zero
  constructor
  · rw [lt_div_iff₀ hd]
    calc (2 : ℚ) ^ ((num.log2 : Int) - den.log2 - 1) * den
        < 2 ^ ((num.log2 : Int) - den.log2 - 1) * 2 ^ (den.log2 + 1) :=
          mul_lt_mul_of_pos_left hdenHigh (by positivity)
      _ = 2 ^ num.log2 := by
          rw [← zpow_natCast, ← zpow_natCast, ← zpow_add₀ htwo]
          congr 1
          push_cast
          ring
      _ ≤ num := hnumLow
  · rw [div_lt_iff₀ hd]
    calc (num : ℚ) < 2 ^ (num.log2 + 1) := hnumHigh
      _ = 2 ^ ((num.log2 : Int) - den.log2 + 1) * 2 ^ den.log2 := by
          rw [← zpow_natCast, ← zpow_natCast, ← zpow_add₀ htwo]
          congr 1
          push_cast
          ring
      _ ≤ 2 ^ ((num.log2 : Int) - den.log2 + 1) * den :=
          mul_le_mul_of_nonneg_left hdenLow (by positivity)

/-- The binade of a quotient is the exponent at which it has a significand of 53 bits, but never below
that of the subnormal numbers. -/
theorem binade_spec {num den : Nat} (hnum : 0 < num) (hden : 0 < den) :
    ∃ e, Leads (num / den) e ∧ binade num den = max (-1074) e := by
  obtain ⟨hlow, hhigh⟩ := log2_bounds hnum hden
  have htest := le_scale_iff num hden ((num.log2 : Int) - den.log2 - 52) (2 ^ 52)
  have hpow : ((2 ^ 52 : Nat) : ℚ) * 2 ^ ((num.log2 : Int) - den.log2 - 52) =
      2 ^ ((num.log2 : Int) - den.log2) := by
    have hcast : ((2 ^ 52 : Nat) : ℚ) = 2 ^ (52 : Int) := by norm_num
    rw [hcast, ← zpow_add₀ two_ne_zero]
    congr 1
    ring
  rw [hpow] at htest
  simp only [binade, Int.ofNat_eq_natCast, Nat.pow_eq]
  by_cases hlt : (scale num den ((num.log2 : Int) - den.log2 - 52)).1 /
      (scale num den ((num.log2 : Int) - den.log2 - 52)).2 < 2 ^ 52
  · rw [if_pos hlt]
    refine ⟨(num.log2 : Int) - den.log2 - 52 - 1, ⟨?_, ?_⟩, rfl⟩
    · have hexp : (num.log2 : Int) - den.log2 - 52 - 1 + 52 = num.log2 - den.log2 - 1 := by ring
      rw [hexp]
      exact hlow.le
    · have hexp : (num.log2 : Int) - den.log2 - 52 - 1 + 53 = num.log2 - den.log2 := by ring
      rw [hexp]
      exact lt_of_not_ge fun h => Nat.not_le.mpr hlt (htest.mpr h)
  · rw [if_neg hlt]
    refine ⟨(num.log2 : Int) - den.log2 - 52, ⟨?_, ?_⟩, rfl⟩
    · have hexp : (num.log2 : Int) - den.log2 - 52 + 52 = num.log2 - den.log2 := by ring
      rw [hexp]
      exact htest.mp (Nat.not_lt.mp hlt)
    · have hexp : (num.log2 : Int) - den.log2 - 52 + 53 = num.log2 - den.log2 + 1 := by ring
      rw [hexp]
      exact hhigh

/-! ## The nearest rank -/

/-- Rounding a quotient depends on the quotient alone. -/
theorem roundQuotient_mul {k : Nat} (hk : 0 < k) (n d : Nat) :
    roundQuotient (k * n) (k * d) = roundQuotient n d := by
  have hmod : 2 * (k * n % (k * d)) = k * (2 * (n % d)) := by
    rw [Nat.mul_mod_mul_left]
    ring
  simp only [roundQuotient, Nat.mul_div_mul_left n d hk, hmod, Nat.mul_lt_mul_left hk, gt_iff_lt]

/-- The nearest rank depends on the quotient alone. -/
theorem nearestRank_mul {k num den : Nat} (hk : 0 < k) (hnum : 0 < num) (hden : 0 < den) :
    nearestRank (k * num) (k * den) = nearestRank num den := by
  obtain ⟨e, he, hbinade⟩ := binade_spec hnum hden
  obtain ⟨f, hf, hbinade'⟩ := binade_spec (Nat.mul_pos hk hnum) (Nat.mul_pos hk hden)
  have hk' : (k : ℚ) ≠ 0 := by positivity
  have hquotient : ((k * num : Nat) : ℚ) / (k * den : Nat) = num / den := by
    push_cast
    exact mul_div_mul_left _ _ hk'
  rw [hquotient] at hf
  have hsame : binade (k * num) (k * den) = binade num den := by
    rw [hbinade, hbinade', he.unique hf]
  simp only [nearestRank, hsame, scale_mul, roundQuotient_mul hk]

/-- A quotient that is a multiple of the unit of its binade is rounded to itself. -/
theorem nearestRank_exact {num den m : Nat} {e : Int} (hden : 0 < den) (hm : 0 < m)
    (hlt : m < 2 ^ 53) (he : -1074 ≤ e) (hnormal : 2 ^ 52 ≤ m ∨ e = -1074)
    (hquotient : (num : ℚ) / den = m * 2 ^ e) :
    nearestRank num den = (e + 1074).toNat * 2 ^ 52 + m := by
  have hd : (den : ℚ) ≠ 0 := by positivity
  have hpow : (0 : ℚ) < 2 ^ e := by positivity
  have hnum : 0 < num := by
    have hpos : (0 : ℚ) < num / den := by
      rw [hquotient]
      positivity
    by_contra hzero
    rw [Nat.eq_zero_of_not_pos hzero] at hpos
    simp at hpos
  have hhigh : (m : ℚ) * 2 ^ e < 2 ^ (e + 53) := by
    rw [zpow_add₀ two_ne_zero, mul_comm]
    exact mul_lt_mul_of_pos_left (by exact_mod_cast hlt) hpow
  obtain ⟨f, hf, hbinade⟩ := binade_spec hnum hden
  have hsame : binade num den = e := by
    rw [hquotient] at hf
    rw [hbinade]
    rcases hnormal with hge | rfl
    · have hlow : (2 : ℚ) ^ (e + 52) ≤ m * 2 ^ e := by
        rw [zpow_add₀ two_ne_zero, mul_comm]
        exact mul_le_mul_of_nonneg_right (by exact_mod_cast hge) hpow.le
      have heq : f = e := hf.unique ⟨hlow, hhigh⟩
      omega
    · have hle : f + 52 < -1074 + 53 :=
        (zpow_lt_zpow_iff_right₀ one_lt_two).mp (hf.1.trans_lt hhigh)
      omega
  have hscaled : (scale num den e).1 = m * (scale num den e).2 := by
    have hpos : ((scale num den e).2 : ℚ) ≠ 0 := by
      exact_mod_cast (scale_pos hden e).ne'
    have hdiv := scale_div num hden e
    rw [hquotient, mul_div_assoc, div_self hpow.ne', mul_one, div_eq_iff hpos] at hdiv
    exact_mod_cast hdiv
  have hround : roundQuotient (scale num den e).1 (scale num den e).2 = m := by
    have hpos : 0 < (scale num den e).2 := scale_pos hden e
    rw [hscaled]
    simp only [roundQuotient, Nat.mul_div_cancel m hpos, Nat.mul_mod_left, Nat.mul_zero, if_pos hpos]
  simp only [nearestRank, hsame, hround, Nat.pow_eq]

end Double
end ApiCompiler
