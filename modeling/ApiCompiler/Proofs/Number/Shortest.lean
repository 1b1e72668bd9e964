import ApiCompiler.Proofs.Number.Rounding

/-!
# Digits that read back

`Double.shortest` accepts digits for a double only by reading them back, and falls back on the exact
decimal expansion.  The expansion reads back as well (`decimalRank_expansion`), since it is the double
and lies well inside the range in which `Double.decimalRank` rounds at all.  So the digits found always
read back as the double they were found for (`decimalRank_shortest`).

The spelling of a double need not show these digits as they are: it may fill them up with zeros.
Reading does not mind, because zeros can be moved between digits and exponent
(`decimalRank_mul_pow`).
-/

namespace ApiCompiler
namespace Double

/-! ## The parts of a double -/

theorem exponent_ge (x : Double) : -1074 ≤ x.exponent := by
  have hdiv : ¬ x.rank < 2 ^ 52 → 1 ≤ x.rank / 2 ^ 52 := fun h =>
    (Nat.one_le_div_iff (Nat.two_pow_pos 52)).mpr (Nat.le_of_not_lt h)
  rw [exponent, Nat.pow_eq]
  split
  · exact le_refl _
  · rename_i h
    have hone := hdiv h
    simp only [Int.ofNat_eq_natCast]
    omega

theorem exponent_le (x : Double) : x.exponent ≤ 971 := by
  have hlt : x.rank / 2 ^ 52 < 2047 :=
    Nat.div_lt_of_lt_mul (by rw [Nat.mul_comm]; exact x.rank_lt)
  rw [exponent, Nat.pow_eq]
  split
  · decide
  · simp only [Int.ofNat_eq_natCast]
    omega

theorem significand_lt (x : Double) : x.significand < 2 ^ 53 := by
  have hmod : x.rank % 2 ^ 52 < 2 ^ 52 := Nat.mod_lt _ (Nat.two_pow_pos 52)
  rw [significand, Nat.pow_eq]
  split <;> omega

/-- A significand of fewer than 53 bits is that of a subnormal number. -/
theorem significand_ge_or (x : Double) : 2 ^ 52 ≤ x.significand ∨ x.exponent = -1074 := by
  rw [significand, exponent, Nat.pow_eq]
  split
  · exact Or.inr rfl
  · exact Or.inl (Nat.le_add_right _ _)

theorem significand_pos {x : Double} (h : x.rank ≠ 0) : 0 < x.significand := by
  rw [significand, Nat.pow_eq]
  split <;> omega

/-- The rank of a double counts the doubles of the binades before its own, and those of its own. -/
theorem rank_eq (x : Double) : x.rank = (x.exponent + 1074).toNat * 2 ^ 52 + x.significand := by
  rw [significand, exponent, Nat.pow_eq]
  split
  · simp
  · rename_i h
    have hdiv : 1 ≤ x.rank / 2 ^ 52 :=
      (Nat.one_le_div_iff (Nat.two_pow_pos 52)).mpr (Nat.le_of_not_lt h)
    have hblock : (Int.ofNat (x.rank / 2 ^ 52) - 1075 + 1074).toNat = x.rank / 2 ^ 52 - 1 := by
      simp only [Int.ofNat_eq_natCast]
      omega
    rw [hblock]
    have hparts := Nat.div_add_mod x.rank (2 ^ 52)
    omega

/-! ## Numbers of digits -/

theorem digitCount_pos (n : Nat) : 0 < digitCount n := Nat.length_toDigits_pos

theorem digitCount_le_iff {n k : Nat} (h : 0 < k) : digitCount n ≤ k ↔ n < 10 ^ k :=
  Nat.length_toDigits_le_iff (by decide) h

theorem lt_pow_digitCount (n : Nat) : n < 10 ^ digitCount n :=
  (digitCount_le_iff (digitCount_pos n)).mp (le_refl _)

theorem pow_digitCount_le {n : Nat} (h : 0 < n) : 10 ^ (digitCount n - 1) ≤ n := by
  rcases Nat.eq_zero_or_pos (digitCount n - 1) with hone | hmore
  · rw [hone]
    exact h
  · by_contra hlt
    have hle : digitCount n ≤ digitCount n - 1 :=
      (digitCount_le_iff hmore).mpr (Nat.lt_of_not_le hlt)
    omega

/-- A zero at the end is one more digit. -/
theorem digitCount_ten {n : Nat} (h : 0 < n) : digitCount (10 * n) = digitCount n + 1 := by
  have happend : Nat.toDigits 10 n ++ Nat.toDigits 10 0 = Nat.toDigits 10 (10 * n + 0) :=
    Nat.toDigits_append_toDigits (by decide) h (by decide)
  rw [Nat.toDigits_zero, Nat.add_zero] at happend
  rw [digitCount, ← happend, List.length_append, digitCount, List.length_singleton]

/-! ## Moving zeros -/

/-- A zero may be moved from the digits of a number to its exponent. -/
theorem decimalRank_ten (digits : Nat) (exp10 : Int) :
    decimalRank (10 * digits) exp10 = decimalRank digits (exp10 + 1) := by
  rcases Nat.eq_zero_or_pos digits with rfl | hpos
  · simp [decimalRank]
  have htop : Int.ofNat (digitCount (10 * digits)) + exp10 =
      Int.ofNat (digitCount digits) + (exp10 + 1) := by
    rw [digitCount_ten hpos]
    simp only [Int.ofNat_eq_natCast]
    push_cast
    ring
  have hzero : (10 * digits = 0) ↔ digits = 0 := by omega
  have hrank : nearestRank (10 * digits * Nat.pow 10 exp10.toNat) (Nat.pow 10 (-exp10).toNat) =
      nearestRank (digits * Nat.pow 10 (exp10 + 1).toNat) (Nat.pow 10 (-(exp10 + 1)).toNat) := by
    simp only [Nat.pow_eq]
    rcases Int.le_total 0 exp10 with hge | hle
    · -- the exponent counts zeros of the number, and takes one more
      have hnum : (exp10 + 1).toNat = exp10.toNat + 1 := by omega
      have hden : (-exp10).toNat = 0 ∧ (-(exp10 + 1)).toNat = 0 := by omega
      rw [hnum, hden.1, hden.2, pow_succ]
      congr 1
      ring
    · rcases Int.lt_or_eq_of_le hle with hlt | rfl
      · -- the exponent counts zeros of the divisor, and one of them is cancelled
        have hnum : exp10.toNat = 0 ∧ (exp10 + 1).toNat = 0 := by omega
        have hden : (-exp10).toNat = (-(exp10 + 1)).toNat + 1 := by omega
        rw [hnum.1, hnum.2, hden, pow_zero, mul_one, mul_one, pow_succ, mul_comm (10 ^ _) 10]
        exact nearestRank_mul (by decide) hpos (by positivity)
      · simp [mul_comm]
  simp only [decimalRank, htop, hzero, hrank]

/-- Zeros may be moved from the digits of a number to its exponent. -/
theorem decimalRank_mul_pow (digits k : Nat) (exp10 : Int) :
    decimalRank (digits * 10 ^ k) exp10 = decimalRank digits (exp10 + k) := by
  induction k generalizing exp10 with
  | zero => simp
  | succ k ih =>
    have hdigits : digits * 10 ^ (k + 1) = 10 * (digits * 10 ^ k) := by ring
    have hexp : exp10 + 1 + (k : Int) = exp10 + ((k + 1 : Nat) : Int) := by
      push_cast
      ring
    rw [hdigits, decimalRank_ten, ih, hexp]

/-! ## The expansion -/

/-- The expansion of a double is the double. -/
theorem expansion_value (x : Double) :
    ((x.expansion.1 * 10 ^ x.expansion.2.toNat : Nat) : ℚ) / ((10 ^ (-x.expansion.2).toNat : Nat) : ℚ)
      = x.significand * 2 ^ x.exponent := by
  rw [expansion, two_zpow, Nat.pow_eq]
  split
  · rename_i h
    have hnonneg : x.exponent.toNat = 0 := by omega
    have hten : (10 : ℚ) ^ (-x.exponent).toNat =
        5 ^ (-x.exponent).toNat * 2 ^ (-x.exponent).toNat := by
      rw [← mul_pow]
      norm_num
    push_cast
    rw [hnonneg, hten]
    field_simp
  · rename_i h
    have hneg : (-x.exponent).toNat = 0 := by omega
    rw [hneg]
    simp

/-- A double that is not zero lies well inside the range in which digits are rounded. -/
theorem expansion_range {x : Double} (h : x.rank ≠ 0) :
    0 < x.expansion.1 ∧ -400 ≤ (digitCount x.expansion.1 : Int) + x.expansion.2 ∧
      (digitCount x.expansion.1 : Int) + x.expansion.2 ≤ 400 := by
  have hm := significand_pos h
  have hlt := x.significand_lt
  have hge := x.exponent_ge
  have hle := x.exponent_le
  rw [expansion]
  split
  · rename_i hneg
    obtain ⟨k, hk⟩ := Int.eq_ofNat_of_zero_le (show 0 ≤ -x.exponent by omega)
    have hexp : x.exponent = -(k : Int) := by omega
    simp only [hexp, neg_neg, Int.toNat_natCast, Nat.pow_eq]
    have hpos : 0 < x.significand * 5 ^ k := by positivity
    have htwo : 2 ^ k ≤ 10 ^ 400 :=
      calc 2 ^ k ≤ 2 ^ 1074 := Nat.pow_le_pow_right (by decide) (by omega)
        _ ≤ 10 ^ 400 := by decide +kernel
    have hlow : 10 ^ k < 10 ^ (400 + digitCount (x.significand * 5 ^ k)) :=
      calc 10 ^ k = 2 ^ k * (1 * 5 ^ k) := by rw [one_mul, ← mul_pow]; rfl
        _ ≤ 10 ^ 400 * (x.significand * 5 ^ k) :=
          Nat.mul_le_mul htwo (Nat.mul_le_mul_right _ hm)
        _ < 10 ^ 400 * 10 ^ digitCount (x.significand * 5 ^ k) :=
          Nat.mul_lt_mul_of_pos_left (lt_pow_digitCount _) (by positivity)
        _ = 10 ^ (400 + digitCount (x.significand * 5 ^ k)) := by rw [pow_add]
    have hhigh : 10 ^ (digitCount (x.significand * 5 ^ k) - 1) < 10 ^ (53 + k) :=
      calc 10 ^ (digitCount (x.significand * 5 ^ k) - 1) ≤ x.significand * 5 ^ k :=
          pow_digitCount_le hpos
        _ < 2 ^ 53 * 5 ^ k := Nat.mul_lt_mul_of_pos_right hlt (by positivity)
        _ ≤ 10 ^ 53 * 10 ^ k :=
          Nat.mul_le_mul (Nat.pow_le_pow_left (by decide) _) (Nat.pow_le_pow_left (by decide) _)
        _ = 10 ^ (53 + k) := by rw [pow_add]
    have hlow' := (Nat.pow_lt_pow_iff_right (by decide)).mp hlow
    have hhigh' := (Nat.pow_lt_pow_iff_right (by decide)).mp hhigh
    omega
  · rename_i hnonneg
    simp only [Nat.pow_eq]
    have hpos : 0 < x.significand * 2 ^ x.exponent.toNat := by positivity
    have hbound : x.significand * 2 ^ x.exponent.toNat < 10 ^ 400 :=
      calc x.significand * 2 ^ x.exponent.toNat < 2 ^ 53 * 2 ^ x.exponent.toNat :=
          Nat.mul_lt_mul_of_pos_right hlt (by positivity)
        _ ≤ 2 ^ 53 * 2 ^ 971 :=
          Nat.mul_le_mul_left _ (Nat.pow_le_pow_right (by decide) (by omega))
        _ ≤ 10 ^ 400 := by decide +kernel
    have hcount : digitCount (x.significand * 2 ^ x.exponent.toNat) ≤ 400 :=
      (digitCount_le_iff (by decide)).mpr hbound
    omega

/-- The expansion of a double reads back as the double. -/
theorem decimalRank_expansion {x : Double} (h : x.rank ≠ 0) :
    decimalRank x.expansion.1 x.expansion.2 = x.rank := by
  obtain ⟨hpos, hlow, hhigh⟩ := expansion_range h
  have hguard : ¬ (x.expansion.1 = 0 ∨ (digitCount x.expansion.1 : Int) + x.expansion.2 < -400) := by
    omega
  have hrank := nearestRank_exact (by positivity) (significand_pos h) x.significand_lt x.exponent_ge
    x.significand_ge_or x.expansion_value
  rw [← x.rank_eq] at hrank
  simp only [decimalRank, Int.ofNat_eq_natCast, Bool.or_eq_true, decide_eq_true_eq, if_neg hguard,
    if_neg (Int.not_lt.mpr hhigh), gt_iff_lt, Nat.pow_eq, hrank]

/-- The digits that are found for a double read back as the double. -/
theorem decimalRank_shortest {x : Double} (h : x.rank ≠ 0) :
    decimalRank x.shortest.1 x.shortest.2 = x.rank := by
  rw [shortest]
  cases hfound : (List.range 17).findSome? fun i =>
    ((x.neighbours (i + 1)).map fun c => dropZeros 20 c.1 c.2).find? x.readsBack with
  | none => exact decimalRank_expansion h
  | some c =>
    obtain ⟨i, -, hc⟩ := List.exists_of_findSome?_eq_some hfound
    have hreads : x.readsBack c = true := List.find?_some hc
    exact of_decide_eq_true hreads

/-- The digits that are found for a double other than zero are not zero. -/
theorem shortest_pos {x : Double} (h : x.rank ≠ 0) : 0 < x.shortest.1 := by
  by_contra hzero
  have hreads := decimalRank_shortest h
  rw [Nat.eq_zero_of_not_pos hzero] at hreads
  exact h (by rw [← hreads]; simp [decimalRank])

end Double
end ApiCompiler
