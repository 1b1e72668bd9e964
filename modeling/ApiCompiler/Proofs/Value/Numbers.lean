import ApiCompiler.Value.Order
import Mathlib.Algebra.Order.Ring.Int
import Mathlib.Order.Monotone.Basic
import Mathlib.Tactic.Positivity
import Mathlib.Tactic.Ring

/-!
# Numbers as integers

Every finite double is a multiple of the least positive one, `2 ^ -1074`.  Counted in this unit
all numbers are integers (`Number.scaled`): two numbers are the same exactly when their integers
are equal (`Number.same_iff`), and one is below the other exactly when its integer is less
(`Number.below_iff`).  So equality and order of numbers have the laws that they have on integers.

The units of a double are a strictly increasing function of its rank (`unitsOf_lt_succ`): inside a
binade the significand grows, and from one binade to the next the exponent does.
-/

namespace ApiCompiler
namespace Double

/-- The magnitude of the double of a rank, counted in units of `2 ^ -1074`; `block` is the number of
ranks in a binade. -/
def unitsOf (block rank : Nat) : Nat :=
  (if rank < block then rank else block + rank % block) * 2 ^ (rank / block - 1)

theorem unitsOf_of_lt {block rank : Nat} (h : rank < block) : unitsOf block rank = rank := by
  rw [unitsOf, if_pos h, Nat.div_eq_of_lt h, Nat.pow_zero, Nat.mul_one]

/-- The rank at a place of a binade. -/
theorem unitsOf_binade {block q m : Nat} (hm : m < block) :
    unitsOf block (block * (q + 1) + m) = (block + m) * 2 ^ q := by
  have hpos : 0 < block := Nat.lt_of_le_of_lt (Nat.zero_le m) hm
  have hle : ¬ block * (q + 1) + m < block := by
    have hle : block ≤ block * (q + 1) := Nat.le_mul_of_pos_right block (Nat.zero_lt_succ q)
    omega
  have hdiv : (block * (q + 1) + m) / block = q + 1 := by
    rw [Nat.mul_add_div hpos, Nat.div_eq_of_lt hm, Nat.add_zero]
  have hmod : (block * (q + 1) + m) % block = m := by
    rw [Nat.mul_add_mod, Nat.mod_eq_of_lt hm]
  rw [unitsOf, if_neg hle, hdiv, hmod, Nat.add_sub_cancel]

/-- A greater rank has more units. -/
theorem unitsOf_lt_succ {block : Nat} (hpos : 0 < block) (rank : Nat) :
    unitsOf block rank < unitsOf block (rank + 1) := by
  rcases Nat.lt_or_ge (rank + 1) block with hlt | hge
  · rw [unitsOf_of_lt hlt, unitsOf_of_lt (Nat.lt_of_succ_lt hlt)]
    exact Nat.lt_succ_self rank
  rcases Nat.lt_or_ge rank block with hlt | hge'
  · -- the last subnormal number
    obtain rfl : block = rank + 1 := by omega
    have hfirst : unitsOf (rank + 1) (rank + 1) = rank + 1 := by
      simpa using unitsOf_binade (q := 0) hpos
    rw [unitsOf_of_lt hlt, hfirst]
    exact Nat.lt_succ_self rank
  · obtain ⟨q, m, hm, rfl⟩ : ∃ q m, m < block ∧ rank = block * (q + 1) + m := by
      have hdiv : 1 ≤ rank / block := (Nat.one_le_div_iff hpos).mpr hge'
      refine ⟨rank / block - 1, rank % block, Nat.mod_lt _ hpos, ?_⟩
      rw [Nat.sub_add_cancel hdiv, Nat.div_add_mod]
    have hpow : 0 < 2 ^ q := Nat.two_pow_pos q
    rw [unitsOf_binade hm]
    rcases Nat.lt_or_ge (m + 1) block with hm' | hm'
    · rw [Nat.add_assoc, unitsOf_binade hm']
      exact Nat.mul_lt_mul_of_pos_right (by omega) hpow
    · -- the last number of a binade
      obtain rfl : block = m + 1 := by omega
      have hnext : (m + 1) * (q + 1) + m + 1 = (m + 1) * (q + 1 + 1) + 0 := by ring
      rw [hnext, unitsOf_binade hpos, Nat.pow_succ]
      calc (m + 1 + m) * 2 ^ q < (2 * (m + 1)) * 2 ^ q :=
            Nat.mul_lt_mul_of_pos_right (by omega) hpow
        _ = (m + 1 + 0) * (2 ^ q * 2) := by ring

/-- The number of units in one. -/
def unitsInOne : Nat := 2 ^ 1074

theorem unitsInOne_pos : 0 < unitsInOne := by
  unfold unitsInOne
  positivity

/-- The magnitude of a double, counted in units of `2 ^ -1074`. -/
def units (x : Double) : Nat := unitsOf (2 ^ 52) x.rank

theorem units_inj {x y : Double} : x.units = y.units ↔ x.rank = y.rank :=
  (strictMono_nat_of_lt_succ (unitsOf_lt_succ (Nat.two_pow_pos 52))).injective.eq_iff

theorem units_eq_zero {x : Double} : x.units = 0 ↔ x.rank = 0 :=
  units_inj (y := zero false)

theorem ratio_pos (x : Double) : 0 < x.ratio.2 := Nat.two_pow_pos _

/-- The quotient of a double, counted in units. -/
theorem ratio_units (x : Double) : x.ratio.1 * unitsInOne = x.units * x.ratio.2 := by
  have hexp : x.exponent.toNat + 1074 = (x.rank / 2 ^ 52 - 1) + (-x.exponent).toNat := by
    rw [exponent, Nat.pow_eq]
    split
    · case isTrue h =>
      rw [Nat.div_eq_of_lt h]
      rfl
    · case isFalse h =>
      have hdiv : 1 ≤ x.rank / 2 ^ 52 :=
        (Nat.one_le_div_iff (Nat.two_pow_pos 52)).mpr (Nat.le_of_not_lt h)
      obtain ⟨q, hq⟩ := Nat.exists_eq_add_of_le hdiv
      rw [hq]
      simp only [Int.ofNat_eq_natCast]
      omega
  show x.significand * 2 ^ x.exponent.toNat * 2 ^ 1074 =
    x.significand * 2 ^ (x.rank / 2 ^ 52 - 1) * 2 ^ (-x.exponent).toNat
  rw [Nat.mul_assoc, Nat.mul_assoc, ← Nat.pow_add, ← Nat.pow_add, hexp]

end Double

namespace Value
namespace Number

/-- A number, counted in units of `2 ^ -1074`. -/
def scaled : Number → Int
  | .int n => n * Double.unitsInOne
  | .float x => if x.negative then -(x.units : Int) else x.units

theorem quotient_pos (a : Number) : 0 < a.quotient.2 := by
  cases a with
  | int n => exact Nat.one_pos
  | float x => exact x.ratio_pos

theorem quotient_scaled (a : Number) :
    a.quotient.1 * (Double.unitsInOne : Int) = a.scaled * (a.quotient.2 : Int) := by
  cases a with
  | int n => exact (mul_one _).symm
  | float x =>
    have hunits := x.ratio_units
    rw [quotient, scaled]
    -- the number of units is too large to be computed with
    generalize Double.unitsInOne = u at hunits ⊢
    have h : (x.ratio.1 : Int) * u = x.units * x.ratio.2 := by exact_mod_cast hunits
    simp only [Int.ofNat_eq_natCast]
    split
    · rw [neg_mul, neg_mul, h]
    · exact h

/-- The order of numbers is that of their integers. -/
theorem below_iff (a b : Number) : a.below b = true ↔ a.scaled < b.scaled := by
  have hunits : (0 : Int) < Double.unitsInOne := by exact_mod_cast Double.unitsInOne_pos
  have hpos : (0 : Int) < a.quotient.2 * b.quotient.2 := by
    exact_mod_cast Nat.mul_pos a.quotient_pos b.quotient_pos
  have ha : a.quotient.1 * (b.quotient.2 : Int) * Double.unitsInOne =
      a.scaled * (a.quotient.2 * b.quotient.2) := by
    rw [mul_right_comm, quotient_scaled]
    ring
  have hb : b.quotient.1 * (a.quotient.2 : Int) * Double.unitsInOne =
      b.scaled * (a.quotient.2 * b.quotient.2) := by
    rw [mul_right_comm, quotient_scaled]
    ring
  rw [below, decide_eq_true_eq]
  calc a.quotient.1 * (b.quotient.2 : Int) < b.quotient.1 * (a.quotient.2 : Int)
      ↔ a.quotient.1 * (b.quotient.2 : Int) * Double.unitsInOne <
          b.quotient.1 * (a.quotient.2 : Int) * Double.unitsInOne :=
        (mul_lt_mul_iff_of_pos_right hunits).symm
    _ ↔ a.scaled < b.scaled := by rw [ha, hb, mul_lt_mul_iff_of_pos_right hpos]

theorem isInt_iff (x : Double) (n : Int) :
    x.isInt n = true ↔ (Number.int n).scaled = (Number.float x).scaled := by
  have hunits : (0 : Int) < Double.unitsInOne := by exact_mod_cast Double.unitsInOne_pos
  have hmagnitude : x.ratio.1 = n.natAbs * x.ratio.2 ↔
      (n * (Double.unitsInOne : Int)).natAbs = x.units := by
    rw [Int.natAbs_mul, Int.natAbs_natCast, ← Nat.mul_right_cancel_iff Double.unitsInOne_pos,
      x.ratio_units, Nat.mul_right_comm, Nat.mul_right_cancel_iff x.ratio_pos, eq_comm]
  have hzero : n = 0 ↔ n * (Double.unitsInOne : Int) = 0 := by
    rw [mul_eq_zero, or_iff_left (ne_of_gt hunits)]
  have hneg : n < 0 ↔ n * (Double.unitsInOne : Int) < 0 := by
    rw [mul_neg_iff, or_iff_right fun h => lt_asymm hunits h.2, and_iff_left hunits]
  rw [Double.isInt, Bool.and_eq_true, decide_eq_true_eq, hmagnitude, Bool.or_eq_true,
    decide_eq_true_eq, decide_eq_true_eq, hzero, hneg, scaled, scaled]
  -- only the sign and the magnitude of the integer count
  generalize n * (Double.unitsInOne : Int) = k
  cases x.negative with
  | false =>
    simp only [Bool.false_eq_true, if_false, eq_iff_iff, iff_false]
    omega
  | true =>
    simp only [if_true, eq_iff_iff, iff_true]
    omega

theorem sameNumber_iff (x y : Double) :
    x.sameNumber y = true ↔ (Number.float x).scaled = (Number.float y).scaled := by
  rw [Double.sameNumber, Bool.and_eq_true, decide_eq_true_eq, Bool.or_eq_true, decide_eq_true_eq,
    decide_eq_true_eq, scaled, scaled, ← Double.units_inj, ← Double.units_eq_zero]
  cases x.negative <;> cases y.negative <;> simp <;> omega

/-- Numbers are the same if their integers are equal. -/
theorem same_iff (a b : Number) : a.same b = true ↔ a.scaled = b.scaled := by
  cases a with
  | int m =>
    cases b with
    | int n =>
      have hunits : (Double.unitsInOne : Int) ≠ 0 := by exact_mod_cast Double.unitsInOne_pos.ne'
      rw [same, decide_eq_true_eq, scaled, scaled, mul_left_inj' hunits]
    | float x => exact isInt_iff x m
  | float x =>
    cases b with
    | int n => exact (isInt_iff x n).trans eq_comm
    | float y => exact sameNumber_iff x y

end Number
end Value
end ApiCompiler
