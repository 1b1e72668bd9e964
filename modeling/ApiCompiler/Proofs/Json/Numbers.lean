import ApiCompiler.Json.Reader
import ApiCompiler.Json.Writer
import ApiCompiler.Proofs.Number.Shortest

/-!
# Numbers read back

The reader takes as many digits as there are, so what follows a number decides where it ends: a number
reads back when no digit, point or exponent follows it (`NumberEnds`).  An integer has its decimal
digits (`readNumber_writeInt`).  A double has the digits of `Double.shortest`, which a layout spells with
a point, with an exponent or with both; each spelling is taken apart into the same three parts, and
together they always stand for the same digits and the same exponent (`readNumber_write`).
-/

namespace ApiCompiler
namespace Json

/-! ## Digits -/

/-- No digit goes on here. -/
def DigitsEnd (rest : List Char) : Prop := ∀ c ∈ rest.head?, isDigit c = false

/-- No number goes on here. -/
def NumberEnds (rest : List Char) : Prop :=
  ∀ c ∈ rest.head?, isDigit c = false ∧ c ≠ '.' ∧ c ≠ 'e' ∧ c ≠ 'E'

theorem NumberEnds.digitsEnd {rest : List Char} (h : NumberEnds rest) : DigitsEnd rest :=
  fun c hc => (h c hc).1

theorem digitsEnd_cons {c : Char} (h : isDigit c = false) (rest : List Char) :
    DigitsEnd (c :: rest) := by
  intro d hd
  obtain rfl : c = d := Option.some.inj hd
  exact h

theorem isDigit_eq (c : Char) : isDigit c = c.isDigit := by
  simp only [isDigit, Char.isDigit, Char.le_def, ge_iff_le]

theorem isDigit_of_mem_toDigits {n : Nat} {c : Char} (h : c ∈ Nat.toDigits 10 n) :
    isDigit c = true := by
  rw [isDigit_eq]
  exact Nat.isDigit_of_mem_toDigits (by decide) (by decide) h

theorem isDigit_of_mem_zeros {k : Nat} {c : Char} (h : c ∈ Layout.zeros k) : isDigit c = true := by
  rw [List.eq_of_mem_replicate h]
  decide

theorem isDigit_of_mem_zero : ∀ c ∈ ['0'], isDigit c = true := fun _ hc =>
  isDigit_of_mem_toDigits (n := 0) hc

/-- The digits in front of a text that does not begin with one. -/
theorem takeWhile_digits {ds rest : List Char} (hds : ∀ c ∈ ds, isDigit c = true)
    (hrest : DigitsEnd rest) : (ds ++ rest).takeWhile isDigit = ds := by
  have hnone : rest.takeWhile isDigit = [] := by
    cases rest with
    | nil => rfl
    | cons c cs => simp [hrest c rfl]
  rw [List.takeWhile_append_of_pos hds, hnone, List.append_nil]

theorem dropWhile_digits {ds rest : List Char} (hds : ∀ c ∈ ds, isDigit c = true)
    (hrest : DigitsEnd rest) : (ds ++ rest).dropWhile isDigit = rest := by
  have hnone : rest.dropWhile isDigit = rest := by
    cases rest with
    | nil => rfl
    | cons c cs => simp [hrest c rfl]
  rw [List.dropWhile_append_of_pos hds, hnone]

theorem natOf_append (ds es : List Char) :
    natOf (ds ++ es) = natOf ds * 10 ^ es.length + natOf es := by
  have hds : natOf ds = Nat.ofDigitChars 10 ds 0 := rfl
  have hes : natOf es = Nat.ofDigitChars 10 es 0 := rfl
  have hall : natOf (ds ++ es) = Nat.ofDigitChars 10 (ds ++ es) 0 := rfl
  rw [hall, Nat.ofDigitChars_append, Nat.ofDigitChars_eq_ofDigitChars_zero, ← hds, ← hes, mul_comm]

theorem natOf_toDigits (n : Nat) : natOf (Nat.toDigits 10 n) = n := Nat.ofDigitChars_ten_toDigits

theorem natOf_zeros (k : Nat) : natOf (Layout.zeros k) = 0 := by
  have h : natOf (Layout.zeros k) = 10 ^ k * 0 := Nat.ofDigitChars_replicate_zero
  rw [h, mul_zero]

/-- The digits of a number that is not zero do not begin with a zero. -/
theorem head?_toDigits_ne {n : Nat} (h : 0 < n) : (Nat.toDigits 10 n).head? ≠ some '0' := by
  induction n using Nat.strongRecOn with
  | ind n ih =>
    rcases Nat.lt_or_ge n 10 with hlt | hge
    · rw [Nat.toDigits_of_lt_base hlt]
      intro hzero
      have hdigit : n = 0 := Nat.digitChar_eq_zero.mp (Option.some.inj hzero)
      omega
    · rw [Nat.toDigits_of_base_le (by decide) hge, List.head?_append_of_ne_nil _ Nat.toDigits_ne_nil]
      exact ih (n / 10) (by omega) (by omega)

/-! ## The parts of a number -/

/-- The digits of a number before its point: there are some, and a zero stands alone. -/
structure Whole (ds : List Char) : Prop where
  ne_nil : ds ≠ []
  digits : ∀ c ∈ ds, isDigit c = true
  zero : ds.head? = some '0' → ds = ['0']

theorem Whole.toDigits (n : Nat) : Whole (Nat.toDigits 10 n) where
  ne_nil := Nat.toDigits_ne_nil
  digits := fun _ hc => isDigit_of_mem_toDigits hc
  zero := by
    intro hhead
    rcases Nat.eq_zero_or_pos n with rfl | hpos
    · exact Nat.toDigits_zero 10
    · exact absurd hhead (head?_toDigits_ne hpos)

/-- What begins as the digits of a number that is not zero has no zero in front. -/
theorem Whole.of_head? {n : Nat} (hpos : 0 < n) {ds : List Char} (hne : ds ≠ [])
    (hds : ∀ c ∈ ds, isDigit c = true) (hhead : ds.head? = (Nat.toDigits 10 n).head?) : Whole ds where
  ne_nil := hne
  digits := hds
  zero := fun h => absurd (hhead ▸ h) (head?_toDigits_ne hpos)

theorem Whole.zeroAlone : Whole ['0'] := Whole.toDigits 0

theorem whole_append {ds rest : List Char} (hds : Whole ds) (hrest : DigitsEnd rest) :
    whole (ds ++ rest) = (ds, rest) := by
  obtain ⟨hne, hdigits, hzero⟩ := hds
  have htake := takeWhile_digits hdigits hrest
  have hdrop := dropWhile_digits hdigits hrest
  cases ds with
  | nil => exact absurd rfl hne
  | cons d ds =>
    by_cases hd : d = '0'
    · subst hd
      obtain rfl : ds = [] := (List.cons.inj (hzero rfl)).2
      rfl
    · rw [whole, htake, hdrop]
      intro r hr
      exact hd (List.cons.inj hr).1

/-- What the reader makes of a number whose digits before the point are known. -/
theorem magnitude_append {ds rest : List Char} (hds : Whole ds) (hrest : DigitsEnd rest) (digits : Nat)
    (start : List Char) (negative : Bool) :
    magnitude digits start negative (ds ++ rest) =
      match exponent? (fraction rest).2 with
      | some (e, rest') =>
        .ok (.float (.ofDecimal negative (natOf (ds ++ (fraction rest).1))
          (e - Int.ofNat (fraction rest).1.length)), rest')
      | none =>
        if (fraction rest).1.isEmpty then
          if ds.length ≤ digits then
            .ok (.int (if negative then -Int.ofNat (natOf ds) else Int.ofNat (natOf ds)),
              (fraction rest).2)
          else .error ⟨.breakdown (.tooManyDigits ds.length), start⟩
        else
          .ok (.float (.ofDecimal negative (natOf (ds ++ (fraction rest).1))
            (-Int.ofNat (fraction rest).1.length)), (fraction rest).2) := by
  have hsome : ¬ ds.isEmpty = true := by
    rw [List.isEmpty_iff]
    exact hds.ne_nil
  simp only [magnitude, whole_append hds hrest]
  exact if_neg hsome

theorem fraction_point {ds rest : List Char} (hne : ds ≠ []) (hds : ∀ c ∈ ds, isDigit c = true)
    (hrest : DigitsEnd rest) : fraction ('.' :: (ds ++ rest)) = (ds, rest) := by
  simp only [fraction, takeWhile_digits hds hrest, dropWhile_digits hds hrest, List.isEmpty_iff, hne,
    if_false]

theorem fraction_none {rest : List Char} (h : ∀ c ∈ rest.head?, c ≠ '.') : fraction rest = ([], rest) := by
  rw [fraction]
  rintro r rfl
  exact h '.' rfl rfl

/-- An exponent as a layout spells it. -/
def spelledExponent (e : Int) (zeros : Nat) : List Char :=
  'e' :: (if e < 0 then '-' else '+') :: (Layout.zeros zeros ++ Nat.toDigits 10 e.natAbs)

theorem exponent?_spelled (e : Int) (k : Nat) {rest : List Char} (hrest : DigitsEnd rest) :
    exponent? (spelledExponent e k ++ rest) = some (e, rest) := by
  have hdigits : ∀ c ∈ Layout.zeros k ++ Nat.toDigits 10 e.natAbs, isDigit c = true := by
    intro c hc
    rcases List.mem_append.mp hc with hc | hc
    · exact isDigit_of_mem_zeros hc
    · exact isDigit_of_mem_toDigits hc
  have htake := takeWhile_digits hdigits hrest
  have hdrop := dropWhile_digits hdigits hrest
  have hne : ¬ (Layout.zeros k ++ Nat.toDigits 10 e.natAbs).isEmpty = true := by
    rw [List.isEmpty_iff, List.append_eq_nil_iff]
    exact fun h => Nat.toDigits_ne_nil h.2
  have hvalue : natOf (Layout.zeros k ++ Nat.toDigits 10 e.natAbs) = e.natAbs := by
    rw [natOf_append, natOf_zeros, natOf_toDigits, zero_mul, zero_add]
  rcases Int.lt_or_le e 0 with hneg | hnonneg
  · have habs : -((e.natAbs : Nat) : Int) = e := by omega
    simp only [spelledExponent, hneg, if_true, List.cons_append, exponent?, decide_true, Bool.true_or,
      htake, hdrop, hne, hvalue, Int.ofNat_eq_natCast, habs]
    rfl
  · have habs : ((e.natAbs : Nat) : Int) = e := by omega
    simp only [spelledExponent, Int.not_lt.mpr hnonneg, if_false, List.cons_append, exponent?,
      decide_true, Bool.true_or, htake, hdrop, hne, hvalue, Int.ofNat_eq_natCast, habs]
    rfl

theorem exponent?_none {rest : List Char} (h : ∀ c ∈ rest.head?, c ≠ 'e' ∧ c ≠ 'E') :
    exponent? rest = none := by
  cases rest with
  | nil => rfl
  | cons c cs =>
    obtain ⟨he, hE⟩ := h c rfl
    simp [exponent?, he, hE]

/-! ## Integers -/

theorem magnitude_toDigits {n digits : Nat} {rest : List Char} (hrest : NumberEnds rest)
    (hn : (Nat.toDigits 10 n).length ≤ digits) (start : List Char) (negative : Bool) :
    magnitude digits start negative (Nat.toDigits 10 n ++ rest) =
      .ok (.int (if negative then -Int.ofNat n else Int.ofNat n), rest) := by
  have hfraction := fraction_none fun c hc => (hrest c hc).2.1
  have hexponent := exponent?_none fun c hc => (hrest c hc).2.2
  rw [magnitude_append (Whole.toDigits n) hrest.digitsEnd, hfraction]
  simp only [hexponent, List.isEmpty_nil, if_true, hn, natOf_toDigits]

/-- What is read as a number without a sign begins with a digit. -/
theorem head?_of_magnitude {digits : Nat} {start : List Char} {negative : Bool} {cs : List Char}
    {p : Json × List Char} (h : magnitude digits start negative cs = .ok p) :
    ∃ c ∈ cs.head?, isDigit c = true := by
  cases cs with
  | nil => exact absurd h (by simp [magnitude, whole])
  | cons c cs =>
    refine ⟨c, rfl, ?_⟩
    by_contra hc
    have hzero : ∀ r, c :: cs = '0' :: r → False := by
      rintro r hr
      obtain rfl : c = '0' := (List.cons.inj hr).1
      exact hc rfl
    have hnone : (c :: cs).takeWhile isDigit = [] := by simp [hc]
    rw [magnitude, whole, hnone] at h
    · exact absurd h (by simp)
    · exact hzero

/-- A number without a sign is not taken for one with a sign. -/
theorem readNumber_of_magnitude {digits : Nat} {cs : List Char} {p : Json × List Char}
    (h : magnitude digits cs false cs = .ok p) : readNumber digits cs = .ok p := by
  rw [readNumber]
  · exact h
  · rintro r rfl
    obtain ⟨c, hc, hdigit⟩ := head?_of_magnitude h
    obtain rfl : '-' = c := Option.some.inj hc
    exact absurd hdigit (by decide)

/-- What is read as a number begins with its sign or a digit. -/
theorem head?_of_readNumber {digits : Nat} {cs : List Char} {p : Json × List Char}
    (h : readNumber digits cs = .ok p) : ∃ c ∈ cs.head?, c = '-' ∨ isDigit c = true := by
  by_cases hsign : ∃ r, cs = '-' :: r
  · obtain ⟨r, rfl⟩ := hsign
    exact ⟨'-', rfl, Or.inl rfl⟩
  · rw [readNumber] at h
    · obtain ⟨c, hc, hdigit⟩ := head?_of_magnitude h
      exact ⟨c, hc, Or.inr hdigit⟩
    · exact fun r hr => hsign ⟨r, hr⟩

/-- An integer reads back as itself if it does not have too many digits. -/
theorem readNumber_writeInt {n : Int} {digits : Nat} {rest : List Char} (hrest : NumberEnds rest)
    (hn : (Nat.toDigits 10 n.natAbs).length ≤ digits) :
    readNumber digits (writeInt n ++ rest) = .ok (.int n, rest) := by
  rcases Int.lt_or_le n 0 with hneg | hnonneg
  · have habs : -((n.natAbs : Nat) : Int) = n := by omega
    rw [writeInt, if_pos hneg, List.cons_append, readNumber, magnitude_toDigits hrest hn]
    simp only [if_true, Int.ofNat_eq_natCast, habs]
  · have habs : ((n.natAbs : Nat) : Int) = n := by omega
    rw [writeInt, if_neg (Int.not_lt.mpr hnonneg)]
    apply readNumber_of_magnitude
    rw [magnitude_toDigits hrest hn]
    simp only [Bool.false_eq_true, if_false, Int.ofNat_eq_natCast, habs]

/-! ## Doubles -/

/-- The double of a rank and a sign. -/
theorem ofDecimal_eq {x : Double} {digits : Nat} {exp10 : Int}
    (h : Double.decimalRank digits exp10 = x.rank) (negative : Bool) :
    Double.ofDecimal negative digits exp10 = ⟨negative, x.rank, x.rank_lt⟩ := by
  simp only [Double.ofDecimal, Double.ofRank, h, x.rank_lt, dif_pos]

/-- Digits with a point read as the number that they stand for. -/
theorem magnitude_point {ds fs rest : List Char} (hds : Whole ds) (hne : fs ≠ [])
    (hfs : ∀ c ∈ fs, isDigit c = true) (hrest : NumberEnds rest) (digits : Nat) (start : List Char)
    (negative : Bool) :
    magnitude digits start negative (ds ++ '.' :: (fs ++ rest)) =
      .ok (.float (.ofDecimal negative (natOf (ds ++ fs)) (-Int.ofNat fs.length)), rest) := by
  have hfraction := fraction_point hne hfs hrest.digitsEnd
  have hexponent := exponent?_none fun c hc => (hrest c hc).2.2
  rw [magnitude_append hds (digitsEnd_cons (by decide) _), hfraction]
  simp only [hexponent, List.isEmpty_iff, hne, if_false]

/-- Digits with an exponent read as the number that they stand for. -/
theorem magnitude_exponent {ds rest : List Char} (hds : Whole ds) (hrest : NumberEnds rest) (e : Int)
    (k digits : Nat) (start : List Char) (negative : Bool) :
    magnitude digits start negative (ds ++ (spelledExponent e k ++ rest)) =
      .ok (.float (.ofDecimal negative (natOf ds) e), rest) := by
  have hpoint : ∀ c ∈ (spelledExponent e k ++ rest).head?, c ≠ '.' := by
    intro c hc
    obtain rfl : 'e' = c := Option.some.inj hc
    decide
  have hend : DigitsEnd (spelledExponent e k ++ rest) := digitsEnd_cons (by decide) _
  rw [magnitude_append hds hend, fraction_none hpoint]
  simp only [exponent?_spelled e k hrest.digitsEnd, List.append_nil, List.length_nil,
    Int.ofNat_eq_natCast, Nat.cast_zero, sub_zero]

/-- Digits with a point and an exponent read as the number that they stand for. -/
theorem magnitude_pointExponent {ds fs rest : List Char} (hds : Whole ds) (hne : fs ≠ [])
    (hfs : ∀ c ∈ fs, isDigit c = true) (hrest : NumberEnds rest) (e : Int) (k digits : Nat)
    (start : List Char) (negative : Bool) :
    magnitude digits start negative (ds ++ '.' :: (fs ++ (spelledExponent e k ++ rest))) =
      .ok (.float (.ofDecimal negative (natOf (ds ++ fs)) (e - Int.ofNat fs.length)), rest) := by
  have hend : DigitsEnd (spelledExponent e k ++ rest) := digitsEnd_cons (by decide) _
  rw [magnitude_append hds (digitsEnd_cons (by decide) _), fraction_point hne hfs hend]
  simp only [exponent?_spelled e k hrest.digitsEnd]

section

variable {x : Double} {n : Nat} {e : Int} (hreads : Double.decimalRank n e = x.rank) (hn : 0 < n)
  {rest : List Char} (hrest : NumberEnds rest) (digits : Nat) (start : List Char) (negative : Bool)

include hreads hrest

/-- All digits may stand behind the point, after some zeros. -/
theorem magnitude_behindPoint {k : Nat} (hk : ((Nat.toDigits 10 n).length : Int) + e = -k) :
    magnitude digits start negative (['0'] ++ '.' :: (Layout.zeros k ++ Nat.toDigits 10 n ++ rest)) =
      .ok (.float ⟨negative, x.rank, x.rank_lt⟩, rest) := by
  have hfs : ∀ c ∈ Layout.zeros k ++ Nat.toDigits 10 n, isDigit c = true := by
    intro c hc
    rcases List.mem_append.mp hc with hc | hc
    · exact isDigit_of_mem_zeros hc
    · exact isDigit_of_mem_toDigits hc
  have hne : Layout.zeros k ++ Nat.toDigits 10 n ≠ [] :=
    List.append_ne_nil_of_right_ne_nil _ Nat.toDigits_ne_nil
  have hexp : -Int.ofNat (Layout.zeros k ++ Nat.toDigits 10 n).length = e := by
    rw [List.length_append, Layout.zeros, List.length_replicate, Int.ofNat_eq_natCast]
    omega
  have hnumber : natOf (['0'] ++ (Layout.zeros k ++ Nat.toDigits 10 n)) = n := by
    have hzero : natOf ['0'] = 0 := rfl
    rw [natOf_append, natOf_append, natOf_zeros, natOf_toDigits, hzero]
    omega
  rw [magnitude_point Whole.zeroAlone hne hfs hrest, hexp, hnumber, ofDecimal_eq hreads]

include hn

/-- All digits may stand before the point, filled up with zeros. -/
theorem magnitude_beforePoint {k : Nat} (hk : e = k) :
    magnitude digits start negative (Nat.toDigits 10 n ++ Layout.zeros k ++ '.' :: (['0'] ++ rest)) =
      .ok (.float ⟨negative, x.rank, x.rank_lt⟩, rest) := by
  have hds : Whole (Nat.toDigits 10 n ++ Layout.zeros k) := by
    refine Whole.of_head? hn (List.append_ne_nil_of_left_ne_nil Nat.toDigits_ne_nil _) ?_
      (List.head?_append_of_ne_nil _ Nat.toDigits_ne_nil)
    intro c hc
    rcases List.mem_append.mp hc with hc | hc
    · exact isDigit_of_mem_toDigits hc
    · exact isDigit_of_mem_zeros hc
  have hzeroNe : ['0'] ≠ [] := List.cons_ne_nil _ _
  have hnumber : natOf (Nat.toDigits 10 n ++ Layout.zeros k ++ ['0']) = n * 10 ^ (k + 1) := by
    have hzero : natOf ['0'] = 0 := rfl
    rw [natOf_append, natOf_append, natOf_zeros, natOf_toDigits, hzero, Layout.zeros,
      List.length_replicate, List.length_singleton]
    ring
  have hrank : Double.decimalRank (n * 10 ^ (k + 1)) (-Int.ofNat ['0'].length) = x.rank := by
    have hone : Int.ofNat ['0'].length = 1 := rfl
    have hexp : (-1 : Int) + ((k + 1 : Nat) : Int) = e := by omega
    rw [Double.decimalRank_mul_pow, hone, hexp]
    exact hreads
  rw [magnitude_point hds hzeroNe isDigit_of_mem_zero hrest, hnumber, ofDecimal_eq hrank]

/-- The point may stand between two digits. -/
theorem magnitude_acrossPoint {p : Nat} (hp : ((Nat.toDigits 10 n).length : Int) + e = p) (hpos : p ≠ 0)
    (hlt : p < (Nat.toDigits 10 n).length) :
    magnitude digits start negative
        ((Nat.toDigits 10 n).take p ++ '.' :: ((Nat.toDigits 10 n).drop p ++ rest)) =
      .ok (.float ⟨negative, x.rank, x.rank_lt⟩, rest) := by
  have hds : Whole ((Nat.toDigits 10 n).take p) := by
    refine Whole.of_head? hn ?_ (fun c hc => isDigit_of_mem_toDigits (List.mem_of_mem_take hc)) ?_
    · intro hnil
      rcases List.take_eq_nil_iff.mp hnil with hzero | hnil
      · exact hpos hzero
      · exact Nat.toDigits_ne_nil hnil
    · rw [List.head?_take, if_neg hpos]
  have hfs : ∀ c ∈ (Nat.toDigits 10 n).drop p, isDigit c = true :=
    fun c hc => isDigit_of_mem_toDigits (List.mem_of_mem_drop hc)
  have hne : (Nat.toDigits 10 n).drop p ≠ [] := by
    rw [ne_eq, List.drop_eq_nil_iff]
    exact Nat.not_le.mpr hlt
  have hexp : -Int.ofNat ((Nat.toDigits 10 n).drop p).length = e := by
    rw [List.length_drop, Int.ofNat_eq_natCast]
    omega
  rw [magnitude_point hds hne hfs hrest, List.take_append_drop, natOf_toDigits, hexp,
    ofDecimal_eq hreads]

/-- The digits of a double with the point written out read back as the double. -/
theorem magnitude_positional :
    magnitude digits start negative
        (Layout.positional (Nat.toDigits 10 n) (Int.ofNat (Nat.toDigits 10 n).length + e) ++ rest) =
      .ok (.float ⟨negative, x.rank, x.rank_lt⟩, rest) := by
  rw [Layout.positional]
  simp only [Int.ofNat_eq_natCast]
  by_cases hsmall : ((Nat.toDigits 10 n).length : Int) + e ≤ 0
  · obtain ⟨k, hk⟩ :=
      Int.eq_ofNat_of_zero_le (show 0 ≤ -(((Nat.toDigits 10 n).length : Int) + e) by omega)
    rw [if_pos hsmall, hk, Int.toNat_natCast]
    exact magnitude_behindPoint hreads hrest digits start negative (by omega)
  obtain ⟨p, hp⟩ := Int.eq_ofNat_of_zero_le (show 0 ≤ ((Nat.toDigits 10 n).length : Int) + e by omega)
  rw [if_neg hsmall, hp, Int.toNat_natCast]
  by_cases hlong : (Nat.toDigits 10 n).length ≤ p
  · have hread := magnitude_beforePoint hreads hn hrest digits start negative
      (show e = ((p - (Nat.toDigits 10 n).length : Nat) : Int) by omega)
    rw [if_pos hlong]
    simpa [List.append_assoc] using hread
  · have hread := magnitude_acrossPoint hreads hn hrest digits start negative hp (by omega)
      (Nat.lt_of_not_le hlong)
    rw [if_neg hlong]
    simpa [List.append_assoc] using hread

/-- The digits of a double with an exponent read back as the double. -/
theorem magnitude_exponential (layout : Layout) :
    magnitude digits start negative
        (layout.exponential (Nat.toDigits 10 n) (Int.ofNat (Nat.toDigits 10 n).length + e - 1) ++ rest) =
      .ok (.float ⟨negative, x.rank, x.rank_lt⟩, rest) := by
  have hdigits : ∀ c ∈ Nat.toDigits 10 n, isDigit c = true := fun c => isDigit_of_mem_toDigits
  have hvalue := natOf_toDigits n
  have hhead := head?_toDigits_ne hn
  cases hds : Nat.toDigits 10 n with
  | nil => exact absurd hds Nat.toDigits_ne_nil
  | cons d more =>
    rw [hds] at hdigits hvalue hhead
    have hwhole : Whole [d] := by
      refine ⟨List.cons_ne_nil _ _, ?_, fun h => absurd h hhead⟩
      intro c hc
      exact hdigits c (List.mem_cons.mpr (Or.inl (List.mem_singleton.mp hc)))
    cases more with
    | nil =>
      have hexp : Int.ofNat [d].length + e - 1 = e := by
        rw [List.length_singleton, Int.ofNat_eq_natCast]
        omega
      have hread := magnitude_exponent hwhole hrest e
        (layout.exponentDigits - (Nat.toDigits 10 e.natAbs).length) digits start negative
      rw [hvalue, ofDecimal_eq hreads] at hread
      rw [hexp]
      exact hread
    | cons d' more =>
      have hfs : ∀ c ∈ d' :: more, isDigit c = true := fun c hc => hdigits c (List.mem_cons_of_mem _ hc)
      have hread := magnitude_pointExponent hwhole (List.cons_ne_nil _ _) hfs hrest
        (Int.ofNat (d :: d' :: more).length + e - 1)
        (layout.exponentDigits -
          (Nat.toDigits 10 (Int.ofNat (d :: d' :: more).length + e - 1).natAbs).length)
        digits start negative
      have hexp : Int.ofNat (d :: d' :: more).length + e - 1 - Int.ofNat (d' :: more).length = e := by
        simp only [List.length_cons, Int.ofNat_eq_natCast]
        omega
      have hparts : [d] ++ d' :: more = d :: d' :: more := rfl
      rw [hexp, hparts, hvalue, ofDecimal_eq hreads] at hread
      simpa [Layout.exponential, spelledExponent, List.append_assoc] using hread

end

/-- The text of a double without its sign reads back as the double. -/
theorem magnitude_magnitude (layout : Layout) (x : Double) {rest : List Char} (hrest : NumberEnds rest)
    (digits : Nat) (start : List Char) (negative : Bool) :
    magnitude digits start negative (layout.magnitude x ++ rest) =
      .ok (.float ⟨negative, x.rank, x.rank_lt⟩, rest) := by
  rw [Layout.magnitude]
  by_cases hzero : x.rank = 0
  · have hzeroNe : ['0'] ≠ [] := List.cons_ne_nil _ _
    have hread := magnitude_point Whole.zeroAlone hzeroNe isDigit_of_mem_zero hrest digits start negative
    have hrank : Double.decimalRank (natOf (['0'] ++ ['0'])) (-Int.ofNat ['0'].length) = x.rank := by
      rw [hzero]
      decide
    rw [ofDecimal_eq hrank] at hread
    rw [if_pos hzero]
    exact hread
  · rw [if_neg hzero]
    have hreads := Double.decimalRank_shortest hzero
    have hpos := Double.shortest_pos hzero
    simp only
    split
    · exact magnitude_positional hreads hpos hrest digits start negative
    · exact magnitude_exponential hreads hpos hrest digits start negative layout

/-- A double reads back as itself, in whatever way it is laid out. -/
theorem readNumber_write (layout : Layout) (x : Double) {rest : List Char} (hrest : NumberEnds rest)
    (digits : Nat) : readNumber digits (layout.write x ++ rest) = .ok (.float x, rest) := by
  rw [Layout.write]
  cases hneg : x.negative with
  | true =>
    rw [if_pos rfl, List.cons_append, readNumber, magnitude_magnitude layout x hrest, ← hneg]
  | false =>
    rw [if_neg Bool.false_ne_true]
    apply readNumber_of_magnitude
    rw [magnitude_magnitude layout x hrest, ← hneg]

end Json
end ApiCompiler
