/-!
# Doubles

A finite double is kept as a sign and its `rank`: the number of doubles below it among the
non-negative ones, counted from zero.  Ranks below `2 ^ 52` are the subnormal numbers; from
there on every block of `2 ^ 52` ranks is one binade.  In this form a double is plain data: two
doubles are the same exactly when their signs and ranks are, the next double is the next rank,
and rounding is the choice of a rank.

`Double.ofDecimal` rounds a decimal number to the nearest double, a tie going to the even rank.
A number beyond the largest double is read as the largest one.
-/

namespace ApiCompiler

/-- The number of ranks: doubles of one sign that are finite. -/
def Double.rankCount : Nat := 2047 * Nat.pow 2 52

/-- A finite double-precision number. -/
structure Double where
  negative : Bool
  rank : Nat
  rank_lt : rank < Double.rankCount
  deriving DecidableEq

namespace Double

/-- The significand: the magnitude is `significand * 2 ^ exponent`. -/
def significand (x : Double) : Nat :=
  if x.rank < Nat.pow 2 52 then x.rank else Nat.pow 2 52 + x.rank % Nat.pow 2 52

/-- The binary exponent that goes with `significand`. -/
def exponent (x : Double) : Int :=
  if x.rank < Nat.pow 2 52 then -1074 else Int.ofNat (x.rank / Nat.pow 2 52) - 1075

/-- The magnitude as a quotient of two natural numbers. -/
def ratio (x : Double) : Nat × Nat :=
  (x.significand * Nat.pow 2 x.exponent.toNat, Nat.pow 2 (-x.exponent).toNat)

/-- Zero with a sign. -/
def zero (negative : Bool) : Double := ⟨negative, 0, by decide⟩

/-- The double of a rank; ranks past the end stand for the largest double. -/
def ofRank (negative : Bool) (rank : Nat) : Double :=
  if h : rank < rankCount then ⟨negative, rank, h⟩ else ⟨negative, rankCount - 1, by decide⟩

/-- `num / den` to the nearest natural number, a tie to the even one. -/
def roundQuotient (num den : Nat) : Nat :=
  let q := num / den
  let r := 2 * (num % den)
  if r < den then q else if r > den then q + 1 else q + q % 2

/-- Divides a quotient by `2 ^ e`. -/
def scale (num den : Nat) (e : Int) : Nat × Nat :=
  (num * Nat.pow 2 (-e).toNat, den * Nat.pow 2 e.toNat)

/-- The exponent at which `num / den` has a significand of 53 bits, but never below the
exponent of the subnormal numbers. -/
def binade (num den : Nat) : Int :=
  let e : Int := Int.ofNat num.log2 - Int.ofNat den.log2 - 52
  let (n, d) := scale num den e
  max (-1074) (if n / d < Nat.pow 2 52 then e - 1 else e)

/-- The rank nearest to `num / den`. -/
def nearestRank (num den : Nat) : Nat :=
  let e := binade num den
  let (n, d) := scale num den e
  (e + 1074).toNat * Nat.pow 2 52 + roundQuotient n d

/-- The number of decimal digits of a natural number. -/
def digitCount (n : Nat) : Nat := (Nat.toDigits 10 n).length

/-- The rank nearest to `digits * 10 ^ exp10`; past the last rank for a number that is too
large.  The first two cases only spare the work on numbers far outside the range. -/
def decimalRank (digits : Nat) (exp10 : Int) : Nat :=
  let top : Int := Int.ofNat (digitCount digits) + exp10
  if digits = 0 || top < -400 then 0
  else if top > 400 then rankCount
  else nearestRank (digits * Nat.pow 10 exp10.toNat) (Nat.pow 10 (-exp10).toNat)

/-- The double nearest to `± digits * 10 ^ exp10`. -/
def ofDecimal (negative : Bool) (digits : Nat) (exp10 : Int) : Double :=
  ofRank negative (decimalRank digits exp10)

/-- The double nearest to the sum of two magnitudes. -/
def plus (x y : Double) : Double :=
  let (a, b) := x.ratio
  let (c, d) := y.ratio
  ofRank false (if a = 0 && c = 0 then 0 else nearestRank (a * d + c * b) (b * d))

/-- The double nearest to a multiple of a magnitude. -/
def times (x : Double) (n : Nat) : Double :=
  let (a, b) := x.ratio
  ofRank false (if a * n = 0 then 0 else nearestRank (a * n) b)

/-- Whether the double is the integer `n`. -/
def isInt (x : Double) (n : Int) : Bool :=
  x.ratio.1 = n.natAbs * x.ratio.2 && (n = 0 || (n < 0) = x.negative)

/-- The integer a double stands for, if it stands for one. -/
def toInt? (x : Double) : Option Int :=
  let (n, d) := x.ratio
  if n % d = 0 then some (if x.negative then -Int.ofNat (n / d) else Int.ofNat (n / d)) else none

/-- Equality of numbers: the two zeros are one number. -/
def sameNumber (x y : Double) : Bool :=
  x.rank = y.rank && (x.negative = y.negative || x.rank = 0)

end Double
end ApiCompiler
