import ApiCompiler.Number.Double

/-!
# Writing doubles

A double is written with the fewest decimal digits that read back as the same double, and among
those with the digits nearest to its value.  The search accepts a candidate only by reading it
back, so the digits found always denote the double they were found for.

Where the point goes is a separate matter: a `Layout` says which decimal exponents are written
out and how an exponent is spelled.  Two are in use, one for messages and value texts and one for
the compiled description.
-/

namespace ApiCompiler
namespace Double

/-- Drops the trailing zeros of `digits`, moving them into the exponent.  At most `fuel` of
them are dropped. -/
def dropZeros : Nat → Nat → Int → Nat × Int
  | 0, digits, exp10 => (digits, exp10)
  | fuel + 1, digits, exp10 =>
    if digits % 10 = 0 && digits != 0 then dropZeros fuel (digits / 10) (exp10 + 1)
    else (digits, exp10)

/-- The place of the decimal point: the least `p` such that the magnitude is below `10 ^ p`. -/
def pointPlace (x : Double) : Int :=
  let (n, d) := x.ratio
  if n ≥ d then Int.ofNat (digitCount (n / d))
  else
    1 - Int.ofNat (digitCount ((d + n - 1) / n - 1))

/-- The two neighbours of the magnitude on the grid of `count` digits, the nearer one first. -/
def neighbours (x : Double) (count : Nat) : List (Nat × Int) :=
  let unit : Int := x.pointPlace - Int.ofNat count
  let (n, d) := x.ratio
  let n := n * Nat.pow 10 (-unit).toNat
  let d := d * Nat.pow 10 unit.toNat
  let q := n / d
  if roundQuotient n d = q then [(q, unit), (q + 1, unit)] else [(q + 1, unit), (q, unit)]

/-- Whether a decimal number reads back as the magnitude of `x`. -/
def readsBack (x : Double) (c : Nat × Int) : Bool :=
  decimalRank c.1 c.2 = x.rank

/-- The exact decimal expansion of the magnitude. -/
def expansion (x : Double) : Nat × Int :=
  if x.exponent < 0 then (x.significand * Nat.pow 5 (-x.exponent).toNat, x.exponent)
  else (x.significand * Nat.pow 2 x.exponent.toNat, 0)

/-- The fewest digits that read back, as a number and its decimal exponent.  The expansion
stands in should no grid of up to seventeen digits hold such a number. -/
def shortest (x : Double) : Nat × Int :=
  let found := (List.range 17).findSome? fun i =>
    ((x.neighbours (i + 1)).map fun c => dropZeros 20 c.1 c.2).find? x.readsBack
  found.getD x.expansion

end Double

/-- How a double is laid out: decimal exponents from `least` to below `bound` are written out,
and an exponent has at least `exponentDigits` digits. -/
structure Layout where
  least : Int
  bound : Int
  exponentDigits : Nat

namespace Layout

/-- Numbers in messages and value texts: `0.0001` and `1e-05`, `1e+16`. -/
def plain : Layout := ⟨-4, 16, 2⟩

/-- Numbers in the compiled description: `0.00001` and `1e-6`, `1e+16`. -/
def description : Layout := ⟨-5, 16, 1⟩

/-- A run of zeros. -/
def zeros (n : Nat) : List Char := List.replicate n '0'

/-- Digits with the point written out: `place` digits stand before it. -/
def positional (digits : List Char) (place : Int) : List Char :=
  if place ≤ 0 then '0' :: '.' :: (zeros (-place).toNat ++ digits)
  else
    let p := place.toNat
    if digits.length ≤ p then digits ++ zeros (p - digits.length) ++ ['.', '0']
    else digits.take p ++ '.' :: digits.drop p

/-- Digits with an exponent; the point stands after the first digit. -/
def exponential (n : Layout) (digits : List Char) (exp10 : Int) : List Char :=
  let shown := Nat.toDigits 10 exp10.natAbs
  let shown := zeros (n.exponentDigits - shown.length) ++ shown
  let sign := if exp10 < 0 then '-' else '+'
  match digits with
  | [] => []
  | [d] => d :: 'e' :: sign :: shown
  | d :: more => d :: '.' :: more ++ 'e' :: sign :: shown

/-- The text of a magnitude. -/
def magnitude (n : Layout) (x : Double) : List Char :=
  if x.rank = 0 then ['0', '.', '0']
  else
    let (digits, exp10) := x.shortest
    let shown := Nat.toDigits 10 digits
    let place : Int := Int.ofNat shown.length + exp10
    if n.least ≤ place - 1 && place - 1 < n.bound then positional shown place
    else exponential n shown (place - 1)

/-- The text of a double; a negative zero keeps its sign. -/
def write (n : Layout) (x : Double) : List Char :=
  if x.negative then '-' :: n.magnitude x else n.magnitude x

end Layout
end ApiCompiler
