/-!
# Punycode

A text is written with ASCII characters alone: the ASCII characters it has, a hyphen, and then
numbers that say which other characters go where, the smallest character first.  Each number has
as many digits as it needs; how large a digit must be to be the last one is adapted to the numbers
seen so far.
-/

namespace ApiCompiler
namespace Punycode

/-- The smallest digit that is not the last one at a place, counted from 0. -/
def threshold (place bias : Nat) : Nat := min 26 (max 1 (36 * (place + 1) - bias))

/-- The next bias after a number; `count` characters have been placed. -/
def adapt (delta : Nat) (first : Bool) (count : Nat) : Nat :=
  let delta := if first then delta / 700 else delta / 2
  let rec shrink (fuel delta divisions : Nat) : Nat :=
    match fuel with
    | 0 => divisions + 36 * delta / (delta + 38)
    | fuel + 1 =>
      if delta > 455 then shrink fuel (delta / 35) (divisions + 36)
      else divisions + 36 * delta / (delta + 38)
  let delta := delta + delta / count
  shrink delta delta 0

/-! ## Writing -/

/-- The character of a digit. -/
def digit (n : Nat) : Char := if n < 26 then Char.ofNat (97 + n) else Char.ofNat (22 + n)

/-- The digits of a number from a place on. -/
def numberFrom (bias : Nat) : Nat → Nat → Nat → List Char
  | 0, _, n => [digit n]
  | fuel + 1, place, n =>
    let t := threshold place bias
    if n < t then [digit n]
    else digit (t + (n - t) % (36 - t)) :: numberFrom bias fuel (place + 1) ((n - t) / (36 - t))

/-- The state of a writer: the next character to place, the steps since the last one was placed,
the number of characters placed, the bias, whether none but the ASCII ones are placed, and the
digits in reverse. -/
structure Writer where
  next : Nat
  delta : Nat
  placed : Nat
  bias : Nat
  first : Bool
  digits : List Char

/-- Passes one character of the text while the characters equal to `next` are placed. -/
def Writer.pass (w : Writer) (code : Nat) : Writer :=
  if code < w.next then { w with delta := w.delta + 1 }
  else if code = w.next then
    { w with
      delta := 0, placed := w.placed + 1, first := false,
      bias := adapt w.delta w.first (w.placed + 1),
      digits := (numberFrom w.bias w.delta 0 w.delta).reverse ++ w.digits }
  else w

/-- Places all characters equal to `code`. -/
def Writer.place (text : List Nat) (w : Writer) (code : Nat) : Writer :=
  let steps := (code - w.next) * (w.placed + 1)
  let w := text.foldl Writer.pass { w with next := code, delta := w.delta + steps }
  { w with next := code + 1, delta := w.delta + 1 }

/-- The code points of a text as ASCII characters. -/
def encode (text : List Nat) : List Char :=
  let ascii := text.filter (· < 128)
  let others := ((text.filter (128 ≤ ·)).mergeSort (· ≤ ·)).eraseDups
  let w := others.foldl (Writer.place text) ⟨128, 0, ascii.length, 72, true, []⟩
  let front := ascii.map Char.ofNat
  (if front.isEmpty then [] else front ++ ['-']) ++ w.digits.reverse

/-! ## Reading -/

/-- The value of a digit. -/
def digitValue? (c : Char) : Option Nat :=
  if 'a' ≤ c && c ≤ 'z' then some (c.toNat - 97)
  else if 'A' ≤ c && c ≤ 'Z' then some (c.toNat - 65)
  else if '0' ≤ c && c ≤ '9' then some (c.toNat - 22)
  else none

/-- One number from a place on, and what follows it. -/
def number? (bias : Nat) : Nat → Nat → Nat → List Char → Option (Nat × List Char)
  | _, _, _, [] => none
  | place, weight, n, c :: rest =>
    match digitValue? c with
    | none => none
    | some d =>
      let t := threshold place bias
      let n := n + d * weight
      if d < t then some (n, rest) else number? bias (place + 1) (weight * (36 - t)) n rest

/-- Places the characters that numbers name into those already there. -/
def insert? : Nat → Nat → Nat → Nat → Bool → List Nat → List Char → Option (List Nat)
  | _, _, _, _, _, text, [] => some text
  | 0, _, _, _, _, _, _ => none
  | fuel + 1, code, place, bias, first, text, digits => do
    let (delta, rest) ← number? bias 0 1 0 digits
    let place := place + delta
    let code := code + place / (text.length + 1)
    let place := place % (text.length + 1)
    if code > 0x10FFFF then none
    else
      let text := text.take place ++ code :: text.drop place
      insert? fuel code (place + 1) (adapt delta first text.length) false text rest

/-- The code points that ASCII characters stand for. -/
def decode? (cs : List Char) : Option (List Nat) :=
  let tail := (cs.reverse.takeWhile (· ≠ '-')).reverse
  let front := cs.take (cs.length - tail.length - 1)
  insert? cs.length 128 0 72 true (front.map Char.toNat) tail

end Punycode
end ApiCompiler
