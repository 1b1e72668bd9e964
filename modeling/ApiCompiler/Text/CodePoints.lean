/-!
# Sets of code points

The character classes that a standard fixes by enumeration are kept as texts: ranges of code
points in hexadecimal, separated by blanks or line ends, such as `30-39 41-5A 5F`.  A set read
from such a text is a list of ranges, and membership is a search through it.
-/

namespace ApiCompiler
namespace CodePoints

/-- The value of a hexadecimal digit. -/
def hexValue? (c : Char) : Option Nat :=
  if '0' ≤ c ∧ c ≤ '9' then some (c.toNat - 48)
  else if 'A' ≤ c ∧ c ≤ 'F' then some (c.toNat - 55)
  else if 'a' ≤ c ∧ c ≤ 'f' then some (c.toNat - 87)
  else none

/-- The number that hexadecimal digits spell; other characters are passed over. -/
def hexNumber (cs : List Char) : Nat :=
  cs.foldl (fun n c => match hexValue? c with
    | some d => 16 * n + d
    | none => n) 0

/-- A list of characters cut at every occurrence of a separator. -/
def cut (separator : Char) : List Char → List (List Char)
  | [] => [[]]
  | c :: cs =>
    if c = separator then [] :: cut separator cs
    else match cut separator cs with
      | [] => [[c]]
      | first :: rest => (c :: first) :: rest

/-- One range: a code point, or two joined by a hyphen. -/
def range (cs : List Char) : Nat × Nat :=
  match cut '-' cs with
  | [a, b] => (hexNumber a, hexNumber b)
  | _ => (hexNumber cs, hexNumber cs)

/-- The entries of a table, which stand between blanks and line ends. -/
def entries (table : String) : List (List Char) :=
  (cut ' ' (table.toList.map fun c => if c = '\n' then ' ' else c)).filter (· ≠ [])

/-- The ranges that a text lists. -/
def ofText (text : String) : List (Nat × Nat) := (entries text).map range

/-- Whether a code point lies in one of the ranges. -/
def holds (ranges : List (Nat × Nat)) (n : Nat) : Bool :=
  ranges.any fun r => r.1 ≤ n && n ≤ r.2

end CodePoints
end ApiCompiler
