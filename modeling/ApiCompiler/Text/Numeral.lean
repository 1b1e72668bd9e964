import ApiCompiler.Breakdown
import ApiCompiler.Text.Classes

/-!
# Numerals

A numeral is a sign and digits of any script, with white space around them; one underscore may
stand between two digits.
-/

namespace ApiCompiler
namespace Text

/-- The values of digits, between which underscores may stand. -/
def numeralDigits? : List Char → Option (List Nat)
  | [] => none
  | [c] => (digitValue? c).map fun d => [d]
  | c :: '_' :: cs => do
    let d ← digitValue? c
    let ds ← numeralDigits? cs
    pure (d :: ds)
  | c :: cs => do
    let d ← digitValue? c
    let ds ← numeralDigits? cs
    pure (d :: ds)

/-- The number that digits spell; too many of them spell none. -/
def numeralValue? (cs : List Char) : Option Nat := do
  let ds ← numeralDigits? cs
  if ds.length ≤ Breakdown.digitLimit then some (ds.foldl (fun n d => 10 * n + d) 0) else none

/-- The number that a numeral spells. -/
def numeral? (cs : List Char) : Option Int :=
  match strip cs with
  | '-' :: ds => (numeralValue? ds).map fun n => -Int.ofNat n
  | '+' :: ds => (numeralValue? ds).map Int.ofNat
  | ds => (numeralValue? ds).map Int.ofNat

end Text
end ApiCompiler
