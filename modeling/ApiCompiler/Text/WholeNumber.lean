import ApiCompiler.Breakdown
import ApiCompiler.Text.Classes

/-!
# Whole numbers in texts

A whole number may be written with digits of any script, with a sign, with single underscores
between its digits and with blanks around it.
-/

namespace ApiCompiler
namespace Text

/-- The values of digits, single underscores between them left out. -/
def digits? : List Char → Option (List Nat)
  | [] => none
  | [c] => (digitValue? c).map ([·])
  | c :: '_' :: rest => do
    let d ← digitValue? c
    let ds ← digits? rest
    pure (d :: ds)
  | c :: rest => do
    let d ← digitValue? c
    let ds ← digits? rest
    pure (d :: ds)

/-- The whole number that a text spells, digits of any script and blanks around it allowed. -/
def wholeNumber? (cs : List Char) : Option Int :=
  let cs := strip cs
  let (negative, cs) := match cs with
    | '-' :: rest => (true, rest)
    | '+' :: rest => (false, rest)
    | cs => (false, cs)
  match digits? cs with
  | some ds =>
    if ds.length ≤ Breakdown.digitLimit then
      let n : Nat := ds.foldl (fun n d => 10 * n + d) 0
      some (if negative then -n else n)
    else none
  | none => none

end Text
end ApiCompiler
