import ApiCompiler.Text.CodePoints

/-!
# Numeric hosts

A host may be given by its number instead of its name: four decimal numbers joined by points, or
up to eight hexadecimal ones joined by colons.  A run of zeros may be left out of the second form
once, and its last two numbers may be written in the first form.
-/

namespace ApiCompiler
namespace Address

/-- Whether a character is a decimal digit. -/
def isDecimal (c : Char) : Bool := '0' ≤ c && c ≤ '9'

/-- Whether characters spell a number up to 255 without leading zeros. -/
def isOctet (cs : List Char) : Bool :=
  !cs.isEmpty && cs.length ≤ 3 && cs.all isDecimal && (cs.head? != some '0' || cs = ['0']) &&
    cs.foldl (fun n c => 10 * n + (c.toNat - 48)) 0 ≤ 255

/-- Whether characters are four numbers joined by points. -/
def isFourNumbers (cs : List Char) : Bool :=
  let parts := CodePoints.cut '.' cs
  parts.length = 4 && parts.all isOctet

/-- Whether characters spell a hexadecimal number of at most four digits. -/
def isHextet (cs : List Char) : Bool :=
  !cs.isEmpty && cs.length ≤ 4 && cs.all fun c => (CodePoints.hexValue? c).isSome

/-- The parts between the colons with a last part in the first form taken as two numbers. -/
def hextets? (parts : List (List Char)) : Option (List (List Char)) :=
  let last := parts.getLast?.getD []
  if last.contains '.' then
    if isFourNumbers last then some (parts.dropLast ++ [['0'], ['0']]) else none
  else some parts

/-- Whether the parts before, or after, the run that is left out are in order.  An empty part at
the outer end belongs to the run, and then nothing else stands there. -/
def isSide (parts : List (List Char)) (outer : Option (List Char)) : Bool :=
  if outer = some [] then parts.length = 1 else parts.all isHextet

/-- The number of numbers that the parts on one side of the run stand for. -/
def sideCount (parts : List (List Char)) (outer : Option (List Char)) : Nat :=
  if outer = some [] then 0 else parts.length

/-- Whether parts are eight numbers, a run of them left out at most once. -/
def isEightNumbers (parts : List (List Char)) : Bool :=
  let inner := (parts.drop 1).dropLast
  match inner.count [] with
  | 0 => parts.length = 8 && parts.all isHextet
  | 1 =>
    let before := parts.take 1 ++ inner.takeWhile (· ≠ [])
    let after := parts.drop (before.length + 1)
    isSide before before.head? && isSide after after.getLast? &&
      sideCount before before.head? + sideCount after after.getLast? < 8
  | _ => false

/-- Whether characters are hexadecimal numbers joined by colons, a zone after a percent sign
possibly following. -/
def isHexNumbers (cs : List Char) : Bool :=
  let number := cs.takeWhile (· ≠ '%')
  let zone := cs.drop number.length
  let parts := CodePoints.cut ':' number
  (zone.isEmpty || (zone.length > 1 && !(zone.drop 1).contains '%')) && parts.length ≥ 3 &&
    match hextets? parts with
    | some parts => isEightNumbers parts
    | none => false

end Address
end ApiCompiler
