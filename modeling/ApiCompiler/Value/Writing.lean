import ApiCompiler.Breakdown
import ApiCompiler.Value

/-!
# Values written as JSON

JSON has no days, no moments and no times, so a value that holds one of them, or has one as a key,
cannot be written: `Value.written` breaks down at the first one.  Keys of other kinds become texts.
The entries of a mapping are written in the order they come in, or in another one that is asked for
(`Value.writtenBy`).

The limit on digits (`Breakdown.digitLimit`) is looked at where a number is read in base ten.  A
number that is spelled in another base is assumed to stay below it: whole numbers are written here
whatever their length.
-/

namespace ApiCompiler
namespace Value

/-- A scalar as a value of JSON; a day or a moment has no form there. -/
def Scalar.written : Scalar → Except Breakdown Json
  | .day _ => .error (.unwritable "date")
  | .moment _ => .error (.unwritable "datetime")
  | .time _ => .error (.unwritable "time")
  | s => .ok s.toJson

/-- A scalar as a key of JSON. -/
def Scalar.writtenKey : Scalar → Except Breakdown String
  | .day _ => .error (.unwritableKey "date")
  | .moment _ => .error (.unwritableKey "datetime")
  | .time _ => .error (.unwritableKey "time")
  | s => .ok s.key

/-- The members that entries are written as. -/
def writtenMembers : List (Scalar × Except Breakdown Json) →
    Except Breakdown (List (String × Json))
  | [] => .ok []
  | (k, v) :: rest => do
    let key ← k.writtenKey
    let value ← v
    let members ← writtenMembers rest
    pure ((key, value) :: members)

/-- A way to put the entries of a mapping in order, their values still to be asked for. -/
abbrev Arrangement : Type :=
  List (Scalar × Except Breakdown Json) → Except Breakdown (List (Scalar × Except Breakdown Json))

mutual

/-- The value in JSON, with the entries of every mapping put in order. -/
def writtenBy (arrange : Arrangement) : Value → Except Breakdown Json
  | .scalar s => s.written
  | .seq xs => do
    let items ← writtenItems arrange xs
    pure (.arr items)
  | .map es => do
    let entries ← arrange (writtenEntries arrange es)
    let members ← writtenMembers entries
    pure (.obj members)

/-- The items of a sequence. -/
def writtenItems (arrange : Arrangement) : List Value → Except Breakdown (List Json)
  | [] => .ok []
  | x :: xs => do
    let first ← writtenBy arrange x
    let rest ← writtenItems arrange xs
    pure (first :: rest)

/-- The entries of a mapping, their values still to be asked for. -/
def writtenEntries (arrange : Arrangement) :
    List (Scalar × Value) → List (Scalar × Except Breakdown Json)
  | [] => []
  | (k, v) :: rest => (k, writtenBy arrange v) :: writtenEntries arrange rest

end

/-- The value in JSON. -/
def written (v : Value) : Except Breakdown Json := v.writtenBy .ok

end Value
end ApiCompiler
