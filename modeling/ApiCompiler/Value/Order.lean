import ApiCompiler.Value.Likeness
import ApiCompiler.Value.Writing

/-!
# Values with ordered keys

The text of an enumerated value has the keys of every mapping in order.  Texts are ordered among
each other and numbers are, and so are days and moments; but a text and a number are not: a mapping
with keys of both kinds has no such text, and the breakdown names the two keys whose order was asked
for first.  Hence the order of the questions matters, and `ordered` asks them as a binary insertion
sort does: it takes the run that the entries begin with, and puts every other entry into its place.
-/

namespace ApiCompiler
namespace Value

/-! ## Comparing keys -/

/-- A number as a quotient. -/
def Number.quotient : Number → Int × Nat
  | .int n => (n, 1)
  | .float x => (if x.negative then -Int.ofNat x.ratio.1 else Int.ofNat x.ratio.1, x.ratio.2)

/-- Whether a number is below another one. -/
def Number.below (a b : Number) : Bool :=
  a.quotient.1 * Int.ofNat b.quotient.2 < b.quotient.1 * Int.ofNat a.quotient.2

/-- Whether a day is before another one. -/
def Day.before (a b : Day) : Bool :=
  a.year < b.year || (a.year = b.year && (a.month < b.month || (a.month = b.month && a.day < b.day)))

/-- Whether a time is before another one. -/
def Time.before (s t : Time) : Bool :=
  s.hour < t.hour || (s.hour = t.hour && (s.minute < t.minute || (s.minute = t.minute &&
    (s.second < t.second || (s.second = t.second && s.micro < t.micro)))))

/-- Whether a key comes before an earlier one. -/
def Scalar.before (later earlier : Scalar) : Except Breakdown Bool :=
  match later, earlier with
  | .text s, .text t => .ok (s < t)
  | .day d, .day e => .ok (d.before e)
  | .time s, .time t => .ok (s.before t)
  | .moment m, .moment n =>
    if m.comparable n then .ok (m.instant < n.instant)
    else .error (.unordered later.kind earlier.kind)
  | _, _ =>
    match later.number?, earlier.number? with
    | some m, some n => .ok (m.below n)
    | _, _ => .error (.unordered later.kind earlier.kind)

/-! ## Sorting -/

variable {α : Type}

/-- The entries that go on in the direction of a run, the last one first, and those after them;
`last` is the entry before. -/
def runFrom (falling : Bool) (run : List (Scalar × α)) (last : Scalar) :
    List (Scalar × α) → Except Breakdown (List (Scalar × α) × List (Scalar × α))
  | [] => .ok (run, [])
  | e :: es => do
    if (← e.1.before last) = falling then runFrom falling (e :: run) e.1 es
    else pure (run, e :: es)

/-- The run that entries begin with, in rising order, and the entries after it. -/
def firstRun : List (Scalar × α) → Except Breakdown (List (Scalar × α) × List (Scalar × α))
  | [] => .ok ([], [])
  | [e] => .ok ([e], [])
  | e :: f :: rest => do
    let falling ← f.1.before e.1
    let (run, rest) ← runFrom falling [f, e] f.1 rest
    pure (if falling then run else run.reverse, rest)

/-- The place of a key among sorted entries, between two bounds. -/
def placeBetween (key : Scalar) (sorted : Array (Scalar × α)) (low high : Nat) :
    Except Breakdown Nat :=
  if _h : low < high then do
    let middle := low + (high - low) / 2
    match sorted[middle]? with
    | none => pure low
    | some e =>
      if ← key.before e.1 then placeBetween key sorted low middle
      else placeBetween key sorted (middle + 1) high
  else pure low
termination_by high - low

/-- Puts entries into their places among sorted ones. -/
def insertAll : List (Scalar × α) → List (Scalar × α) → Except Breakdown (List (Scalar × α))
  | sorted, [] => .ok sorted
  | sorted, e :: es => do
    let place ← placeBetween e.1 sorted.toArray 0 sorted.length
    insertAll (sorted.take place ++ e :: sorted.drop place) es

/-- The entries in the order of their keys. -/
def sortEntries (entries : List (Scalar × α)) : Except Breakdown (List (Scalar × α)) := do
  let (run, rest) ← firstRun entries
  insertAll run rest

/-! ## Values -/

/-- The value in JSON, with the keys of every mapping in order. -/
def ordered (v : Value) : Except Breakdown Json := v.writtenBy sortEntries

end Value
end ApiCompiler
