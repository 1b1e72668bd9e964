import ApiCompiler.Breakdown
import ApiCompiler.Value.Calendar

/-!
# Days and moments in YAML

A day is written as year, month and day.  A moment adds the time of the day and may add how far it
is from universal time.  Whether a text has this form is one question, and whether there is such a
day is another one.
-/

namespace ApiCompiler
namespace Yaml
namespace Dates

/-- The parts of a moment as they are written; a day has no time. -/
structure Written where
  year : Nat
  month : Nat
  day : Nat
  /-- Whether the month and the day have two digits each. -/
  full : Bool
  time : Option Value.Time
  /-- The seconds that a place is ahead of universal time, if that is said. -/
  offset : Option Int

/-- Whether a character is a decimal digit. -/
def isDigit (c : Char) : Bool := '0' ≤ c && c ≤ '9'

/-- The number that decimal digits spell. -/
def number (cs : List Char) : Nat := cs.foldl (fun n c => 10 * n + (c.toNat - 48)) 0

/-- At least `least` and at most `most` digits, and what follows them. -/
def digits? (least most : Nat) (cs : List Char) : Option (List Char × List Char) :=
  let ds := (cs.take most).takeWhile isDigit
  if least ≤ ds.length then some (ds, cs.drop ds.length) else none

/-- What follows a character, if it is the first one. -/
def after? (c : Char) : List Char → Option (List Char)
  | x :: rest => if x = c then some rest else none
  | [] => none

/-- The characters after leading blanks. -/
def skipBlanks (cs : List Char) : List Char := cs.dropWhile fun c => c = ' ' || c = '\t'

/-- The distance from universal time up to the end of the text. -/
def offset? (cs : List Char) : Option (Option Int) :=
  match skipBlanks cs with
  | [] => if cs.isEmpty then some none else none
  | ['Z'] => some (some 0)
  | sign :: rest =>
    if sign = '+' || sign = '-' then do
      let (hours, rest) ← digits? 1 2 rest
      let minutes ← match rest with
        | [] => some []
        | ':' :: rest => do
          let (minutes, rest) ← digits? 2 2 rest
          if rest.isEmpty then some minutes else none
        | _ => none
      let n : Int := number hours * 3600 + number minutes * 60
      pure (some (if sign = '-' then -n else n))
    else none

/-- The time of the day and the distance from universal time, up to the end of the text. -/
def time? (cs : List Char) : Option (Value.Time × Option Int) := do
  let rest ← match cs with
    | 'T' :: rest => some rest
    | 't' :: rest => some rest
    | _ => if (skipBlanks cs).length < cs.length then some (skipBlanks cs) else none
  let (hour, rest) ← digits? 1 2 rest
  let (minute, rest) ← digits? 2 2 (← after? ':' rest)
  let (second, rest) ← digits? 2 2 (← after? ':' rest)
  let (fraction, rest) := match rest with
    | '.' :: rest => (rest.takeWhile isDigit, rest.dropWhile isDigit)
    | rest => ([], rest)
  let micro := (fraction ++ List.replicate 6 '0').take 6
  let offset ← offset? rest
  pure (⟨number hour, number minute, number second, number micro⟩, offset)

/-- The parts that a text spells. -/
def written? (cs : List Char) : Option Written := do
  let (year, rest) ← digits? 4 4 cs
  let (month, rest) ← digits? 1 2 (← after? '-' rest)
  let (day, rest) ← digits? 1 2 (← after? '-' rest)
  let full := month.length = 2 && day.length = 2
  match rest with
  | [] => pure ⟨number year, number month, number day, full, none, none⟩
  | rest => do
    let (time, offset) ← time? rest
    pure ⟨number year, number month, number day, full, some time, offset⟩

/-- Whether a plain scalar is a day or a moment; a day needs all its digits. -/
def isDate (cs : List Char) : Bool :=
  match written? cs with
  | some w => w.full || w.time.isSome
  | none => false

/-- Refuses a part that is out of range. -/
def require (holds : Bool) (rule : String) : Except Breakdown Unit :=
  if holds then .ok () else .error (Breakdown.outOfRange rule)

/-- The day of some parts. -/
def Written.toDay (w : Written) : Except Breakdown Value.Day := do
  require (1 ≤ w.year) s!"year {w.year} is out of range"
  require (1 ≤ w.month && w.month ≤ 12) "month must be in 1..12"
  require (1 ≤ w.day && w.day ≤ Value.monthLength w.year w.month) "day is out of range for month"
  pure ⟨w.year, w.month, w.day⟩

/-- Refuses a distance from universal time of a whole day. -/
def checkOffset (offset : Int) : Except Breakdown Unit :=
  require (offset.natAbs < 86400)
    ("offset must be a timedelta strictly between -timedelta(hours=24) and " ++
      "timedelta(hours=24), not " ++ Value.Scalar.spanInside offset ++ ".")

/-- The day or the moment of some parts. -/
def Written.toScalar (w : Written) : Except Breakdown Value.Scalar :=
  match w.time with
  | none => w.toDay.map .day
  | some time => do
    (w.offset.map checkOffset).getD (.ok ())
    let day ← w.toDay
    require (time.hour < 24) "hour must be in 0..23"
    require (time.minute < 60) "minute must be in 0..59"
    require (time.second < 60) "second must be in 0..59"
    pure (.moment ⟨day, time, w.offset⟩)

end Dates
end Yaml
end ApiCompiler
