import ApiCompiler.Json.Reader
import ApiCompiler.Value.Calendar

/-!
# Days and times in TOML

A day is written as year, month and day, and a time as hours, minutes and seconds, which may have
a fraction.  A moment is both, and may add how far it is from universal time.  Every part has two
digits but the year, which has four.
-/

namespace ApiCompiler
namespace Toml
namespace Dates

/-- The number that some digits spell, and what follows. -/
def digits? (count : Nat) (cs : List Char) : Option (Nat × List Char) :=
  let ds := cs.take count
  if ds.length = count && ds.all Json.isDigit then some (Json.natOf ds, cs.drop count) else none

/-- What follows a character, if it is the first one. -/
def after? (c : Char) : List Char → Option (List Char)
  | x :: rest => if x = c then some rest else none
  | [] => none

/-- A number of two digits up to a greatest one. -/
def part? (most : Nat) (cs : List Char) : Option (Nat × List Char) :=
  (digits? 2 cs).filter (·.1 ≤ most)

/-- A time; of a fraction six digits count. -/
def time? (cs : List Char) : Option (Value.Time × List Char) := do
  let (hour, rest) ← part? 23 cs
  let (minute, rest) ← part? 59 (← after? ':' rest)
  let (second, rest) ← part? 59 (← after? ':' rest)
  let (fraction, rest) := match rest with
    | '.' :: more =>
      if more.head?.any Json.isDigit then (more.takeWhile Json.isDigit, more.dropWhile Json.isDigit)
      else ([], rest)
    | rest => ([], rest)
  let micro := Json.natOf ((fraction ++ List.replicate 6 '0').take 6)
  pure (⟨hour, minute, second, micro⟩, rest)

/-- How far a moment is from universal time in seconds, if that is said. -/
def offset (cs : List Char) : Option Int × List Char :=
  match cs with
  | 'Z' :: rest => (some 0, rest)
  | 'z' :: rest => (some 0, rest)
  | sign :: rest =>
    let read : Option (Int × List Char) := do
      let (hours, rest) ← part? 23 rest
      let (minutes, rest) ← part? 59 (← after? ':' rest)
      let n : Int := hours * 3600 + minutes * 60
      pure (if sign = '-' then -n else n, rest)
    match sign = '+' || sign = '-', read with
    | true, some (n, rest) => (some n, rest)
    | _, _ => (none, cs)
  | [] => (none, cs)

/-- The year, the month and the day at the start of a text. -/
def day? (cs : List Char) : Option (Value.Day × List Char) := do
  let (year, rest) ← digits? 4 cs
  let (month, rest) ← (part? 12 (← after? '-' rest)).filter (1 ≤ ·.1)
  let (day, rest) ← (part? 31 (← after? '-' rest)).filter (1 ≤ ·.1)
  pure (⟨year, month, day⟩, rest)

/-- A day, a moment or a time, and what follows it.  A day that there is not is no value. -/
def read? (cs : List Char) : Option (Except ReadFault (Value.Scalar × List Char)) :=
  match day? cs with
  | some (day, rest) =>
    some <| if !Value.isDay day.year day.month day.day then .error .malformed
    else match rest with
      | separator :: more =>
        match separator = 'T' || separator = 't' || separator = ' ', time? more with
        | true, some (time, more) =>
          let (offset, more) := offset more
          .ok (.moment ⟨day, time, offset⟩, more)
        | _, _ => .ok (.day day, rest)
      | [] => .ok (.day day, rest)
  | none => (time? cs).map fun r => .ok (.time r.1, r.2)

end Dates
end Toml
end ApiCompiler
