import ApiCompiler.Value

/-!
# The calendar

How many days the months have, which days there are, and where they and the moments of a day stand
in time.  Years are counted from 1, and the rule of leap years holds for all of them.
-/

namespace ApiCompiler
namespace Value

/-- Whether a year has a day more than others. -/
def isLeap (year : Nat) : Bool := year % 4 = 0 && (year % 100 ≠ 0 || year % 400 = 0)

/-- The days of a month. -/
def monthLength (year month : Nat) : Nat :=
  if month = 2 then (if isLeap year then 29 else 28)
  else if month = 4 || month = 6 || month = 9 || month = 11 then 30
  else 31

/-- Whether there is a day of this year, month and number. -/
def isDay (year month day : Nat) : Bool :=
  1 ≤ year && 1 ≤ month && month ≤ 12 && 1 ≤ day && day ≤ monthLength year month

/-! ## Time -/

/-- The number of a day; the first one of all has the number 1. -/
def Day.number (d : Day) : Nat :=
  let years := d.year - 1
  let months := List.range' 1 (d.month - 1)
  365 * years + (years / 4 + years / 400 - years / 100) +
    months.foldl (fun days m => days + monthLength d.year m) 0 + d.day

/-- A time of the day in millionths of a second. -/
def Time.micros (t : Time) : Nat :=
  ((t.hour * 60 + t.minute) * 60 + t.second) * 1000000 + t.micro

/-- Where a moment stands in time, in millionths of a second: in universal time if its distance from
that is known. -/
def Moment.instant (m : Moment) : Int :=
  (Int.ofNat m.day.number * 86400 - m.offset.getD 0) * 1000000 + Int.ofNat m.time.micros

/-- Whether two moments can be compared: the distance from universal time is known of both, or of
neither. -/
def Moment.comparable (m n : Moment) : Bool := m.offset.isSome = n.offset.isSome

/-- Whether two moments are the same. -/
def Moment.same (m n : Moment) : Bool := m.comparable n && m.instant = n.instant

end Value
end ApiCompiler
