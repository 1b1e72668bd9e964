import ApiCompiler.Json.Writer

/-!
# Values

What a document or a configuration holds once its text is read: scalars, sequences and mappings
whose keys are scalars.  Every JSON value is one of these (`Value.ofJson`).  In the other direction
the keys are written as texts, since JSON has no others; descriptions and everything else spell
one of them differently.
-/

namespace ApiCompiler

namespace Value

/-- A day of the calendar. -/
structure Day where
  year : Nat
  month : Nat
  day : Nat
  deriving DecidableEq

/-- A time of the day, down to millionths of a second. -/
structure Time where
  hour : Nat
  minute : Nat
  second : Nat
  micro : Nat
  deriving DecidableEq

/-- A moment of a day, with its distance from universal time in seconds if that is known. -/
structure Moment where
  day : Day
  time : Time
  offset : Option Int
  deriving DecidableEq

/-- A value without parts. -/
inductive Scalar where
  | null
  | bool (value : Bool)
  | int (value : Int)
  | float (value : Double)
  | text (value : String)
  | day (value : Day)
  | moment (value : Moment)
  | time (value : Time)
  deriving DecidableEq

end Value

/-- A value. -/
inductive Value where
  | scalar (value : Value.Scalar)
  | seq (items : List Value)
  | map (entries : List (Value.Scalar × Value))

namespace Value

/-! ## Days and moments -/

/-- A number with zeros before it, up to a number of digits. -/
def padded (width n : Nat) : String :=
  let digits := toString n
  "".pushn '0' (width - digits.length) ++ digits

/-- A day as year, month and day. -/
def Day.shown (d : Day) : String := s!"{padded 4 d.year}-{padded 2 d.month}-{padded 2 d.day}"

/-- A distance from universal time as hours and minutes, and seconds if there are any. -/
def shownOffset (offset : Int) : String :=
  let n := offset.natAbs
  (if offset < 0 then "-" else "+") ++ padded 2 (n / 3600) ++ ":" ++ padded 2 (n / 60 % 60) ++
    (if n % 60 = 0 then "" else ":" ++ padded 2 (n % 60))

/-- A time as hours, minutes and seconds, and parts of a second if there are any. -/
def Time.shown (t : Time) : String :=
  s!"{padded 2 t.hour}:{padded 2 t.minute}:{padded 2 t.second}" ++
    if t.micro = 0 then "" else "." ++ padded 6 t.micro

/-- The parts of a time; zeros at the end are left out, but not those of hours and minutes. -/
def Time.parts (t : Time) : List Nat :=
  [t.hour, t.minute] ++
    if t.micro = 0 then (if t.second = 0 then [] else [t.second]) else [t.second, t.micro]

/-- A moment as its day and its time, joined by a separator. -/
def Moment.written (m : Moment) (separator : String) (offset : String) : String :=
  m.day.shown ++ separator ++ m.time.shown ++ offset

/-- A moment as a message shows it. -/
def Moment.shown (m : Moment) : String := m.written " " ((m.offset.map shownOffset).getD "")

/-- A moment as a description writes it. -/
def Moment.inDescription (m : Moment) : String :=
  m.written "T" <| match m.offset with
    | none => ""
    | some offset => if offset = 0 then "Z" else shownOffset offset

namespace Scalar

/-- The kind of a scalar as messages name it. -/
def kind : Scalar → String
  | .null => "NoneType"
  | .bool _ => "bool"
  | .int _ => "int"
  | .float _ => "float"
  | .text _ => "str"
  | .day _ => "datetime.date"
  | .moment _ => "datetime.datetime"
  | .time _ => "datetime.time"

/-- A scalar as a message shows it; a text is shown as it is. -/
def shown : Scalar → String
  | .null => "None"
  | .bool true => "True"
  | .bool false => "False"
  | .int n => String.ofList (Json.writeInt n)
  | .float x => String.ofList (Layout.plain.write x)
  | .text s => s
  | .day d => d.shown
  | .moment m => m.shown
  | .time t => t.shown

/-- A length of time in seconds inside another value. -/
def spanInside (seconds : Int) : String :=
  let rest := seconds % 86400
  let days := seconds / 86400
  "datetime.timedelta(" ++
    (if seconds = 0 then "0" else
      ", ".intercalate ((if days = 0 then [] else [s!"days={days}"]) ++
        (if rest = 0 then [] else [s!"seconds={rest}"]))) ++ ")"

/-- A distance from universal time inside another value. -/
def offsetInside (offset : Int) : String :=
  if offset = 0 then "datetime.timezone.utc"
  else "datetime.timezone(" ++ spanInside offset ++ ")"

/-- A scalar inside another value, where texts stand between quotes. -/
def shownInside : Scalar → String
  | .text s => Text.quoted s
  | .day d => s!"datetime.date({d.year}, {d.month}, {d.day})"
  | .moment m =>
    "datetime.datetime(" ++
      ", ".intercalate (([m.day.year, m.day.month, m.day.day] ++ m.time.parts).map
        toString ++ (m.offset.map fun o => "tzinfo=" ++ offsetInside o).toList) ++ ")"
  | .time t => "datetime.time(" ++ ", ".intercalate (t.parts.map toString) ++ ")"
  | s => s.shown

/-- A scalar that has a form in JSON, as it is there; a day, a moment or a time is a text. -/
def toJson : Scalar → Json
  | .null => .null
  | .bool b => .bool b
  | .int n => .int n
  | .float x => .float x
  | .text s => .str s
  | .day d => .str d.shown
  | .moment m => .str m.inDescription
  | .time t => .str t.shown

/-- A scalar as the key of a JSON object. -/
def key : Scalar → String
  | .text s => s
  | .day d => d.shown
  | .moment m => m.inDescription
  | .time t => t.shown
  | s => s.toJson.text

/-- A scalar as the key of an object in a description. -/
def keyInDescription : Scalar → String
  | .null => "None"
  | s => s.key

end Scalar

/-! ## Between values and JSON -/

mutual

/-- A JSON value as a value. -/
def ofJson : Json → Value
  | .null => .scalar .null
  | .bool b => .scalar (.bool b)
  | .int n => .scalar (.int n)
  | .float x => .scalar (.float x)
  | .str s => .scalar (.text s)
  | .arr xs => .seq (ofItems xs)
  | .obj ms => .map (ofMembers ms)

/-- The items of an array. -/
def ofItems : List Json → List Value
  | [] => []
  | x :: xs => ofJson x :: ofItems xs

/-- The members of an object. -/
def ofMembers : List (String × Json) → List (Scalar × Value)
  | [] => []
  | (k, v) :: rest => (.text k, ofJson v) :: ofMembers rest

end

mutual

/-- The value as a JSON value, its keys spelled by `key`. -/
def toJsonWith (key : Scalar → String) : Value → Json
  | .scalar s => s.toJson
  | .seq xs => .arr (toItems key xs)
  | .map es => .obj (toMembers key es)

/-- The items of a sequence. -/
def toItems (key : Scalar → String) : List Value → List Json
  | [] => []
  | x :: xs => toJsonWith key x :: toItems key xs

/-- The entries of a mapping, their keys written as texts. -/
def toMembers (key : Scalar → String) : List (Scalar × Value) → List (String × Json)
  | [] => []
  | (k, v) :: rest => (key k, toJsonWith key v) :: toMembers key rest

end

/-- The value as a JSON value. -/
def toJson (v : Value) : Json := v.toJsonWith Scalar.key

/-- The value as a description writes it. -/
def inDescription (v : Value) : Json := v.toJsonWith Scalar.keyInDescription

/-! ## Values in messages -/

mutual

/-- A value inside another one, as a message shows it. -/
def shownInside : Value → String
  | .scalar s => s.shownInside
  | .seq xs => "[" ++ ", ".intercalate (shownItems xs) ++ "]"
  | .map es => "\x7b" ++ ", ".intercalate (shownEntries es) ++ "\x7d"

/-- The items of a sequence. -/
def shownItems : List Value → List String
  | [] => []
  | x :: xs => shownInside x :: shownItems xs

/-- The entries of a mapping. -/
def shownEntries : List (Scalar × Value) → List String
  | [] => []
  | (k, v) :: rest => (k.shownInside ++ ": " ++ shownInside v) :: shownEntries rest

end

/-- A value as a message shows it. -/
def shown : Value → String
  | .scalar s => s.shown
  | v => v.shownInside

/-! ## Parts -/

/-- The value under a text key. -/
def entry? (key : String) : List (Scalar × Value) → Option Value
  | [] => none
  | (k, v) :: rest => if k = .text key then some v else entry? key rest

/-- The value under a text key of a mapping. -/
def get? (key : String) : Value → Option Value
  | .map es => entry? key es
  | _ => none

/-- Whether a value counts as missing where a mapping is wanted: null, false, zero and everything
empty do. -/
def isEmptyValue : Value → Bool
  | .scalar .null => true
  | .scalar (.bool b) => !b
  | .scalar (.int n) => n = 0
  | .scalar (.float x) => x.rank = 0
  | .scalar (.text s) => s.isEmpty
  | .scalar _ => false
  | .seq xs => xs.isEmpty
  | .map es => es.isEmpty

end Value
end ApiCompiler
