import ApiCompiler.Breakdown
import ApiCompiler.Json.Value
import ApiCompiler.Text.CodePoints

/-!
# Reading JSON

A reader takes the front of a list of characters and hands back what follows.  A fault carries
the characters from the place of the fault on, so its position is the length of the text less the
length of that rest; line and column are counted once, for the fault that is reported.

The value, item and member readers call each other with a bound on their number.  A value reads at
least one character before it asks for items or members, and these ask for one value before they
read on, so twice the length of the text is enough.  The bounds of `Limits` belong to the rules:
what is nested more deeply or has more digits is not read.
-/

namespace ApiCompiler
namespace Json

/-- How much is read: the depth to which arrays and objects are nested at most, and the digits that
an integer has at most. -/
structure Limits where
  depth : Nat
  digits : Nat

/-- The limits of texts that are read from files. -/
def Limits.standard : Limits := ⟨985, Breakdown.digitLimit⟩

/-- What is wrong with a JSON text. -/
inductive Reason where
  | value
  | key
  | colon
  | comma
  | extra
  | openText
  | control
  | escape
  | unitEscape
  | byteOrderMark
  | breakdown (why : Breakdown)
  deriving DecidableEq

/-- The wording of a reason. -/
def Reason.message : Reason → String
  | .value => "Expecting value"
  | .key => "Expecting property name enclosed in double quotes"
  | .colon => "Expecting ':' delimiter"
  | .comma => "Expecting ',' delimiter"
  | .extra => "Extra data"
  | .openText => "Unterminated string starting at"
  | .control => "Invalid control character at"
  | .escape => "Invalid \\escape"
  | .unitEscape => "Invalid \\uXXXX escape"
  | .byteOrderMark => "Unexpected UTF-8 BOM (decode using utf-8-sig)"
  | .breakdown why => why.message

/-- A fault: its reason and the characters from its place on. -/
structure Fault where
  reason : Reason
  rest : List Char

/-- The characters after leading blanks and line ends. -/
def skipBlank (cs : List Char) : List Char :=
  cs.dropWhile fun c => c = ' ' || c = '\t' || c = '\n' || c = '\r'

/-! ## Numbers -/

/-- Whether a character is an ASCII digit. -/
def isDigit (c : Char) : Bool := '0' ≤ c && c ≤ '9'

/-- The number that decimal digits spell. -/
def natOf (digits : List Char) : Nat := digits.foldl (fun n c => 10 * n + (c.toNat - 48)) 0

/-- The digits that stand here; after a zero there are no more. -/
def whole (cs : List Char) : List Char × List Char :=
  match cs with
  | '0' :: r => (['0'], r)
  | _ => (cs.takeWhile isDigit, cs.dropWhile isDigit)

/-- The digits after a point, if a point with digits stands here. -/
def fraction (cs : List Char) : List Char × List Char :=
  match cs with
  | '.' :: r =>
    if (r.takeWhile isDigit).isEmpty then ([], cs)
    else (r.takeWhile isDigit, r.dropWhile isDigit)
  | _ => ([], cs)

/-- The exponent, if one stands here. -/
def exponent? (cs : List Char) : Option (Int × List Char) :=
  match cs with
  | e :: r =>
    if e = 'e' || e = 'E' then
      let (negative, r) := match r with
        | '-' :: r => (true, r)
        | '+' :: r => (false, r)
        | r => (false, r)
      if (r.takeWhile isDigit).isEmpty then none
      else
        let n := Int.ofNat (natOf (r.takeWhile isDigit))
        some (if negative then -n else n, r.dropWhile isDigit)
    else none
  | [] => none

/-- A number without its sign: an integer of at most `digits` digits unless a fraction or an
exponent follows.  `start` are the characters from the sign on. -/
def magnitude (digits : Nat) (start : List Char) (negative : Bool) (cs : List Char) :
    Except Fault (Json × List Char) :=
  let whole := whole cs
  if whole.1.isEmpty then .error ⟨.value, start⟩
  else
    let frac := fraction whole.2
    match exponent? frac.2 with
    | some (e, rest) =>
      .ok (.float (.ofDecimal negative (natOf (whole.1 ++ frac.1)) (e - Int.ofNat frac.1.length)),
        rest)
    | none =>
      if frac.1.isEmpty then
        if whole.1.length ≤ digits then
          let n := Int.ofNat (natOf whole.1)
          .ok (.int (if negative then -n else n), frac.2)
        else .error ⟨.breakdown (.tooManyDigits whole.1.length), start⟩
      else
        .ok (.float (.ofDecimal negative (natOf (whole.1 ++ frac.1)) (-Int.ofNat frac.1.length)),
          frac.2)

/-- A number. -/
def readNumber (digits : Nat) (cs : List Char) : Except Fault (Json × List Char) :=
  match cs with
  | '-' :: r => magnitude digits cs true r
  | cs => magnitude digits cs false cs

/-! ## Texts -/

/-- The sixteen bits that four hexadecimal digits spell. -/
def codeUnit? : List Char → Option (Nat × List Char)
  | a :: b :: c :: d :: rest =>
    match CodePoints.hexValue? a, CodePoints.hexValue? b, CodePoints.hexValue? c,
        CodePoints.hexValue? d with
    | some a, some b, some c, some d => some (a * 4096 + b * 256 + c * 16 + d, rest)
    | _, _, _, _ => none
  | _ => none

/-- The character of an escape of one letter. -/
def letterEscape? : Char → Option Char
  | '"' => some '"'
  | '\\' => some '\\'
  | '/' => some '/'
  | 'b' => some '\x08'
  | 'f' => some '\x0c'
  | 'n' => some '\n'
  | 'r' => some '\r'
  | 't' => some '\t'
  | _ => none

/-- The character of an escape by code units, the characters after `\u` given.  Two units that
form a pair are one character; a unit of a pair that stands alone reads as U+FFFD. -/
def unitEscape? (cs : List Char) : Except Fault (Char × List Char) :=
  let here : Fault := ⟨.unitEscape, 'u' :: cs⟩
  match codeUnit? cs with
  | none => .error here
  | some (_, []) => .error here
  | some (unit, rest) =>
    if 0xD800 ≤ unit && unit < 0xDC00 then
      match rest with
      | '\\' :: 'u' :: more =>
        if more.length < 5 then .ok ('\uFFFD', rest)
        else match codeUnit? more with
          | none => .error ⟨.unitEscape, 'u' :: more⟩
          | some (low, after) =>
            if 0xDC00 ≤ low && low < 0xE000 then
              .ok (Char.ofNat (0x10000 + (unit - 0xD800) * 0x400 + (low - 0xDC00)), after)
            else .ok ('\uFFFD', rest)
      | _ => .ok ('\uFFFD', rest)
    else if 0xDC00 ≤ unit && unit < 0xE000 then .ok ('\uFFFD', rest)
    else .ok (Char.ofNat unit, rest)

/-- The characters of a text up to its closing quote; `start` are the characters from its opening
quote on. -/
def textFrom (start : List Char) : Nat → List Char → Except Fault (List Char × List Char)
  | 0, _ => .error ⟨.openText, start⟩
  | fuel + 1, cs =>
    match cs with
    | [] => .error ⟨.openText, start⟩
    | '"' :: rest => .ok ([], rest)
    | '\\' :: rest =>
      match rest with
      | [] => .error ⟨.openText, start⟩
      | 'u' :: units => do
        let (c, rest) ← unitEscape? units
        let (more, rest) ← textFrom start fuel rest
        pure (c :: more, rest)
      | e :: rest =>
        match letterEscape? e with
        | none => .error ⟨.escape, cs⟩
        | some c => do
          let (more, rest) ← textFrom start fuel rest
          pure (c :: more, rest)
    | c :: rest =>
      if c.toNat < 0x20 then .error ⟨.control, cs⟩
      else do
        let (more, rest) ← textFrom start fuel rest
        pure (c :: more, rest)

/-- A text, the opening quote included. -/
def readText (cs : List Char) : Except Fault (String × List Char) := do
  let (content, rest) ← textFrom cs cs.length (cs.drop 1)
  pure (String.ofList content, rest)

/-! ## Values -/

/-- A value that is neither a text, an array nor an object. -/
def readScalar (digits : Nat) (cs : List Char) : Except Fault (Json × List Char) :=
  match cs with
  | 'n' :: 'u' :: 'l' :: 'l' :: rest => .ok (.null, rest)
  | 't' :: 'r' :: 'u' :: 'e' :: rest => .ok (.bool true, rest)
  | 'f' :: 'a' :: 'l' :: 's' :: 'e' :: rest => .ok (.bool false, rest)
  | _ => readNumber digits cs

/-- The fault of what is nested too deeply. -/
def tooDeep (kind : String) (cs : List Char) : Fault :=
  ⟨.breakdown (.tooDeep (" while decoding a JSON " ++ kind ++ " from a unicode string")), cs⟩

mutual

/-- A value; `room` levels may still be opened. -/
def readValue (digits room : Nat) : Nat → List Char → Except Fault (Json × List Char)
  | 0, cs => .error ⟨.value, cs⟩
  | fuel + 1, cs =>
    match cs with
    | '"' :: _ => do
      let (s, rest) ← readText cs
      pure (.str s, rest)
    | '[' :: rest =>
      if room = 0 then .error (tooDeep "array" cs)
      else match skipBlank rest with
        | ']' :: rest => .ok (.arr [], rest)
        | rest => do
          let (items, rest) ← readItems digits (room - 1) fuel rest
          pure (.arr items, rest)
    | '\x7b' :: rest =>
      if room = 0 then .error (tooDeep "object" cs)
      else match skipBlank rest with
        | '\x7d' :: rest => .ok (.obj [], rest)
        | rest => do
          let (members, rest) ← readMembers digits (room - 1) fuel rest
          pure (.obj (lastWins members), rest)
    | _ => readScalar digits cs

/-- The items of an array up to its closing bracket. -/
def readItems (digits room : Nat) : Nat → List Char → Except Fault (List Json × List Char)
  | 0, cs => .error ⟨.value, cs⟩
  | fuel + 1, cs => do
    let (item, rest) ← readValue digits room fuel cs
    match skipBlank rest with
    | ']' :: rest => pure ([item], rest)
    | ',' :: rest => do
      let (items, rest) ← readItems digits room fuel (skipBlank rest)
      pure (item :: items, rest)
    | rest => .error ⟨.comma, rest⟩

/-- The members of an object up to its closing brace. -/
def readMembers (digits room : Nat) :
    Nat → List Char → Except Fault (List (String × Json) × List Char)
  | 0, cs => .error ⟨.key, cs⟩
  | fuel + 1, cs =>
    match cs with
    | '"' :: _ => do
      let (key, rest) ← readText cs
      match skipBlank rest with
      | ':' :: rest => do
        let (value, rest) ← readValue digits room fuel (skipBlank rest)
        match skipBlank rest with
        | '\x7d' :: rest => pure ([(key, value)], rest)
        | ',' :: rest => do
          let (members, rest) ← readMembers digits room fuel (skipBlank rest)
          pure ((key, value) :: members, rest)
        | rest => .error ⟨.comma, rest⟩
      | rest => .error ⟨.colon, rest⟩
    | _ => .error ⟨.key, cs⟩

end

/-- Reads a whole text as one value, within limits. -/
def readWithin (limits : Limits) (cs : List Char) : Except Fault Json :=
  match cs with
  | '\uFEFF' :: _ => .error ⟨.byteOrderMark, cs⟩
  | _ => do
    let (value, rest) ← readValue limits.digits limits.depth (2 * cs.length + 1) (skipBlank cs)
    match skipBlank rest with
    | [] => pure value
    | rest => .error ⟨.extra, rest⟩

/-- Reads a whole text as one value. -/
def readAll (cs : List Char) : Except Fault Json := readWithin .standard cs

/-! ## Positions -/

/-- The message of a fault in a text: the reason, the line, the column and the offset.  A breakdown
has no place. -/
def Fault.message (text : List Char) (fault : Fault) : String :=
  match fault.reason with
  | .breakdown why => why.message
  | reason =>
    let offset := text.length - fault.rest.length
    let before := text.take offset
    let line := before.count '\n' + 1
    let column := (before.reverse.takeWhile (· ≠ '\n')).length + 1
    s!"{reason.message}: line {line} column {column} (char {offset})"

/-- Reads a text as one value, or says what is wrong with it. -/
def ofString (s : String) : Except String Json :=
  match readAll s.toList with
  | .ok v => .ok v
  | .error fault => .error (fault.message s.toList)

end Json
end ApiCompiler
