import ApiCompiler.Json.Reader
import ApiCompiler.Text.Letters
import ApiCompiler.Text.Quoted
import ApiCompiler.Text.WholeNumber
import ApiCompiler.Yaml.Cursor
import ApiCompiler.Yaml.Dates

/-!
# Scalars

A tag says what a scalar is.  For a scalar without quotes and without a tag `Tag.ofPlain` finds it
from the text: words stand for null, true and false, and digits for numbers and dates.  Whole
numbers are written in base two, eight, ten or sixteen, or in base sixty with colons between the
digits; numbers with a point may have the last of these forms, too.  An exponent needs a point and
a sign.  Underscores between digits are passed over, and everything else is a text.

`scalarOf` gives what a scalar with a tag stands for.  A text that does not fit its tag is no
scalar.
-/

namespace ApiCompiler
namespace Yaml

/-- What a node is. -/
inductive Tag where
  | null
  | bool
  | int
  | float
  | date
  | text
  | bytes
  | seq
  | map
  | set
  | pairs
  /-- A key whose value is put into the mapping. -/
  | merge
  /-- A key that stands for a mapping as a whole. -/
  | whole
  | other
  deriving DecidableEq

/-- What stands in front of the names of the common tags. -/
def Tag.common : String := "tag:yaml.org,2002:"

/-- The names of the common tags. -/
def Tag.names : List (String × Tag) :=
  [("null", .null), ("bool", .bool), ("int", .int), ("float", .float), ("timestamp", .date),
    ("str", .text), ("binary", .bytes), ("seq", .seq), ("map", .map), ("set", .set),
    ("omap", .pairs), ("pairs", .pairs), ("merge", .merge), ("value", .whole)]

/-- The tag of a full name. -/
def Tag.ofName (name : String) : Tag :=
  match names.find? fun e => common ++ e.1 = name with
  | some e => e.2
  | none => .other

namespace Plain

/-! ## Words -/

/-- A word in the three spellings that are understood: small, capitalized and capital. -/
def spellings (word : String) : List String :=
  [word, word.capitalize, word.map Char.toUpper]

/-- Whether a text is one of some words. -/
def isAny (words : List String) (s : String) : Bool :=
  words.any fun word => (spellings word).contains s

/-- The words for true. -/
def yes : List String := ["yes", "true", "on"]

/-- The words for false. -/
def no : List String := ["no", "false", "off"]

/-! ## Forms of numbers -/

/-- The characters after a sign. -/
def unsigned (cs : List Char) : List Char :=
  match cs with
  | '-' :: cs => cs
  | '+' :: cs => cs
  | cs => cs

/-- The characters without underscores. -/
def dense (cs : List Char) : List Char := cs.filter (· ≠ '_')

/-- Whether a character is a digit below a base, or an underscore. -/
def isDigitOf (base : Nat) (c : Char) : Bool :=
  c = '_' || match CodePoints.hexValue? c with
    | some d => d < base
    | none => false

/-- Whether characters are decimal digits and underscores, a digit first. -/
def startsWithDigit (cs : List Char) : Bool :=
  match cs with
  | c :: rest => Json.isDigit c && rest.all (isDigitOf 10)
  | [] => false

/-- Whether a part after a colon is a digit of base sixty. -/
def isSixtieth (part : List Char) : Bool :=
  match part with
  | [c] => Json.isDigit c
  | [c, d] => '0' ≤ c && c ≤ '5' && Json.isDigit d
  | _ => false

/-- Whether characters are digits of base sixty joined by colons, two at least. -/
def isSixties (cs : List Char) : Bool :=
  match CodePoints.cut ':' cs with
  | first :: second :: more => startsWithDigit first && (second :: more).all isSixtieth
  | _ => false

/-- Whether characters are a whole number without its sign. -/
def isWhole (cs : List Char) : Bool :=
  match cs with
  | ['0'] => true
  | '0' :: 'b' :: rest => !rest.isEmpty && rest.all (isDigitOf 2)
  | '0' :: 'x' :: rest => !rest.isEmpty && rest.all (isDigitOf 16)
  | '0' :: rest => rest.all (isDigitOf 8)
  | _ => startsWithDigit cs || isSixties cs

/-- Whether characters are an exponent, or nothing. -/
def isExponent (cs : List Char) : Bool :=
  match cs with
  | [] => true
  | e :: s :: d :: ds =>
    (e = 'e' || e = 'E') && (s = '-' || s = '+') && (d :: ds).all Json.isDigit
  | _ => false

/-- Whether characters are a number with a point. -/
def isPointed (cs : List Char) : Bool :=
  let number := unsigned cs
  let before := number.takeWhile (· ≠ '.')
  match number.drop before.length with
  | '.' :: rest =>
    let after := rest.takeWhile (isDigitOf 10)
    let exponent := rest.drop after.length
    if before.isEmpty then number.length = cs.length && startsWithDigit after && isExponent exponent
    else (startsWithDigit before && isExponent exponent) || (isSixties before && exponent.isEmpty)
  | _ => false

end Plain

/-- The tag of a scalar without quotes. -/
def Tag.ofPlain (cs : List Char) : Tag :=
  let s := String.ofList cs
  if s.isEmpty || s = "~" || Plain.isAny ["null"] s then .null
  else if Plain.isAny (Plain.yes ++ Plain.no) s then .bool
  else if Plain.isWhole (Plain.unsigned cs) then .int
  else if Plain.isPointed cs then .float
  else if s = "<<" then .merge
  else if s = "=" then .whole
  else if Dates.isDate cs then .date
  else if s = "!" || s = "&" || s = "*" then .other
  else .text

namespace Plain

/-! ## What scalars stand for -/

/-- A sign, and the characters after it. -/
def sign (cs : List Char) : Bool × List Char := (cs.head? = some '-', unsigned cs)

/-- The number that digits spell in a base. -/
def inBase (base : Nat) (cs : List Char) : Except Breakdown Nat :=
  if !cs.isEmpty && cs.all fun c => c ≠ '_' && isDigitOf base c then
    .ok (cs.foldl (fun n c => base * n + (CodePoints.hexValue? c).getD 0) 0)
  else .error (.notWhole base (Text.quoted (String.ofList cs)))

/-- The number that decimal digits spell. -/
def decimal (cs : List Char) : Except Breakdown Int :=
  match Text.wholeNumber? cs with
  | some n => .ok n
  | none =>
    if cs.all Json.isDigit && !cs.isEmpty then .error (.tooManyDigits cs.length)
    else .error (.notWhole 10 (Text.quoted (String.ofList cs)))

/-- The whole number that a text spells. -/
def wholeOf (cs : List Char) : Except Breakdown Int := do
  let (negative, cs) := sign (dense cs)
  let n : Int ← match cs with
    | [] => .error .emptyNumber
    | ['0'] => .ok 0
    | '0' :: 'b' :: rest => (inBase 2 rest).map Int.ofNat
    | '0' :: 'x' :: rest => (inBase 16 rest).map Int.ofNat
    | '0' :: _ => (inBase 8 cs).map Int.ofNat
    | _ =>
      if cs.contains ':' then do
        let parts ← (CodePoints.cut ':' cs).mapM decimal
        pure (parts.foldl (fun n d => 60 * n + d) 0)
      else decimal cs
  pure (if negative then -n else n)

/-- The magnitude that decimal digits spell, with a point and an exponent if they are there. -/
def magnitude? (cs : List Char) : Option Double :=
  let whole := cs.takeWhile Json.isDigit
  let (fraction, rest) := match cs.drop whole.length with
    | '.' :: rest => (rest.takeWhile Json.isDigit, rest.dropWhile Json.isDigit)
    | rest => ([], rest)
  if whole.isEmpty && fraction.isEmpty then none
  else
    let exponent : Option Int := match rest with
      | [] => some 0
      | _ => (Json.exponent? rest).bind fun e => if e.2.isEmpty then some e.1 else none
    exponent.map fun e =>
      .ofDecimal false (Json.natOf (whole ++ fraction)) (e - Int.ofNat fraction.length)

/-- The number that a text spells. -/
def pointedOf (cs : List Char) : Except Breakdown Double := do
  let (negative, cs) := sign ((dense cs).map Char.toLower)
  let part (cs : List Char) : Except Breakdown Double :=
    match magnitude? (Text.strip cs) with
    | some x => .ok x
    | none => .error (.notNumber (Text.quoted (String.ofList cs)))
  let x ←
    if cs.isEmpty then .error .emptyNumber
    else if cs.contains ':' then do
      let parts ← (CodePoints.cut ':' cs).mapM part
      pure (parts.foldr (fun x acc => (acc.1.plus (x.times acc.2), 60 * acc.2))
        (Double.zero false, 1)).1
    else part cs
  pure { x with negative := negative }

/-- Whether a word stands for true or for false. -/
def truthOf (cs : List Char) : Except Breakdown Bool :=
  let word := String.ofList (Text.lower cs)
  if yes.contains word then .ok true
  else if no.contains word then .ok false
  else .error (.noTruth (Text.quoted word))

/-- The day or the moment that a text spells. -/
def dateOf (cs : List Char) : Except Breakdown Value.Scalar :=
  match Dates.written? cs with
  | some w => w.toScalar
  | none => .error .noDate

/-- The value of a digit of base 64. -/
def digit64? (c : Char) : Option Nat :=
  if 'A' ≤ c && c ≤ 'Z' then some (c.toNat - 65)
  else if 'a' ≤ c && c ≤ 'z' then some (c.toNat - 71)
  else if Json.isDigit c then some (c.toNat + 4)
  else if c = '+' then some 62
  else if c = '/' then some 63
  else none

/-- The bytes that digits of base 64 spell, four digits for three bytes. -/
def bytes64 : List Nat → List UInt8
  | a :: b :: c :: d :: rest =>
    let n := ((a * 64 + b) * 64 + c) * 64 + d
    UInt8.ofNat (n / 65536) :: UInt8.ofNat (n / 256) :: UInt8.ofNat n :: bytes64 rest
  | [a, b, c] =>
    let n := ((a * 64 + b) * 64 + c) * 64
    [UInt8.ofNat (n / 65536), UInt8.ofNat (n / 256)]
  | [a, b] => [UInt8.ofNat ((a * 64 + b) / 16)]
  | _ => []

/-- The digits of base 64 in a text; other characters are passed over.  They stand in groups of four,
of which signs of equality may fill the last one and end the text. -/
def digits64? (count pads : Nat) : List Char → Option (List Nat)
  | [] => if count = 0 then some [] else none
  | c :: rest =>
    if c = '=' then
      if 2 ≤ count && 4 ≤ count + pads + 1 then some []
      else digits64? count (if 2 ≤ count then pads + 1 else pads) rest
    else match digit64? c with
      | some d => (digits64? ((count + 1) % 4) 0 rest).map (d :: ·)
      | none => digits64? count pads rest

/-- The text whose bytes are spelled in base 64. -/
def bytesOf (cs : List Char) : Except ReadFault String :=
  if cs.any (127 < ·.toNat) then .error .malformed
  else
    match (digits64? 0 0 cs).bind fun ds => String.fromUTF8? (bytes64 ds).toByteArray with
    | some s => .ok s
    | none => .error .malformed

end Plain

/-- What a scalar with a tag stands for. -/
def scalarOf (tag : Tag) (cs : List Char) : Except ReadFault Value.Scalar :=
  match tag with
  | .null => .ok .null
  | .bool => ((Plain.truthOf cs).map .bool).mapError .breakdown
  | .int => ((Plain.wholeOf cs).map .int).mapError .breakdown
  | .float => ((Plain.pointedOf cs).map .float).mapError .breakdown
  | .date => (Plain.dateOf cs).mapError .breakdown
  | .text => .ok (.text (String.ofList cs))
  | .bytes => (Plain.bytesOf cs).map .text
  | _ => .error .malformed

end Yaml
end ApiCompiler
