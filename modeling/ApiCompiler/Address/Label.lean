import ApiCompiler.Address.LabelCharacters
import ApiCompiler.Address.Punycode
import ApiCompiler.Text.Composed
import ApiCompiler.Text.Quoted

/-!
# Labels

The parts between the points of a host name are labels.  A label with other characters than ASCII
ones is sent in Punycode behind `xn--`; `toAscii` writes it so and `ofAscii` reads it back.  Both
check the characters of the label.  Characters are given by their code points, since Punycode can
spell numbers that no character has.
-/

namespace ApiCompiler
namespace Address

/-- Why a label, or a name made of labels, is refused. -/
inductive LabelFault where
  | tooLong
  | nameTooLong
  | emptyName
  | empty
  | notComposed
  | hyphens
  | edgeHyphen
  | leadingMark
  | joiner (code position : Nat) (label : String)
  | context (code position : Nat) (label : String)
  | character (code position : Nat) (label : String)
  | unknownDirection (position : Nat) (label : String)
  | firstDirection (label : String)
  | direction (position : Nat) (rightToLeft : Bool)
  | mixedNumbers
  | lastDirection
  | noPunycode
  | lastHyphen
  | punycode

namespace LabelFault

/-- A code point as messages name it. -/
def shownCode (n : Nat) : String :=
  let digits := (Nat.toDigits 16 n).map Char.toUpper
  "U+" ++ String.ofList (List.replicate (4 - digits.length) '0' ++ digits)

/-- The wording of a fault. -/
def message : LabelFault → String
  | .tooLong => "Label too long"
  | .nameTooLong => "Domain too long"
  | .emptyName => "Empty domain"
  | .empty => "Empty Label"
  | .notComposed => "Label must be in Normalization Form C"
  | .hyphens => "Label has disallowed hyphens in 3rd and 4th position"
  | .edgeHyphen => "Label must not start or end with a hyphen"
  | .leadingMark => "Label begins with an illegal combining character"
  | .joiner code position label =>
    s!"Unknown codepoint adjacent to joiner {shownCode code} at position {position} in " ++
      Text.quoted label
  | .context code position label =>
    s!"Codepoint {shownCode code} not allowed at position {position} in " ++ Text.quoted label
  | .character code position label =>
    s!"Codepoint {shownCode code} at position {position} of " ++ Text.quoted label ++
      " not allowed"
  | .unknownDirection position label =>
    "Unknown directionality in label " ++ Text.quoted label ++ s!" at position {position}"
  | .firstDirection label =>
    "First codepoint in label " ++ Text.quoted label ++ " must be directionality L, R or AL"
  | .direction position true =>
    s!"Invalid direction for codepoint at position {position} in a right-to-left label"
  | .direction position false =>
    s!"Invalid direction for codepoint at position {position} in a left-to-right label"
  | .mixedNumbers => "Can not mix numeral types in a right-to-left label"
  | .lastDirection => "Label ends with illegal codepoint directionality"
  | .noPunycode => "Malformed A-label, no Punycode eligible content found"
  | .lastHyphen => "A-label must not end with a hyphen"
  | .punycode => "Invalid A-label"

end LabelFault

namespace Label

/-- The text of a label. -/
def textOf (label : List Nat) : String := String.ofList (label.map Char.ofNat)

/-- Refuses with a fault unless a condition holds. -/
def require (holds : Bool) (fault : LabelFault) : Except LabelFault Unit :=
  if holds then .ok () else .error fault

/-! ## Directions -/

/-- How a character of a label is directed. -/
inductive Direction where
  | left
  | right
  | arabic
  | arabicNumber
  | number
  | mark
  | neutral
  | unknown
  deriving DecidableEq

/-- The direction of a character that a label may hold. -/
def directionOf (n : Nat) : Direction :=
  if CodePoints.holds rightward n then .right
  else if CodePoints.holds arabic n then .arabic
  else if CodePoints.holds arabicNumbers n then .arabicNumber
  else if CodePoints.holds numbers n then .number
  else if CodePoints.holds weak n then .mark
  else if CodePoints.holds neutral n then .neutral
  else if CodePoints.holds undirected n then .unknown
  else .left

/-- The first place, counted from 1, at which a list has an item of a kind. -/
def position? {α : Type} (test : α → Bool) (xs : List α) : Option Nat :=
  (xs.findIdx? test).map (· + 1)

/-- Whether a direction makes a label one that is read from right to left. -/
def Direction.turns (d : Direction) : Bool := d = .right || d = .arabic || d = .arabicNumber

/-- The checks of a label whose first letter is written from right to left; the numbers are of one
kind up to the first character that is out of place. -/
def checkRightToLeft (number : Option Direction) (position : Nat) :
    List Direction → Except LabelFault Unit
  | [] => .ok ()
  | d :: rest =>
    if d = .left then .error (.direction position true)
    else if d = .number || d = .arabicNumber then
      match number with
      | none => checkRightToLeft (some d) (position + 1) rest
      | some first =>
        if first = d then checkRightToLeft number (position + 1) rest else .error .mixedNumbers
    else checkRightToLeft number (position + 1) rest

/-- The direction that decides at the end of a label. -/
def lastDirection (ds : List Direction) : Option Direction :=
  ds.reverse.find? (· ≠ .mark)

/-- Checks the directions of a label. -/
def checkDirections (label : List Nat) : Except LabelFault Unit := do
  let ds := label.map directionOf
  match position? (· = Direction.unknown) ds with
  | some i => .error (.unknownDirection i (textOf label))
  | none =>
    if !ds.any Direction.turns then .ok ()
    else
      match ds.head? with
      | some .left =>
        match position? Direction.turns ds with
        | some i => .error (.direction i false)
        | none => .ok ()
      | some d =>
        if d = .right || d = .arabic then do
          checkRightToLeft none 1 ds
          let last := (lastDirection ds).getD .mark
          require (last.turns || last = .number) .lastDirection
        else .error (.firstDirection (textOf label))
      | none => .ok ()

/-! ## Characters beside others -/

/-- Whether joining reaches a character of a kind past those it passes over. -/
def reaches (kind : List (Nat × Nat)) (cs : List Nat) : Bool :=
  match cs.dropWhile (CodePoints.holds joiningThrough) with
  | c :: _ => CodePoints.holds kind c
  | [] => false

/-- Whether a joiner may stand between what is before it, the nearest first, and what is after:
behind a mark of the class 9, and one of the two also between letters that join, if the character
before it is a known one. -/
def joinerFits (code : Nat) (before after : List Nat) : Bool :=
  before.head?.any (fun c => Composed.classOf c = 9) ||
  (code = 0x200C && before.head?.any (fun c => directionOf c ≠ .unknown) &&
    reaches joiningLeft before && reaches joiningRight after)

/-- Whether a character that needs others beside it has them. -/
def contextFits (code : Nat) (before after label : List Nat) : Bool :=
  match code with
  | 0xB7 => before.head? = some 0x6C && after.head? = some 0x6C
  | 0x375 => after.head?.any (CodePoints.holds greek)
  | 0x5F3 => before.head?.any (CodePoints.holds hebrew)
  | 0x5F4 => before.head?.any (CodePoints.holds hebrew)
  | 0x30FB => label.any fun c => c ≠ 0x30FB && CodePoints.holds kanaAndHan c
  | _ =>
    if 0x660 ≤ code && code ≤ 0x669 then !label.any fun c => 0x6F0 ≤ c && c ≤ 0x6F9
    else !label.any fun c => 0x660 ≤ c && c ≤ 0x669

/-- The characters that need others beside them. -/
def needsContext (code : Nat) : Bool :=
  [0xB7, 0x375, 0x5F3, 0x5F4, 0x30FB].contains code || (0x660 ≤ code && code ≤ 0x669) ||
    (0x6F0 ≤ code && code ≤ 0x6F9)

/-- Checks the characters of a label one by one; `before` are those in front, the nearest first. -/
def checkCharacters (label before : List Nat) : List Nat → Except LabelFault Unit
  | [] => .ok ()
  | c :: after => do
    let position := before.length + 1
    if CodePoints.holds validCharacters c then pure ()
    else if c = 0x200C || c = 0x200D then
      require (joinerFits c before after) (.joiner c position (textOf label))
    else if needsContext c then
      require (contextFits c before after label) (.context c position (textOf label))
    else .error (.character c position (textOf label))
    checkCharacters label (c :: before) after

/-! ## Whole labels -/

/-- Checks a label. -/
def check (label : List Nat) : Except LabelFault Unit := do
  require (!label.isEmpty) .empty
  require (label.length ≤ 254) .tooLong
  require (Composed.isComposed label) .notComposed
  require ((label.drop 2).take 2 ≠ [45, 45]) .hyphens
  require (label.head? != some 45 && label.getLast? != some 45) .edgeHyphen
  require (!label.head?.any (CodePoints.holds marks)) .leadingMark
  checkCharacters label [] label
  checkDirections label

/-- What stands before a label in Punycode. -/
def mark : List Char := "xn--".toList

/-- The label that ASCII characters stand for. -/
def ofAscii (cs : List Char) : Except LabelFault (List Nat) := do
  let cs := cs.map Char.toLower
  if mark.isPrefixOf cs then
    let code := cs.drop mark.length
    require (!code.isEmpty) .noPunycode
    require (code.getLast? != some '-') .lastHyphen
    match Punycode.decode? code with
    | none => .error .punycode
    | some label => do
      check label
      pure label
  else
    check (cs.map Char.toNat)
    pure (cs.map Char.toNat)

/-- A label as ASCII characters. -/
def toAscii (cs : List Char) : Except LabelFault (List Char) := do
  if cs.all fun c => c.toNat < 128 then
    let _ ← ofAscii cs
    require (cs.length ≤ 63) .tooLong
    pure cs
  else
    check (cs.map Char.toNat)
    let ascii := mark ++ Punycode.encode (cs.map Char.toNat)
    require (ascii.length ≤ 63) .tooLong
    pure ascii

/-! ## Names -/

/-- The labels of a name: what stands between the points of any script, and whether another point
ends the name. -/
def labels (name : List Char) : Except LabelFault (List (List Char) × Bool) := do
  require (name.length ≤ 254) .nameTooLong
  let points := ['\u3002', '\uFF0E', '\uFF61']
  let parts := CodePoints.cut '.' (name.map fun c => if points.contains c then '.' else c)
  require (parts ≠ [[]]) .emptyName
  if parts.getLast? = some [] then pure (parts.dropLast, true) else pure (parts, false)

/-- A name as ASCII characters. -/
def nameToAscii (name : List Char) : Except LabelFault (List Char) := do
  let (parts, ended) ← labels name
  let parts ← parts.mapM toAscii
  let ascii := ['.'].intercalate (if ended then parts ++ [[]] else parts)
  require (ascii.length ≤ if ended then 254 else 253) .nameTooLong
  pure ascii

/-- Checks a name whose first label is in Punycode. -/
def checkName (name : List Char) : Except LabelFault Unit := do
  let (parts, _) ← labels name
  parts.forM fun part => do
    let _ ← ofAscii part
    pure ()

end Label
end Address
end ApiCompiler
