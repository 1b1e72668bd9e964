import ApiCompiler.Text.Classes
import ApiCompiler.Text.CodePoints

/-!
# Literals

A tag may carry a value, which is written as a literal: a number, a text, a word for a constant, or
a tuple, list, set or mapping of literals.  Nothing is done with the value, but a tag whose value is
no literal cannot be shown, so it matters which texts are literals.

Keys of mappings and members of sets must not be, or hold, lists, sets or mappings.  Texts with
character names in escapes are taken to name existing characters.
-/

namespace ApiCompiler
namespace Literal

/-- What matters of a literal for what it may be a part of. -/
inductive Kind where
  /-- An unsigned number. -/
  | number (imaginary : Bool)
  /-- A number with a sign. -/
  | signed (imaginary : Bool)
  /-- A literal that may be a key. -/
  | key
  /-- A literal that may not be a key. -/
  | changeable
  deriving DecidableEq

/-- Whether a literal may be a key. -/
def Kind.isKey (k : Kind) : Bool := k ≠ .changeable

/-- A literal and what follows it. -/
abbrev Step := Option (Kind × List Char)

/-! ## Blanks and words -/

/-- What follows blanks and comments; line ends count as blanks between brackets. -/
def skip (bracketed : Bool) : Nat → List Char → List Char
  | 0, cs => cs
  | _, [] => []
  | bound + 1, c :: cs =>
    if c = ' ' || c = '\t' || c = '\x0c' || (bracketed && (c = '\n' || c = '\r')) then
      skip bracketed bound cs
    else if c = '#' then skip bracketed bound (cs.dropWhile fun c => c ≠ '\n')
    else if c = '\\' && cs.head? = some '\n' then skip bracketed bound cs.tail
    else c :: cs

/-- What follows blanks. -/
def after (bracketed : Bool) (cs : List Char) : List Char := skip bracketed (cs.length + 1) cs

/-- Whether a character may stand in a name. -/
def isNameChar (c : Char) : Bool := Text.isWord c

/-! ## Numbers -/

/-- The digits of a base, which single underscores may part, and what follows them. -/
def digits (isDigit : Char → Bool) : List Char → List Char × List Char
  | [] => ([], [])
  | c :: cs =>
    if isDigit c then
      let r := digits isDigit cs
      (c :: r.1, r.2)
    else if c = '_' && (cs.head?.map isDigit).getD false then digits isDigit cs
    else ([], c :: cs)

/-- Whether a character is a decimal digit. -/
def isDecimal (c : Char) : Bool := '0' ≤ c && c ≤ '9'

/-- The digits with which a number may start, which no underscore precedes. -/
def leadingDigits (isDigit : Char → Bool) (cs : List Char) : List Char × List Char :=
  if (cs.head?.map isDigit).getD false then digits isDigit cs else ([], cs)

/-- What follows an exponent, if there is one. -/
def afterExponent (cs : List Char) : List Char :=
  match cs with
  | e :: rest =>
    if e = 'e' || e = 'E' then
      let unsigned := match rest with
        | '+' :: rest => rest
        | '-' :: rest => rest
        | rest => rest
      let (ds, rest) := leadingDigits isDecimal unsigned
      if ds.isEmpty then cs else rest
    else cs
  | [] => []

/-- A number and what follows it. -/
def number? (cs : List Char) : Step :=
  let based (isDigit : Char → Bool) (cs : List Char) : Step :=
    let (ds, rest) := leadingDigits isDigit (if cs.head? = some '_' then cs.tail else cs)
    if ds.isEmpty || (rest.head?.map isNameChar).getD false then none
    else some (.number false, rest)
  match cs with
  | '0' :: x :: rest =>
    if x = 'x' || x = 'X' then based (fun c => (CodePoints.hexValue? c).isSome) rest
    else if x = 'o' || x = 'O' then based (fun c => '0' ≤ c && c ≤ '7') rest
    else if x = 'b' || x = 'B' then based (fun c => c = '0' || c = '1') rest
    else decimal cs
  | cs => decimal cs
where
  /-- A decimal number and what follows it. -/
  decimal (cs : List Char) : Step :=
    let (front, rest) := leadingDigits isDecimal cs
    let (back, rest', pointed) := match rest with
      | '.' :: rest =>
        let r := leadingDigits isDecimal rest
        (r.1, r.2, true)
      | rest => ([], rest, false)
    if front.isEmpty && back.isEmpty then none
    else
      let last := afterExponent rest'
      let whole := !pointed && last.length = rest'.length
      match last with
      | c :: more =>
        if c = 'j' || c = 'J' then
          if (more.head?.map isNameChar).getD false then none else some (.number true, more)
        else if isNameChar c then none
        else finish front whole last
      | [] => finish front whole []
  /-- The number, if its digits are allowed. -/
  finish (front : List Char) (whole : Bool) (rest : List Char) : Step :=
    if whole && ((front.head? = some '0' && front.any (· ≠ '0')) || 4300 < front.length) then none
    else some (.number false, rest)

/-! ## Texts -/

/-- How a text is written: whether backslashes are escapes, and whether it is one of bytes. -/
structure Spelling where
  escapes : Bool
  bytes : Bool
  deriving DecidableEq

/-- What follows an escape, the backslash taken. -/
def afterEscape (bytes : Bool) (cs : List Char) : Option (List Char) :=
  let coded (count : Nat) (cs : List Char) : Option (List Char) :=
    let ds := cs.take count
    if ds.length = count && (ds.all fun c => (CodePoints.hexValue? c).isSome) &&
      CodePoints.hexNumber ds < 0x110000 then some (cs.drop count) else none
  match cs with
  | 'x' :: cs => coded 2 cs
  | 'u' :: cs => if bytes then some cs else coded 4 cs
  | 'U' :: cs => if bytes then some cs else coded 8 cs
  | 'N' :: cs =>
    if bytes then some cs
    else
      match cs with
      | '\x7b' :: cs =>
        let name := cs.takeWhile (· ≠ '\x7d')
        if name.isEmpty || name.length = cs.length then none else some (cs.drop (name.length + 1))
      | _ => none
  | _ :: cs => some cs
  | [] => none

/-- What follows the rest of a text that the given quotes end. -/
def afterText (s : Spelling) (ending : List Char) : Nat → List Char → Option (List Char)
  | 0, _ => none
  | bound + 1, cs =>
    match cs with
    | [] => none
    | c :: rest =>
      if ending.isPrefixOf cs then some (cs.drop ending.length)
      else if c = '\n' && ending.length = 1 then none
      else if s.bytes && 0x80 ≤ c.toNat then none
      else if c = '\\' then
        if s.escapes then (afterEscape s.bytes rest).bind (afterText s ending bound)
        else
          match rest with
          | [] => none
          | _ :: rest => afterText s ending bound rest
      else afterText s ending bound rest

/-- The prefixes of texts. -/
def spellings : List (String × Spelling) :=
  [("", ⟨true, false⟩), ("u", ⟨true, false⟩), ("r", ⟨false, false⟩), ("b", ⟨true, true⟩),
    ("br", ⟨false, true⟩), ("rb", ⟨false, true⟩)]

/-- A text, and what follows it. -/
def text? (cs : List Char) : Option (Spelling × List Char) :=
  let front := cs.takeWhile Char.isAlpha
  match spellings.find? fun s => s.1 = String.ofList (front.map Char.toLower) with
  | none => none
  | some (_, s) =>
    let rest := cs.drop front.length
    match rest with
    | q :: _ =>
      if q = '"' || q = '\'' then
        let ending := if [q, q, q].isPrefixOf rest then [q, q, q] else [q]
        (afterText s ending (rest.length + 1) (rest.drop ending.length)).map (s, ·)
      else none
    | [] => none

/-- What follows the texts that continue a text. -/
def moreTexts (bracketed bytes : Bool) : Nat → List Char → Option (List Char)
  | 0, _ => none
  | bound + 1, cs =>
    match text? (after bracketed cs) with
    | none => some cs
    | some (s, rest) => if s.bytes = bytes then moreTexts bracketed bytes bound rest else none

/-! ## Literals -/

/-- The words for constants. -/
def constants : List String := ["None", "True", "False"]

mutual

/-- A literal without a sign, and what follows it. -/
def atom (bracketed : Bool) : Nat → List Char → Step
  | 0, _ => none
  | bound + 1, cs =>
    match cs with
    | [] => none
    | '(' :: rest =>
      match after true rest with
      | ')' :: rest => some (.key, rest)
      | inner => (members bound ')' inner).map fun r =>
        (match r.1 with
          | ([k], false) => k
          | (ks, _) => if ks.all Kind.isKey then .key else .changeable, r.2)
    | '[' :: rest =>
      match after true rest with
      | ']' :: rest => some (.changeable, rest)
      | inner => (members bound ']' inner).map fun r => (.changeable, r.2)
    | '\x7b' :: rest =>
      match after true rest with
      | '\x7d' :: rest => some (.changeable, rest)
      | inner =>
        match sum true bound inner with
        | none => none
        | some (k, rest) =>
          match after true rest with
          | ':' :: _ => (entries bound inner).map (.changeable, ·)
          | _ => if k.isKey then
              (members bound '\x7d' inner).bind fun r =>
                if r.1.1.all Kind.isKey then some (.changeable, r.2) else none
            else none
    | c :: _ =>
      if isDecimal c || (c = '.' && ((cs.tail.head?).map isDecimal).getD false) then number? cs
      else if "...".toList.isPrefixOf cs then some (.key, cs.drop 3)
      else
        match text? cs with
        | some (s, rest) => (moreTexts bracketed s.bytes (rest.length + 1) rest).map (.key, ·)
        | none =>
          let word := cs.takeWhile isNameChar
          let rest := cs.drop word.length
          if constants.contains (String.ofList word) then some (.key, rest)
          else if word = "set".toList then
            match after bracketed rest with
            | '(' :: inner =>
              match after true inner with
              | ')' :: rest => some (.changeable, rest)
              | _ => none
            | _ => none
          else none

/-- A literal that may have a sign. -/
def signed (bracketed : Bool) : Nat → List Char → Step
  | 0, _ => none
  | bound + 1, cs =>
    match cs with
    | c :: rest =>
      if c = '+' || c = '-' then
        match atom bracketed bound (after bracketed rest) with
        | some (.number i, rest) => some (.signed i, rest)
        | _ => none
      else atom bracketed bound cs
    | [] => none

/-- A literal, or the sum of a real and an imaginary number. -/
def sum (bracketed : Bool) : Nat → List Char → Step
  | 0, _ => none
  | bound + 1, cs =>
    match signed bracketed bound cs with
    | none => none
    | some (k, rest) =>
      match after bracketed rest with
      | c :: more =>
        if c = '+' || c = '-' then
          match k, atom bracketed bound (after bracketed more) with
          | .number false, some (.number true, rest) => some (.key, rest)
          | .signed false, some (.number true, rest) => some (.key, rest)
          | _, _ => none
        else some (k, rest)
      | [] => some (k, rest)

/-- Literals that commas part, up to the closing bracket; and whether there is a comma. -/
def members : Nat → Char → List Char → Option ((List Kind × Bool) × List Char)
  | 0, _, _ => none
  | bound + 1, closing, cs =>
    match sum true bound cs with
    | none => none
    | some (k, rest) =>
      match after true rest with
      | c :: more =>
        if c = closing then some (([k], false), more)
        else if c = ',' then
          match after true more with
          | d :: last =>
            if d = closing then some (([k], true), last)
            else (members bound closing (d :: last)).map fun r => ((k :: r.1.1, true), r.2)
          | [] => none
        else none
      | [] => none

/-- What follows the entries of a mapping. -/
def entries : Nat → List Char → Option (List Char)
  | 0, _ => none
  | bound + 1, cs =>
    match sum true bound cs with
    | none => none
    | some (k, rest) =>
      match k.isKey, after true rest with
      | true, ':' :: more =>
        match sum true bound (after true more) with
        | none => none
        | some (_, rest) =>
          match after true rest with
          | '\x7d' :: rest => some rest
          | ',' :: more =>
            match after true more with
            | '\x7d' :: rest => some rest
            | more => entries bound more
          | _ => none
      | _, _ => none

end

/-- Whether nothing follows but blanks and line ends. -/
def isOver (cs : List Char) : Bool :=
  (after false cs).all fun c => c = '\n' || c = ' ' || c = '\t'

/-- Whether a literal may end before a text: nothing follows it but commas and further
literals. -/
def endsTuple : Nat → List Char → Bool
  | 0, _ => false
  | bound + 1, cs =>
    isOver cs ||
      match after false cs with
      | ',' :: rest =>
        isOver rest ||
          match sum false bound (after false rest) with
          | some (_, rest) => endsTuple bound rest
          | none => false
      | _ => false

/-- Whether a text is a literal. -/
def isLiteral (cs : List Char) : Bool :=
  let bound := 4 * cs.length + 8
  !cs.contains '\x00' &&
    match sum false bound (cs.dropWhile fun c => c = ' ' || c = '\t') with
    | some (_, rest) => endsTuple bound rest
    | none => false

end Literal
end ApiCompiler
