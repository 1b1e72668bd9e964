import ApiCompiler.Toml.Dates
import ApiCompiler.Toml.Table

/-!
# Reading TOML

A text is a list of lines: declarations of tables, assignments and comments.  A declaration starts
a section, and the assignments after it belong to its table.

Values are texts, booleans, numbers, dates, lists and tables written in place.  Every reader takes
the front of the text and gives what follows it, or says why the text is not read.
-/

namespace ApiCompiler
namespace Toml
namespace Read

/-! ## Blanks -/

/-- The characters after blanks. -/
def skipBlank (cs : List Char) : List Char := cs.dropWhile fun c => c = ' ' || c = '\t'

/-- Whether a character may not be written as it is. -/
def isControl (c : Char) : Bool := (c.toNat < 0x20 && c ≠ '\t') || c.toNat = 0x7F

/-- The characters after a comment, if one stands here. -/
def skipComment (cs : List Char) : Option (List Char) :=
  match cs with
  | '#' :: cs =>
    if (cs.takeWhile (· ≠ '\n')).any isControl then none else some (cs.dropWhile (· ≠ '\n'))
  | cs => some cs

/-- The characters after blanks, comments and line ends. -/
def skipLines : Nat → List Char → Option (List Char)
  | 0, _ => none
  | bound + 1, cs =>
    match skipBlank cs with
    | '\n' :: rest => skipLines bound rest
    | '#' :: rest => (skipComment ('#' :: rest)).bind (skipLines bound)
    | rest => some rest

/-! ## Texts -/

/-- The character that a letter stands for after a backslash. -/
def escape? : Char → Option Char
  | 'b' => some '\x08'
  | 't' => some '\t'
  | 'n' => some '\n'
  | 'f' => some '\x0c'
  | 'r' => some '\r'
  | '"' => some '"'
  | '\\' => some '\\'
  | _ => none

/-- The character whose code the next digits spell. -/
def code? (count : Nat) (cs : List Char) : Option (Char × List Char) :=
  let digits := cs.take count
  let n := CodePoints.hexNumber digits
  if digits.length = count && digits.all (fun c => (CodePoints.hexValue? c).isSome) &&
      n.isValidChar then
    some (Char.ofNat n, cs.drop count)
  else none

/-- An escape, the backslash taken. -/
def escaped? (cs : List Char) : Option (Char × List Char) :=
  match cs with
  | 'u' :: cs => code? 4 cs
  | 'U' :: cs => code? 8 cs
  | c :: cs => (escape? c).map (·, cs)
  | [] => none

/-- The rest of a text between double quotes on one line. -/
def basic : Nat → List Char → Option (List Char × List Char)
  | 0, _ => none
  | bound + 1, cs =>
    match cs with
    | [] => none
    | '"' :: rest => some ([], rest)
    | '\\' :: rest => do
      let (c, rest) ← escaped? rest
      let (more, rest) ← basic bound rest
      pure (c :: more, rest)
    | c :: rest =>
      if isControl c then none else (basic bound rest).map fun r => (c :: r.1, r.2)

/-- The rest of a text between single quotes on one line. -/
def literal (cs : List Char) : Option (List Char × List Char) :=
  let content := cs.takeWhile (· ≠ '\'')
  match cs.drop content.length with
  | [] => none
  | _ :: rest => if content.any isControl then none else some (content, rest)

/-- The characters after a line end at the start of a text of several lines. -/
def dropFirstBreak : List Char → List Char
  | '\n' :: cs => cs
  | cs => cs

/-- The end of a text of several lines: three quotes, with up to two more before them. -/
def closing? (quote : Char) (cs : List Char) : Option (List Char × List Char) :=
  let count := min 5 (cs.takeWhile (· = quote)).length
  if count < 3 then none else some (List.replicate (count - 3) quote, cs.drop count)

/-- The rest of a text of several lines. -/
def several (quote : Char) : Nat → List Char → Option (List Char × List Char)
  | 0, _ => none
  | bound + 1, cs =>
    match closing? quote cs with
    | some r => some r
    | none =>
      match cs with
      | [] => none
      | '\\' :: rest =>
        if quote = '\'' then (several quote bound rest).map fun r => ('\\' :: r.1, r.2)
        else
          match skipBlank rest with
          | '\n' :: after =>
            several quote bound (after.dropWhile fun c => c = ' ' || c = '\t' || c = '\n')
          | _ => do
            let (c, rest) ← escaped? rest
            let (more, rest) ← several quote bound rest
            pure (c :: more, rest)
      | c :: rest =>
        if isControl c && c ≠ '\n' then none
        else (several quote bound rest).map fun r => (c :: r.1, r.2)

/-- A text on one line, its quote included. -/
def oneLine? (cs : List Char) : Option (List Char × List Char) :=
  match cs with
  | '"' :: rest => basic (rest.length + 1) rest
  | '\'' :: rest => literal rest
  | _ => none

/-- A text, its quotes included. -/
def text? (cs : List Char) : Option (String × List Char) :=
  let content := match cs with
    | '"' :: '"' :: '"' :: rest => several '"' (rest.length + 1) (dropFirstBreak rest)
    | '\'' :: '\'' :: '\'' :: rest => several '\'' (rest.length + 1) (dropFirstBreak rest)
    | _ => oneLine? cs
  content.map fun r => (String.ofList r.1, r.2)

/-! ## Keys -/

/-- Whether a character may stand in a key without quotes. -/
def isBare (c : Char) : Bool := c.isAlphanum || c = '_' || c = '-'

/-- One part of a key. -/
def keyPart? (cs : List Char) : Option (String × List Char) :=
  match cs with
  | '"' :: _ => (oneLine? cs).map fun r => (String.ofList r.1, r.2)
  | '\'' :: _ => (oneLine? cs).map fun r => (String.ofList r.1, r.2)
  | _ =>
    let bare := cs.takeWhile isBare
    if bare.isEmpty then none else some (String.ofList bare, cs.drop bare.length)

/-- A key: its parts are joined by points. -/
def key? : Nat → List Char → Option (List String × List Char)
  | 0, _ => none
  | bound + 1, cs => do
    let (first, rest) ← keyPart? cs
    match skipBlank rest with
    | '.' :: rest => do
      let (more, rest) ← key? bound (skipBlank rest)
      pure (first :: more, rest)
    | rest => pure ([first], rest)

/-! ## Numbers -/

/-- Digits with single underscores between them: the digits, and what follows. -/
def digits (isDigit : Char → Bool) : List Char → List Char × List Char
  | [] => ([], [])
  | '_' :: c :: cs =>
    if isDigit c then
      let (more, rest) := digits isDigit cs
      (c :: more, rest)
    else ([], '_' :: c :: cs)
  | c :: cs =>
    if isDigit c then
      let (more, rest) := digits isDigit cs
      (c :: more, rest)
    else ([], c :: cs)

/-- Digits with a digit first. -/
def digits? (isDigit : Char → Bool) (cs : List Char) : Option (List Char × List Char) :=
  match cs with
  | c :: _ => if isDigit c then some (digits isDigit cs) else none
  | [] => none

/-- A whole number in a base other than ten. -/
def based? (base : Nat) (cs : List Char) : Option (Value × List Char) :=
  let isDigit (c : Char) : Bool := match CodePoints.hexValue? c with
    | some d => d < base
    | none => false
  (digits? isDigit cs).map fun r =>
    (.scalar (.int (Int.ofNat
      (r.1.foldl (fun n c => base * n + (CodePoints.hexValue? c).getD 0) 0))), r.2)

/-- The part of a number before a point or an exponent. -/
def whole? (cs : List Char) : Option (List Char × List Char) :=
  match cs with
  | '0' :: rest => some (['0'], rest)
  | _ => digits? Json.isDigit cs

/-- The digits after a point, if a point with digits stands here. -/
def fraction (cs : List Char) : List Char × List Char :=
  match cs with
  | '.' :: rest => (digits? Json.isDigit rest).getD ([], cs)
  | _ => ([], cs)

/-- The exponent, if one stands here. -/
def exponent? (cs : List Char) : Option (Int × List Char) :=
  match cs with
  | e :: rest =>
    if e = 'e' || e = 'E' then
      let (negative, rest) := match rest with
        | '-' :: rest => (true, rest)
        | '+' :: rest => (false, rest)
        | rest => (false, rest)
      (digits? Json.isDigit rest).map fun r =>
        let n := Int.ofNat (Json.natOf r.1)
        (if negative then -n else n, r.2)
    else none
  | [] => none

/-- What a reader gives: a value and what follows it. -/
abbrev Scan := Except ReadFault (Value × List Char)

/-- A number in base ten, its sign taken. -/
def decimal (negative : Bool) (cs : List Char) : Scan := do
  let (before, rest) ← ReadFault.orMalformed (whole? cs)
  let (after, rest) := fraction rest
  let float (exp : Int) : Value := .scalar (.float
    (.ofDecimal negative (Json.natOf (before ++ after)) (exp - Int.ofNat after.length)))
  match exponent? rest with
  | some (exp, rest) => pure (float exp, rest)
  | none =>
    if after.isEmpty then
      (Breakdown.checkDigits before.length).mapError .breakdown
      let n := Int.ofNat (Json.natOf before)
      pure (.scalar (.int (if negative then -n else n)), rest)
    else pure (float 0, rest)

/-- What is no number, and what is greater than all; both are read as the largest double. -/
def limitless? (negative : Bool) (cs : List Char) : Option (Value × List Char) :=
  let word := cs.take 3
  if word = "inf".toList || word = "nan".toList then
    some (.scalar (.float (.ofRank negative Double.rankCount)), cs.drop 3)
  else none

/-- A number whose sign is taken. -/
def signed (negative : Bool) (cs : List Char) : Scan :=
  match limitless? negative cs with
  | some r => .ok r
  | none => decimal negative cs

/-- A number. -/
def number (cs : List Char) : Scan :=
  let zero : Value × List Char := (.scalar (.int 0), cs.drop 1)
  match cs with
  | '0' :: 'x' :: rest => .ok ((based? 16 rest).getD zero)
  | '0' :: 'o' :: rest => .ok ((based? 8 rest).getD zero)
  | '0' :: 'b' :: rest => .ok ((based? 2 rest).getD zero)
  | '-' :: rest => signed true rest
  | '+' :: rest => signed false rest
  | _ => signed false cs

/-! ## Values -/

/-- A value that holds no others. -/
def scalar (cs : List Char) : Scan :=
  let quoted : Scan := (ReadFault.orMalformed (text? cs)).map fun r => (.scalar (.text r.1), r.2)
  match cs with
  | '"' :: _ => quoted
  | '\'' :: _ => quoted
  | 't' :: 'r' :: 'u' :: 'e' :: rest => .ok (.scalar (.bool true), rest)
  | 'f' :: 'a' :: 'l' :: 's' :: 'e' :: rest => .ok (.scalar (.bool false), rest)
  | _ =>
    match Dates.read? cs with
    | some r => r.map fun r => (.scalar r.1, r.2)
    | none => number cs

mutual

/-- A value. -/
def value : Nat → List Char → Scan
  | 0, _ => .error .malformed
  | bound + 1, cs =>
    match cs with
    | '[' :: rest => (items bound rest).map fun r => (.seq r.1, r.2)
    | '\x7b' :: rest =>
      match skipBlank rest with
      | '\x7d' :: rest => .ok (.map [], rest)
      | rest => (members bound [] rest).map fun r => (.map (entriesToValue r.1), r.2)
    | _ => scalar cs

/-- The items of a list up to its bracket. -/
def items : Nat → List Char → Except ReadFault (List Value × List Char)
  | 0, _ => .error .malformed
  | bound + 1, cs => do
    match ← ReadFault.orMalformed (skipLines (cs.length + 1) cs) with
    | ']' :: rest => pure ([], rest)
    | cs =>
      let (first, rest) ← value bound cs
      match ← ReadFault.orMalformed (skipLines (rest.length + 1) rest) with
      | ']' :: rest => pure ([first], rest)
      | ',' :: rest => do
        let (more, rest) ← items bound rest
        pure (first :: more, rest)
      | _ => .error .malformed

/-- The members of a table written in place, up to its brace. -/
def members : Nat → Entries → List Char → Except ReadFault (Entries × List Char)
  | 0, _, _ => .error .malformed
  | bound + 1, es, cs => do
    let (path, rest) ← ReadFault.orMalformed (key? (cs.length + 1) cs)
    match rest with
    | '=' :: rest => do
      let (content, rest) ← value bound (skipBlank rest)
      let es ← ReadFault.orMalformed (assign 0 content path es)
      match skipBlank rest with
      | '\x7d' :: rest => pure (es, rest)
      | ',' :: rest => members bound es (skipBlank rest)
      | _ => .error .malformed
    | _ => .error .malformed

end

/-! ## Lines -/

/-- What has been read: the tables, the path of the section, and its number. -/
structure Progress where
  root : Entries
  path : List String
  part : Nat

/-- Reads an assignment. -/
def assignment (p : Progress) (cs : List Char) : Except ReadFault (Progress × List Char) := do
  let (path, rest) ← ReadFault.orMalformed (key? (cs.length + 1) cs)
  match rest with
  | '=' :: rest => do
    let (content, rest) ← value (2 * rest.length + 2) (skipBlank rest)
    let root ← ReadFault.orMalformed (within (assign p.part content path) p.path p.root)
    pure ({ p with root }, rest)
  | _ => .error .malformed

/-- Reads a declaration, its first bracket taken. -/
def declaration? (p : Progress) (cs : List Char) : Option (Progress × List Char) := do
  let (isList, cs) := match cs with
    | '[' :: cs => (true, cs)
    | cs => (false, cs)
  let (path, rest) ← key? (cs.length + 1) (skipBlank cs)
  let last ← path.getLast?
  let root ← within (if isList then addTable last else declare last) path.dropLast p.root
  let p : Progress := ⟨root, path, p.part + 1⟩
  match isList, rest with
  | true, ']' :: ']' :: rest => pure (p, rest)
  | false, ']' :: rest => pure (p, rest)
  | _, _ => none

/-- Reads the lines of a text. -/
def lines : Nat → Progress → List Char → Except ReadFault Progress
  | 0, _, _ => .error .malformed
  | bound + 1, p, cs =>
    match skipBlank cs with
    | [] => .ok p
    | '\n' :: rest => lines bound p rest
    | '#' :: rest => (ReadFault.orMalformed (skipComment ('#' :: rest))).bind (lines bound p)
    | start => do
      let (p, rest) ← match start with
        | '[' :: rest => ReadFault.orMalformed (declaration? p rest)
        | _ => assignment p start
      match ← ReadFault.orMalformed (skipComment (skipBlank rest)) with
      | [] => pure p
      | '\n' :: rest => lines bound p rest
      | _ => .error .malformed

end Read

/-- Reads a text as a table. -/
def ofString (text : String) : Except ReadFault Value :=
  (Read.lines (text.length + 1) ⟨[], [], 0⟩ text.toList).map fun p => .map (entriesToValue p.root)

end Toml
end ApiCompiler
