import ApiCompiler.Yaml.Marks
import ApiCompiler.Yaml.Texts

/-!
# Cutting a text into tokens

Outside brackets the columns say where collections of lines start and end.  The scanner keeps the
columns of the collections that are open; a token further to the left ends some of them, and a
hyphen or a key further to the right starts one.

That something is a key shows only at the colon behind it.  Where a key may start the scanner
remembers its place, one for each open bracket and one outside, and puts the token of the key there
when the colon comes.  A key has to end on its line, and after 1024 characters at most.
-/

namespace ApiCompiler
namespace Yaml

/-- A place where a key may have started: the number of tokens before it, and where it is.  At the
column of an open mapping a key has to follow. -/
structure KeyPlace where
  before : Nat
  cursor : Cursor
  required : Bool

/-- The state of cutting a text. -/
structure Scanner where
  cursor : Cursor
  /-- The tokens so far, the last one first. -/
  done : List Token
  /-- The column of the innermost collection of lines, if one is open, then those around it. -/
  columns : List Nat
  /-- Where a key may have started: in each open bracket, the innermost first, and outside. -/
  keys : List (Option KeyPlace)
  /-- Whether a key may start here. -/
  keyMayStart : Bool

namespace Scanner

/-- The start of a text. -/
def start (cs : List Char) : Scanner := ⟨.start cs, [], [], [none], true⟩

/-- Whether the scanner is between brackets. -/
def inFlow (s : Scanner) : Bool := s.keys.length > 1

/-- The cursor set to another place. -/
def moved (s : Scanner) (c : Cursor) : Scanner := { s with cursor := c }

/-- The tokens with one more. -/
def push (t : Token) (s : Scanner) : Scanner := { s with done := t :: s.done }

/-- The least column of the lines that belong to the innermost collection. -/
def least (s : Scanner) : Nat :=
  match s.columns with
  | n :: _ => n + 1
  | [] => 0

/-- Whether a key has to follow at the given column. -/
def keyRequired (s : Scanner) (column : Nat) : Bool :=
  !s.inFlow && s.columns.head? = some column

/-- Ends the collections that start to the right of a column. -/
def endTo (column : Nat) (s : Scanner) : Scanner :=
  let ended := s.columns.takeWhile (column < ·)
  if s.inFlow then s
  else
    { s with
      columns := s.columns.drop ended.length
      done := List.replicate ended.length .blockEnd ++ s.done }

/-- Ends all collections. -/
def endAll (s : Scanner) : Scanner :=
  if s.inFlow then s
  else { s with columns := [], done := List.replicate s.columns.length .blockEnd ++ s.done }

/-- The most characters that a key takes. -/
def keyLimit : Nat := 1024

/-- Whether a place is too far away for a key that started there. -/
def isStale (k : KeyPlace) (c : Cursor) : Bool :=
  k.cursor.line ≠ c.line || k.cursor.index + keyLimit < c.index

/-- Forgets a place where a key may have started. -/
def forget (k : Option KeyPlace) : Except ReadFault (Option KeyPlace) :=
  match k with
  | some k => if k.required then .error .malformed else .ok none
  | none => .ok none

/-- Forgets the places that are too far away. -/
def dropStale (s : Scanner) : Except ReadFault Scanner := do
  let keys ← s.keys.mapM fun k => if k.any (isStale · s.cursor) then forget k else pure k
  pure { s with keys := keys }

/-- Forgets the place where a key may have started in the innermost bracket. -/
def dropKey (s : Scanner) : Except ReadFault Scanner :=
  match s.keys with
  | k :: rest => (forget k).map fun k => { s with keys := k :: rest }
  | [] => .ok s

/-- Remembers that a key may start here. -/
def saveKey (s : Scanner) : Except ReadFault Scanner := do
  if s.keyMayStart then
    let s ← s.dropKey
    pure { s with
      keys := some ⟨s.done.length, s.cursor, s.keyRequired s.cursor.column⟩ :: s.keys.drop 1 }
  else pure s

/-- Starts a collection at a column unless the innermost one starts there or further right. -/
def openAt (column : Nat) (t : Token) (s : Scanner) : Scanner :=
  if s.columns.head?.any (column ≤ ·) then s
  else { s with columns := column :: s.columns, done := t :: s.done }

/-- Takes one character for a token. -/
def take (t : Token) (s : Scanner) : Scanner := (s.push t).moved s.cursor.next

/-- Takes what a scanner of scalars, anchors or tags gives. -/
def taken (s : Scanner) (r : Except ReadFault (Token × Cursor)) : Except ReadFault Scanner :=
  r.map fun r => (s.push r.1).moved r.2

/-! ## Single tokens -/

/-- The end of the text. -/
def finish (s : Scanner) : Except ReadFault Scanner := (s.endAll.dropKey).map (·.push .finish)

/-- A directive or a mark of a document. -/
def mark (s : Scanner) (r : Except ReadFault (Token × Cursor)) : Except ReadFault Scanner := do
  let s ← s.endAll.dropKey
  taken { s with keyMayStart := false } r

/-- An opening bracket. -/
def openFlow (t : Token) (s : Scanner) : Except ReadFault Scanner := do
  let s ← s.saveKey
  pure ({ s with keys := none :: s.keys, keyMayStart := true }.take t)

/-- A closing bracket, which needs an opening one. -/
def closeFlow (t : Token) (s : Scanner) : Except ReadFault Scanner := do
  let s ← s.dropKey
  match s.keys with
  | _ :: k :: keys => pure ({ s with keys := k :: keys, keyMayStart := false }.take t)
  | _ => .error .malformed

/-- A comma between brackets. -/
def comma (s : Scanner) : Except ReadFault Scanner := do
  let s ← s.dropKey
  pure ({ s with keyMayStart := true }.take .comma)

/-- A hyphen before an item. -/
def item (s : Scanner) : Except ReadFault Scanner := do
  if s.inFlow then
    let s ← s.dropKey
    pure ({ s with keyMayStart := true }.take .item)
  else if s.keyMayStart then
    let s ← (s.openAt s.cursor.column .blockSequence).dropKey
    pure (s.take .item)
  else .error .malformed

/-- A question mark before a key. -/
def key (s : Scanner) : Except ReadFault Scanner := do
  if s.inFlow then
    let s ← s.dropKey
    pure ({ s with keyMayStart := false }.take .key)
  else if s.keyMayStart then
    let s ← (s.openAt s.cursor.column .blockMapping).dropKey
    pure (s.take .key)
  else .error .malformed

/-- Puts the token of a key, and of the mapping that it starts, where the key started. -/
def insertKey (k : KeyPlace) (s : Scanner) : Scanner :=
  let later := s.done.take (s.done.length - k.before)
  let earlier : Scanner := { s with done := s.done.drop later.length }
  let earlier := if s.inFlow then earlier else earlier.openAt k.cursor.column .blockMapping
  { earlier with done := later ++ .key :: earlier.done }

/-- A colon before a value. -/
def value (s : Scanner) : Except ReadFault Scanner := do
  match s.keys with
  | some k :: keys =>
    pure (({ s with keys := none :: keys, keyMayStart := false }.insertKey k).take .value)
  | _ =>
    if s.inFlow then
      let s ← s.dropKey
      pure ({ s with keyMayStart := false }.take .value)
    else if s.keyMayStart then
      let s ← (s.openAt s.cursor.column .blockMapping).dropKey
      pure (s.take .value)
    else .error .malformed

/-- An anchor, an alias or a tag, which may be part of a key. -/
def property (s : Scanner) (r : Except ReadFault (Token × Cursor)) : Except ReadFault Scanner := do
  let s ← s.saveKey
  taken { s with keyMayStart := false } r

/-- A block. -/
def block (s : Scanner) : Except ReadFault Scanner := do
  let s ← s.dropKey
  taken { s with keyMayStart := true } <|
    (Texts.block (max 1 s.least) s.cursor).map fun r => (.scalar r.1 false, r.2)

/-- A text between quotes. -/
def quoted (s : Scanner) : Except ReadFault Scanner :=
  s.property ((Texts.quoted s.cursor).map fun r => (.scalar r.1 false, r.2))

/-- A plain text.  Behind the end of its last line a key may start. -/
def plain (s : Scanner) : Except ReadFault Scanner := do
  let s ← s.saveKey
  let (text, ended, c) := Texts.plain s.inFlow s.least s.cursor
  pure (({ s with keyMayStart := ended }.push (.scalar text true)).moved c)

/-! ## All tokens -/

/-- The next token; the cursor is where it starts. -/
def nextToken (s : Scanner) : Except ReadFault Scanner :=
  let c := s.cursor
  match c.rest with
  | [] => s.finish
  | x :: _ =>
    if x = '%' && c.column = 0 then s.mark (Marks.directive c)
    else if c.atMark '-' then s.mark (.ok (.documentStart, c.skip 3))
    else if c.atMark '.' then s.mark (.ok (.documentEnd, c.skip 3))
    else match x with
    | '[' => s.openFlow .flowSequence
    | '\x7b' => s.openFlow .flowMapping
    | ']' => s.closeFlow .flowSequenceEnd
    | '\x7d' => s.closeFlow .flowMappingEnd
    | ',' => s.comma
    | '*' => s.property ((Marks.anchor c).map fun r => (.alias r.1, r.2))
    | '&' => s.property ((Marks.anchor c).map fun r => (.anchor r.1, r.2))
    | '!' => s.property (Marks.tag c)
    | '\'' => s.quoted
    | '"' => s.quoted
    | _ =>
      if c.atIndicator '-' then s.item
      else if x = '?' && (s.inFlow || c.next.atBlank) then s.key
      else if x = ':' && (s.inFlow || c.next.atBlank) then s.value
      else if (x = '|' || x = '>') && !s.inFlow then s.block
      else if Texts.startsPlain s.inFlow c then s.plain
      else .error .malformed

/-- The scanner at its next token: blanks, comments and line ends are passed over, places too far
away are forgotten, and collections are ended that start further right. -/
def atToken (s : Scanner) : Except ReadFault Scanner := do
  let c := s.cursor.token
  let s ← { s with
    cursor := c
    keyMayStart := s.keyMayStart || (!s.inFlow && s.cursor.line < c.line) }.dropStale
  pure (if c.rest.isEmpty then s else s.endTo c.column)

/-- The tokens up to a fault.  As long as a token may turn out to be a key it is not known what
stands there, so the fault takes the place of the first of these tokens. -/
def stopped (s : Scanner) (why : ReadFault) : List Token :=
  let known := (s.keys.filterMap fun k => k.map KeyPlace.before).foldl min s.done.length
  s.done.reverse.take known ++ [.fault why]

/-- The tokens of a text.  A fault takes the place of the tokens that cannot be read. -/
def run : Nat → Scanner → List Token
  | 0, s => s.done.reverse
  | bound + 1, s =>
    match s.atToken with
    | .error why => s.stopped why
    | .ok here =>
      match here.nextToken with
      | .error why => { here with done := s.done }.stopped why
      | .ok next =>
        match next.done with
        | .finish :: _ => next.done.reverse
        | _ => run bound next

end Scanner

/-- The tokens of a text. -/
def tokens (cs : List Char) : List Token := (Scanner.start cs).run (cs.length + 1)

end Yaml
end ApiCompiler
