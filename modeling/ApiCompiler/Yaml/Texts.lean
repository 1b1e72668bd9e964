import ApiCompiler.Text.CodePoints
import ApiCompiler.Yaml.Cursor

/-!
# Texts in YAML

The five ways to write a text: plain, between single or double quotes, and as a block whose line
ends are kept or folded.  Folding replaces a line end by a blank, and a line end with empty lines
after it by those empty lines.

Every scanner takes a cursor and gives the text with the cursor after it, or says why there is
none.
-/

namespace ApiCompiler
namespace Yaml
namespace Texts

/-- What a scanner gives: a text and the cursor after it. -/
abbrev Scan := Except ReadFault (List Char × Cursor)

/-- Puts characters in front of what is scanned. -/
def Scan.after (front : List Char) (scan : Scan) : Scan := scan.map fun r => (front ++ r.1, r.2)

/-- A line end with the ends of the empty lines after it, folded. -/
def folded (first : Char) (others : List Char) : List Char :=
  (if first ≠ '\n' then [first] else if others.isEmpty then [' '] else []) ++ others

/-! ## Plain texts -/

/-- The ends of empty lines, and whether a document marker stops the text. -/
def emptyLines : Nat → Cursor → List Char × Bool × Cursor
  | 0, c => ([], false, c)
  | bound + 1, c =>
    match c.rest with
    | ' ' :: _ => emptyLines bound c.next
    | x :: _ =>
      if isBreak x then
        if c.next.atMarker then ([x], true, c.next)
        else
          let (more, stopped, c) := emptyLines bound c.next
          (x :: more, stopped, c)
      else ([], false, c)
    | [] => ([], false, c)

/-- What stands between two parts of a plain text, and whether a line ends there; nothing stands
there if the text ends before it. -/
def plainGap (c : Cursor) : List Char × Bool × Cursor :=
  let blanks := c.rest.takeWhile (· = ' ')
  let c := c.skip blanks.length
  match c.rest with
  | x :: _ =>
    if isBreak x then
      if c.next.atMarker then ([], true, c.next)
      else
        match emptyLines c.rest.length c.next with
        | (_, true, c) => ([], true, c)
        | (others, false, c) => (folded x others, true, c)
    else (blanks, false, c)
  | [] => (blanks, false, c)

/-- Whether a part of a plain text ends before the rest; `inFlow` says whether the text stands
between brackets. -/
def endsPart (inFlow : Bool) : List Char → Bool
  | [] => true
  | ':' :: rest =>
    match rest with
    | [] => true
    | x :: _ => isBlank x || (inFlow && [',', '[', ']', '\x7b', '\x7d'].contains x)
  | x :: _ => isBlank x || (inFlow && [',', '?', '[', ']', '\x7b', '\x7d'].contains x)

/-- The part of a plain text up to the next blank or indicator. -/
def part (inFlow : Bool) : List Char → List Char
  | [] => []
  | x :: xs => if endsPart inFlow (x :: xs) then [] else x :: part inFlow xs

/-- The parts of a plain text, each after the gap before it, and whether the last gap ends a line.
Outside brackets, a line that is indented less than `indent` ends the text. -/
def plainFrom (inFlow : Bool) (indent : Nat) (gap : List Char) (ended : Bool) :
    Nat → Cursor → List Char × Bool × Cursor
  | 0, c => ([], ended, c)
  | bound + 1, c =>
    let p := part inFlow c.rest
    if c.sees '#' || p.isEmpty then ([], ended, c)
    else
      let (next, ended, after) := plainGap (c.skip p.length)
      if next.isEmpty || after.sees '#' || (!inFlow && after.column < indent) then
        (gap ++ p, ended, after)
      else
        let (more, ended, c) := plainFrom inFlow indent next ended bound after
        (gap ++ p ++ more, ended, c)

/-- A plain text, and whether the line ends behind it. -/
def plain (inFlow : Bool) (indent : Nat) (c : Cursor) : List Char × Bool × Cursor :=
  plainFrom inFlow indent [] false (c.rest.length + 1) c

/-- The characters that no plain text starts with. -/
def indicators : List Char :=
  [',', '[', ']', '\x7b', '\x7d', '#', '&', '*', '!', '|', '>', '\'', '"', '%', '@', '\x60']

/-- Whether a plain text can start here. -/
def startsPlain (inFlow : Bool) (c : Cursor) : Bool :=
  match c.rest with
  | [] => false
  | x :: _ =>
    if x = '-' then !c.next.atBlank
    else if x = '?' || x = ':' then !inFlow && !c.next.atBlank
    else !isBlank x && !indicators.contains x

/-! ## Quoted texts -/

/-- The ends of empty lines inside quotes; a document marker is not allowed there. -/
def quotedBreaks : Nat → Cursor → Scan
  | 0, _ => .error .malformed
  | bound + 1, c =>
    if c.atMarker then .error .malformed
    else
      let blanks := c.rest.takeWhile fun x => x = ' ' || x = '\t'
      let c := c.skip blanks.length
      match c.rest with
      | x :: _ => if isBreak x then (quotedBreaks bound c.next).after [x] else .ok ([], c)
      | [] => .ok ([], c)

/-- Blanks and line ends inside quotes, folded. -/
def quotedGap (c : Cursor) : Scan :=
  let blanks := c.rest.takeWhile fun x => x = ' ' || x = '\t'
  let c := c.skip blanks.length
  match c.rest with
  | [] => .error .malformed
  | x :: _ =>
    if isBreak x then
      (quotedBreaks (c.rest.length + 1) c.next).map fun r => (folded x r.1, r.2)
    else .ok (blanks, c)

/-- The character that a letter stands for after a backslash. -/
def escape? : Char → Option Char
  | '0' => some '\x00'
  | 'a' => some '\x07'
  | 'b' => some '\x08'
  | 't' => some '\t'
  | '\t' => some '\t'
  | 'n' => some '\n'
  | 'v' => some '\x0b'
  | 'f' => some '\x0c'
  | 'r' => some '\r'
  | 'e' => some '\x1b'
  | ' ' => some ' '
  | '"' => some '"'
  | '\\' => some '\\'
  | '/' => some '/'
  | 'N' => some '\u0085'
  | '_' => some '\u00a0'
  | 'L' => some '\u2028'
  | 'P' => some '\u2029'
  | _ => none

/-- How many hexadecimal digits follow a letter after a backslash. -/
def codeLength? : Char → Option Nat
  | 'x' => some 2
  | 'u' => some 4
  | 'U' => some 8
  | _ => none

/-- The character whose code the next digits spell.  Half of a pair stands for no character and
reads as U+FFFD. -/
def code (count : Nat) (cs : List Char) : Except ReadFault Char :=
  let digits := cs.take count
  if digits.length = count && digits.all fun c => (CodePoints.hexValue? c).isSome then
    let n := CodePoints.hexNumber digits
    if n.isValidChar then .ok (Char.ofNat n)
    else if n < 0x110000 then .ok '\uFFFD'
    else .error (.breakdown (if n < 0x80000000 then .noCharacter else .farFromCharacters))
  else .error .malformed

/-- What a backslash and a character after it stand for; the cursor is at the backslash. -/
def escaped (x : Char) (c : Cursor) : Scan :=
  match escape? x, codeLength? x with
  | some y, _ => .ok ([y], c.skip 2)
  | none, some count => (code count (c.rest.drop 2)).map fun y => ([y], c.skip (2 + count))
  | none, none =>
    if isBreak x then quotedBreaks (c.rest.length + 1) (c.skip 1).next else .error .malformed

/-- The rest of a text between double quotes. -/
def doubleFrom : Nat → Cursor → Scan
  | 0, _ => .error .malformed
  | bound + 1, c =>
    match c.rest with
    | [] => .error .malformed
    | '"' :: _ => .ok ([], c.next)
    | '\\' :: x :: _ => do
      let (front, c) ← escaped x c
      (doubleFrom bound c).after front
    | '\\' :: [] => .error .malformed
    | x :: _ =>
      if isBlank x then do
        let (gap, c) ← quotedGap c
        (doubleFrom bound c).after gap
      else (doubleFrom bound c.next).after [x]

/-- The rest of a text between single quotes. -/
def singleFrom : Nat → Cursor → Scan
  | 0, _ => .error .malformed
  | bound + 1, c =>
    match c.rest with
    | [] => .error .malformed
    | '\'' :: '\'' :: _ => (singleFrom bound (c.skip 2)).after ['\'']
    | '\'' :: _ => .ok ([], c.next)
    | x :: _ =>
      if isBlank x then do
        let (gap, c) ← quotedGap c
        (singleFrom bound c).after gap
      else (singleFrom bound c.next).after [x]

/-- A text between quotes. -/
def quoted (c : Cursor) : Scan :=
  if c.sees '"' then doubleFrom (c.rest.length + 1) c.next
  else singleFrom (c.rest.length + 1) c.next

/-! ## Blocks -/

/-- What is done with the line ends at the end of a block. -/
inductive Chomping where
  | clip
  | strip
  | keep
  deriving DecidableEq

/-- What a sign in the header of a block says about line ends. -/
def chomping? (c : Char) : Option Chomping :=
  if c = '+' then some .keep else if c = '-' then some .strip else none

/-- The header of a block: chomping, and by how much it is indented if that is said, in either
order. -/
def header (c : Cursor) : Except ReadFault (Chomping × Option Nat × Cursor) := do
  let sign (c : Cursor) : Option Chomping := c.peek?.bind chomping?
  let indent (c : Cursor) : Except ReadFault (Option Nat × Cursor) :=
    match c.peek? with
    | some d =>
      if d = '0' then .error .malformed
      else if '1' ≤ d && d ≤ '9' then .ok (some (d.toNat - 48), c.next)
      else .ok (none, c)
    | none => .ok (none, c)
  match sign c with
  | some k => do
    let (said, c) ← indent c.next
    pure (k, said, c)
  | none => do
    let (said, c) ← indent c
    match said, sign c with
    | some _, some k => pure (k, said, c.next)
    | _, _ => pure (.clip, said, c)

/-- The empty lines at the start of a block, and the greatest column that blanks reach in them. -/
def leadingLines : Nat → Nat → Cursor → List Char × Nat × Cursor
  | 0, widest, c => ([], widest, c)
  | bound + 1, widest, c =>
    match c.rest with
    | ' ' :: _ => leadingLines bound (max widest c.next.column) c.next
    | x :: _ =>
      if isBreak x then
        let (more, widest, c) := leadingLines bound widest c.next
        (x :: more, widest, c)
      else ([], widest, c)
    | [] => ([], widest, c)

/-- The cursor after blanks, at most up to a column. -/
def upTo (indent : Nat) (c : Cursor) : Cursor :=
  c.skip (min (indent - c.column) (c.rest.takeWhile (· = ' ')).length)

/-- The ends of empty lines in a block. -/
def blockBreaks (indent : Nat) : Nat → Cursor → List Char × Cursor
  | 0, c => ([], c)
  | bound + 1, c =>
    let c := upTo indent c
    match c.rest with
    | x :: _ =>
      if isBreak x then
        let (more, c) := blockBreaks indent bound c.next
        (x :: more, c)
      else ([], c)
    | [] => ([], c)

/-- Whether the cursor is at a line of the block. -/
def atBlockLine (indent : Nat) (c : Cursor) : Bool := c.column = indent && !c.rest.isEmpty

/-- Whether the rest starts with a blank of a line. -/
def startsIndented (c : Cursor) : Bool := c.sees ' ' || c.sees '\t'

/-- The line end of a block line: nothing at the end of the text. -/
def lineEnd (c : Cursor) : List Char × Cursor :=
  match c.rest with
  | [] => ([], c)
  | x :: _ => ([x], c.next)

/-- The lines of a block, each after the ends of the empty lines before it. -/
def blockLines (fold : Bool) (chomping : Chomping) (indent : Nat) (before : List Char) :
    Nat → Cursor → List Char × Cursor
  | 0, c => ([], c)
  | bound + 1, c =>
    let flush := !startsIndented c
    let content := c.rest.takeWhile fun x => !isBreak x
    let (ended, after) := lineEnd (c.skip content.length)
    let (breaks, after) := blockBreaks indent (after.rest.length + 1) after
    if atBlockLine indent after then
      let joint :=
        if fold && ended = ['\n'] && flush && !startsIndented after then
          if breaks.isEmpty then [' '] else []
        else ended
      let (more, last) := blockLines fold chomping indent (joint ++ breaks) bound after
      (before ++ content ++ more, last)
    else
      let tail := match chomping with
        | .strip => []
        | .clip => ended
        | .keep => ended ++ breaks
      (before ++ content ++ tail, after)

/-- A block; `least` is the least column that its lines may start at. -/
def block (least : Nat) (c : Cursor) : Scan := do
  let fold := c.sees '>'
  let (chomping, said, c) ← header c.next
  let c ← if c.sees ' ' || c.atLineEnd then c.restOfLine else .error .malformed
  let (breaks, indent, c) :=
    match said with
    | some n =>
      let indent := least + n - 1
      let (breaks, c) := blockBreaks indent (c.rest.length + 1) c
      (breaks, indent, c)
    | none =>
      let (breaks, widest, c) := leadingLines (c.rest.length + 1) 0 c
      (breaks, max least widest, c)
  if atBlockLine indent c then
    pure (blockLines fold chomping indent breaks (c.rest.length + 1) c)
  else
    pure (if chomping = .keep then breaks else [], c)

end Texts
end Yaml
end ApiCompiler
