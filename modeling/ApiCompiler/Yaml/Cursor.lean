import ApiCompiler.Breakdown

/-!
# Places in a YAML text

A cursor is the rest of a text with the line and the column it starts at and the number of
characters before it.  Structure depends on columns, and a key has to end on the line it starts on
and not too far away, so these are kept while characters are taken.

The text is read with every usual line end written as one character; the two separators that
Unicode adds end a line as well and are kept as they are.
-/

namespace ApiCompiler
namespace Yaml

/-- The rest of a text, and where it starts. -/
structure Cursor where
  rest : List Char
  line : Nat
  column : Nat
  index : Nat

/-- Whether a character ends a line. -/
def isBreak (c : Char) : Bool := c = '\n' || c = '\u2028' || c = '\u2029'

/-- Whether a character ends a line or is a blank that separates tokens. -/
def isBlank (c : Char) : Bool := c = ' ' || c = '\t' || isBreak c

/-- Whether a character may stand in a text. -/
def isAllowed (c : Char) : Bool :=
  let n := c.toNat
  n = 0x09 || n = 0x0A || n = 0x0D || (0x20 ≤ n && n ≤ 0x7E) || n = 0x85 ||
    (0xA0 ≤ n && n ≤ 0xD7FF) || (0xE000 ≤ n && n ≤ 0xFFFD) || 0x10000 ≤ n

/-- The text with every usual line end written as one character. -/
def unifyBreaks : List Char → List Char
  | '\r' :: '\n' :: cs => '\n' :: unifyBreaks cs
  | '\r' :: cs => '\n' :: unifyBreaks cs
  | '\u0085' :: cs => '\n' :: unifyBreaks cs
  | c :: cs => c :: unifyBreaks cs
  | [] => []

namespace Cursor

/-- The width of a character: a mark of byte order has none. -/
def width (c : Char) : Nat := if c = '\uFEFF' then 0 else 1

/-- The start of a text.  A mark of byte order at the start is passed over. -/
def start (cs : List Char) : Cursor :=
  match cs with
  | '\uFEFF' :: cs => ⟨cs, 0, 0, 1⟩
  | cs => ⟨cs, 0, 0, 0⟩

/-- The cursor after its first character. -/
def next (c : Cursor) : Cursor :=
  match c.rest with
  | [] => c
  | x :: xs =>
    if isBreak x then ⟨xs, c.line + 1, 0, c.index + 1⟩
    else ⟨xs, c.line, c.column + width x, c.index + 1⟩

/-- The cursor after some characters, none of which ends a line. -/
def skip (c : Cursor) (count : Nat) : Cursor :=
  ⟨c.rest.drop count, c.line, (c.rest.take count).foldl (fun n x => n + width x) c.column,
    c.index + count⟩

/-- The first character. -/
def peek? (c : Cursor) : Option Char := c.rest.head?

/-- Whether the first character is the given one. -/
def sees (c : Cursor) (x : Char) : Bool := c.peek? = some x

/-- Whether the text ends or a blank follows. -/
def atBlank (c : Cursor) : Bool :=
  match c.rest with
  | [] => true
  | x :: _ => isBlank x

/-- Whether the text or the line ends here. -/
def atLineEnd (c : Cursor) : Bool :=
  match c.rest with
  | [] => true
  | x :: _ => isBreak x

/-- The cursor after leading blanks of a line. -/
def afterSpaces (c : Cursor) : Cursor := c.skip (c.rest.takeWhile (· = ' ')).length

/-- The cursor at the end of its line. -/
def afterLine (c : Cursor) : Cursor := c.skip (c.rest.takeWhile (!isBreak ·)).length

/-- Whether a line starts here that marks the start or the end of a document. -/
def atMark (mark : Char) (c : Cursor) : Bool :=
  c.column = 0 &&
    match c.rest with
    | x :: y :: z :: _ => x = mark && y = mark && z = mark && (c.skip 3).atBlank
    | _ => false

/-- Whether a line starts here that marks the start or the end of a document. -/
def atMarker (c : Cursor) : Bool := c.atMark '-' || c.atMark '.'

/-- Whether an indicator stands here, alone or before a blank. -/
def atIndicator (x : Char) (c : Cursor) : Bool := c.sees x && c.next.atBlank

/-- The cursor after a line that may hold a comment and nothing else. -/
def restOfLine (c : Cursor) : Except ReadFault Cursor :=
  let c := c.afterSpaces
  let c := if c.sees '#' then c.afterLine else c
  if c.atLineEnd then .ok c.next else .error .malformed

/-- The cursor at the next token: after blanks, comments and line ends. -/
def toToken : Nat → Cursor → Cursor
  | 0, c => c
  | bound + 1, c =>
    match c.rest with
    | [] => c
    | x :: _ =>
      if x = ' ' || isBreak x then toToken bound c.next
      else if x = '#' then toToken bound c.afterLine
      else c

/-- The cursor at the next token. -/
def token (c : Cursor) : Cursor := c.toToken (c.rest.length + 1)

end Cursor
end Yaml
end ApiCompiler
