import ApiCompiler.Text.CodePoints
import ApiCompiler.Yaml.Token

/-!
# Anchors, tags and directives

An anchor names a node and an alias stands for the node of that name.  A tag says what a node is;
its first part may be a handle, whose meaning a directive at the start of the document can change.

Every scanner takes a cursor and gives a token with the cursor after it, or says why there is none.
-/

namespace ApiCompiler
namespace Yaml
namespace Marks

/-- Whether a character may stand in the name of an anchor, a handle or a directive. -/
def isNameChar (c : Char) : Bool := c.isAlphanum || c = '-' || c = '_'

/-- Whether a blank or the end of the line follows, or the end of the text. -/
def atGap (c : Cursor) : Bool := c.sees ' ' || c.atLineEnd

/-- Refuses a text unless a condition holds. -/
def require (holds : Bool) : Except ReadFault Unit := if holds then .ok () else .error .malformed

/-- A name, which may not be empty. -/
def name (c : Cursor) : Except ReadFault (String × Cursor) :=
  let cs := c.rest.takeWhile isNameChar
  if cs.isEmpty then .error .malformed else .ok (String.ofList cs, c.skip cs.length)

/-! ## Anchors -/

/-- The name of an anchor or an alias. -/
def anchor (c : Cursor) : Except ReadFault (String × Cursor) := do
  let (s, c) ← name c.next
  require (c.atBlank || c.peek?.any "?:,]\x7d%@`".toList.contains)
  pure (s, c)

/-! ## Tags -/

/-- Whether a character may stand in a tag. -/
def isTagChar (c : Char) : Bool :=
  c.isAlphanum || "-;/?:@&=+$,_.!~*'()[]%".toList.contains c

/-- The bytes that escapes spell. -/
def escapes (bytes : List UInt8) : List Char → Except ReadFault (List UInt8 × List Char)
  | '%' :: a :: b :: rest =>
    match CodePoints.hexValue? a, CodePoints.hexValue? b with
    | some h, some l => escapes (UInt8.ofNat (16 * h + l) :: bytes) rest
    | _, _ => .error .malformed
  | '%' :: _ => .error .malformed
  | rest => .ok (bytes.reverse, rest)

/-- The characters of a tag with their escapes read; each run of escapes has to be UTF-8. -/
def unescape : Nat → List Char → Except ReadFault (List Char)
  | 0, cs => .ok cs
  | bound + 1, cs =>
    match cs with
    | [] => .ok []
    | '%' :: _ => do
      let (bytes, rest) ← escapes [] cs
      match String.fromUTF8? bytes.toByteArray with
      | some s => (unescape bound rest).map (s.toList ++ ·)
      | none => .error .malformed
    | c :: rest => (unescape bound rest).map (c :: ·)

/-- The part of a tag after its handle, which may not be empty. -/
def tagName (c : Cursor) : Except ReadFault (String × Cursor) := do
  let cs := c.rest.takeWhile isTagChar
  require !cs.isEmpty
  let s ← unescape cs.length cs
  pure (String.ofList s, c.skip cs.length)

/-- A handle: an exclamation mark, or a name between two of them. -/
def handle (c : Cursor) : Except ReadFault (String × Cursor) :=
  if !c.sees '!' then .error .malformed
  else if c.next.sees ' ' then .ok ("!", c.next)
  else
    let cs := c.next.rest.takeWhile isNameChar
    let after := c.next.skip cs.length
    if after.sees '!' then .ok (String.ofList ('!' :: cs ++ ['!']), after.next)
    else .error .malformed

/-- A tag. -/
def tag (c : Cursor) : Except ReadFault (Token × Cursor) := do
  let after := c.next
  let (token, last) ←
    if after.sees '<' then do
      let (s, last) ← tagName after.next
      require (last.sees '>')
      pure (Token.tag none s, last.next)
    else if after.atBlank then pure (Token.tag none "!", after)
    else
      let word := after.rest.takeWhile fun x => x ≠ ' ' && !isBreak x
      if word.contains '!' then do
        let (h, c) ← handle c
        let (s, last) ← tagName c
        pure (Token.tag (some h) s, last)
      else do
        let (s, last) ← tagName after
        pure (Token.tag (some "!") s, last)
  require (atGap last)
  pure (token, last)

/-! ## Directives -/

/-- A number in the directive of the version. -/
def number (c : Cursor) : Except ReadFault (Nat × Cursor) := do
  let cs := c.rest.takeWhile fun x => '0' ≤ x && x ≤ '9'
  require !cs.isEmpty
  (Breakdown.checkDigits cs.length).mapError .breakdown
  pure (cs.foldl (fun n x => 10 * n + (x.toNat - 48)) 0, c.skip cs.length)

/-- A directive, which fills its line. -/
def directive (c : Cursor) : Except ReadFault (Token × Cursor) := do
  let (s, c) ← name c.next
  require (atGap c)
  let (token, last) ←
    if s = "YAML" then do
      let (major, c) ← number c.afterSpaces
      require (c.sees '.')
      let (_, c) ← number c.next
      require (atGap c)
      pure (Token.version major, c)
    else if s = "TAG" then do
      let (h, c) ← handle c.afterSpaces
      require (c.sees ' ')
      let (meaning, c) ← tagName c.afterSpaces
      require (atGap c)
      pure (Token.handle h meaning, c)
    else pure (Token.remark, c.afterLine)
  let last ← last.restOfLine
  pure (token, last)

end Marks
end Yaml
end ApiCompiler
