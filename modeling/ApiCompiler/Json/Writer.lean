import ApiCompiler.Json.Value
import ApiCompiler.Number.Layout
import ApiCompiler.Text.Quoted

/-!
# Writing JSON

A `Style` says which characters are escaped and how doubles are laid out.  Values are written
either on one line, with a blank after every comma and colon, or spread over lines, one item a
line and two blanks for each level.
-/

namespace ApiCompiler
namespace Json

/-- How texts and doubles are spelled. -/
structure Style where
  /-- Whether every character outside blank to tilde is escaped. -/
  asciiOnly : Bool
  layout : Layout

namespace Style

/-- The style of messages, value texts and the manifest. -/
def ascii : Style := ⟨true, .plain⟩

/-- The style of the compiled description. -/
def description : Style := ⟨false, .description⟩

end Style

/-! ## Texts -/

/-- A code unit of sixteen bits as an escape. -/
def unitEscape (n : Nat) : List Char := '\\' :: 'u' :: Text.hexDigits 4 n

/-- A character inside a JSON text. -/
def escaped (style : Style) (c : Char) : List Char :=
  if c = '"' then ['\\', '"']
  else if c = '\\' then ['\\', '\\']
  else if c = '\n' then ['\\', 'n']
  else if c = '\r' then ['\\', 'r']
  else if c = '\t' then ['\\', 't']
  else if c = '\x08' then ['\\', 'b']
  else if c = '\x0c' then ['\\', 'f']
  else
    let n := c.toNat
    if n < 0x20 then unitEscape n
    else if style.asciiOnly && 0x7F ≤ n then
      if n < 0x10000 then unitEscape n
      else unitEscape (0xD800 + (n - 0x10000) / 0x400) ++ unitEscape (0xDC00 + n % 0x400)
    else [c]

/-- A text with its quotes. -/
def writeText (style : Style) (s : String) : List Char :=
  '"' :: s.toList.flatMap (escaped style) ++ ['"']

/-- An integer. -/
def writeInt (n : Int) : List Char :=
  if n < 0 then '-' :: Nat.toDigits 10 n.natAbs else Nat.toDigits 10 n.natAbs

/-- A value that is neither an array nor an object. -/
def writeScalar (style : Style) : Json → List Char
  | .bool true => ['t', 'r', 'u', 'e']
  | .bool false => ['f', 'a', 'l', 's', 'e']
  | .int n => writeInt n
  | .float x => style.layout.write x
  | .str s => writeText style s
  | _ => ['n', 'u', 'l', 'l']

/-! ## One line -/

mutual

/-- A value on one line. -/
def line (style : Style) : Json → List Char
  | .arr [] => ['[', ']']
  | .arr (x :: xs) => '[' :: line style x ++ lineItems style xs
  | .obj [] => ['\x7b', '\x7d']
  | .obj ((k, v) :: rest) =>
    '\x7b' :: writeText style k ++ ':' :: ' ' :: line style v ++ lineMembers style rest
  | v => writeScalar style v

/-- The items after the first, and the bracket that closes them. -/
def lineItems (style : Style) : List Json → List Char
  | [] => [']']
  | x :: xs => ',' :: ' ' :: line style x ++ lineItems style xs

/-- The members after the first, and the brace that closes them. -/
def lineMembers (style : Style) : List (String × Json) → List Char
  | [] => ['\x7d']
  | (k, v) :: rest =>
    ',' :: ' ' :: writeText style k ++ ':' :: ' ' :: line style v ++ lineMembers style rest

end

/-! ## Several lines -/

/-- A line end and the blanks that start the next line at a level. -/
def newline (level : Nat) : List Char := '\n' :: List.replicate (2 * level) ' '

mutual

/-- A value spread over lines; `level` is that of the line it starts on. -/
def spread (style : Style) (level : Nat) : Json → List Char
  | .arr [] => ['[', ']']
  | .arr (x :: xs) =>
    '[' :: newline (level + 1) ++ spread style (level + 1) x ++ spreadItems style level xs
  | .obj [] => ['\x7b', '\x7d']
  | .obj ((k, v) :: rest) =>
    '\x7b' :: newline (level + 1) ++ writeText style k ++ ':' :: ' ' ::
      spread style (level + 1) v ++ spreadMembers style level rest
  | v => writeScalar style v

/-- The items after the first, each on its line, and the bracket that closes them. -/
def spreadItems (style : Style) (level : Nat) : List Json → List Char
  | [] => newline level ++ [']']
  | x :: xs =>
    ',' :: newline (level + 1) ++ spread style (level + 1) x ++ spreadItems style level xs

/-- The members after the first, each on its line, and the brace that closes them. -/
def spreadMembers (style : Style) (level : Nat) : List (String × Json) → List Char
  | [] => newline level ++ ['\x7d']
  | (k, v) :: rest =>
    ',' :: newline (level + 1) ++ writeText style k ++ ':' :: ' ' ::
      spread style (level + 1) v ++ spreadMembers style level rest

end

/-- The text of a value in messages and type names. -/
def text (v : Json) : String := String.ofList (v.line .ascii)

end Json
end ApiCompiler
