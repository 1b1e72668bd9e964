import ApiCompiler.Console.Lines
import ApiCompiler.Console.Literal
import ApiCompiler.Console.Pictures
import ApiCompiler.Console.Style

/-!
# Markup

Printed text may hold tags in brackets that open and close styles, such as `[red]` and `[/red]`.
Without colours nothing is left of them.  A backslash before a bracket keeps it from being a tag,
and `Markup.escape` puts one before every bracket that would start one.  Between tags, names of
pictures are replaced by the pictures.

A closing tag has to close a style that is open, whatever its spelling there.  A tag whose name
starts with `@` carries a value, which has to be a literal when the tag is closed.
-/

namespace ApiCompiler
namespace Markup

/-! ## Pieces -/

/-- A piece of markup: a text or the content of a tag. -/
inductive Piece where
  | text (chars : List Char)
  | tag (content : List Char)

/-- Whether a tag may start with a character. -/
def startsTag (c : Char) : Bool := ('a' ≤ c && c ≤ 'z') || c = '#' || c = '/' || c = '@'

/-- The content of the tag that starts here, its bracket taken, and what follows it. -/
def tag? (cs : List Char) : Option (List Char × List Char) :=
  match cs with
  | [] => none
  | c :: _ =>
    if startsTag c then
      let content := cs.takeWhile fun c => c ≠ ']' && c ≠ '['
      match cs.drop content.length with
      | ']' :: rest => some (content, rest)
      | _ => none
    else none

/-- The tag that starts here with the number of backslashes before it, and what follows it. -/
def escapedTag? (cs : List Char) : Option (Nat × List Char × List Char) :=
  let slashes := (cs.takeWhile (· = '\\')).length
  match cs.drop slashes with
  | '[' :: after => (tag? after).map fun t => (slashes, t.1, t.2)
  | _ => none

/-- A text as a piece, if it is not empty. -/
def textPiece (cs : List Char) : List Piece := if cs.isEmpty then [] else [.text cs]

/-- The pieces of some markup; `plain` is the text before them, the latest character first.  Of two
backslashes before a tag one is shown, and a backslash left over keeps the tag as text. -/
def piecesFrom (plain : List Char) : Nat → List Char → List Piece
  | 0, _ => textPiece plain.reverse
  | _, [] => textPiece plain.reverse
  | bound + 1, c :: cs =>
    match escapedTag? (c :: cs) with
    | some (slashes, content, rest) =>
      textPiece plain.reverse ++ textPiece (List.replicate (slashes / 2) '\\') ++
        (if slashes % 2 = 1 then .text ('[' :: content ++ [']']) else .tag content) ::
          piecesFrom [] bound rest
    | none =>
      let slashes := if c = '\\' then cs.takeWhile (· = '\\') else []
      piecesFrom (slashes ++ c :: plain) bound (cs.drop slashes.length)

/-- The pieces of some markup. -/
def pieces (cs : List Char) : List Piece := piecesFrom [] (cs.length + 1) cs

/-! ## Showing -/

/-- The text without a backslash before each bracket. -/
def withoutEscapes : List Char → List Char
  | '\\' :: '[' :: cs => '[' :: withoutEscapes cs
  | c :: cs => c :: withoutEscapes cs
  | [] => []

/-- An open style: its name, and its value if it has one. -/
structure Opened where
  name : List Char
  value : Option (List Char)

/-- Whether a handler may stand before the brackets of a value. -/
def isHandlerChar (c : Char) : Bool := Text.isWord c || c = '.'

/-- The literal in the value of a tag: the brackets after the name of a handler, or the whole
value. -/
def literalOf (value : List Char) : List Char :=
  let value := Text.strip value
  let rest := value.dropWhile isHandlerChar
  if rest.isEmpty then "()".toList
  else if rest.head? = some '(' && rest.getLast? = some ')' && !rest.contains '\n' then rest
  else value

/-- Whether a style can be closed here. -/
def Opened.mayClose (o : Opened) : Bool :=
  if o.name.head? = some '@' then
    match o.value with
    | none => true
    | some v => v.isEmpty || Literal.isLiteral (literalOf v)
  else true

/-- Whether a style can be shown. -/
def Opened.isShown (o : Opened) : Bool :=
  (Style.normal? (o.name ++ (o.value.map (' ' :: ·)).getD [])).isSome

/-- Takes the latest open style of a name. -/
def closeNamed (name : List Char) : List Opened → Option (Opened × List Opened)
  | [] => none
  | o :: rest =>
    if o.name = name then some (o, rest)
    else (closeNamed name rest).map fun r => (r.1, o :: r.2)

/-- The open styles after a tag; nothing if the tag cannot be shown. -/
def afterTag? (content : List Char) (opened : List Opened) : Option (List Opened) :=
  let name := content.takeWhile (· ≠ '=')
  let value := if name.length = content.length then none
    else some (content.drop (name.length + 1))
  match name with
  | '/' :: name => do
    let name := Text.strip name
    let (closed, rest) ← if name.isEmpty then
        match opened with
        | [] => none
        | o :: rest => some (o, rest)
      else (Style.normal? name).bind fun name => closeNamed name opened
    if closed.mayClose && (closed.name.head? = some '@' || closed.isShown) then some rest else none
  | name => (Style.normal? name).map fun name => ⟨name, value⟩ :: opened

/-- What is shown of pieces; `opened` are the open styles, the latest first. -/
def show? (opened : List Opened) : List Piece → Option (List Char)
  | [] => if opened.all Opened.isShown then some [] else none
  | .text cs :: rest =>
    (show? opened rest).map fun r => Pictures.replace (withoutEscapes cs) ++ r
  | .tag content :: rest => do
    let opened ← afterTag? content opened
    show? opened rest

/-- The text that markup shows, unless a tag cannot be shown. -/
def render? (markup : String) : Option (List Char) :=
  let cs := markup.toList
  let shown := if cs.contains '[' then show? [] (pieces cs) else some (Pictures.replace cs)
  shown.map fun cs => cs.filter Lines.isPrinted

/-! ## Escaping -/

/-- The markup whose tags are escaped. -/
def escapeFrom : Nat → List Char → List Char
  | 0, cs => cs
  | _, [] => []
  | bound + 1, c :: cs =>
    match escapedTag? (c :: cs) with
    | some (slashes, content, rest) =>
      List.replicate (2 * slashes + 1) '\\' ++ '[' :: content ++ ']' :: escapeFrom bound rest
    | none =>
      let slashes := if c = '\\' then cs.takeWhile (· = '\\') else []
      c :: slashes ++ escapeFrom bound (cs.drop slashes.length)

/-- A text as markup: its tags are escaped, and so is a single backslash at its end. -/
def escape (text : String) : String :=
  let cs := escapeFrom (text.length + 1) text.toList
  let slashes := (cs.reverse.takeWhile (· = '\\')).length
  String.ofList (if slashes = 1 then cs ++ ['\\'] else cs)

end Markup
end ApiCompiler
