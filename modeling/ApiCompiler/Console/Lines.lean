import ApiCompiler.Text.CodePoints
import ApiCompiler.Text.Width
import ApiCompiler.Text.Classes

/-!
# Lines

Printed text is broken into lines that fit a number of columns.  A line ends before the first word
that does not fit any more.  A word that is too long for any line is either cut into pieces or
stands on a line of its own, whose end is then replaced by an ellipsis.  A word includes the blanks
after it, which are dropped where they reach beyond the line.
-/

namespace ApiCompiler
namespace Lines

/-! ## Words -/

/-- The words of a line with the blanks after them; blanks at the start belong to the first
word. -/
def words : Nat → List Char → List (List Char)
  | 0, _ => []
  | bound + 1, cs =>
    let before := cs.takeWhile Text.isSpace
    let word := (cs.drop before.length).takeWhile fun c => !Text.isSpace c
    let after := (cs.drop (before.length + word.length)).takeWhile Text.isSpace
    if word.isEmpty then []
    else
      (before ++ word ++ after) ::
        words bound (cs.drop (before.length + word.length + after.length))

/-- The characters without blanks at the end. -/
def withoutEnd (cs : List Char) : List Char := (cs.reverse.dropWhile Text.isSpace).reverse

/-- Cuts clusters into pieces that fit a width; `piece` is the piece that is being filled. -/
def chop (columns : Nat) (piece : List Char) (used : Nat) : List Text.Cluster → List (List Char)
  | [] => if used = 0 then [] else [piece]
  | c :: rest =>
    if columns < used + c.columns then piece :: chop columns c.chars c.columns rest
    else chop columns (piece ++ c.chars) (used + c.columns) rest

/-! ## Filling lines -/

/-- What becomes of a word that is too long for any line. -/
inductive Overflow where
  /-- It is cut into pieces. -/
  | fold
  /-- Its end is replaced by an ellipsis. -/
  | ellipsis
  deriving DecidableEq

/-- A line if it is not empty. -/
def begun (line : List Char) : List (List Char) := if line.isEmpty then [] else [line]

/-- Fills lines with words; `line` is the line that is being filled, of which some columns are
`used`. -/
def fill (columns : Nat) (overflow : Overflow) (line : List Char) (used : Nat) :
    List (List Char) → List (List Char)
  | [] => [line]
  | word :: rest =>
    let needed := Text.width (withoutEnd word)
    if used + needed ≤ columns then
      fill columns overflow (line ++ word) (used + Text.width word) rest
    else if columns < needed && overflow = .fold then
      let pieces := chop columns [] 0 (Text.clusters word)
      let latest := (pieces.getLast?).getD []
      begun line ++ pieces.dropLast ++ fill columns overflow latest (Text.width latest) rest
    else begun line ++ fill columns overflow word (Text.width word) rest

/-- The line without the blanks at its end that are beyond a number of characters. -/
def dropExcess (columns : Nat) (line : List Char) : List Char :=
  let kept := withoutEnd line
  line.take (max kept.length (min columns line.length))

/-- The line cut to a width. -/
def cutLine (columns : Nat) (overflow : Overflow) (line : List Char) : List Char :=
  if Text.width line ≤ columns then line
  else
    match overflow with
    | .fold => Text.cutTo columns line
    | .ellipsis => Text.cutTo (columns - 1) line ++ ['…']

/-- A run of blanks. -/
def blanks (n : Nat) : List Char := List.replicate n ' '

/-- The parts of a line that tabs end, each with the blanks up to the next column that is a
multiple of eight; `column` is where the first of them starts. -/
def alignParts (column : Nat) : List (List Char) → List Char
  | [] => []
  | [part] => part
  | part :: rest =>
    let reached := column + Text.width (part ++ [' '])
    let missing := if reached % 8 = 0 then 0 else 8 - reached % 8
    part ++ ' ' :: blanks missing ++ alignParts (reached + missing) rest

/-- The line with blanks in place of its tabs. -/
def withoutTabs (line : List Char) : List Char := alignParts 0 (CodePoints.cut '\t' line)

/-- The lines of a text that fit a number of columns.  Without `breaks` a line is not broken, only
cut. -/
def wrap (columns : Nat) (overflow : Overflow) (breaks : Bool) (text : List Char) :
    List (List Char) :=
  ((CodePoints.cut '\n' text).map withoutTabs).flatMap fun line =>
    let filled := if breaks then fill columns overflow [] 0 (words (line.length + 1) line) else [line]
    let lines := if filled = [[]] then [line] else filled
    lines.map (dropExcess columns)

/-! ## Placing -/

/-- The line cut to a width, with blanks after it. -/
def padRight (columns : Nat) (overflow : Overflow) (line : List Char) : List Char :=
  let line := cutLine columns overflow line
  line ++ blanks (columns - Text.width line)

/-- The line cut to a width, with blanks before it. -/
def padLeft (columns : Nat) (overflow : Overflow) (line : List Char) : List Char :=
  let line := cutLine columns overflow (withoutEnd line)
  blanks (columns - Text.width line) ++ line

/-- The line in the middle, with at least as many blanks after it as before it. -/
def center (columns : Nat) (overflow : Overflow) (line : List Char) : List Char :=
  let line := cutLine columns overflow (withoutEnd line)
  let line := blanks ((columns - Text.width line) / 2) ++ line
  line ++ blanks (columns - Text.width line)

/-! ## What is printed -/

/-- The control characters that are not printed. -/
def unprinted : List Char := ['\x07', '\x08', '\x0b', '\x0c', '\r']

/-- Whether a character is printed. -/
def isPrinted (c : Char) : Bool := !unprinted.contains c

/-- The characters that end a line of a text that is measured. -/
def endings : List Char := ['\n', '\x1c', '\x1d', '\x1e', '\u0085', '\u2028', '\u2029']

/-- The columns of the widest line of a text. -/
def widest (text : List Char) : Nat :=
  let unified := text.map fun c => if endings.contains c then '\n' else c
  (CodePoints.cut '\n' unified).foldl (fun n line => max n (Text.width line)) 0

end Lines
end ApiCompiler
