import ApiCompiler.Console.Lines

/-!
# Tables

A table has a title, named columns and rows.  A column is as wide as its widest cell, but the table
is never wider than the terminal: then the widest columns are made narrower, evenly, and what does
not fit into a cell is broken into lines or cut.
-/

namespace ApiCompiler

/-- A column: its name, and whether its cells stand at the right. -/
structure Column where
  name : String
  atRight : Bool

/-- A table. -/
structure Table where
  title : String
  columns : List Column
  rows : List (List (List Char))

namespace Table

/-! ## Widths -/

/-- What is used by walls. -/
def wallWidth (count : Nat) : Nat := count + 1

/-- The widths of the columns without a limit, the blanks around cells included. -/
def naturalWidths (t : Table) : List Nat :=
  t.columns.mapIdx fun i c =>
    2 + t.rows.foldl (fun n row => max n (((row[i]?).map Lines.widest).getD 0))
      (Text.width c.name.toList)

/-- A quotient rounded to the nearest number, a half to the even one. -/
def evenQuotient (n d : Nat) : Nat :=
  let q := n / d
  let twice := 2 * (n % d)
  if d < twice || (twice = d && q % 2 = 1) then q + 1 else q

/-- Takes columns from the widest ones in equal shares, from each at most `most`; `shares` of them
are left. -/
def takeShares (widest most : Nat) : Nat → Nat → List Nat → List Nat
  | _, _, [] => []
  | excess, shares, w :: rest =>
    if w = widest then
      let taken := min most (evenQuotient excess shares)
      (w - taken) :: takeShares widest most (excess - taken) (shares - 1) rest
    else w :: takeShares widest most excess shares rest

/-- Narrows the widest columns, at most until they are as narrow as the next ones, and again while
there is an excess. -/
def narrow : Nat → Nat → List Nat → List Nat
  | 0, _, widths => widths
  | bound + 1, terminal, widths =>
    let excess := widths.foldl (· + ·) 0 - terminal
    let widest := widths.foldl max 0
    let next := widths.foldl (fun n w => if w = widest then n else max n w) 0
    if excess = 0 || widest = next then widths
    else
      let shares := (widths.filter (· = widest)).length
      narrow bound terminal (takeShares widest (min excess (widest - next)) excess shares widths)

/-- The widths of the columns in a terminal. -/
def widths (t : Table) (terminal : Nat) : List Nat :=
  let available := terminal - wallWidth t.columns.length
  let natural := t.naturalWidths.map (min available)
  narrow (natural.foldl (· + ·) 1) available natural

/-! ## Drawing -/

/-- A line of a frame. -/
def rule (left fill joint right : Char) (widths : List Nat) : List Char :=
  left :: [joint].intercalate (widths.map fun w => List.replicate w fill) ++ [right]

/-- A line of cells. -/
def cellLine (wall : Char) (cells : List (List Char)) : List Char :=
  wall :: ' ' :: [' ', wall, ' '].intercalate cells ++ [' ', wall]

/-- The lines of a cell. -/
def cellLines (atRight : Bool) (columns : Nat) (cell : List Char) : List (List Char) :=
  (Lines.wrap columns .ellipsis true cell).map fun line =>
    if atRight then Lines.padLeft columns .ellipsis line
    else Lines.padRight columns .ellipsis line

/-- The lines of a row, one below the other. -/
def rowLines (wall : Char) (columns : List (Column × Nat)) (cells : List (List Char)) :
    List (List Char) :=
  let blocks := (columns.zip cells).map fun ((c, w), cell) =>
    (w - 2, cellLines c.atRight (w - 2) cell)
  let height := blocks.foldl (fun n b => max n b.2.length) 1
  (List.range height).map fun i =>
    cellLine wall (blocks.map fun b => (b.2[i]?).getD (Lines.blanks b.1))

/-- The lines of a table. -/
def lines (t : Table) (terminal : Nat) : List (List Char) :=
  let widths := t.widths terminal
  let columns := t.columns.zip widths
  let whole := widths.foldl (· + ·) 0 + wallWidth widths.length
  (Lines.wrap whole .fold true t.title.toList).map (Lines.center whole .fold) ++
    [rule '┏' '━' '┳' '┓' widths] ++
    rowLines '┃' columns (t.columns.map fun c => c.name.toList) ++
    [rule '┡' '━' '╇' '┩' widths] ++
    t.rows.flatMap (rowLines '│' columns) ++
    [rule '└' '─' '┴' '┘' widths]

end Table
end ApiCompiler
