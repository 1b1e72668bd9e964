import ApiCompiler.Text.CodePoints

/-!
# Paths

A path is a list of names, each separated from the next by slashes.  Empty names and single
points say nothing and are dropped when a text is read; two points are kept, since what they mean
depends on what is there.  `Path.resolved` is the lexical meaning: two points take back the name
before them.
-/

namespace ApiCompiler

/-- A path.  `slashes` are those it starts with: none, one, or two, which some systems tell
apart. -/
structure Path where
  slashes : Nat
  names : List String
  deriving DecidableEq

namespace Path

/-- The number of slashes that count as the start of a path; three and more count as one. -/
def leadingSlashes (cs : List Char) : Nat :=
  match (cs.takeWhile (· = '/')).length with
  | 0 => 0
  | 2 => 2
  | _ => 1

/-- Reads a path. -/
def ofString (text : String) : Path :=
  ⟨leadingSlashes text.toList,
    ((CodePoints.cut '/' text.toList).filter fun name => name ≠ [] && name ≠ ['.']).map
      String.ofList⟩

/-- The path of the directory a program runs in. -/
def current : Path := ⟨0, []⟩

/-- Whether a path does not depend on the current directory. -/
def isAbsolute (p : Path) : Bool := p.slashes ≠ 0

/-- The text of a path. -/
def text (p : Path) : String :=
  if p.slashes = 0 && p.names.isEmpty then "."
  else String.ofList (List.replicate p.slashes '/') ++ "/".intercalate p.names

/-- A path below another one; an absolute path stands for itself. -/
def join (base p : Path) : Path :=
  if p.isAbsolute then p else ⟨base.slashes, base.names ++ p.names⟩

/-- A name below a path. -/
def child (p : Path) (name : String) : Path := ⟨p.slashes, p.names ++ [name]⟩

/-- The path without its last name. -/
def parent (p : Path) : Path := ⟨p.slashes, p.names.dropLast⟩

/-- What follows the last point of the last name, the point included; nothing if the point is the
first or the last character of the name. -/
def suffix (p : Path) : String :=
  let reversed := ((p.names.getLast?).getD "").toList.reverse
  let after := reversed.takeWhile (· ≠ '.')
  match reversed.drop after.length with
  | '.' :: _ :: _ => if after.isEmpty then "" else String.ofList ('.' :: after.reverse)
  | _ => ""

/-! ## Lexical meaning -/

/-- Names with two points taken back, the nearest name first. -/
def takeBack (names : List String) : List String :=
  names.foldl (fun back name => if name = ".." then back.tail else name :: back) []

/-- The names of an absolute path, two points resolved; above the root is the root. -/
def resolvedNames (names : List String) : List String := (takeBack names).reverse

/-- The absolute path that a path means in a directory. -/
def resolved (directory p : Path) : List String := resolvedNames (directory.join p).names

/-- What is left of two lists without the longest start they share. -/
def withoutShared : List String → List String → List String × List String
  | a :: as, b :: bs => if a = b then withoutShared as bs else (a :: as, b :: bs)
  | as, bs => (as, bs)

/-- The names that lead from one absolute path to another. -/
def relative (target start : List String) : List String :=
  let (up, down) := withoutShared start target
  up.map (fun _ => "..") ++ down

end Path
end ApiCompiler
