import ApiCompiler.Host
import ApiCompiler.Json.Value

/-!
# File trees

A `Workspace` is a tree of files and directories and the directory that relative paths start from.
Entries are kept by their location, the names from the root; the root itself is always there.

A path leads to a location by walking its names: every name but the last has to be a directory,
and two points lead to the directory above.
-/

namespace ApiCompiler

/-- What is at a location. -/
inductive Workspace.Entry where
  | directory
  | file (text : String)
  deriving DecidableEq

/-- A tree of files. -/
structure Workspace where
  /-- The directory that relative paths start from. -/
  directory : Path
  entries : List (List String × Workspace.Entry)

namespace Workspace

/-- What is at a location, if anything. -/
def entry? (w : Workspace) (location : List String) : Option Entry :=
  if location.isEmpty then some .directory else lookup? location w.entries

/-- Puts an entry at a location. -/
def place (w : Workspace) (location : List String) (e : Entry) : Workspace :=
  { w with entries := put location e w.entries }

/-- Takes away what is at a location and below it. -/
def clear (w : Workspace) (location : List String) : Workspace :=
  { w with entries := w.entries.filter fun e => !location.isPrefixOf e.1 }

/-- The location that names lead to from another one.  Nothing need be there. -/
def walk (w : Workspace) (location : List String) : List String → Except FileFault (List String)
  | [] => .ok location
  | name :: names =>
    match w.entry? location with
    | none => .error .missing
    | some (.file _) => .error .notDirectory
    | some .directory =>
      w.walk (if name = ".." then location.dropLast else location ++ [name]) names

/-- The location of a path. -/
def locate (w : Workspace) (p : Path) : Except FileFault (List String) :=
  w.walk (if p.isAbsolute then [] else w.directory.names) p.names

/-- What is at a path. -/
def find (w : Workspace) (p : Path) : Except FileFault Entry :=
  match w.locate p with
  | .error f => .error f
  | .ok location =>
    match w.entry? location with
    | some e => .ok e
    | none => .error .missing

/-- Whether a directory is at a path. -/
def isDirectory (w : Workspace) (p : Path) : Bool := w.find p matches .ok .directory

/-- Whether a file is at a path. -/
def isFile (w : Workspace) (p : Path) : Bool := w.find p matches .ok (.file _)

/-! ## Files -/

/-- The text with every line end written as one character. -/
def plainLines : List Char → List Char
  | '\r' :: '\n' :: cs => '\n' :: plainLines cs
  | '\r' :: cs => '\n' :: plainLines cs
  | c :: cs => c :: plainLines cs
  | [] => []

/-- The text of the file at a path. -/
def read (w : Workspace) (p : Path) : Except FileFault String :=
  match w.find p with
  | .error f => .error f
  | .ok .directory => .error .isDirectory
  | .ok (.file text) => .ok (String.ofList (plainLines text.toList))

/-- Writes a file; the directory it lies in has to be there. -/
def write (w : Workspace) (p : Path) (text : String) : Except FileFault Workspace :=
  match w.locate p with
  | .error f => .error f
  | .ok location =>
    match w.entry? location with
    | some .directory => .error .isDirectory
    | _ => .ok (w.place location (.file text))

/-! ## Directories -/

/-- Makes a directory; the one it lies in has to be there. -/
def makeDirectory (w : Workspace) (p : Path) : Except FileFault Workspace :=
  match w.locate p with
  | .error f => .error f
  | .ok location =>
    match w.entry? location with
    | some _ => .error .taken
    | none => .ok (w.place location .directory)

/-- Makes a directory unless it is there. -/
def ensureDirectory (w : Workspace) (p : Path) : Except FileFault Workspace :=
  match w.makeDirectory p with
  | .ok v => .ok v
  | .error f => if w.isDirectory p then .ok w else .error f

/-- Makes a directory and those above it; the names are given from the last one on.  What was made
before a failure stays. -/
def ensureAll (slashes : Nat) : List String → StateM Workspace (Except FileError Unit)
  | [] => pure (.ok ())
  | last :: above => do
    let p : Path := ⟨slashes, (last :: above).reverse⟩
    match (← get).ensureDirectory p with
    | .ok w => do
      set w
      pure (.ok ())
    | .error .missing => do
      match ← ensureAll slashes above with
      | .error e => pure (.error e)
      | .ok _ =>
        match (← get).ensureDirectory p with
        | .ok w => do
          set w
          pure (.ok ())
        | .error f => pure (.error ⟨f, p.text⟩)
    | .error f => pure (.error ⟨f, p.text⟩)

/-- Makes a directory and those above it; one that is there is left alone. -/
def makeDirectories (p : Path) : StateM Workspace (Except FileError Unit) :=
  ensureAll p.slashes p.names.reverse

/-! ## Whole trees -/

/-- The names in a directory, sorted. -/
def namesIn (w : Workspace) (location : List String) : List String :=
  (w.entries.filterMap fun e =>
    if e.1.dropLast = location then e.1.getLast? else none).mergeSort (· ≤ ·)

/-- The tree that holds nothing but the directory relative paths start from. -/
def empty (directory : Path) : Workspace :=
  ⟨directory, (List.range directory.names.length).map fun n =>
    (directory.names.take (n + 1), .directory)⟩

/-- Adds a file, or a directory where there is no text, with the directories above it. -/
def add (w : Workspace) (name : String) (text : Option String) : Workspace :=
  let p := Path.ofString name
  match text with
  | none => (makeDirectories p w).2
  | some text =>
    let w := (makeDirectories p.parent w).2
    match w.write p text with
    | .ok v => v
    | .error _ => w

/-- The tree of some files and directories. -/
def ofFiles (directory : Path) (files : List (String × Option String)) : Workspace :=
  files.foldl (fun w e => w.add e.1 e.2) (empty directory)

/-- What is below the current directory, by relative paths. -/
def below (w : Workspace) : List (String × Entry) :=
  (w.entries.filter fun e => w.directory.names.isPrefixOf e.1).map fun e =>
    ("/".intercalate (e.1.drop w.directory.names.length), e.2)

/-- The files below the current directory, by their relative paths. -/
def files (w : Workspace) : List (String × String) :=
  w.below.filterMap fun e =>
    match e.2 with
    | .directory => none
    | .file text => some (e.1, text)

/-- The directories below the current directory, by their relative paths. -/
def directories (w : Workspace) : List String :=
  w.below.filterMap fun e =>
    match e.2 with
    | .directory => if e.1.isEmpty then none else some e.1
    | .file _ => none

/-- The files that an earlier tree does not hold, or holds with another text. -/
def changedSince (w before : Workspace) : List (String × String) :=
  w.files.filter fun e => lookup? e.1 before.files ≠ some e.2

end Workspace
end ApiCompiler
