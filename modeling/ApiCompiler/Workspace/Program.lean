import ApiCompiler.Workspace.Tree

/-!
# Programs

The programs that a command can start.  A program is given its arguments and the directory it runs
in, may change the tree, and ends with a status and what it printed.  Status zero is success.
-/

namespace ApiCompiler
namespace Workspace

/-- How a program ended. -/
structure Outcome where
  status : Nat
  output : String

namespace Outcome

/-- Success without output. -/
def done : Outcome := ⟨0, ""⟩

/-- Failure without output. -/
def failed : Outcome := ⟨1, ""⟩

/-- Success or failure. -/
def ofBool (ok : Bool) : Outcome := if ok then done else failed

/-- One after the other: the outputs joined, the worse status. -/
def also (a b : Outcome) : Outcome := ⟨max a.status b.status, a.output ++ b.output⟩

end Outcome

/-- A program: arguments, directory, and what it does to the tree. -/
abbrev Program := List String → Path → StateM Workspace Outcome

namespace Program

/-! ## Printing -/

/-- Whether an argument is an option of `echo`: a hyphen and some of its letters. -/
def isEchoOption (arg : String) : Bool :=
  match arg.toList with
  | '-' :: c :: cs => (c :: cs).all fun c => c = 'n' || c = 'e' || c = 'E'
  | _ => false

/-- Prints its arguments with blanks between them. -/
def echo : Program := fun args _ =>
  let options := args.takeWhile isEchoOption
  let newline := if options.any fun o => o.toList.contains 'n' then "" else "\n"
  pure ⟨0, " ".intercalate (args.drop options.length) ++ newline⟩

/-- The character that a letter stands for after a backslash in a pattern of `printf`. -/
def escaped? : Char → Option Char
  | 'n' => some '\n'
  | 't' => some '\t'
  | 'r' => some '\r'
  | '\\' => some '\\'
  | _ => none

/-- A pattern of `printf` filled with arguments, and the arguments left over.  An argument that is
missing is empty, or zero where a number is asked for. -/
def fillPattern (args : List String) : List Char → List Char × List String
  | [] => ([], args)
  | '%' :: '%' :: cs =>
    let (more, rest) := fillPattern args cs
    ('%' :: more, rest)
  | '%' :: 's' :: cs =>
    let (more, rest) := fillPattern args.tail cs
    ((args.headD "").toList ++ more, rest)
  | '%' :: 'd' :: cs =>
    let (more, rest) := fillPattern args.tail cs
    ((args.headD "0").toList ++ more, rest)
  | '\\' :: c :: cs =>
    let (more, rest) := fillPattern args cs
    match escaped? c with
    | some x => (x :: more, rest)
    | none => ('\\' :: c :: more, rest)
  | c :: cs =>
    let (more, rest) := fillPattern args cs
    (c :: more, rest)

/-- A pattern filled again and again until no arguments are left, or none is taken. -/
def fillAll (pattern : List Char) : Nat → List String → List Char
  | 0, _ => []
  | bound + 1, args =>
    let (text, rest) := fillPattern args pattern
    if rest.isEmpty || rest.length = args.length then text else text ++ fillAll pattern bound rest

/-- Prints its arguments by a pattern. -/
def printPattern : Program := fun args _ =>
  match args with
  | [] => pure ⟨2, ""⟩
  | pattern :: rest =>
    pure ⟨0, String.ofList (fillAll pattern.toList (rest.length + 1) rest)⟩

/-- Prints the location of the directory. -/
def printDirectory : Program := fun _ directory w =>
  match w.locate directory with
  | .ok location => (⟨0, "/" ++ "/".intercalate location ++ "\n"⟩, w)
  | .error _ => (.failed, w)

/-- Prints files one after the other. -/
def concatenate : Program := fun args directory w =>
  (args.foldl (fun sum arg =>
    match w.find (directory.join (.ofString arg)) with
    | .ok (.file text) => sum.also ⟨0, text⟩
    | _ => sum.also .failed) .done, w)

/-- The lines that list what is at a path. -/
def listed (w : Workspace) (hidden : Bool) (p : Path) (shown : String) : Outcome :=
  match w.locate p with
  | .error _ => ⟨2, ""⟩
  | .ok location =>
    match w.entry? location with
    | none => ⟨2, ""⟩
    | some (.file _) => ⟨0, shown ++ "\n"⟩
    | some .directory =>
      let names := (w.namesIn location).filter fun name => hidden || !name.startsWith "."
      ⟨0, "".intercalate (names.map (· ++ "\n"))⟩

/-- Splits arguments into options and others. -/
def options (args : List String) : List String × List String :=
  args.partition fun arg => arg.startsWith "-" && arg ≠ "-"

/-- Whether a letter is among the options. -/
def hasOption (letter : Char) (options : List String) : Bool :=
  options.any fun o => o.toList.contains letter

/-- Lists the directory, or what is at the given paths. -/
def list : Program := fun args directory w =>
  let (opts, names) := options args
  let hidden := hasOption 'A' opts
  let shown := names.map fun name => listed w hidden (directory.join (.ofString name)) name
  (if names.isEmpty then listed w hidden directory "."
    else shown.foldl Outcome.also .done, w)

/-! ## Changing the tree -/

/-- Performs a step for every argument; the status tells whether all succeeded. -/
def forEach (step : String → StateM Workspace Bool) : List String → StateM Workspace Outcome
  | [] => pure .done
  | arg :: args => do
    let ok ← step arg
    let rest ← forEach step args
    pure ((Outcome.ofBool ok).also rest)

/-- Replaces the tree by the result of a step that may fail. -/
def attempt (result : Workspace → Except FileFault Workspace) : StateM Workspace Bool := fun w =>
  match result w with
  | .ok v => (true, v)
  | .error _ => (false, w)

/-- Makes directories. -/
def makeDirectory : Program := fun args directory =>
  let (opts, names) := options args
  if names.isEmpty then pure .failed
  else forEach (fun name => do
    let p := directory.join (.ofString name)
    if hasOption 'p' opts then
      match ← makeDirectories p with
      | .ok _ => pure true
      | .error _ => pure false
    else attempt fun w => w.makeDirectory p) names

/-- Makes empty files where nothing is. -/
def touch : Program := fun args directory =>
  let names := (options args).2
  if names.isEmpty then pure .failed
  else forEach (fun name => do
    let p := directory.join (.ofString name)
    match (← get).find p with
    | .ok _ => pure true
    | .error _ => attempt fun w => w.write p "") names

/-- Removes files, and with an option directories. -/
def remove : Program := fun args directory =>
  let (opts, names) := options args
  let force := hasOption 'f' opts
  if names.isEmpty then pure (.ofBool force)
  else forEach (fun name => do
    let p := directory.join (.ofString name)
    let w ← get
    match w.locate p, w.find p with
    | .ok location, .ok e =>
      if e = .directory && !(hasOption 'r' opts || hasOption 'R' opts) then pure false
      else do
        set (w.clear location)
        pure true
    | _, _ => pure force) names

/-- Where a file goes that is copied to a path: into it, if it is a directory. -/
def destination (w : Workspace) (target : Path) (source : Path) : Path :=
  if w.isDirectory target then target.child ((source.names.getLast?).getD "") else target

/-- Copies a file. -/
def copy : Program := fun args directory => do
  match (options args).2 with
  | [source, target] =>
    let p := directory.join (.ofString source)
    let w ← get
    match w.find p with
    | .ok (.file text) =>
      let ok ← attempt fun w =>
        w.write (destination w (directory.join (.ofString target)) p) text
      pure (.ofBool ok)
    | _ => pure .failed
  | _ => pure .failed

/-- Moves a file. -/
def move : Program := fun args directory => do
  let p := match (options args).2 with
    | source :: _ => directory.join (.ofString source)
    | [] => directory
  let copied ← copy args directory
  if copied.status = 0 then
    match (← get).locate p with
    | .ok location => do
      modify fun w => w.clear location
      pure .done
    | .error _ => pure .failed
  else pure copied

/-! ## Testing -/

/-- Whether a condition holds; status two stands for a condition that cannot be read. -/
def condition (w : Workspace) (directory : Path) : List String → Outcome
  | [] => .failed
  | [s] => .ofBool (!s.isEmpty)
  | ["!", s] => .ofBool s.isEmpty
  | ["-n", s] => .ofBool (!s.isEmpty)
  | ["-z", s] => .ofBool s.isEmpty
  | ["-f", s] => .ofBool (w.isFile (directory.join (.ofString s)))
  | ["-d", s] => .ofBool (w.isDirectory (directory.join (.ofString s)))
  | ["-e", s] => .ofBool (w.find (directory.join (.ofString s)) matches .ok _)
  | ["!", op, s] =>
    match condition w directory [op, s] with
    | ⟨0, _⟩ => .failed
    | ⟨1, _⟩ => .done
    | o => o
  | [a, "=", b] => .ofBool (a = b)
  | [a, "!=", b] => .ofBool (a ≠ b)
  | _ => ⟨2, ""⟩

/-- Tests a condition. -/
def test : Program := fun args directory w => (condition w directory args, w)

/-- Tests a condition that a bracket closes. -/
def bracket : Program := fun args directory w =>
  (if args.getLast? = some "]" then condition w directory args.dropLast else ⟨2, ""⟩, w)

/-! ## All programs -/

/-- The programs by name. -/
def all : List (String × Program) :=
  [("true", fun _ _ => pure .done), ("false", fun _ _ => pure .failed), ("echo", echo),
    ("printf", printPattern), ("pwd", printDirectory), ("cat", concatenate), ("ls", list), ("mkdir", makeDirectory),
    ("touch", touch), ("rm", remove), ("cp", copy), ("mv", move), ("test", test),
    ("[", bracket), ("sleep", fun _ _ => pure .done)]

end Program
end Workspace
end ApiCompiler
