import ApiCompiler.Path
import ApiCompiler.Reply
import ApiCompiler.Text.Quoted

/-!
# What a run asks of its surroundings

A run reads and writes files, fetches documents and starts commands.  Everything of that kind goes
through a `Host`, whose operations act on a state of their own.  What is proved of a run for every
host holds for one that only keeps a journal, and so says which operations a run performs.
-/

namespace ApiCompiler

/-! ## Failing -/

/-- Why a path cannot be used. -/
inductive FileFault where
  | missing
  | denied
  | taken
  | notDirectory
  | isDirectory
  deriving DecidableEq

/-- The number of a fault. -/
def FileFault.number : FileFault → Nat
  | .missing => 2
  | .denied => 13
  | .taken => 17
  | .notDirectory => 20
  | .isDirectory => 21

/-- The wording of a fault. -/
def FileFault.message : FileFault → String
  | .missing => "No such file or directory"
  | .denied => "Permission denied"
  | .taken => "File exists"
  | .notDirectory => "Not a directory"
  | .isDirectory => "Is a directory"

/-- A fault and the path it concerns. -/
structure FileError where
  fault : FileFault
  path : String
  deriving DecidableEq

/-- The wording of a file error. -/
def FileError.message (e : FileError) : String :=
  s!"[Errno {e.fault.number}] {e.fault.message}: {Text.quoted e.path}"

/-! ## Answers -/

/-- What became of a command: it ended with a status and printed something, or it could not be
started. -/
inductive CommandResult where
  | ended (status : Int) (output : String)
  | notStarted (error : FileError)

/-! ## Hosts -/

/-- The surroundings of a run, acting on a state `σ`. -/
structure Host (σ : Type) where
  /-- The current directory. -/
  directory : Path
  /-- The text of a file. -/
  read : Path → σ → Except FileError String
  /-- The answer from an address, or why there is none. -/
  fetch : String → σ → Except String Reply
  /-- Makes a directory and those above it; one that is there is left alone. -/
  makeDirectories : Path → StateM σ (Except FileError Unit)
  /-- Writes a file. -/
  write : Path → String → StateM σ (Except FileError Unit)
  /-- Runs a command in a directory. -/
  run : List String → Path → StateM σ CommandResult

end ApiCompiler
