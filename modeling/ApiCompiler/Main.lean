import ApiCompiler.Console
import ApiCompiler.Workspace.Script

/-!
# The program

Takes the files below the current directory as they are, runs the command line on them, writes
what has changed, and prints.  Hidden files are not taken, and neither is what is no text.
Commands of clients run on the files that were taken.
-/

namespace ApiCompiler
namespace Program

/-- The variables that settings may come from. -/
def settingVariables : List String := ["SDKGEN_SPEC", "SDKGEN_NAME", "SDKGEN_CLIENTS", "SDKGEN_STRICT"]

/-- The environment, as far as settings may come from it. -/
def environment : IO (List (String × String)) :=
  settingVariables.filterMapM fun name => do
    let value ← IO.getEnv name
    pure (value.map fun text => (name, text))

/-- The text of a file, unless it is no text. -/
def textOf (path : String) : IO (Option String) := do
  try
    let text ← IO.FS.readFile path
    pure (some text)
  catch _ => pure none

/-- The files and directories below a directory, at most as deep as the bound says, by their
paths below the current directory; a directory has no text. -/
def entries (depth : Nat) (above : String) : IO (List (String × Option String)) := do
  match depth with
  | 0 => pure []
  | depth + 1 =>
    let mut found := []
    for entry in (← (← IO.FS.realPath above).readDir).toList do
      if !entry.fileName.startsWith "." then
        let path := if above = "." then entry.fileName else above ++ "/" ++ entry.fileName
        if ← entry.path.isDir then
          found := found ++ (path, none) :: (← entries depth path)
        else
          match ← textOf path with
          | some text => found := found ++ [(path, some text)]
          | none => pure ()
    pure found

/-- The files below the current directory. -/
def workspace : IO Workspace := do
  let directory := Path.ofString (← IO.currentDir).toString
  pure (.ofFiles directory (← entries 32 "."))

/-- Makes the directories that a run has made, writes the files it has changed, and takes away
those it has removed. -/
def save (before after : Workspace) : IO Unit := do
  for name in after.directories do
    IO.FS.createDirAll name
  for (name, text) in after.changedSince before do
    IO.FS.writeFile name text
  for (name, _) in before.files do
    if (lookup? name after.files).isNone then IO.FS.removeFile name

/-- Documents are read from files only. -/
def fetch (_ : String) : Except String Reply := .error "Addresses cannot be fetched"

end Program
end ApiCompiler

open ApiCompiler in
/-- Runs a command line. -/
def main (arguments : List String) : IO UInt32 := do
  let before ← Program.workspace
  let host := Workspace.host before.directory Program.fetch
  let (ending, after) := Console.runArguments host (← Program.environment) arguments before
  Program.save before after
  IO.print ending.output
  pure (UInt32.ofNat ending.status)
