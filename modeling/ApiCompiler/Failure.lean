import ApiCompiler.Breakdown
import ApiCompiler.Json.Writer
import ApiCompiler.Registry

/-!
# Failures

Everything that ends a run, with the wording that is shown.  What caused a failure below this
level (a file that cannot be read, a text that cannot be parsed) is kept as its message.
-/

namespace ApiCompiler

/-- Why a run ends. -/
inductive Failure where
  /-- A document could not be loaded. -/
  | load (source : String) (cause : Option String)
  /-- A document is not a valid description. -/
  | invalidDocument (source : String) (problems : List String)
  /-- A reference to a reusable definition cannot be followed. -/
  | reference (target : String) (reason : Option String)
  /-- Two different shapes were given one name. -/
  | nameCollision (name : String)
  /-- Models are referred to that do not exist. -/
  | unresolvedReferences (names : List String)
  /-- The configuration is wrong. -/
  | configuration (problem : String) (path field : Option String)
  /-- A tag pattern cannot be read. -/
  | filterPattern (pattern : String) (field reason : Option String)
  /-- A client asks for a target that is not known. -/
  | unsupportedTarget (target : String) (available : List String)
  /-- A command before or after generation failed. -/
  | command (label : String) (words : List String) (status : Option Int) (cause : Option String)
  /-- Output could not be written. -/
  | output (path : String) (cause : Option String)
  /-- An operation gave up. -/
  | breakdown (reason : Breakdown)

namespace Failure

/-- A part of a message that is there only if its text is known and not empty. -/
def suffix (before : String) (text : Option String) (after : String) : String :=
  match text with
  | some t => if t.isEmpty then "" else before ++ t ++ after
  | none => ""

/-- A part of a message that is there only if its text is known. -/
def cause (text : Option String) : String := (text.map (": " ++ ·)).getD ""

/-- The message of a problem with the configuration: where it is, and which field is meant. -/
def located (problem : String) (path field : Option String) : String :=
  problem ++ suffix " in '" path "'" ++ suffix " (field: " field ")"

/-- The names of available targets, sorted. -/
def sortedNames (names : List String) : List String := names.mergeSort (· ≤ ·)

/-- The wording of a failure. -/
def message : Failure → String
  | .load source why => s!"Failed to load schema from '{source}'" ++ cause why
  | .invalidDocument source problems =>
    s!"Schema validation failed for '{source}'" ++
      (if problems.isEmpty then "" else ": " ++ "; ".intercalate problems)
  | .reference target reason =>
    s!"Failed to resolve reference '{target}'" ++ suffix ": " reason ""
  | .nameCollision name =>
    s!"Synthetic model name '{name}' is already registered with a different shape"
  | .unresolvedReferences names =>
    "Unresolved model references: " ++ ", ".intercalate (sortedNames names)
  | .configuration problem path field => located problem path field
  | .filterPattern pattern field reason =>
    located ("Invalid tag filter pattern " ++ Text.quoted pattern ++ suffix ": " reason "") none
      field
  | .unsupportedTarget target available =>
    located ("Unsupported client type: " ++ Text.quoted target ++
      (if available.isEmpty then ""
        else " (available: " ++ ", ".intercalate (sortedNames available) ++ ")"))
      none (some "type")
  | .command label words status why =>
    label ++ " (" ++ " ".intercalate words ++ ") failed" ++
      (match status with
        | some n => " with exit status " ++ String.ofList (Json.writeInt n)
        | none => "") ++ cause why
  | .output path why => s!"Failed to write output to '{path}'" ++ cause why
  | .breakdown reason => reason.message

/-- The failure of a build. -/
def ofCompileError : CompileError → Failure
  | .nameCollision name => .nameCollision name
  | .reference target fault => .reference target (some fault.message)
  | .breakdown reason => .breakdown reason

end Failure
end ApiCompiler
