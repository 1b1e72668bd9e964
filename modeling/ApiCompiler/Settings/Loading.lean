import ApiCompiler.Settings
import ApiCompiler.Toml.Reader
import ApiCompiler.Yaml.Reader

/-!
# Finding the settings

Settings are read from the file that is named.  If none is named, they are read from the first of
two files in the current directory that is there, and at last from a table of the project file.
-/

namespace ApiCompiler
namespace Settings

/-- The files that are looked for, in order. -/
def fileNames : List String := ["sdkgen.yaml", "sdkgen.yml"]

/-- The file of the project, and the table in it that holds settings. -/
def projectFile : String := "pyproject.toml"

/-- The failure of a run without any settings. -/
def missing : Failure :=
  .configuration
    ("No configuration found (looked for " ++ ", ".intercalate fileNames ++
      " and [tool.sdkgen] in pyproject.toml)")
    none none

/-- The settings in a text; `source` names the file.  A text that says nothing counts as an empty
mapping. -/
def ofYamlText (source : String) (environment : List (String × String)) (text : String) :
    Except SettingsError Settings :=
  match Yaml.ofString text with
  | .error .malformed => .error (.failure (.configuration "Invalid YAML" none none))
  | .error (.breakdown why) => .error (.failure (.breakdown why))
  | .ok v => ofValue source environment (if v.isEmptyValue then .map [] else v)

/-- Whether nothing is at a path. -/
def isAbsent {α : Type} (content : Except FileError α) : Bool :=
  match content with
  | .error e => e.fault = .missing || e.fault = .notDirectory
  | .ok _ => false

/-- The settings in the file that is named. -/
def ofNamedFile {σ : Type} (h : Host σ) (environment : List (String × String)) (name : String)
    (s : σ) : Except SettingsError Settings :=
  let content := h.read (.ofString name) s
  if isAbsent content then
    .error (.failure (.configuration "Configuration file not found" (some name) none))
  else
    match content with
    | .error e => .error (.file e)
    | .ok text => ofYamlText name environment text

/-- The key of the settings among those of all tools. -/
def toolKey : String := "sdkgen"

/-- Whether a value is the key of the settings. -/
def isToolKey : Value → Bool
  | .scalar (.text s) => s = toolKey
  | _ => false

/-- The settings among those of all tools. -/
def ofTools (source : String) (environment : List (String × String)) :
    Value → Except SettingsError Settings
  | .map es =>
    match Value.entry? toolKey es with
    | some settings => ofValue source environment settings
    | none => .error (.failure missing)
  | .scalar (.text s) =>
    .error (.failure (if Text.holds toolKey.toList s.toList then .breakdown .textForTable else missing))
  | .seq xs =>
    .error (.failure (if xs.any isToolKey then .breakdown .listForTable else missing))
  | .scalar s => .error (.failure (.breakdown (.valueForTable s.kind)))

/-- The settings in the table of the project file. -/
def ofProjectFile {σ : Type} (h : Host σ) (environment : List (String × String)) (s : σ) :
    Except SettingsError Settings :=
  let p := h.directory.child projectFile
  let content := h.read p s
  if isAbsent content then .error (.failure missing)
  else
    match content with
    | .error e => .error (.file e)
    | .ok text =>
      match Toml.ofString text with
      | .error .malformed => .error .projectFile
      | .error (.breakdown why) => .error (.failure (.breakdown why))
      | .ok v =>
        match v.get? "tool" with
        | some tools => ofTools p.text environment tools
        | none => .error (.failure missing)

/-- The settings in the first of some files that is there, or else in the project file. -/
def ofFirstFile {σ : Type} (h : Host σ) (environment : List (String × String)) (s : σ) :
    List String → Except SettingsError Settings
  | [] => ofProjectFile h environment s
  | name :: names =>
    let p := h.directory.child name
    let content := h.read p s
    if isAbsent content then ofFirstFile h environment s names
    else
      match content with
      | .error e => .error (.file e)
      | .ok text => ofYamlText p.text environment text

/-- The settings of a run; no name and the empty name mean that no file is named. -/
def load {σ : Type} (h : Host σ) (environment : List (String × String)) (name : Option String)
    (s : σ) : Except SettingsError Settings :=
  match name with
  | some n =>
    if n.isEmpty then ofFirstFile h environment s fileNames else ofNamedFile h environment n s
  | none => ofFirstFile h environment s fileNames

end Settings
end ApiCompiler
