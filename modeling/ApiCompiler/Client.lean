import ApiCompiler.Derivation.TagFilter
import ApiCompiler.Document.Check
import ApiCompiler.Path

/-!
# Clients

A client says what is generated for it: the target, the tags it is filtered by, the directory its
files go to, what runs before and after, and which files are left out.

A key may be written in either of two spellings; the first one counts if both are there, and any
other key is refused.
-/

namespace ApiCompiler

/-- A client to generate. -/
structure Client where
  target : String
  outDir : String
  packageName : String
  moduleName : Option String
  name : String
  includeTags : List String
  excludeTags : List String
  filterMode : FilterMode
  namingCommand : Option String
  preCommand : List String
  postCommand : List String
  defaultBaseURL : Option String
  exclude : List String

namespace Client

/-! ## Reading -/

/-- The spelling under which a key is written; the first one if it is missing. -/
def spelling (es : List (Value.Scalar × Value)) (first second : String) : String :=
  if (Value.entry? first es).isNone && (Value.entry? second es).isSome then second else first

/-- The keys of a client in both spellings. -/
def keys : List (String × String) :=
  [("type", "type"), ("outDir", "out_dir"), ("packageName", "package_name"),
    ("moduleName", "module_name"), ("name", "name"), ("includeTags", "include_tags"),
    ("excludeTags", "exclude_tags"), ("filterMode", "filter_mode"),
    ("operationIdParser", "operation_id_parser"), ("preCommand", "pre_command"),
    ("postCommand", "post_command"), ("defaultBaseURL", "default_base_url"),
    ("exclude", "exclude")]

/-- A mode of filtering. -/
def mode : Value → Checked FilterMode
  | .scalar (.text s) =>
    match FilterMode.ofName? s with
    | some m => .ok m
    | none => .fail (.notOneOf ["operation", "service"])
  | _ => .fail (.notOneOf ["operation", "service"])

/-- Refuses the keys that are not known. -/
def onlyKnown (known : List String) : List (Value.Scalar × Value) → Checked Unit
  | [] => .ok ()
  | (.text k, _) :: rest =>
    if known.contains k then onlyKnown known rest
    else (Checked.fail .extra : Checked Unit).under k *> onlyKnown known rest
  | (k, _) :: rest =>
    (Checked.fail .keyNotText : Checked Unit).under k.shown *> onlyKnown known rest

/-- The client that entries describe. -/
def ofEntries (es : List (Value.Scalar × Value)) : Checked Client :=
  let key := spelling es
  let texts (first second : String) : Checked (List String) :=
    (·.getD []) <$> Check.present es (key first second) (Check.list Check.text)
  (fun target outDir packageName moduleName name includeTags excludeTags filterMode namingCommand
      preCommand postCommand defaultBaseURL exclude _ =>
      { target, outDir, packageName, moduleName, name, includeTags, excludeTags,
        filterMode := filterMode.getD .operation, namingCommand, preCommand, postCommand,
        defaultBaseURL, exclude })
    <$> Check.required es "type" Check.text
    <*> Check.required es (key "outDir" "out_dir") Check.text
    <*> Check.required es (key "packageName" "package_name") Check.text
    <*> Check.optional es (key "moduleName" "module_name") Check.text
    <*> Check.required es "name" Check.text
    <*> texts "includeTags" "include_tags"
    <*> texts "excludeTags" "exclude_tags"
    <*> Check.present es (key "filterMode" "filter_mode") mode
    <*> Check.optional es (key "operationIdParser" "operation_id_parser") Check.text
    <*> texts "preCommand" "pre_command"
    <*> texts "postCommand" "post_command"
    <*> Check.optional es (key "defaultBaseURL" "default_base_url") Check.text
    <*> texts "exclude" "exclude"
    <*> onlyKnown (keys.map fun k => key k.1 k.2) es

/-- The client that a value describes. -/
def ofValue : Value → Checked Client := Check.model "ClientConfig" ofEntries

/-! ## Use -/

/-- The filter of a client. -/
def filter (c : Client) : Except Failure TagFilter :=
  TagFilter.ofPatterns c.includeTags c.excludeTags c.filterMode

/-- The path of the directory that the files of a client go to. -/
def directory (c : Client) : Path := .ofString c.outDir

/-- Whether an entry leaves out what the names lead to: it is the entry or lies below it. -/
def leavesOut (names : List String) (entry : String) : Bool :=
  let p := Path.ofString entry
  !p.isAbsolute && !p.names.isEmpty && p.names.isPrefixOf names

/-- Whether a path is left out.  Paths are compared by their lexical meaning in a directory; what
does not lie below the directory of the client is never left out. -/
def excludes (c : Client) (current : Path) (target : Path) : Bool :=
  let names := Path.relative (current.resolved target) (current.resolved c.directory)
  !(names.length > 1 && names.head? = some "..") && c.exclude.any (leavesOut names)

end Client
end ApiCompiler
