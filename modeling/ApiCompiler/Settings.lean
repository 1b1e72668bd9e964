import ApiCompiler.Client
import ApiCompiler.Failure
import ApiCompiler.Host
import ApiCompiler.Json.Reader
import ApiCompiler.Text.Letters

/-!
# Settings

What a run generates: a document, clients, and whether the run is strict.  Settings come from the
entries of a configuration; what is missing there is taken from the variables of the environment.
Neither tells small and capital letters apart, unless the configuration asks for it.
-/

namespace ApiCompiler

/-- The settings of a run. -/
structure Settings where
  spec : String
  name : Option String
  clients : List Client
  strict : Bool

/-- Why there are no settings. -/
inductive SettingsError where
  | failure (f : Failure)
  /-- The variable for a field is no JSON. -/
  | variable (field : String)
  /-- The project file is no TOML. -/
  | projectFile
  /-- A configuration cannot be read. -/
  | file (e : FileError)

namespace Settings

/-! ## Where fields come from -/

/-- The fields of the settings. -/
def fields : List String := ["spec", "name", "clients", "strict"]

/-- A text in lower case. -/
def small (s : String) : String := String.ofList (Text.lower s.toList)

/-- How the variables of the environment are looked up. -/
structure Lookup where
  /-- What the name of a variable starts with. -/
  front : String
  /-- Whether small and capital letters are told apart. -/
  exact : Bool
  /-- Whether a variable without content counts as missing. -/
  skipEmpty : Bool
  /-- The content that stands for null. -/
  nullText : Option String

/-- The keys that say how the environment is looked up, and the others that no field is meant by
and that are passed over. -/
def lookupKeys : List String :=
  ["_case_sensitive", "_nested_model_default_partial_update", "_env_prefix", "_env_file",
   "_env_file_encoding", "_env_ignore_empty", "_env_nested_delimiter", "_env_nested_max_split",
   "_env_parse_none_str", "_env_parse_enums", "_cli_prog_name", "_cli_parse_args",
   "_cli_settings_source", "_cli_parse_none_str", "_cli_hide_none_type", "_cli_avoid_json",
   "_cli_enforce_required", "_cli_use_class_docs_for_groups", "_cli_exit_on_error", "_cli_prefix",
   "_cli_flag_prefix_char", "_cli_implicit_flags", "_cli_ignore_unknown_args", "_cli_kebab_case",
   "_cli_shortcuts", "_secrets_dir"]

/-- The text under a key. -/
def textUnder? (key : String) (es : List (Value.Scalar × Value)) : Option String :=
  match Value.entry? key es with
  | some (.scalar (.text s)) => some s
  | _ => none

/-- Whether something other than an empty value is under a key. -/
def isOn (key : String) (es : List (Value.Scalar × Value)) : Bool :=
  ((Value.entry? key es).map fun v => !v.isEmptyValue).getD false

/-- How entries say that the environment is looked up. -/
def Lookup.ofEntries (es : List (Value.Scalar × Value)) : Lookup :=
  { front := (textUnder? "_env_prefix" es).getD "SDKGEN_"
    exact := isOn "_case_sensitive" es
    skipEmpty := isOn "_env_ignore_empty" es
    nullText := textUnder? "_env_parse_none_str" es }

/-- The key under which a field is written: its name, or else the first key that differs from it
by the size of letters only. -/
def keyOf? (field : String) (es : List (Value.Scalar × Value)) : Option String :=
  if (Value.entry? field es).isSome then some field
  else es.findSome? fun e =>
    match e.1 with
    | .text k => if small k = field then some k else none
    | _ => none

/-- The variable of a field; of several spellings the last one counts. -/
def Lookup.text? (l : Lookup) (field : String) (environment : List (String × String)) :
    Option String :=
  let spelled (name : String) : String := if l.exact then name else small name
  ((environment.reverse.find? fun e => spelled e.1 = spelled (l.front ++ field)).map (·.2)).filter
    fun text => !(l.skipEmpty && text.isEmpty)

/-- The value that the environment gives to a field. -/
def Lookup.value (l : Lookup) (field : String) (environment : List (String × String)) :
    Except SettingsError (Option Value) :=
  match l.text? field environment with
  | none => .ok none
  | some text =>
    if l.nullText = some text then .ok (some (.scalar .null))
    else if field = "clients" then
      match Json.ofString text with
      | .ok v => .ok (some (.ofJson v))
      | .error _ => .error (.variable field)
    else .ok (some (.scalar (.text text)))

/-- The entries for the given fields: those written, and those of the environment. -/
def gather (es : List (Value.Scalar × Value)) (environment : List (String × String)) :
    List String → Except SettingsError (List (Value.Scalar × Value))
  | [] => .ok []
  | field :: rest => do
    let ours ← (Lookup.ofEntries es).value field environment
    let others ← gather es environment rest
    match ((keyOf? field es).bind fun k => Value.entry? k es).or ours with
    | some v => pure ((.text field, v) :: others)
    | none => pure others

/-- The entries that belong to no field, whatever the size of their letters. -/
def others (es : List (Value.Scalar × Value)) : List (Value.Scalar × Value) :=
  es.filter fun e =>
    match e.1 with
    | .text k => !fields.contains (small k) && !lookupKeys.contains k
    | _ => true

/-- Whether every key is a text. -/
def hasTextKeys (es : List (Value.Scalar × Value)) : Bool :=
  es.all fun e =>
    match e.1 with
    | .text _ => true
    | _ => false

/-! ## Checking -/

/-- The first name that is given to a client after another one has it. -/
def repeatedName? (seen : List String) : List Client → Option String
  | [] => none
  | c :: cs => if seen.contains c.name then some c.name else repeatedName? (c.name :: seen) cs

/-- Settings in which no two clients have one name. -/
def withDistinctNames (s : Settings) : Checked Settings :=
  match repeatedName? [] s.clients with
  | some name => .fail (.duplicateClient name)
  | none => .ok s

/-- The settings that entries describe. -/
def check (es : List (Value.Scalar × Value)) : Checked Settings :=
  let read : Checked Settings :=
    (fun spec name clients strict _ => ⟨spec, name, clients.getD [], strict.getD false⟩)
      <$> Check.required es "spec" Check.text
      <*> Check.optional es "name" Check.text
      <*> Check.present es "clients" (Check.list Client.ofValue)
      <*> Check.present es "strict" Check.boolean
      <*> Client.onlyKnown fields es
  match read with
  | .ok s => withDistinctNames s
  | .faulty issues => .faulty issues

/-- The settings that a value and the environment describe; `source` says where the value comes
from. -/
def ofValue (source : String) (environment : List (String × String)) (v : Value) :
    Except SettingsError Settings :=
  match v with
  | .map es => do
    if !hasTextKeys es then throw (.failure (.breakdown .keyNotText))
    let gathered ← gather es environment fields
    match check (gathered ++ others es) with
    | .ok s => pure s
    | .faulty issues =>
      let problems := "; ".intercalate (issues.map Issue.message)
      .error (.failure (.configuration s!"Invalid configuration ({problems})" (some source) none))
  | _ => .error (.failure (.configuration "Configuration must be a mapping" (some source) none))

/-! ## Clients -/

/-- The client of a name. -/
def client (s : Settings) (name : String) : Except Failure Client :=
  match s.clients.find? fun c => c.name = name with
  | some c => .ok c
  | none =>
    let names := ", ".intercalate (s.clients.map (·.name))
    let available := if names.isEmpty then "none" else names
    .error (.configuration
      ("No client named " ++ Text.quoted name ++ " (available: " ++ available ++ ")")
      none (some "clients"))

/-- The clients of a run: the one named, or all; no name and the empty name mean all. -/
def selected (s : Settings) (name : Option String) : Except Failure (List Client) := do
  let clients ← match name with
    | none => pure s.clients
    | some n => if n.isEmpty then pure s.clients else do
        let c ← s.client n
        pure [c]
  if clients.isEmpty then .error (.configuration "No clients configured" none (some "clients"))
  else pure clients

end Settings
end ApiCompiler
