import ApiCompiler.Json.Value

/-!
# Arguments

A command line names a command, and gives it words and options.  An option has a long name, such
as `--config`, and may have a letter, such as `-c`.  Its value follows it, as the next argument or
behind `=`; behind a letter it may follow at once.  A switch has no value.  After `--` everything
is a word.
-/

namespace ApiCompiler

/-- An option of a command. -/
structure Flag where
  name : String
  letter : Option Char
  takesValue : Bool

/-- What the arguments of a command are: words, and options with their values, in order. -/
structure Arguments where
  words : List String
  values : List (String × String)

namespace Arguments

/-- No arguments. -/
def none : Arguments := ⟨[], []⟩

/-- Adds a word in front. -/
def addWord (word : String) (a : Arguments) : Arguments := { a with words := word :: a.words }

/-- Adds an option in front. -/
def addValue (name value : String) (a : Arguments) : Arguments :=
  { a with values := (name, value) :: a.values }

/-- Letters behind one hyphen: the options they name with their values, and the option that still
waits for its value. -/
def letters? (flags : List Flag) :
    List Char → Option (List (String × String) × Option String)
  | [] => some ([], Option.none)
  | c :: cs => do
    let flag ← flags.find? fun f => f.letter = some c
    if flag.takesValue then
      if cs.isEmpty then pure ([], some flag.name)
      else pure ([(flag.name, String.ofList cs)], Option.none)
    else
      let (values, waiting) ← letters? flags cs
      pure ((flag.name, "") :: values, waiting)

/-- A long option: its value if one follows it behind `=`, or the option that still waits for its
value. -/
def long? (flags : List Flag) (cs : List Char) :
    Option (List (String × String) × Option String) := do
  let name := cs.takeWhile (· ≠ '=')
  let flag ← flags.find? fun f => f.name.toList = name
  match cs.drop name.length, flag.takesValue with
  | '=' :: value, true => pure ([(flag.name, String.ofList value)], Option.none)
  | [], true => pure ([], some flag.name)
  | [], false => pure ([(flag.name, "")], Option.none)
  | _, _ => Option.none

/-- Reads arguments; `waiting` is the option that the next one is the value of. -/
def readFrom (flags : List Flag) (waiting : Option String) : List String → Option Arguments
  | [] => if waiting.isSome then Option.none else some none
  | argument :: rest =>
    match waiting with
    | some name => (readFrom flags Option.none rest).map (addValue name argument)
    | Option.none =>
      let continued (found : List (String × String) × Option String) : Option Arguments :=
        (readFrom flags found.2 rest).map fun a => { a with values := found.1 ++ a.values }
      match argument.toList with
      | ['-', '-'] => some ⟨rest, []⟩
      | '-' :: '-' :: cs => (long? flags cs).bind continued
      | '-' :: c :: cs => (letters? flags (c :: cs)).bind continued
      | _ => (readFrom flags Option.none rest).map (addWord argument)

/-- Reads arguments. -/
def read (flags : List Flag) (arguments : List String) : Option Arguments :=
  readFrom flags Option.none arguments

/-- All values of an option. -/
def all (name : String) (a : Arguments) : List String :=
  a.values.filterMap fun e => if e.1 = name then some e.2 else Option.none

/-- The last value of an option. -/
def last? (name : String) (a : Arguments) : Option String := (a.all name).getLast?

end Arguments

/-- What a command line asks for. -/
inductive Command where
  /-- Generate the clients of a configuration, or one of them. -/
  | generate (config client : Option String)
  /-- Show what a client with some tags would get. -/
  | inspect (spec : String) (includeTags excludeTags : List String) (target : String)
  /-- Check that a document loads and compiles. -/
  | validate (spec : String)
  deriving DecidableEq

namespace Command

/-- The switch that every command but `validate` has. -/
def verbose : Flag := ⟨"verbose", some 'v', false⟩

/-- The options of `generate`. -/
def generateFlags : List Flag := [⟨"config", some 'c', true⟩, ⟨"client", none, true⟩, verbose]

/-- The options of `inspect`. -/
def inspectFlags : List Flag :=
  [⟨"include-tag", none, true⟩, ⟨"exclude-tag", none, true⟩, ⟨"target", some 't', true⟩, verbose]

/-- The command of a command line. -/
def ofArguments? : List String → Option Command
  | "generate" :: rest => do
    let a ← Arguments.read generateFlags rest
    if a.words.isEmpty then pure (.generate (a.last? "config") (a.last? "client")) else none
  | "inspect" :: rest => do
    let a ← Arguments.read inspectFlags rest
    match a.words with
    | [spec] =>
      pure (.inspect spec (a.all "include-tag") (a.all "exclude-tag")
        ((a.last? "target").getD "typescript"))
    | _ => none
  | "validate" :: rest => do
    let a ← Arguments.read [] rest
    match a.words with
    | [spec] => pure (.validate spec)
    | _ => none
  | _ => none

end Command
end ApiCompiler
