import ApiCompiler.Console.Arguments
import ApiCompiler.Console.Markup
import ApiCompiler.Console.Table
import ApiCompiler.Generation
import ApiCompiler.Settings.Loading
import ApiCompiler.Target.Projection

/-!
# The console

What the commands print, and the status they end with.  A failure is reported; after a breakdown
the run just ends.  What is printed is markup, and names and
titles are printed as they are, so a document may hold a tag that closes what is not open.  Such a
line cannot be shown: the run ends there with the status of a failure.
-/

namespace ApiCompiler

/-- How a run ends: its status, and everything it printed. -/
structure Ending where
  status : Nat
  output : String
  deriving DecidableEq

namespace Console

variable {σ : Type}

/-! ## Printing -/

/-- The columns of the terminal. -/
def columns : Nat := 1000

/-- Lines as text, each with its end. -/
def textOfLines (lines : List (List Char)) : String :=
  String.ofList (lines.flatMap fun line => line ++ ['\n'])

/-- The lines that are printed for a text. -/
def textLines (cs : List Char) : List (List Char) :=
  (Lines.wrap columns .fold true cs).map (Lines.cutLine columns .fold)

/-- What is printed for markup. -/
def printed? (markup : String) : Option String :=
  (Markup.render? markup).map fun cs => textOfLines (textLines cs)

/-- The columns of the sign of a run and those of the text after it.  The sign gives way to a text
that leaves no room for it. -/
def progressWidths (text : List Char) : Nat × Nat :=
  let needed := min columns (Lines.widest text)
  let sign := 2 - min 2 (Lines.widest text + 2 - columns)
  (sign, min needed (columns - sign))

/-- The lines that tell how far a run has come: a sign and a text that is not broken. -/
def progressLines (text : List Char) : List (List Char) :=
  let (sign, rest) := progressWidths text
  let signs := (if sign = 2 then ['⠋', ' '] else Lines.blanks sign) ::
    List.replicate text.length (Lines.blanks sign)
  (signs.zip (Lines.wrap rest .ellipsis false text)).map fun l =>
    l.1 ++ Lines.padRight rest .ellipsis l.2

/-- What is printed for markup that tells how far a run has come. -/
def progress? (markup : String) : Option String :=
  (Markup.render? ("[progress.description]" ++ markup)).map fun cs =>
    textOfLines (progressLines cs)

/-- What is printed for a table whose cells are markup. -/
def table? (title : String) (columns : List Column) (rows : List (List String)) :
    Option String := do
  let cells ← rows.mapM fun row => row.mapM Markup.render?
  pure (textOfLines (Table.lines ⟨title, columns, cells⟩ Console.columns))

/-- Ends a run that prints some pieces, up to the first one that cannot be shown. -/
def conclude (status : Nat) : List (Option String) → Ending
  | [] => ⟨status, ""⟩
  | none :: _ => ⟨1, ""⟩
  | some piece :: rest =>
    let rest := conclude status rest
    ⟨rest.status, piece ++ rest.output⟩

/-- The line that reports a failure; a breakdown is not reported. -/
def errorLine : Failure → Option String
  | .breakdown _ => none
  | f => printed? ("[red]Error:[/red] " ++ Markup.escape f.message)

/-- Ends a run with a failure. -/
def failed (f : Failure) : Ending := conclude 1 [errorLine f]

/-! ## Generating -/

/-- The lines that report the files of a client. -/
def generatedLines (client : String × List String) : List (Option String) :=
  printed? ("[green]Generated client " ++ client.1 ++ "[/green]") ::
    client.2.map fun path => printed? ("  - " ++ Markup.escape path)

/-- Generates the clients of settings. -/
def generateFrom (h : Host σ) (settings : Settings) (client : Option String) (s : σ) :
    Ending × σ :=
  match progress? ("Generating clients from " ++ settings.spec ++ "...") with
  | none => (conclude 1 [none], s)
  | some running =>
    let (result, after) := (Generation.generate h settings client).run.run ⟨s, []⟩
    match result with
    | .error f => (conclude 1 [some running, errorLine f], after.surroundings)
    | .ok clients =>
      (conclude 0 (progress? "Code generation completed!" :: clients.flatMap generatedLines),
        after.surroundings)

/-- Finds the settings and generates their clients. -/
def generate (h : Host σ) (environment : List (String × String)) (config client : Option String)
    (s : σ) : Ending × σ :=
  match Settings.load h environment config s with
  | .error (.failure f) => (failed f, s)
  | .error _ => (conclude 1 [none], s)
  | .ok settings => generateFrom h settings client s

/-! ## Inspecting -/

/-- The description that a client with some tags would get. -/
def derived (h : Host σ) (spec : String) (includeTags excludeTags : List String) (s : σ) :
    Except Failure Api := do
  let d ← Document.load h spec s
  let api ← (d.compile false).1.mapError Failure.ofCompileError
  let f ← TagFilter.ofPatterns includeTags excludeTags .operation
  let (api, _) ← api.derive false f
  pure api

/-- The table of services. -/
def servicesTable (api : Api) : Option String :=
  table? "Services" [⟨"Tag", false⟩, ⟨"Operations", true⟩]
    (api.services.map fun s => [s.tag, toString s.operations.length])

/-- The table of models, if the types of all of them can be spelled. -/
def modelsTable (t : Target) (api : Api) : Option String := do
  let rows ← api.models.mapM fun m => do
    let type ← (t.typeText (some api.modelNames) m.shape).toOption
    pure [m.name, Markup.escape type]
  table? s!"Models ({t.name})" [⟨"Name", false⟩, ⟨"Type", false⟩] rows

/-- Shows what a client with some tags would get. -/
def inspect (h : Host σ) (spec : String) (includeTags excludeTags : List String)
    (target : String) (s : σ) : Ending :=
  let result : Except Failure (Target × Api) := do
    let t ← Target.choose target
    let api ← derived h spec includeTags excludeTags s
    pure (t, api)
  match result with
  | .error f => failed f
  | .ok (t, api) => conclude 0 [servicesTable api, modelsTable t api]

/-! ## Validating -/

/-- Checks that a document loads and compiles. -/
def validate (h : Host σ) (spec : String) (s : σ) : Ending :=
  let result : Except Failure (Document × Api) := do
    let d ← Document.load h spec s
    let api ← (d.compile false).1.mapError Failure.ofCompileError
    pure (d, api)
  match result with
  | .error f => failed f
  | .ok (d, api) =>
    conclude 0 [printed? (s!"[green]Valid:[/green] {d.info.title} {d.info.version} " ++
      s!"({api.operations.length} operations, {api.models.length} models)")]

/-! ## Commands -/

/-- Runs a command. -/
def run (h : Host σ) (environment : List (String × String)) (c : Command) (s : σ) :
    Ending × σ :=
  match c with
  | .generate config client => generate h environment config client s
  | .inspect spec includeTags excludeTags target =>
    (inspect h spec includeTags excludeTags target s, s)
  | .validate spec => (validate h spec s, s)

/-- What is printed for a command line that asks for nothing known. -/
def usage : String :=
  "Usage: sdkgen generate [--config FILE] [--client NAME]\n" ++
    "       sdkgen inspect SPEC [--include-tag TAG] [--exclude-tag TAG] [--target NAME]\n" ++
    "       sdkgen validate SPEC\n"

/-- Runs a command line. -/
def runArguments (h : Host σ) (environment : List (String × String)) (arguments : List String)
    (s : σ) : Ending × σ :=
  match Command.ofArguments? arguments with
  | some c => run h environment c s
  | none => (⟨2, usage⟩, s)

end Console
end ApiCompiler
