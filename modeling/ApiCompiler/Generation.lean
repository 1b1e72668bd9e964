import ApiCompiler.Compilation
import ApiCompiler.Derivation
import ApiCompiler.Document.Loading
import ApiCompiler.Generation.Manifest
import ApiCompiler.Settings
import ApiCompiler.Target.Choice

/-!
# Generating clients

A run generates the clients of its settings, or the one that is named.  All of them are checked
first, then the document is loaded and compiled, and only then is anything made, written or
started.  So a run that fails on its settings or its document leaves everything as it was.

A client gets two files in its directory: the description derived for it, and its manifest.
-/

namespace ApiCompiler
namespace Generation

variable {σ : Type}

/-- A text that ends a file: it gets a line end. -/
def fileText (cs : List Char) : String := String.ofList (cs ++ ['\n'])

/-- The text of a description. -/
def descriptionText (api : Api) : String := fileText ((Encode.api api).spread .description 0)

/-- The text of a manifest. -/
def manifestText (manifest : Json) : String := fileText (manifest.spread .ascii 0)

/-- The failure of an output. -/
def outputFailure (p : Path) (e : FileError) : Failure := .output p.text (some e.message)

/-- Writes a file of a client unless it is left out, and returns its path. -/
def writeFile (h : Host σ) (c : Client) (name text : String) : Run σ (Option String) := do
  let p := c.directory.child name
  if c.excludes h.directory p then pure none
  else do
    match ← Run.act (h.makeDirectories p.parent) with
    | .error e => throw (outputFailure p e)
    | .ok _ =>
      match ← Run.act (h.write p text) with
      | .error e => throw (outputFailure p e)
      | .ok _ => pure (some p.text)

/-- Writes the files of a client, and returns the paths of those that were written. -/
def emit (h : Host σ) (t : Target) (c : Client) (api : Api) : Run σ (List String) := do
  let manifest ← Manifest.build h t c api
  let description ← writeFile h c "ir.json" (descriptionText api)
  let listing ← writeFile h c "manifest.json" (manifestText manifest)
  pure (description.toList ++ listing.toList)

/-- Checks what can be checked of a client by itself: that its target is known, and that its
patterns can be read. -/
def check (c : Client) : Except Failure Unit := do
  let _ ← Target.choose c.target
  let _ ← c.filter
  pure ()

/-- Checks clients in order. -/
def checkAll : List Client → Except Failure Unit
  | [] => .ok ()
  | c :: cs => do
    check c
    checkAll cs

/-- The part of the whole description that a client gets, and what was reported. -/
def derive (strict : Bool) (api : Api) (c : Client) : Except Failure (Api × List Notice) := do
  let f ← c.filter
  api.derive strict f

/-- Generates a client from the whole description.  Its target and its patterns are read anew. -/
def generateClient (h : Host σ) (strict : Bool) (api : Api) (c : Client) :
    Run σ (List String) := do
  let t ← Run.lift (Target.choose c.target)
  match ← Run.act (h.makeDirectories c.directory) with
  | .error e => throw (outputFailure c.directory e)
  | .ok _ => do
    Run.command h "pre-command" c.preCommand c.directory
    let (derived, notices) ← Run.lift (derive strict api c)
    Run.report notices
    let written ← emit h t c derived
    Run.command h "post-command" c.postCommand c.directory
    pure written

/-- Compiles a document. -/
def compile (d : Document) (strict : Bool) : Run σ Api := do
  let (result, notices) := d.compile strict
  Run.report notices
  Run.lift (result.mapError Failure.ofCompileError)

/-- Generates the clients of the settings, or the one that is named; gives the written paths of
each. -/
def generate (h : Host σ) (settings : Settings) (name : Option String) :
    Run σ (List (String × List String)) := do
  let clients ← Run.lift (settings.selected name)
  Run.lift (checkAll clients)
  let document ← Run.look (Document.load h settings.spec)
  let api ← compile document settings.strict
  Run.forEach
    (fun c => do
      let written ← generateClient h settings.strict api c
      pure (c.name, written))
    clients

end Generation
end ApiCompiler
