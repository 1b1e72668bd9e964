import ApiCompiler.Address.Recognition
import ApiCompiler.Document.Version
import ApiCompiler.Host
import ApiCompiler.Json.Reader
import ApiCompiler.Yaml.Reader

/-!
# Loading documents

A document is fetched if its source is an address, and read from a file otherwise.  It is read as
YAML or as JSON, by the ending of the source or the declared type of the content.
-/

namespace ApiCompiler
namespace Document

/-! ## Formats -/

/-- How a document is written. -/
inductive Format where
  | json
  | yaml

/-- The value that a text holds; `source` says where the text comes from. -/
def Format.read (format : Format) (source text : String) : Except Failure Value :=
  match format with
  | .json => (Json.ofString text).map Value.ofJson |>.mapError fun reason =>
      .load source (some reason)
  | .yaml =>
    match Yaml.ofString text with
    | .ok v => .ok v
    | .error .malformed => .error (.load source none)
    | .error (.breakdown why) => .error (.load source (some why.message))

/-! ## Addresses -/

/-- The format of what was fetched. -/
def fetchedFormat (source contentType : String) : Format :=
  if Text.holds "yaml".toList contentType.toList || source.endsWith ".yaml" || source.endsWith ".yml" then
    .yaml
  else .json

/-- The address to ask for a source. -/
def requested (source : String) : Except Address.Fault Address := do
  let address ← Address.ofString source
  address.checkHost
  pure address

/-- The value that was fetched.  A reply is looked at only if the address leads somewhere. -/
def ofReply (source : String) (reply : Except String Reply) : Except Failure Value := do
  let because {α : Type} (r : Except String α) : Except Failure α :=
    r.mapError fun reason => .load source (some reason)
  let address ← because ((requested source).mapError Address.Fault.message)
  let reply ← because reply
  because (address.checkTarget.mapError Address.Fault.message)
  if reply.isSuccess then
    (fetchedFormat source reply.contentType).read source (← because reply.text)
  else .error (.load source (some (reply.failure address.text)))

/-! ## Files -/

/-- The format of a file. -/
def fileFormat (p : Path) : Format :=
  let ending := p.suffix.map Char.toLower
  if ending = ".yaml" || ending = ".yml" then .yaml else .json

/-- The reason why a file is not loaded. -/
def unreadable (e : FileError) : String :=
  match e.fault with
  | .missing => "File not found: " ++ e.path
  | .notDirectory => "File not found: " ++ e.path
  | _ => e.message

/-- The value in a file. -/
def ofFile (source : String) (p : Path) (content : Except FileError String) : Except Failure Value :=
  match content with
  | .error e => .error (.load source (some (unreadable e)))
  | .ok text => (fileFormat p).read source text

/-! ## Loading -/

/-- The value that a source holds. -/
def valueAt {σ : Type} (h : Host σ) (source : String) (s : σ) : Except Failure Value :=
  if Address.isAddress source then ofReply source (h.fetch source s)
  else
    let p := h.directory.join (.ofString source)
    ofFile source p (h.read p s)

/-- The document that a source holds. -/
def load {σ : Type} (h : Host σ) (source : String) (s : σ) : Except Failure Document := do
  let v ← valueAt h source s
  ofValue source v

end Document
end ApiCompiler
