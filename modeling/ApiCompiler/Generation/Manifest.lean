import ApiCompiler.Api.Encoding
import ApiCompiler.Client
import ApiCompiler.Generation.Run
import ApiCompiler.Target.Projection

/-!
# Manifests

A manifest lists what a client offers as its target spells it: the operations with the names of
their methods and the types of their parts, and the type of every model.
-/

namespace ApiCompiler
namespace Manifest

/-- The spelled types of named shapes. -/
def types (type : Shape → Except Breakdown String) :
    List (String × Shape) → Except Breakdown (List (String × Json))
  | [] => .ok []
  | (name, s) :: rest => do
    let text ← type s
    let others ← types type rest
    pure ((name, .str text) :: others)

/-- The types of named shapes by their names; of several shapes of one name the last one counts. -/
def typesByName (type : Shape → Except Breakdown String) (shapes : List (String × Shape)) :
    Except Breakdown Json := do
  let entries ← types type shapes
  pure (.obj (lastWins entries))

/-- The types of parameters by name. -/
def params (type : Shape → Except Breakdown String) (ps : List Param) : Except Breakdown Json :=
  typesByName type (ps.map fun p => (p.name, p.shape))

/-- The type of an answer: none without content, and the unknown type where nothing is declared. -/
def response (t : Target) (type : Shape → Except Breakdown String) (r : Response) :
    Except Breakdown Json :=
  if r.kind = .noContent then .ok .null
  else
    match r.shape with
    | none => .ok (.str t.unknown)
    | some s => (type s).map .str

/-- The type of a body, if there is one. -/
def requestBody (type : Shape → Except Breakdown String) (body : Option Body) :
    Except Breakdown Json :=
  match body with
  | some b => (type b.shape).map .str
  | none => .ok .null

/-- An operation whose method has been named. -/
def operation (t : Target) (type : Shape → Except Breakdown String) (name : String)
    (op : Operation) : Except Breakdown Json := do
  let answer ← response t type op.response
  let pathParams ← params type op.orderedPathParams
  let queryParams ← params type op.queryParams
  let body ← requestBody type op.requestBody
  pure (.obj [("methodName", .str (t.methodName name)), ("method", .str op.method),
    ("path", .str op.path), ("pathParams", pathParams), ("queryParams", queryParams),
    ("requestBody", body), ("response", answer)])

/-- The manifest of a client; the operations are given service by service. -/
def ofParts (t : Target) (c : Client) (services : List Json) (models : Json) : Json :=
  .obj [("target", .str t.name), ("name", .str c.name), ("packageName", .str c.packageName),
    ("moduleName", Json.ofText? c.moduleName), ("defaultBaseURL", Json.ofText? c.defaultBaseURL),
    ("services", .arr services), ("models", models)]

/-- A part of a manifest, or the breakdown that ends the run. -/
def part {σ : Type} (json : Except Breakdown Json) : Run σ Json :=
  Run.lift (json.mapError .breakdown)

/-- The manifest of a client.  The methods are named in the order of the operations, each before the
types of its operation are spelled. -/
def build {σ : Type} (h : Host σ) (t : Target) (c : Client) (api : Api) : Run σ Json := do
  let type := t.typeText (some api.modelNames)
  let services ← Run.forEach
    (fun s => do
      let operations ← Run.forEach
        (fun op => do
          let name ← Run.methodName h c.namingCommand op
          part (operation t type name op))
        s.operations
      pure (Json.obj [("tag", .str s.tag), ("operations", .arr operations)]))
    api.services
  let models ← part (typesByName type (api.models.map fun m => (m.name, m.shape)))
  pure (ofParts t c services models)

end Manifest
end ApiCompiler
