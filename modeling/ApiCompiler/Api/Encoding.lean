import ApiCompiler.Api

/-!
# The JSON form of compiled descriptions

Every field is written, in a fixed order, the traits of a shape before its kind.
-/

namespace ApiCompiler
namespace Encode

/-- A text, or null. -/
def text (s : Option String) : Json := Json.ofText? s

/-- A list, its items written by `write`. -/
def list {α : Type} (write : α → Json) (items : List α) : Json := .arr (items.map write)

/-- A value written by `write`, or null. -/
def optional {α : Type} (write : α → Json) : Option α → Json
  | some a => write a
  | none => .null

/-! ## Shapes -/

/-- A discriminator. -/
def discriminator (d : Discriminator) : Json :=
  .obj [("property_name", .str d.propertyName),
    ("mapping", .obj (d.mapping.map fun e => (e.1, .str e.2)))]

/-- The members that every shape starts with. -/
def traits (t : Traits) (kind : Kind) : List (String × Json) :=
  [("nullable", .bool t.nullable), ("format", text t.format),
    ("discriminator", optional discriminator t.discriminator), ("kind", .str kind.name)]

/-- Annotations. -/
def annotations (a : Annotations) : Json :=
  .obj [("title", text a.title), ("description", text a.description),
    ("deprecated", .bool a.deprecated), ("read_only", .bool a.readOnly),
    ("write_only", .bool a.writeOnly), ("default", a.default.inDescription),
    ("examples", list Value.inDescription a.samples)]

mutual

/-- A shape. -/
def shape : Shape → Json
  | .unknown t => .obj (traits t .unknown)
  | .scalar t k => .obj (traits t (.scalar k))
  | .null t => .obj (traits t .null)
  | .array t s => .obj (traits t .array ++ [("items", shape s)])
  | .object t fs a =>
    .obj (traits t .object ++
      [("properties", .arr (fields fs)), ("additional_properties", optionalShape a)])
  | .enum t l =>
    .obj (traits t .enum ++
      [("values", Json.texts l.values), ("raw_values", list Value.inDescription l.raw),
        ("base_kind", .str l.base.name)])
  | .ref t name => .obj (traits t .ref ++ [("name", .str name)])
  | .composition t how ms =>
    .obj (traits t (.composition how) ++ [("members", .arr (shapes ms))])
  | .negation t s => .obj (traits t .negation ++ [("inner", shape s)])

/-- Shapes in order. -/
def shapes : List Shape → List Json
  | [] => []
  | s :: ss => shape s :: shapes ss

/-- Fields in order. -/
def fields : List (Field Shape) → List Json
  | [] => []
  | ⟨name, s, required, notes⟩ :: fs =>
    .obj [("name", .str name), ("type", shape s), ("required", .bool required),
      ("annotations", annotations notes)] :: fields fs

/-- A shape, or null. -/
def optionalShape : Option Shape → Json
  | none => .null
  | some s => shape s

end

/-- A field. -/
def field (f : Field Shape) : Json :=
  .obj [("name", .str f.name), ("type", shape f.type), ("required", .bool f.required),
    ("annotations", annotations f.annotations)]

/-! ## Descriptions -/

/-- A model. -/
def model (m : Model) : Json :=
  .obj [("name", .str m.name), ("schema", shape m.shape),
    ("annotations", annotations m.annotations)]

/-- A parameter. -/
def param (p : Param) : Json :=
  .obj [("name", .str p.name), ("required", .bool p.required), ("schema", shape p.shape),
    ("description", text p.description)]

/-- A request body. -/
def body (b : Body) : Json :=
  .obj [("content_type", .str b.contentType), ("schema", shape b.shape),
    ("required", .bool b.required), ("description", text b.description)]

/-- The name of a response kind. -/
def responseKind : ResponseKind → String
  | .content => "content"
  | .noContent => "no_content"
  | .unknown => "unknown"

/-- A response. -/
def response (r : Response) : Json :=
  .obj [("kind", .str (responseKind r.kind)), ("schema", optional shape r.shape),
    ("description", text r.description), ("content_type", text r.contentType),
    ("status_code", text r.statusCode)]

/-- An operation. -/
def operation (op : Operation) : Json :=
  .obj [("operation_id", text op.operationId), ("method", .str op.method),
    ("path", .str op.path), ("tag", .str op.tag),
    ("original_tags", Json.texts op.originalTags), ("summary", text op.summary),
    ("description", text op.description), ("deprecated", .bool op.deprecated),
    ("path_params", list param op.pathParams),
    ("path_param_order", Json.texts op.pathParamOrder),
    ("query_params", list param op.queryParams),
    ("request_body", optional body op.requestBody), ("response", response op.response)]

/-- A service. -/
def service (s : Service) : Json :=
  .obj [("tag", .str s.tag), ("operations", list operation s.operations)]

/-- A security scheme. -/
def securityScheme (s : SecurityScheme) : Json :=
  .obj [("key", .str s.key), ("type", .str s.type), ("scheme", text s.scheme),
    ("in", text s.location), ("name", text s.name), ("bearer_format", text s.bearerFormat)]

/-- A description. -/
def api (a : Api) : Json :=
  .obj [("services", list service a.services), ("model_defs", list model a.models),
    ("security_schemes", list securityScheme a.securitySchemes)]

end Encode
end ApiCompiler
