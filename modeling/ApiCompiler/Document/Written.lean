import ApiCompiler.Document

/-!
# Writing documents out

The JSON form of a document: every key that was written, with the value that the document holds
for it.
-/

namespace ApiCompiler
namespace Written

/-- The member of an optional field: its value, null if it was written as null, or nothing. -/
def field (nulls : List String) (key : String) (value : Option Json) : List (String × Json) :=
  match value with
  | some v => [(key, v)]
  | none => if nulls.contains key then [(key, .null)] else []

/-- The member of an optional text. -/
def text (nulls : List String) (key : String) (value : Option String) : List (String × Json) :=
  field nulls key (value.map .str)

/-- The member of an optional boolean. -/
def flag (nulls : List String) (key : String) (value : Option Bool) : List (String × Json) :=
  field nulls key (value.map .bool)

/-- A mapping, its values written by `write`. -/
def mapping {α : Type} (write : α → Json) (entries : List (String × α)) : Json :=
  .obj (entries.map fun e => (e.1, write e.2))

/-- A list, its items written by `write`. -/
def list {α : Type} (write : α → Json) (items : List α) : Json := .arr (items.map write)

/-- The members of the keys that are not known. -/
def extra (entries : List (String × Value)) : List (String × Json) :=
  entries.map fun e => (e.1, e.2.toJson)

/-- A list of values. -/
def values (vs : List Value) : Json := list Value.toJson vs

/-! ## Schemas -/

/-- A reference. -/
def reference (r : Reference) : Json :=
  .obj (("$ref", .str r.target) :: text r.nulls "summary" r.summary ++
    text r.nulls "description" r.description)

/-- Declared types. -/
def typeDeclaration : Schema.TypeDeclaration → Json
  | .one t => .str t.name
  | .several ts => list (fun t => .str t.name) ts

/-- A discriminator. -/
def discriminator (d : Schema.Discriminator) : Json :=
  .obj (("propertyName", .str d.propertyName) ::
    field d.nulls "mapping" (d.mapping.map (mapping .str)))

/-- The members of the keywords that hold no schemas. -/
def keywords (k : Schema.Keywords) : List (String × Json) :=
  text k.nulls "title" k.title ++
  text k.nulls "description" k.description ++
  field k.nulls "type" (k.type.map typeDeclaration) ++
  text k.nulls "format" k.format ++
  flag k.nulls "nullable" k.nullable ++
  field k.nulls "enum" (k.enum.map values) ++
  field k.nulls "const" (k.const.map Value.toJson) ++
  field k.nulls "discriminator" (k.discriminator.map discriminator) ++
  field k.nulls "required" (k.required.map Json.texts) ++
  field k.nulls "default" (k.default.map Value.toJson) ++
  field k.nulls "example" (k.sample.map Value.toJson) ++
  field k.nulls "examples" (k.samples.map values) ++
  flag k.nulls "deprecated" k.deprecated ++
  flag k.nulls "readOnly" k.readOnly ++
  flag k.nulls "writeOnly" k.writeOnly ++
  extra k.extra

mutual

/-- A schema. -/
def schema : Schema → Json
  | .reference r => reference r
  | .inline k ⟨oneOf, anyOf, allOf, negated, items, properties, additional⟩ =>
    .obj (keywords k ++
      (match oneOf with
        | some ss => [("oneOf", .arr (schemas ss))]
        | none => field k.nulls "oneOf" none) ++
      (match anyOf with
        | some ss => [("anyOf", .arr (schemas ss))]
        | none => field k.nulls "anyOf" none) ++
      (match allOf with
        | some ss => [("allOf", .arr (schemas ss))]
        | none => field k.nulls "allOf" none) ++
      (match negated with
        | some s => [("not", schema s)]
        | none => field k.nulls "not" none) ++
      (match items with
        | some s => [("items", schema s)]
        | none => field k.nulls "items" none) ++
      (match properties with
        | some ps => [("properties", .obj (namedSchemas ps))]
        | none => field k.nulls "properties" none) ++
      (match additional with
        | .absent => field k.nulls "additionalProperties" none
        | .flag b => [("additionalProperties", .bool b)]
        | .schema s => [("additionalProperties", schema s)]))

/-- Schemas in order. -/
def schemas : List Schema → List Json
  | [] => []
  | s :: ss => schema s :: schemas ss

/-- Schemas under their names. -/
def namedSchemas : List (String × Schema) → List (String × Json)
  | [] => []
  | (k, s) :: rest => (k, schema s) :: namedSchemas rest

end

/-! ## Operations -/

/-- A value written inline, or a reference. -/
def orReference {α : Type} (write : α → Json) : OrReference α → Json
  | .reference r => reference r
  | .inline a => write a

/-- What is held under a media type. -/
def mediaType (m : Document.MediaType) : Json :=
  .obj (field m.nulls "schema" (m.schema.map schema) ++ field m.nulls "example" (m.sample.map Value.toJson) ++
    extra m.extra)

/-- A content map. -/
def content (c : List (String × Document.MediaType)) : Json := mapping mediaType c

/-- A parameter. -/
def parameter (p : Document.Parameter) : Json :=
  .obj (("name", .str p.name) :: ("in", .str p.location) ::
    text p.nulls "description" p.description ++
    flag p.nulls "required" p.required ++
    flag p.nulls "deprecated" p.deprecated ++
    field p.nulls "schema" (p.schema.map schema) ++
    field p.nulls "content" (p.content.map content) ++
    extra p.extra)

/-- A request body. -/
def requestBody (b : Document.RequestBody) : Json :=
  .obj (text b.nulls "description" b.description ++
    field b.nulls "content" (b.content.map content) ++
    flag b.nulls "required" b.required ++
    extra b.extra)

/-- A response. -/
def response (r : Document.Response) : Json :=
  .obj (text r.nulls "description" r.description ++
    field r.nulls "content" (r.content.map content) ++
    extra r.extra)

/-- An operation. -/
def operation (o : Document.Operation) : Json :=
  .obj (field o.nulls "tags" (o.tags.map Json.texts) ++
    text o.nulls "summary" o.summary ++
    text o.nulls "description" o.description ++
    text o.nulls "operationId" o.operationId ++
    field o.nulls "parameters" (o.parameters.map (list (orReference parameter))) ++
    field o.nulls "requestBody" (o.requestBody.map (orReference requestBody)) ++
    field o.nulls "responses" (o.responses.map (mapping (orReference response))) ++
    flag o.nulls "deprecated" o.deprecated ++
    field o.nulls "security" (o.security.map (list (mapping Json.texts))) ++
    extra o.extra)

/-- A path item. -/
def pathItem (p : Document.PathItem) : Json :=
  .obj (text p.nulls "summary" p.summary ++
    text p.nulls "description" p.description ++
    (Method.all.flatMap fun m => field p.nulls m.key ((p.operation? m).map operation)) ++
    field p.nulls "parameters" (p.parameters.map (list (orReference parameter))) ++
    extra p.extra)

/-! ## The whole document -/

/-- A security scheme. -/
def securityScheme (s : Document.SecurityScheme) : Json :=
  .obj (("type", .str s.type) ::
    text s.nulls "description" s.description ++
    text s.nulls "name" s.name ++
    text s.nulls "in" s.location ++
    text s.nulls "scheme" s.scheme ++
    text s.nulls "bearerFormat" s.bearerFormat ++
    field s.nulls "flows" (s.flows.map (mapping Value.toJson)) ++
    text s.nulls "openIdConnectUrl" s.openIdConnectUrl ++
    extra s.extra)

/-- The components. -/
def components (c : Document.Components) : Json :=
  .obj (field c.nulls "schemas" (c.schemas.map (mapping schema)) ++
    field c.nulls "responses" (c.responses.map (mapping (orReference response))) ++
    field c.nulls "parameters" (c.parameters.map (mapping (orReference parameter))) ++
    field c.nulls "requestBodies" (c.requestBodies.map (mapping (orReference requestBody))) ++
    field c.nulls "securitySchemes" (c.securitySchemes.map (mapping securityScheme)) ++
    extra c.extra)

/-- The info. -/
def info (i : Document.Info) : Json :=
  .obj (("title", .str i.title) :: ("version", .str i.version) ::
    text i.nulls "description" i.description ++ extra i.extra)

/-- The declaration of a tag. -/
def tag (t : Document.Tag) : Json :=
  .obj (("name", .str t.name) :: text t.nulls "description" t.description ++ extra t.extra)

/-- A document. -/
def document (d : Document) : Json :=
  .obj (("openapi", .str d.openapi) :: ("info", info d.info) ::
    field d.nulls "paths" (d.paths.map (mapping pathItem)) ++
    field d.nulls "components" (d.components.map components) ++
    field d.nulls "tags" (d.tags.map (list tag)) ++
    extra d.extra)

end Written
end ApiCompiler
