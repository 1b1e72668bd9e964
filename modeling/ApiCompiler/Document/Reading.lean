import ApiCompiler.Document
import ApiCompiler.Document.Check

/-!
# Reading documents

The typed form of a document, or every issue it has.  Issues come in the order of the fields,
not in the order in which keys were written; unknown keys come after the fields.

Values can be nested without end, so schemas are read with a bound on their nesting: a schema that
stands below too many others is an issue.  Operations count as one level.
-/

namespace ApiCompiler
namespace Document
namespace Read

open Check

/-! ## References -/

/-- A reference; keys other than its three fields are dropped. -/
def reference (es : List (Value.Scalar × Value)) : Checked Reference :=
  (fun target summary description =>
      ⟨target, summary, description, nullKeys ["summary", "description"] es⟩)
    <$> required es "$ref" text
    <*> optional es "summary" text
    <*> optional es "description" text

/-- A reference if the value is a mapping that holds `$ref`, and the inline form otherwise. -/
def referenceOr {α : Type} (ofReference : Reference → α) (inline : Value → Checked α) (v : Value) :
    Checked α :=
  let asInline := (inline v).under "object"
  match v with
  | .map es =>
    match Value.entry? "$ref" es with
    | some _ => (ofReference <$> reference es).under "reference"
    | none => asInline
  | _ => asInline

/-- A value written inline, or a reference to one. -/
def orReference {α : Type} (inline : Value → Checked α) : Value → Checked (OrReference α) :=
  referenceOr .reference fun v => .inline <$> inline v

/-! ## Schemas -/

/-- How deeply the schemas of a document may be nested. -/
def depthLimit : Nat := 255

/-- Whether a value is a reference. -/
def isReference : Value → Bool
  | .map es => (Value.entry? "$ref" es).isSome
  | _ => false

/-- A type name. -/
def dataType : Value → Checked DataType
  | .scalar (.text s) =>
    match DataType.ofName? s with
    | some t => .ok t
    | none => .fail (.notOneOf (DataType.all.map DataType.name))
  | _ => .fail (.notOneOf (DataType.all.map DataType.name))

/-- A type name or a list of them. -/
def typeDeclaration (v : Value) : Checked Schema.TypeDeclaration :=
  match dataType v, list dataType v with
  | .ok t, _ => .ok (.one t)
  | _, .ok ts => .ok (.several ts)
  | .faulty one, .faulty several =>
    (Checked.faulty one).under "enum[Type]" <* (Checked.faulty several : Checked Unit).under
      "list[enum[Type]]"

/-- A discriminator; keys other than its two fields are dropped. -/
def discriminator : Value → Checked Schema.Discriminator :=
  model "SchemaDiscriminator" fun es =>
    (fun propertyName map => ⟨propertyName, map, nullKeys ["mapping"] es⟩)
      <$> required es "propertyName" text
      <*> optional es "mapping" (mapping text)

/-- A boolean or a schema; if it is neither, the issues of both are listed. -/
def additional (schema : Value → Checked Schema) (v : Value) :
    Checked (Schema.Additional Schema) :=
  match boolean v, schema v with
  | .ok b, _ => .ok (.flag b)
  | _, .ok s => .ok (.schema s)
  | .faulty flag, .faulty other =>
    (Checked.faulty flag).under "bool" <* (Checked.faulty other : Checked Unit).under
      "tagged-union[Reference,...]"

/-- The keywords of a schema. -/
def schemaKeys : List String :=
  ["title", "description", "type", "format", "nullable", "enum", "const", "not", "allOf",
   "oneOf", "anyOf", "discriminator", "items", "properties", "required",
   "additionalProperties", "default", "example", "examples", "deprecated", "readOnly",
   "writeOnly"]

/-- The inline form of a schema; `schema` reads the schemas in it. -/
def inlineSchema (schema : Value → Checked Schema) : Value → Checked Schema :=
  model "Schema" fun es =>
    (fun title description type format nullable enum const negated allOf oneOf anyOf
        discriminator items properties required additional default sample samples deprecated
        readOnly writeOnly extra =>
      Schema.inline
        { title, description, type, format, nullable, enum, const, discriminator, required,
          default, sample, samples, deprecated, readOnly, writeOnly, extra,
          nulls := nullKeys schemaKeys es }
        { oneOf, anyOf, allOf, negated, items, properties,
          additional := additional.getD .absent })
      <$> optional es "title" text
      <*> optional es "description" text
      <*> optional es "type" typeDeclaration
      <*> optional es "format" text
      <*> optional es "nullable" boolean
      <*> optional es "enum" (list any)
      <*> optional es "const" any
      <*> optional es "not" schema
      <*> optional es "allOf" (list schema)
      <*> optional es "oneOf" (list schema)
      <*> optional es "anyOf" (list schema)
      <*> optional es "discriminator" discriminator
      <*> optional es "items" schema
      <*> optional es "properties" (mapping schema)
      <*> optional es "required" (list text)
      <*> optional es "additionalProperties" (additional schema)
      <*> optional es "default" any
      <*> optional es "example" any
      <*> optional es "examples" (list any)
      <*> optional es "deprecated" boolean
      <*> optional es "readOnly" boolean
      <*> optional es "writeOnly" boolean
      <*> extras schemaKeys es

/-- A schema; `room` is the number of levels that are left. -/
def schema : Nat → Value → Checked Schema
  | 0, v => (Checked.fail .tooDeep).under (if isReference v then "reference" else "object")
  | room + 1, v => referenceOr .reference (inlineSchema (schema room)) v

/-! ## Bodies, responses and parameters -/

/-- What is held under a media type. -/
def mediaType (room : Nat) : Value → Checked MediaType :=
  model "MediaType" fun es =>
    (fun schema sample extra =>
        { schema, sample, extra, nulls := nullKeys ["schema", "example"] es })
      <$> optional es "schema" (schema room)
      <*> optional es "example" any
      <*> extras ["schema", "example"] es

/-- The fields of a parameter. -/
def parameterKeys : List String :=
  ["name", "in", "description", "required", "deprecated", "schema", "content"]

/-- A parameter. -/
def parameter (room : Nat) : Value → Checked Parameter :=
  model "Parameter" fun es =>
    (fun name location description required deprecated schema content extra =>
        { name, location, description, required, deprecated, schema, content, extra,
          nulls := nullKeys parameterKeys es })
      <$> required es "name" text
      <*> required es "in" text
      <*> optional es "description" text
      <*> optional es "required" boolean
      <*> optional es "deprecated" boolean
      <*> optional es "schema" (schema room)
      <*> optional es "content" (mapping (mediaType room))
      <*> extras parameterKeys es

/-- A request body. -/
def requestBody (room : Nat) : Value → Checked RequestBody :=
  model "RequestBody" fun es =>
    (fun description content required extra =>
        { description, content, required, extra, nulls := nullKeys ["description", "required"] es })
      <$> optional es "description" text
      <*> present es "content" (mapping (mediaType room))
      <*> optional es "required" boolean
      <*> extras ["description", "content", "required"] es

/-- A response. -/
def response (room : Nat) : Value → Checked Response :=
  model "Response" fun es =>
    (fun description content extra =>
        { description, content, extra, nulls := nullKeys ["description", "content"] es })
      <$> optional es "description" text
      <*> optional es "content" (mapping (mediaType room))
      <*> extras ["description", "content"] es

/-! ## Operations and paths -/

/-- The responses of an operation.  A status code may be written as a number; of two codes that
are spelled alike the later one counts. -/
def responses (room : Nat) (v : Value) : Checked (List (String × OrReference Response)) :=
  match v with
  | .map es =>
    mapping (orReference (response room))
      (.map ((lastWins (es.map fun e => (e.1.shown, e.2))).map fun e => (.text e.1, e.2)))
  | _ => mapping (orReference (response room)) v

/-- The fields of an operation. -/
def operationKeys : List String :=
  ["tags", "summary", "description", "operationId", "parameters", "requestBody", "responses",
   "deprecated", "security"]

/-- An operation. -/
def operation (room : Nat) : Value → Checked Operation :=
  model "Operation" fun es =>
    (fun tags summary description operationId parameters requestBody responses deprecated
        security extra =>
        { tags, summary, description, operationId, parameters, requestBody, responses,
          deprecated, security, extra, nulls := nullKeys operationKeys es })
      <$> optional es "tags" (list text)
      <*> optional es "summary" text
      <*> optional es "description" text
      <*> optional es "operationId" text
      <*> optional es "parameters" (list (orReference (parameter room)))
      <*> optional es "requestBody" (orReference (requestBody room))
      <*> optional es "responses" (responses room)
      <*> optional es "deprecated" boolean
      <*> optional es "security" (list (mapping (list text)))
      <*> extras operationKeys es

/-- The fields of a path item. -/
def pathItemKeys : List String :=
  ["summary", "description", "get", "put", "post", "delete", "options", "head", "patch",
   "trace", "parameters"]

/-- A path item. -/
def pathItem (room : Nat) : Value → Checked PathItem :=
  model "PathItem" fun es =>
    (fun summary description get put post delete options head patch trace parameters extra =>
        { summary, description, get, put, post, delete, options, head, patch, trace, parameters,
          extra, nulls := nullKeys pathItemKeys es })
      <$> optional es "summary" text
      <*> optional es "description" text
      <*> optional es "get" (operation (room - 1))
      <*> optional es "put" (operation (room - 1))
      <*> optional es "post" (operation (room - 1))
      <*> optional es "delete" (operation (room - 1))
      <*> optional es "options" (operation (room - 1))
      <*> optional es "head" (operation (room - 1))
      <*> optional es "patch" (operation (room - 1))
      <*> optional es "trace" (operation (room - 1))
      <*> optional es "parameters" (list (orReference (parameter room)))
      <*> extras pathItemKeys es

/-! ## The whole document -/

/-- The fields of a security scheme. -/
def securitySchemeKeys : List String :=
  ["type", "description", "name", "in", "scheme", "bearerFormat", "flows", "openIdConnectUrl"]

/-- A security scheme. -/
def securityScheme : Value → Checked SecurityScheme :=
  model "SecurityScheme" fun es =>
    (fun type description name location scheme bearerFormat flows openIdConnectUrl extra =>
        { type, description, name, location, scheme, bearerFormat, flows, openIdConnectUrl,
          extra, nulls := nullKeys securitySchemeKeys es })
      <$> required es "type" text
      <*> optional es "description" text
      <*> optional es "name" text
      <*> optional es "in" text
      <*> optional es "scheme" text
      <*> optional es "bearerFormat" text
      <*> optional es "flows" (mapping any)
      <*> optional es "openIdConnectUrl" text
      <*> extras securitySchemeKeys es

/-- The fields of the components. -/
def componentsKeys : List String :=
  ["schemas", "responses", "parameters", "requestBodies", "securitySchemes"]

/-- The components. -/
def components (room : Nat) : Value → Checked Components :=
  model "Components" fun es =>
    (fun schemas responses parameters requestBodies securitySchemes extra =>
        { schemas, responses, parameters, requestBodies, securitySchemes, extra,
          nulls := nullKeys componentsKeys es })
      <$> optional es "schemas" (mapping (schema room))
      <*> optional es "responses" (mapping (orReference (response room)))
      <*> optional es "parameters" (mapping (orReference (parameter room)))
      <*> optional es "requestBodies" (mapping (orReference (requestBody room)))
      <*> optional es "securitySchemes" (mapping securityScheme)
      <*> extras componentsKeys es

/-- The info; numbers may stand for its texts. -/
def info : Value → Checked Info :=
  model "Info" fun es =>
    (fun title version description extra =>
        { title, version, description, extra, nulls := nullKeys ["description"] es })
      <$> required es "title" label
      <*> required es "version" label
      <*> optional es "description" label
      <*> extras ["title", "version", "description"] es

/-- The declaration of a tag. -/
def tag : Value → Checked Tag :=
  model "TagObject" fun es =>
    (fun name description extra =>
        { name, description, extra, nulls := nullKeys ["description"] es })
      <$> required es "name" text
      <*> optional es "description" text
      <*> extras ["name", "description"] es

/-- Whether a text is a version of the form `3.<number>.<number>`, with an optional suffix after
a hyphen. -/
def isVersion (s : String) : Bool :=
  match s.toList with
  | '3' :: '.' :: cs =>
    match cs.takeWhile Text.isDigitOfAnyAge, cs.dropWhile Text.isDigitOfAnyAge with
    | _ :: _, '.' :: cs =>
      match cs.takeWhile Text.isDigitOfAnyAge, cs.dropWhile Text.isDigitOfAnyAge with
      | _ :: _, [] => true
      | _ :: _, '-' :: rest => !rest.isEmpty && !rest.contains '\n'
      | _, _ => false
    | _, _ => false
  | _ => false

/-- A version text. -/
def version (v : Value) : Checked String :=
  match text v with
  | .ok s => if isVersion s then .ok s else .fail .notVersion
  | issues => issues

/-- The fields of a document. -/
def documentKeys : List String := ["openapi", "info", "paths", "components", "tags"]

/-- A document. -/
def document : Value → Checked Document :=
  model "OpenAPI" fun es =>
    (fun openapi info paths components tags extra =>
        { openapi, info, paths, components, tags, extra,
          nulls := nullKeys ["components", "tags"] es })
      <$> required es "openapi" version
      <*> required es "info" info
      <*> present es "paths" (mapping (pathItem depthLimit))
      <*> optional es "components" (components depthLimit)
      <*> optional es "tags" (list tag)
      <*> extras documentKeys es

end Read
end Document
end ApiCompiler
