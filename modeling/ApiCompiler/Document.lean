import ApiCompiler.Schema

/-!
# Documents

An OpenAPI document as its checked form holds it.  A keyword that is missing or null is `none`;
`nulls` remembers the keys that were written as null, and `extra` the keys that are not known,
in the order written.

The operations of a path are walked in the fixed order of `Method.all`.
-/

namespace ApiCompiler

/-- A value written inline, or a reference to one. -/
inductive OrReference (α : Type) where
  | reference (target : Reference)
  | inline (value : α)

/-- The methods an operation can have. -/
inductive Method where
  | get
  | post
  | put
  | patch
  | delete
  | options
  | head
  | trace
  deriving DecidableEq

namespace Method

/-- All methods, in the order in which the operations of a path are walked. -/
def all : List Method := [.get, .post, .put, .patch, .delete, .options, .head, .trace]

/-- The key of a method in a path item. -/
def key : Method → String
  | .get => "get"
  | .post => "post"
  | .put => "put"
  | .patch => "patch"
  | .delete => "delete"
  | .options => "options"
  | .head => "head"
  | .trace => "trace"

/-- The name of a method: its key in upper case. -/
def name : Method → String
  | .get => "GET"
  | .post => "POST"
  | .put => "PUT"
  | .patch => "PATCH"
  | .delete => "DELETE"
  | .options => "OPTIONS"
  | .head => "HEAD"
  | .trace => "TRACE"

end Method

namespace Document

/-- What a body, a response or a parameter holds under one media type. -/
structure MediaType where
  schema : Option Schema
  sample : Option Value
  extra : List (String × Value)
  nulls : List String

/-- A parameter. -/
structure Parameter where
  name : String
  location : String
  description : Option String
  required : Option Bool
  deprecated : Option Bool
  schema : Option Schema
  content : Option (List (String × MediaType))
  extra : List (String × Value)
  nulls : List String

/-- A request body. -/
structure RequestBody where
  description : Option String
  content : Option (List (String × MediaType))
  required : Option Bool
  extra : List (String × Value)
  nulls : List String

/-- A response. -/
structure Response where
  description : Option String
  content : Option (List (String × MediaType))
  extra : List (String × Value)
  nulls : List String

/-- An operation. -/
structure Operation where
  tags : Option (List String)
  summary : Option String
  description : Option String
  operationId : Option String
  parameters : Option (List (OrReference Parameter))
  requestBody : Option (OrReference RequestBody)
  responses : Option (List (String × OrReference Response))
  deprecated : Option Bool
  security : Option (List (List (String × List String)))
  extra : List (String × Value)
  nulls : List String

/-- The operations of a path, and the parameters they share. -/
structure PathItem where
  summary : Option String
  description : Option String
  get : Option Operation
  put : Option Operation
  post : Option Operation
  delete : Option Operation
  options : Option Operation
  head : Option Operation
  patch : Option Operation
  trace : Option Operation
  parameters : Option (List (OrReference Parameter))
  extra : List (String × Value)
  nulls : List String

namespace PathItem

/-- The operation of a method. -/
def operation? (item : PathItem) : Method → Option Operation
  | .get => item.get
  | .post => item.post
  | .put => item.put
  | .patch => item.patch
  | .delete => item.delete
  | .options => item.options
  | .head => item.head
  | .trace => item.trace

/-- The declared operations in walking order. -/
def operations (item : PathItem) : List (Method × Operation) :=
  Method.all.filterMap fun m => (item.operation? m).map (m, ·)

end PathItem

/-- A security scheme, reduced to what clients need. -/
structure SecurityScheme where
  type : String
  description : Option String
  name : Option String
  location : Option String
  scheme : Option String
  bearerFormat : Option String
  flows : Option (List (String × Value))
  openIdConnectUrl : Option String
  extra : List (String × Value)
  nulls : List String

/-- The reusable definitions of a document. -/
structure Components where
  schemas : Option (List (String × Schema))
  responses : Option (List (String × OrReference Response))
  parameters : Option (List (String × OrReference Parameter))
  requestBodies : Option (List (String × OrReference RequestBody))
  securitySchemes : Option (List (String × SecurityScheme))
  extra : List (String × Value)
  nulls : List String

/-- Title, version and description of the described service. -/
structure Info where
  title : String
  version : String
  description : Option String
  extra : List (String × Value)
  nulls : List String

/-- The declaration of a tag. -/
structure Tag where
  name : String
  description : Option String
  extra : List (String × Value)
  nulls : List String

end Document

/-- An OpenAPI document. -/
structure Document where
  openapi : String
  info : Document.Info
  paths : Option (List (String × Document.PathItem))
  components : Option Document.Components
  tags : Option (List Document.Tag)
  extra : List (String × Value)
  nulls : List String

namespace Document

/-- No reusable definitions. -/
def Components.empty : Components := ⟨none, none, none, none, none, [], []⟩

/-- The path items of a document. -/
def pathItems (d : Document) : List (String × PathItem) := d.paths.getD []

/-- The components of a document, empty if it has none. -/
def parts (d : Document) : Components := d.components.getD .empty

/-- The component schemas of a document. -/
def schemas (d : Document) : List (String × Schema) := d.parts.schemas.getD []

end Document
end ApiCompiler
