import ApiCompiler.Shape.Walk

/-!
# Compiled descriptions

What clients are made from: the operations of an API grouped into services, the named models they
refer to, and the security schemes.
-/

namespace ApiCompiler

/-- A named shape. -/
structure Model where
  name : String
  shape : Shape
  annotations : Annotations

/-- A path or query parameter. -/
structure Param where
  name : String
  required : Bool
  shape : Shape
  description : Option String

/-- What an operation is sent. -/
structure Body where
  contentType : String
  shape : Shape
  required : Bool
  description : Option String

/-- What is known about the answer to an operation. -/
inductive ResponseKind where
  | content
  | noContent
  | unknown
  deriving DecidableEq

/-- The answer to an operation that succeeds. -/
structure Response where
  kind : ResponseKind
  shape : Option Shape
  description : Option String
  contentType : Option String
  statusCode : Option String

namespace Response

/-- An answer of which nothing is declared. -/
def undeclared : Response := ⟨.unknown, some .anything, none, none, none⟩

/-- An answer without content. -/
def empty (statusCode : String) (description : Option String) : Response :=
  ⟨.noContent, none, description, none, some statusCode⟩

end Response

/-- An operation of a client. -/
structure Operation where
  operationId : Option String
  method : String
  path : String
  tag : String
  originalTags : List String
  summary : Option String
  description : Option String
  deprecated : Bool
  pathParams : List Param
  pathParamOrder : List String
  queryParams : List Param
  requestBody : Option Body
  response : Response

/-- The tag of operations that declare none. -/
def fallbackTag : String := "misc"

namespace Operation

/-- The tags that filters see: an operation without tags counts as tagged with the fallback. -/
def effectiveTags (op : Operation) : List String :=
  if op.originalTags.isEmpty then [fallbackTag] else op.originalTags

/-- The last parameter of a name. -/
def lastOfName (name : String) (params : List Param) : Option Param :=
  params.reverse.find? fun p => p.name = name

/-- The path parameters in the order of the path, then those that the path does not name. -/
def orderedPathParams (op : Operation) : List Param :=
  op.pathParamOrder.filterMap (fun name => lastOfName name op.pathParams) ++
    op.pathParams.filter fun p => !op.pathParamOrder.contains p.name

/-- Every shape that the operation uses. -/
def shapes (op : Operation) : List Shape :=
  op.pathParams.map (·.shape) ++ op.queryParams.map (·.shape) ++
    (op.requestBody.map (·.shape)).toList ++ op.response.shape.toList

end Operation

/-- The operations of one tag. -/
structure Service where
  tag : String
  operations : List Operation

/-- A security scheme. -/
structure SecurityScheme where
  key : String
  type : String
  scheme : Option String
  location : Option String
  name : Option String
  bearerFormat : Option String

/-- A compiled description. -/
structure Api where
  services : List Service
  models : List Model
  securitySchemes : List SecurityScheme

namespace Api

/-- The names of the models, in order. -/
def modelNames (api : Api) : List String := api.models.map (·.name)

/-- The first model of a name. -/
def model? (name : String) (api : Api) : Option Model := api.models.find? fun m => m.name = name

/-- The first service of a tag. -/
def service? (tag : String) (api : Api) : Option Service :=
  api.services.find? fun s => s.tag = tag

/-- All operations, service by service. -/
def operations (api : Api) : List Operation := api.services.flatMap (·.operations)

end Api
end ApiCompiler
