import ApiCompiler.Registry
import Mathlib.Data.List.Forall2

/-!
# Likeness of compiled descriptions

Two compiled descriptions are alike when they say the same: they list the same services, models and
security schemes in the same order, and everything in them is equal, except that shapes and
annotations are compared as `Shape.like` and `Annotations.like` compare them.  This is how the
program compares descriptions: a mapping inside a raw value and the mapping of a discriminator are
compared as maps, whatever the order of their keys.
-/

namespace ApiCompiler

/-- Two shapes that say the same. -/
def Shape.Alike (s t : Shape) : Prop := s.like t = true

/-- Two models that say the same. -/
structure Model.Alike (m n : Model) : Prop where
  name : m.name = n.name
  shape : m.shape.Alike n.shape
  annotations : m.annotations.like n.annotations = true

/-- Two parameters that say the same. -/
structure Param.Alike (p q : Param) : Prop where
  name : p.name = q.name
  required : p.required = q.required
  shape : p.shape.Alike q.shape
  description : p.description = q.description

/-- Two bodies that say the same. -/
structure Body.Alike (b c : Body) : Prop where
  contentType : b.contentType = c.contentType
  shape : b.shape.Alike c.shape
  required : b.required = c.required
  description : b.description = c.description

/-- Two responses that say the same. -/
structure Response.Alike (r t : Response) : Prop where
  kind : r.kind = t.kind
  shape : Option.Rel Shape.Alike r.shape t.shape
  description : r.description = t.description
  contentType : r.contentType = t.contentType
  statusCode : r.statusCode = t.statusCode

/-- Two operations that say the same. -/
structure Operation.Alike (o p : Operation) : Prop where
  operationId : o.operationId = p.operationId
  method : o.method = p.method
  path : o.path = p.path
  tag : o.tag = p.tag
  originalTags : o.originalTags = p.originalTags
  summary : o.summary = p.summary
  description : o.description = p.description
  deprecated : o.deprecated = p.deprecated
  pathParams : List.Forall₂ Param.Alike o.pathParams p.pathParams
  pathParamOrder : o.pathParamOrder = p.pathParamOrder
  queryParams : List.Forall₂ Param.Alike o.queryParams p.queryParams
  requestBody : Option.Rel Body.Alike o.requestBody p.requestBody
  response : o.response.Alike p.response

/-- Two services that say the same. -/
structure Service.Alike (s t : Service) : Prop where
  tag : s.tag = t.tag
  operations : List.Forall₂ Operation.Alike s.operations t.operations

/-- Two compiled descriptions that say the same. -/
structure Api.Alike (a b : Api) : Prop where
  services : List.Forall₂ Service.Alike a.services b.services
  models : List.Forall₂ Model.Alike a.models b.models
  securitySchemes : a.securitySchemes = b.securitySchemes

end ApiCompiler
