import ApiCompiler.Api.Encoding
import ApiCompiler.Document.Check

/-!
# Reading compiled descriptions

The inverse of `Encode`, and a little more: a field that has a default may be missing.  A value
that is no description gives the issues that it has.

Shapes are read with a bound on their nesting: a shape that stands below too many others is an
issue.  Entering a kind of shape that can hold others counts as one more level, unless it is held
by a kind that comes before it in `reach`.
-/

namespace ApiCompiler
namespace Decode

open Check

/-! ## Fields -/

/-- A field that has a default. -/
def withDefault {α : Type} (es : List (Value.Scalar × Value)) (key : String) (default : α)
    (read : Value → Checked α) : Checked α :=
  (·.getD default) <$> present es key read

/-- An optional field that may be null. -/
def nullable {α : Type} (es : List (Value.Scalar × Value)) (key : String)
    (read : Value → Checked α) : Checked (Option α) := optional es key read

/-- The entries of a value with one key spelled as another; the other spelling is passed over if
both are there. -/
def respelled (spelling key : String) (es : List (Value.Scalar × Value)) :
    List (Value.Scalar × Value) :=
  match Value.entry? key es with
  | some _ => es
  | none => es.map fun e => if e.1 = .text spelling then (.text key, e.2) else e

/-- A list of items, which are kept in a fixed order. -/
def series {α : Type} (read : Value → Checked α) : Value → Checked (List α)
  | .seq xs => items read 0 xs
  | _ => .fail .notSeries

/-- One of some words. -/
def word {α : Type} (name : α → String) (all : List α) : Value → Checked α
  | .scalar (.text s) =>
    match all.find? fun a => name a = s with
    | some a => .ok a
    | none => .fail (.notOneOf (all.map name))
  | _ => .fail (.notOneOf (all.map name))

/-! ## Shapes -/

/-- A discriminator. -/
def discriminator : Value → Checked Discriminator :=
  model "IRDiscriminator" fun es =>
    Discriminator.mk <$> required es "property_name" text
      <*> withDefault es "mapping" [] (mapping text)

/-- The traits of a shape. -/
def traits (es : List (Value.Scalar × Value)) : Checked Traits :=
  Traits.mk <$> withDefault es "nullable" false boolean <*> nullable es "format" text
    <*> nullable es "discriminator" discriminator

/-- Annotations. -/
def annotations : Value → Checked Annotations :=
  model "IRAnnotations" fun es =>
    Annotations.mk <$> nullable es "title" text <*> nullable es "description" text
      <*> withDefault es "deprecated" false boolean <*> withDefault es "read_only" false boolean
      <*> withDefault es "write_only" false boolean <*> withDefault es "default" (.scalar .null) any
      <*> withDefault es "examples" [] (series any)

/-- A kind. -/
def kind : Value → Checked Kind := word Kind.name Kind.all

/-- A field whose type is read by `shape`. -/
def field (shape : Value → Checked Shape) : Value → Checked (Field Shape) :=
  model "IRField" fun es =>
    Field.mk <$> required es "name" text <*> required es "type" shape
      <*> withDefault es "required" false boolean
      <*> withDefault es "annotations" .none annotations

/-- The values of an enumeration. -/
def literals (es : List (Value.Scalar × Value)) : Checked Literals :=
  Literals.mk <$> withDefault es "values" [] (series text)
    <*> withDefault es "raw_values" [] (series any)
    <*> withDefault es "base_kind" .unknown kind

/-- A shape of a kind; the shapes in it are read by `shape`. -/
def shapeOfKind (shape : Value → Checked Shape) (es : List (Value.Scalar × Value)) :
    Kind → Checked Shape
  | .unknown => .unknown <$> traits es
  | .scalar k => (fun t => .scalar t k) <$> traits es
  | .null => .null <$> traits es
  | .array => .array <$> traits es <*> required es "items" shape
  | .object =>
    .object <$> traits es <*> withDefault es "properties" [] (series (field shape))
      <*> nullable es "additional_properties" shape
  | .enum => .enum <$> traits es <*> literals es
  | .ref => .ref <$> traits es <*> required es "name" text
  | .composition how =>
    (fun t ms => .composition t how ms) <$> traits es
      <*> withDefault es "members" [] (series shape)
  | .negation => .negation <$> traits es <*> required es "inner" shape

/-- How far a kind of shape reaches: a kind counts as one more level inside one that reaches
further. -/
def reach : Kind → Nat
  | .array => 1
  | .object => 2
  | .composition .oneOf => 3
  | .composition .anyOf => 4
  | .composition .allOf => 5
  | .negation => 6
  | _ => 0

/-- The reach of what holds the outermost shape. -/
def outermost : Nat := 7

/-- How deeply shapes may be nested. -/
def depthLimit : Nat := 255

/-- A shape; `room` is the number of levels that are left, `within` the reach of what holds the
shape. -/
def shapeBelow : Nat → Nat → Value → Checked Shape
  | room, within, v =>
    match v with
    | .map es =>
      match Value.entry? "kind" es with
      | none => .fail .noKind
      | some k =>
        match Kind.all.find? fun kind => k.shown = kind.name with
        | none => .fail (.unknownKind k.shown (Kind.all.map Kind.name))
        | some kind =>
          let entered := reach kind ≠ 0 && reach kind < within
          Checked.under kind.name <|
            match room, entered with
            | 0, _ => .fail .tooDeep
            | room + 1, false => shapeOfKind (shapeBelow room within) es kind
            | 1, true => .fail .tooDeep
            | room + 2, true => shapeOfKind (shapeBelow room (reach kind)) es kind
    | _ => .fail .notKinded

/-- A shape. -/
def shape (v : Value) : Checked Shape := shapeBelow depthLimit outermost v

/-! ## Descriptions -/

section

variable (shape : Value → Checked Shape)

/-- A model whose shape is read by `shape`. -/
def modelWith (v : Value) : Checked Model :=
  Check.model "IRModelDef" (fun es =>
    let es := respelled "schema_" "schema" es
    Model.mk <$> required es "name" text <*> required es "schema" shape
      <*> withDefault es "annotations" .none annotations) v

/-- A parameter whose shape is read by `shape`. -/
def param : Value → Checked Param :=
  Check.model "IRParam" fun es =>
    let es := respelled "schema_" "schema" es
    Param.mk <$> required es "name" text <*> withDefault es "required" false boolean
      <*> withDefault es "schema" .anything shape <*> nullable es "description" text

/-- A request body whose shape is read by `shape`. -/
def body : Value → Checked Body :=
  Check.model "IRRequestBody" fun es =>
    let es := respelled "schema_" "schema" es
    Body.mk <$> required es "content_type" text <*> withDefault es "schema" .anything shape
      <*> withDefault es "required" false boolean <*> nullable es "description" text

/-- A response whose shape is read by `shape`. -/
def response : Value → Checked Response :=
  Check.model "IRResponse" fun es =>
    let es := respelled "schema_" "schema" es
    Response.mk
      <$> withDefault es "kind" .unknown (word Encode.responseKind [.content, .noContent, .unknown])
      <*> nullable es "schema" shape <*> nullable es "description" text
      <*> nullable es "content_type" text <*> nullable es "status_code" text

/-- An operation whose shapes are read by `shape`. -/
def operationWith : Value → Checked Operation :=
  Check.model "IROperation" fun es =>
    (fun operationId method path tag originalTags summary description deprecated pathParams
        pathParamOrder queryParams requestBody response =>
      { operationId, method, path, tag, originalTags, summary, description, deprecated, pathParams,
        pathParamOrder, queryParams, requestBody, response })
      <$> nullable es "operation_id" text <*> required es "method" text
      <*> required es "path" text <*> required es "tag" text
      <*> withDefault es "original_tags" [] (series text) <*> nullable es "summary" text
      <*> nullable es "description" text <*> withDefault es "deprecated" false boolean
      <*> withDefault es "path_params" [] (series (param shape))
      <*> withDefault es "path_param_order" [] (series text)
      <*> withDefault es "query_params" [] (series (param shape))
      <*> nullable es "request_body" (body shape)
      <*> withDefault es "response" .undeclared (response shape)

/-- A service whose shapes are read by `shape`. -/
def serviceWith : Value → Checked Service :=
  Check.model "IRService" fun es =>
    Service.mk <$> required es "tag" text
      <*> withDefault es "operations" [] (series (operationWith shape))

/-- A security scheme. -/
def securityScheme : Value → Checked SecurityScheme :=
  Check.model "IRSecurityScheme" fun es =>
    let es := respelled "in_" "in" es
    SecurityScheme.mk <$> required es "key" text <*> required es "type" text
      <*> nullable es "scheme" text <*> nullable es "in" text <*> nullable es "name" text
      <*> nullable es "bearer_format" text

/-- A description whose shapes are read by `shape`. -/
def apiWith : Value → Checked Api :=
  Check.model "IR" fun es =>
    Api.mk <$> withDefault es "services" [] (series (serviceWith shape))
      <*> withDefault es "model_defs" [] (series (modelWith shape))
      <*> withDefault es "security_schemes" [] (series securityScheme)

end

/-- A model. -/
def model : Value → Checked Model := modelWith shape

/-- An operation. -/
def operation : Value → Checked Operation := operationWith shape

/-- A service. -/
def service : Value → Checked Service := serviceWith shape

/-- A description. -/
def api : Value → Checked Api := apiWith shape

/-- A description whose shapes are nested up to a depth of their own. -/
def apiWithin (depth : Nat) : Value → Checked Api := apiWith (shapeBelow depth outermost)

end Decode
end ApiCompiler
