import ApiCompiler.Reference
import ApiCompiler.Value

/-!
# Schemas

A schema of a document is a reference or an inline schema.  The keywords that hold no further
schemas are kept in `Schema.Keywords`, the others in `Schema.Children`, so that a recursion over
schemas is a recursion over `Children`.

Every keyword is optional.  A keyword that was written as null is as good as missing, but a
document that is written out again still shows it, so its key is kept in `nulls`.
-/

namespace ApiCompiler

/-- The types a schema can declare. -/
inductive DataType where
  | array
  | boolean
  | integer
  | number
  | object
  | string
  | null
  deriving DecidableEq

namespace DataType

/-- All types. -/
def all : List DataType := [.array, .boolean, .integer, .number, .object, .string, .null]

/-- The spelling of a type. -/
def name : DataType → String
  | .array => "array"
  | .boolean => "boolean"
  | .integer => "integer"
  | .number => "number"
  | .object => "object"
  | .string => "string"
  | .null => "null"

/-- The type of a spelling. -/
def ofName? (s : String) : Option DataType := all.find? fun t => t.name = s

end DataType

namespace Schema

/-- The declaration of types: one type, or a list of them. -/
inductive TypeDeclaration where
  | one (type : DataType)
  | several (types : List DataType)

/-- The declared types in order. -/
def TypeDeclaration.toList : TypeDeclaration → List DataType
  | .one t => [t]
  | .several ts => ts

/-- The property that selects among the members of a composition. -/
structure Discriminator where
  propertyName : String
  mapping : Option (List (String × String))
  nulls : List String

/-- The keywords that hold no schemas. -/
structure Keywords where
  title : Option String
  description : Option String
  type : Option TypeDeclaration
  format : Option String
  nullable : Option Bool
  enum : Option (List Value)
  const : Option Value
  discriminator : Option Discriminator
  required : Option (List String)
  default : Option Value
  sample : Option Value
  samples : Option (List Value)
  deprecated : Option Bool
  readOnly : Option Bool
  writeOnly : Option Bool
  /-- The keywords that are not known, in the order written. -/
  extra : List (String × Value)
  nulls : List String

/-- What may stand for the properties that an object does not declare. -/
inductive Additional (σ : Type) where
  | absent
  | flag (allowed : Bool)
  | schema (value : σ)

/-- The keywords that hold schemas. -/
structure Children (σ : Type) where
  oneOf : Option (List σ)
  anyOf : Option (List σ)
  allOf : Option (List σ)
  negated : Option σ
  items : Option σ
  properties : Option (List (String × σ))
  additional : Additional σ

end Schema

/-- A schema: a reference, or keywords. -/
inductive Schema where
  | reference (target : Reference)
  | inline (keywords : Schema.Keywords) (children : Schema.Children Schema)

namespace Schema

/-- The declared types in order. -/
def Keywords.types (k : Keywords) : List DataType := (k.type.map (·.toList)).getD []

/-- Whether null is declared, by the keyword or as a type. -/
def Keywords.declaresNull (k : Keywords) : Bool :=
  k.nullable.getD false || k.types.contains .null

/-- The unknown keywords that are not extensions, sorted. -/
def Keywords.unrecognized (k : Keywords) : List String :=
  ((k.extra.map (·.1)).filter fun key => !key.startsWith "x-").mergeSort (· ≤ ·)

end Schema
end ApiCompiler
