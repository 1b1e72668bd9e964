import ApiCompiler.Value

/-!
# Shapes

A shape is the compiled form of a schema: what values look like, with every reference left as a
name.  Whatever its kind, a shape carries `Traits`: whether null is admitted, a format, and the
property that selects among the members of a union.

`Shape.children` lists the shapes directly below a shape, in the order in which they are walked.
-/

namespace ApiCompiler

/-- The kinds of values that are neither composed nor null. -/
inductive Scalar where
  | string
  | number
  | integer
  | boolean
  deriving DecidableEq

/-- How the members of a composition combine. -/
inductive Composition where
  | oneOf
  | anyOf
  | allOf
  deriving DecidableEq

/-- The kinds of shapes. -/
inductive Kind where
  | unknown
  | scalar (kind : Scalar)
  | null
  | array
  | object
  | enum
  | ref
  | composition (how : Composition)
  | negation
  deriving DecidableEq

namespace Scalar

/-- All scalar kinds. -/
def all : List Scalar := [.string, .number, .integer, .boolean]

/-- The name of a scalar kind. -/
def name : Scalar → String
  | .string => "string"
  | .number => "number"
  | .integer => "integer"
  | .boolean => "boolean"

end Scalar

namespace Composition

/-- All ways to combine members. -/
def all : List Composition := [.oneOf, .anyOf, .allOf]

/-- The keyword of a composition. -/
def name : Composition → String
  | .oneOf => "oneOf"
  | .anyOf => "anyOf"
  | .allOf => "allOf"

end Composition

namespace Kind

/-- All kinds. -/
def all : List Kind :=
  .unknown :: Scalar.all.map .scalar ++ [.null, .array, .object, .enum, .ref] ++
    Composition.all.map .composition ++ [.negation]

/-- The name of a kind. -/
def name : Kind → String
  | .unknown => "unknown"
  | .scalar k => k.name
  | .null => "null"
  | .array => "array"
  | .object => "object"
  | .enum => "enum"
  | .ref => "ref"
  | .composition how => how.name
  | .negation => "not"

/-- The kind of a name. -/
def ofName? (s : String) : Option Kind := all.find? fun k => k.name = s

end Kind

/-- The property that selects among the members of a union, and the model names that its values
stand for. -/
structure Discriminator where
  propertyName : String
  mapping : List (String × String)

/-- What every shape carries. -/
structure Traits where
  nullable : Bool
  format : Option String
  discriminator : Option Discriminator

/-- Not null, no format, no discriminator. -/
def Traits.none : Traits := ⟨false, .none, .none⟩

/-- What documentation says about a value; null stands for a missing default. -/
structure Annotations where
  title : Option String
  description : Option String
  deprecated : Bool
  readOnly : Bool
  writeOnly : Bool
  default : Value
  samples : List Value

/-- Nothing said. -/
def Annotations.none : Annotations := ⟨.none, .none, false, false, false, .scalar .null, []⟩

/-- A named part of an object. -/
structure Field (σ : Type) where
  name : String
  type : σ
  required : Bool
  annotations : Annotations

/-- The values of an enumeration: as texts, as they were declared, and the kind they share. -/
structure Literals where
  values : List String
  raw : List Value
  base : Kind

/-- The compiled form of a schema. -/
inductive Shape where
  | unknown (traits : Traits)
  | scalar (traits : Traits) (kind : Scalar)
  | null (traits : Traits)
  | array (traits : Traits) (items : Shape)
  | object (traits : Traits) (fields : List (Field Shape)) (additional : Option Shape)
  | enum (traits : Traits) (literals : Literals)
  | ref (traits : Traits) (name : String)
  | composition (traits : Traits) (how : Composition) (members : List Shape)
  | negation (traits : Traits) (inner : Shape)

namespace Shape

/-- What the shape carries whatever its kind. -/
def traits : Shape → Traits
  | .unknown t => t
  | .scalar t _ => t
  | .null t => t
  | .array t _ => t
  | .object t _ _ => t
  | .enum t _ => t
  | .ref t _ => t
  | .composition t _ _ => t
  | .negation t _ => t

/-- The same shape with other traits. -/
def withTraits (t : Traits) : Shape → Shape
  | .unknown _ => .unknown t
  | .scalar _ k => .scalar t k
  | .null _ => .null t
  | .array _ s => .array t s
  | .object _ fs a => .object t fs a
  | .enum _ l => .enum t l
  | .ref _ n => .ref t n
  | .composition _ how ms => .composition t how ms
  | .negation _ s => .negation t s

/-- Whether null is admitted. -/
def nullable (s : Shape) : Bool := s.traits.nullable

/-- The same shape, admitting null or not. -/
def asNullable (nullable : Bool) (s : Shape) : Shape :=
  s.withTraits { s.traits with nullable }

/-- The kind of a shape. -/
def kind : Shape → Kind
  | .unknown _ => .unknown
  | .scalar _ k => .scalar k
  | .null _ => .null
  | .array _ _ => .array
  | .object _ _ _ => .object
  | .enum _ _ => .enum
  | .ref _ _ => .ref
  | .composition _ how _ => .composition how
  | .negation _ _ => .negation

/-- Whether the shape is an enumeration. -/
def isEnum : Shape → Bool
  | .enum _ _ => true
  | _ => false

/-- The first field of a name. -/
def field? (name : String) : Shape → Option (Field Shape)
  | .object _ fs _ => fs.find? fun f => f.name = name
  | _ => none

/-- The shapes directly below, in walking order. -/
def children : Shape → List Shape
  | .array _ s => [s]
  | .object _ fs a => fs.map (·.type) ++ a.toList
  | .composition _ _ ms => ms
  | .negation _ s => [s]
  | _ => []

/-- A shape that says nothing. -/
def anything : Shape := .unknown .none

mutual

/-- The number of shapes in a shape. -/
def size : Shape → Nat
  | .array _ s => size s + 1
  | .object _ fs a => fieldsSize fs + optionSize a + 1
  | .composition _ _ ms => listSize ms + 1
  | .negation _ s => size s + 1
  | _ => 1

/-- The number of shapes in a list of shapes. -/
def listSize : List Shape → Nat
  | [] => 0
  | s :: ss => size s + listSize ss

/-- The number of shapes in the types of fields. -/
def fieldsSize : List (Field Shape) → Nat
  | [] => 0
  | ⟨_, s, _, _⟩ :: fs => size s + fieldsSize fs

/-- The number of shapes in an optional shape. -/
def optionSize : Option Shape → Nat
  | none => 0
  | some s => size s

end

theorem listSize_append (xs ys : List Shape) :
    listSize (xs ++ ys) = listSize xs + listSize ys := by
  induction xs with
  | nil => simp [listSize]
  | cons x xs ih => simp [listSize, ih, Nat.add_assoc]

theorem listSize_map_type (fs : List (Field Shape)) :
    listSize (fs.map (·.type)) = fieldsSize fs := by
  induction fs with
  | nil => rfl
  | cons f fs ih => simp [listSize, fieldsSize, ih]

theorem listSize_toList (a : Option Shape) : listSize a.toList = optionSize a := by
  cases a <;> simp [listSize, optionSize]

/-- The size counts the shape itself and everything below it. -/
theorem size_eq (s : Shape) : s.size = listSize s.children + 1 := by
  cases s <;>
    simp [size, children, listSize, listSize_append, listSize_map_type, listSize_toList]

end Shape
end ApiCompiler
