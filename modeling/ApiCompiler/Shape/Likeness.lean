import ApiCompiler.Shape.Basic
import ApiCompiler.Value.Likeness

/-!
# Likeness of shapes

Two shapes are like when they say the same, annotations of fields included.  Values inside them
are compared as `Value.like` compares them, and discriminator mappings as maps.
-/

namespace ApiCompiler

/-- Whether two maps from texts to texts hold the same. -/
def sameMapping (a b : List (String × String)) : Bool :=
  a.length = b.length && a.all fun e => lookup? e.1 b = some e.2

/-- Whether two discriminators say the same. -/
def Discriminator.like (a b : Discriminator) : Bool :=
  a.propertyName = b.propertyName && sameMapping a.mapping b.mapping

/-- Whether two traits say the same. -/
def Traits.like (a b : Traits) : Bool :=
  a.nullable = b.nullable && a.format = b.format &&
    match a.discriminator, b.discriminator with
    | .none, .none => true
    | .some d, .some e => d.like e
    | _, _ => false

/-- Whether two annotations say the same. -/
def Annotations.like (a b : Annotations) : Bool :=
  a.title = b.title && a.description = b.description && a.deprecated = b.deprecated &&
    a.readOnly = b.readOnly && a.writeOnly = b.writeOnly && a.default.like b.default &&
    Value.likeItems a.samples b.samples

/-- Whether two lists of literals are the same. -/
def Literals.like (a b : Literals) : Bool :=
  a.values = b.values && Value.likeItems a.raw b.raw && a.base = b.base

namespace Shape

mutual

/-- Whether two shapes say the same. -/
def like : Shape → Shape → Bool
  | .unknown t, .unknown u => t.like u
  | .scalar t j, .scalar u k => t.like u && j = k
  | .null t, .null u => t.like u
  | .array t a, .array u b => t.like u && like a b
  | .object t fs a, .object u gs b => t.like u && likeFields fs gs && likeOption a b
  | .enum t l, .enum u m => t.like u && l.like m
  | .ref t m, .ref u n => t.like u && m = n
  | .composition t g as, .composition u h bs => t.like u && g = h && likeAll as bs
  | .negation t a, .negation u b => t.like u && like a b
  | _, _ => false

/-- Whether two lists of shapes say the same, place by place. -/
def likeAll : List Shape → List Shape → Bool
  | [], [] => true
  | a :: as, b :: bs => like a b && likeAll as bs
  | _, _ => false

/-- Whether two lists of fields say the same, place by place. -/
def likeFields : List (Field Shape) → List (Field Shape) → Bool
  | [], [] => true
  | ⟨m, a, r, d⟩ :: fs, ⟨n, b, q, e⟩ :: gs =>
    m = n && like a b && r = q && d.like e && likeFields fs gs
  | _, _ => false

/-- Whether two optional shapes say the same. -/
def likeOption : Option Shape → Option Shape → Bool
  | none, none => true
  | some a, some b => like a b
  | _, _ => false

end

end Shape
end ApiCompiler
