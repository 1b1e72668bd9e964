import ApiCompiler.Shape.Basic

/-!
# Type expressions

A type, free of the spelling of any target.  What a target cannot express is replaced by the next
best type and marked as approximated, with the construct that was lost.
-/

namespace ApiCompiler

/-- A constructor of shapes that a target may not be able to express. -/
inductive Construct where
  | union
  | intersection
  | negation
  | other (name : String)
  deriving DecidableEq

/-- The name of a construct. -/
def Construct.name : Construct → String
  | .union => "union"
  | .intersection => "intersection"
  | .negation => "negation"
  | .other name => name

/-- A type. -/
inductive TypeExpr where
  | scalar (kind : Kind)
  | bytes
  | null
  | unknown
  | sequence (item : TypeExpr)
  | mapping (value : TypeExpr)
  | named (name : String)
  | union (members : List TypeExpr)
  | intersection (members : List TypeExpr)
  | literal (values : List Value)
  | optional (inner : TypeExpr)
  /-- An object written in place: names, types, and which of them are required. -/
  | object (fields : List (String × TypeExpr × Bool))
  | approximated (inner : TypeExpr) (lost : Construct)

namespace TypeExpr

/-- Whether null is among the values by the form of the type. -/
def isOptional : TypeExpr → Bool
  | .null => true
  | .optional _ => true
  | _ => false

/-- Whether a type reads as several parts. -/
def isCompound : TypeExpr → Bool
  | .union _ => true
  | .intersection _ => true
  | .literal _ => true
  | .optional _ => true
  | _ => false

/-- Admits null, unless the type does already. -/
def orNull (e : TypeExpr) : TypeExpr := if e.isOptional then e else .optional e

end TypeExpr
end ApiCompiler
