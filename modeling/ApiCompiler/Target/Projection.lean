import ApiCompiler.Target.Vocabulary

/-!
# Projecting shapes onto targets

`Target.project` gives the type that stands for a shape in a target.  It never fails: what the
target cannot express is approximated.  A reference to a model that is not among the known ones
becomes the unknown type.
-/

namespace ApiCompiler
namespace Target

/-- The type of a reference.  Without a list every model is known. -/
def projectReference (known : Option (List String)) (name : String) : TypeExpr :=
  match known with
  | none => .named name
  | some names => if names.contains name then .named name else .unknown

/-- The type of an enumeration: a literal if the target writes it, else the kind its values
share, and texts if they share none. -/
def projectEnum (t : Target) (l : Literals) : TypeExpr :=
  if l.values.isEmpty then .unknown
  else if t.writesLiterals l then
    .literal (if l.raw.isEmpty then l.values.map fun s => .scalar (.text s) else l.raw)
  else
    match l.base with
    | .scalar k => .scalar (.scalar k)
    | _ => .scalar (.scalar .string)

/-- The type of a composition whose members have the given types. -/
def projectComposition (t : Target) (how : Composition) (members : List TypeExpr) : TypeExpr :=
  match how with
  | .allOf =>
    if t.hasIntersections then .intersection members
    else .approximated (members.headD .unknown) .intersection
  | _ => if t.hasUnions then .union members else .approximated .unknown .union

/-- Admits null if the traits do. -/
def orNullIf (u : Traits) (e : TypeExpr) : TypeExpr := if u.nullable then e.orNull else e

mutual

/-- The type of a shape; null is admitted if the shape is nullable. -/
def project (t : Target) (known : Option (List String)) : Shape → TypeExpr
  | .scalar u k =>
    orNullIf u (if k = .string && u.format = some "binary" then .bytes else .scalar (.scalar k))
  | .null u => orNullIf u .null
  | .unknown u => orNullIf u .unknown
  | .ref u name => orNullIf u (projectReference known name)
  | .array u s => orNullIf u (.sequence (project t known s))
  | .composition u how ms => orNullIf u (projectComposition t how (projectAll t known ms))
  | .negation u _ => orNullIf u (.approximated .unknown .negation)
  | .enum u l => orNullIf u (projectEnum t l)
  | .object u fields additional =>
    orNullIf u
      (if !fields.isEmpty && t.inlineObjects then .object (projectFields t known fields)
        else if fields.isEmpty then
          match additional with
          | some s => .mapping (project t known s)
          | none => .mapping .unknown
        else .mapping .unknown)

/-- The types of shapes in order. -/
def projectAll (t : Target) (known : Option (List String)) : List Shape → List TypeExpr
  | [] => []
  | s :: ss => project t known s :: projectAll t known ss

/-- The types of fields in order. -/
def projectFields (t : Target) (known : Option (List String)) :
    List (Field Shape) → List (String × TypeExpr × Bool)
  | [] => []
  | ⟨name, s, required, _⟩ :: fields =>
    (name, project t known s, required) :: projectFields t known fields

end

/-- The spelling of the type of a shape. -/
def typeText (t : Target) (known : Option (List String)) (s : Shape) : Except Breakdown String :=
  t.render (t.project known s)

end Target
end ApiCompiler
