import ApiCompiler.Shape.Basic

/-!
# Walking shapes

`Shape.walk` lists a shape and everything below it, each shape before its children.  It keeps the
shapes that are still to be visited in a list of its own, so that no depth of nesting matters.
References are listed, not followed.

`Shape.references` lists the names a shape refers to, in the order of the walk: the names of
references and the targets of discriminators.
-/

namespace ApiCompiler
namespace Shape

/-- The shapes still to be visited, each followed by what is below it. -/
def walkFrom : List Shape → List Shape
  | [] => []
  | s :: pending => s :: walkFrom (s.children ++ pending)
termination_by pending => listSize pending
decreasing_by
  rw [listSize_append, listSize, size_eq]
  omega

/-- The shape and every shape below it, each before its children. -/
def walk (s : Shape) : List Shape := walkFrom [s]

/-- The names that a shape itself refers to. -/
def ownReferences (s : Shape) : List String :=
  (match s with
    | .ref _ name => [name]
    | _ => []) ++
  (match s.traits.discriminator with
    | some d => d.mapping.map (·.2)
    | none => [])

/-- The names that a shape or anything below it refers to. -/
def references (s : Shape) : List String := s.walk.flatMap ownReferences

end Shape
end ApiCompiler
