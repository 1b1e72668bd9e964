import ApiCompiler.Api

/-!
# One definition for each name

A list of models may define a name more than once.  `definitions` keeps one model for each name,
in the order in which the names first appear: an enumeration rather than anything else, and
otherwise the earlier definition.
-/

namespace ApiCompiler

/-- Whether a later model of the same name takes the place of an earlier one. -/
def Model.supersedes (later earlier : Model) : Bool :=
  later.shape.isEnum && !earlier.shape.isEnum

/-- Adds a model to a list with one model for each name. -/
def define (m : Model) : List Model → List Model
  | [] => [m]
  | d :: ds =>
    if d.name = m.name then (if m.supersedes d then m else d) :: ds else d :: define m ds

/-- One model for each name. -/
def definitions (models : List Model) : List Model :=
  models.foldl (fun ds m => define m ds) []

end ApiCompiler
