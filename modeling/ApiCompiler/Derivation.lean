import ApiCompiler.Derivation.Reachability
import ApiCompiler.Derivation.TagFilter

/-!
# Deriving the description of a client

A client gets the services that its filter keeps, and one definition of every model that these
reach.  The security schemes stay as they are.
-/

namespace ApiCompiler
namespace Api

/-- The part of a description that passes a filter, and what was reported. -/
def derive (strict : Bool) (f : TagFilter) (api : Api) : Except Failure (Api × List Notice) := do
  let services := f.apply api.services
  let (pruned, notices) ← prune strict services api.models
  pure (⟨services, definitions pruned.models, api.securitySchemes⟩, notices)

end Api
end ApiCompiler
