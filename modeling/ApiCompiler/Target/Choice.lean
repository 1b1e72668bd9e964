import ApiCompiler.Failure
import ApiCompiler.Target.Vocabulary

/-!
# Choosing a target

A client names its target.  A name that is not known is refused with the names that are.
-/

namespace ApiCompiler
namespace Target

/-- The names of the known targets. -/
def names : List String := all.map (·.name)

/-- The target of a name. -/
def choose (name : String) : Except Failure Target :=
  match ofName? name with
  | some t => .ok t
  | none => .error (.unsupportedTarget name names)

end Target
end ApiCompiler
