import ApiCompiler.Derivation.Definitions
import ApiCompiler.Notice
import ApiCompiler.Failure

/-!
# Reachable models

After filtering, only the models are kept that the remaining operations refer to, directly or
through other models.  Where a name has several definitions, the one that `definitions` keeps is
followed.

`visit` works through a list of names that are still to be looked at.  A model that is met is
taken out of those that remain, so every step either leaves fewer models or fewer names, and the
walk ends however the models refer to each other.
-/

namespace ApiCompiler

/-- The models of other names. -/
def otherModels (name : String) (models : List Model) : List Model :=
  models.filter fun m => m.name ≠ name

theorem length_otherModels_lt {m : Model} {models : List Model} (h : m ∈ models) :
    (otherModels m.name models).length < models.length :=
  List.length_filter_lt_length_iff_exists.2 ⟨m, h, by simp⟩

/-- The names met from some names on, following the definitions that remain.  A name may be met
more than once. -/
def visit (remaining : List Model) (pending : List String) : List String :=
  match pending with
  | [] => []
  | n :: rest =>
    match _found : remaining.find? fun m => m.name = n with
    | some m =>
      n :: visit (otherModels n remaining) (rest ++ m.shape.references)
    | none => n :: visit remaining rest
termination_by (remaining.length, pending.length)
decreasing_by
  · have hn : m.name = n := by simpa using List.find?_some _found
    subst hn
    exact Prod.Lex.left _ _ (length_otherModels_lt (List.mem_of_find?_eq_some _found))
  · exact Prod.Lex.right _ (by simp)

/-- The names that the operations of services refer to. -/
def rootReferences (services : List Service) : List String :=
  services.flatMap fun s => s.operations.flatMap fun op => op.shapes.flatMap (·.references)

/-- What pruning leaves. -/
structure Pruned where
  /-- The reachable models, every definition of them. -/
  models : List Model
  /-- The names of the reachable models, each once. -/
  reachable : List String
  /-- The names that are referred to and not defined, sorted. -/
  unresolved : List String

/-- Keeps the models that the operations of services reach. -/
def pruneModels (services : List Service) (models : List Model) : Pruned :=
  let defs := definitions models
  let met := visit defs (rootReferences services)
  let kept := models.filter fun m => met.contains m.name
  let names := defs.map (·.name)
  { models := kept
    reachable := (kept.map (·.name)).eraseDups
    unresolved := ((met.filter fun n => !names.contains n).eraseDups).mergeSort (· ≤ ·) }

/-- Keeps the reachable models.  Names that are not defined are reported, or in a strict run
refused. -/
def prune (strict : Bool) (services : List Service) (models : List Model) :
    Except Failure (Pruned × List Notice) :=
  let p := pruneModels services models
  if p.unresolved.isEmpty then .ok (p, [])
  else if strict then .error (.unresolvedReferences p.unresolved)
  else .ok (p, [.unresolvedReferences p.unresolved])

end ApiCompiler
