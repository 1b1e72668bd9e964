import ApiCompiler.Derivation
import ApiCompiler.Proofs.Build.Lockstep
import Mathlib

/-!
# Strict mode only adds errors

Strictness shows in two places.  A strict build refuses a name that another shape has taken, and a
strict derivation refuses names that no model has.  Apart from these two refusals, strict and
lenient runs are one and the same (`strict_only_refuses`).

For builds this is the lockstep of the two runs, read at the state in which both start; a strict
build that returns has renamed nothing (`Document.compile_lockstep`).
-/

namespace ApiCompiler
namespace Document

/-- A strict build refuses a name, or it ends as the lenient build does, with the same notices, and
none of them is that of a renamed model. -/
theorem compile_lockstep (d : Document) :
    (∃ name, (d.compile true).1 = .error (.nameCollision name)) ∨
      d.compile false = d.compile true ∧
        ∀ name stored, .renamedModel name stored ∉ (d.compile true).2 := by
  have hcompile : ∀ strict, d.compile strict = ((d.build.outcome (Build.start strict)).1,
      (d.build.outcome (Build.start strict)).2.notices) :=
    fun _ => rfl
  have hstart : Build.start false = (Build.start true).relaxed := rfl
  rcases d.build_assembled.lockstep _ Build.start_unrenamed with hrefuses | ⟨hstate, hlenient⟩
  · exact Or.inl hrefuses
  · refine Or.inr ⟨?_, hstate.notices⟩
    rw [hcompile, hcompile, hstart, hlenient]
    rfl

/-- A strict build that returns has reported no renaming. -/
theorem compile_strict_notices {d : Document} {api : Api} {notices : List Notice}
    (h : d.compile true = (.ok api, notices)) (name stored : String) :
    .renamedModel name stored ∉ notices := by
  rcases d.compile_lockstep with ⟨refused, hrefuses⟩ | ⟨-, hnone⟩
  · rw [h] at hrefuses
    cases hrefuses
  · rw [h] at hnone
    exact hnone name stored

end Document

/-- A strict derivation refuses the names that no model has, if there are any; otherwise it derives
what a lenient one derives, and nothing is reported. -/
theorem Api.derive_lockstep (api : Api) (f : TagFilter) :
    ∃ p notices, prune false (f.apply api.services) api.models = .ok (p, notices) ∧
      if p.unresolved = [] then
        ∃ derived, api.derive true f = .ok (derived, []) ∧ api.derive false f = .ok (derived, [])
      else api.derive true f = .error (.unresolvedReferences p.unresolved) := by
  have hderive : ∀ strict, api.derive strict f =
      prune strict (f.apply api.services) api.models >>= fun r =>
        .ok (⟨f.apply api.services, definitions r.1.models, api.securitySchemes⟩, r.2) :=
    fun _ => rfl
  by_cases hnone : (pruneModels (f.apply api.services) api.models).unresolved = []
  · have hprune : ∀ strict, prune strict (f.apply api.services) api.models =
        .ok (pruneModels (f.apply api.services) api.models, []) := by
      intro strict
      rw [prune, hnone]
      rfl
    refine ⟨_, _, hprune false, ?_⟩
    rw [if_pos hnone, hderive, hderive, hprune, hprune]
    exact ⟨_, rfl, rfl⟩
  · have hempty : (pruneModels (f.apply api.services) api.models).unresolved.isEmpty = false := by
      simpa using hnone
    have hlenient : prune false (f.apply api.services) api.models =
        .ok (pruneModels (f.apply api.services) api.models, [.unresolvedReferences
          (pruneModels (f.apply api.services) api.models).unresolved]) := by
      simp [prune, hempty]
    have hstrict : prune true (f.apply api.services) api.models =
        .error (.unresolvedReferences
          (pruneModels (f.apply api.services) api.models).unresolved) := by
      simp [prune, hempty]
    refine ⟨_, _, hlenient, ?_⟩
    rw [if_neg hnone, hderive, hstrict]
    rfl

/-- **Strict mode only adds errors.**  A strict build fails for a name that is taken, or it returns
or fails exactly as the lenient build does, which then renames nothing.  A strict derivation fails
exactly where pruning finds names without a model, and names them; where it finds none, strict and
lenient derivations return the same description. -/
theorem strict_only_refuses :
    (∀ d : Document, (∃ name, (d.compile true).1 = .error (.nameCollision name)) ∨
      d.compile false = d.compile true ∧
        ∀ name stored, .renamedModel name stored ∉ (d.compile false).2) ∧
    ∀ (api : Api) (f : TagFilter),
      ∃ p notices, prune false (f.apply api.services) api.models = .ok (p, notices) ∧
        if p.unresolved = [] then
          ∃ derived, api.derive true f = .ok (derived, []) ∧ api.derive false f = .ok (derived, [])
        else api.derive true f = .error (.unresolvedReferences p.unresolved) := by
  refine ⟨fun d => ?_, Api.derive_lockstep⟩
  rcases d.compile_lockstep with hrefuses | ⟨hsame, hnone⟩
  · exact Or.inl hrefuses
  · refine Or.inr ⟨hsame, ?_⟩
    rw [hsame]
    exact hnone

/-- Two properties whose names are written alike: a strict build refuses the second one. -/
example :
    let box : Schema := .inline { Schema.Keywords.blank with type := some (.one .object) } .blank
    let crate : Schema := .inline { Schema.Keywords.blank with type := some (.one .object) }
      { Schema.Children.blank with
        properties := some [("a b", box), ("a-b", .inline
          { Schema.Keywords.blank with enum := some [.scalar (.text "x")] } .blank)] }
    ((crate.compile "Crate" "" false).outcome (Build.start true)).1 =
      .error (.nameCollision "Crate_AB") := by
  cbv

end ApiCompiler
