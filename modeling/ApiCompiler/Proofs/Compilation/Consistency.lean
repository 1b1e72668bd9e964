import ApiCompiler.Proofs.Compilation.NameCollisions
import ApiCompiler.Proofs.Compilation.Stages
import ApiCompiler.Proofs.Registry.Consistency

/-!
# The registry between two stages

While a shape is hoisted, models come and go with the candidates that are tried for it.  Between
two stages of a build nothing of this is left.  The names that are taken are the names of the
models, and every stage only appends: a conversion hoists models under free names, and a component
is entered after the models that were there (`Stage.Runs.keeps`, one case for each kind of stage).
A whole build goes through such stages one after the other (`registry_consistent`).

A component is entered even if its name is taken.  So a name may have two models, and the account
of the build says which: a hoisted one, and the component after it (`Document.Accounts.of_name`).
-/

namespace ApiCompiler
namespace Stage

/-- The stage leads from one state to the other, both with the names of their models taken, and
keeps the models there were in front. -/
structure Keeps (stage : Stage) (s t : BuildState) : Prop where
  runs : stage.Runs s t
  before : s.registry.Consistent
  after : t.registry.Consistent
  models_prefix : s.registry.models <+: t.registry.models

/-- Every stage keeps a registry consistent, and only appends to it. -/
theorem Runs.keeps {stage : Stage} {s t : BuildState} (h : stage.Runs s t)
    (hs : s.registry.Consistent) : stage.Keeps s t := by
  cases h with
  | @conversion owner schema _ _ shape hrun =>
    cases schema with
    | none =>
      obtain ⟨-, rfl⟩ := Build.pure_returns.mp hrun
      exact ⟨.conversion hrun, hs, hs, List.prefix_rfl⟩
    | some schema =>
      obtain ⟨hgrows, -⟩ := schema.sound hrun
      exact ⟨.conversion hrun, hs, hs.grows hgrows, hgrows.models_prefix⟩
  | component hrun => exact ⟨.component hrun, hs, hs.addModel _, List.prefix_append _ _⟩

namespace Chain

variable {stages : List Stage} {s t : BuildState}

/-- A run through stages that starts with a consistent registry keeps it consistent all along. -/
theorem keeps (h : Chain Runs stages s t) (hs : s.registry.Consistent) :
    Chain Keeps stages s t ∧ t.registry.Consistent := by
  induction h with
  | nil => exact ⟨.nil _, hs⟩
  | cons first _ ih =>
    have hkeeps := first.keeps hs
    obtain ⟨hrest, hlast⟩ := ih hkeeps.after
    exact ⟨.cons hkeeps hrest, hlast⟩

theorem models_prefix (h : Chain Keeps stages s t) : s.registry.models <+: t.registry.models := by
  induction h with
  | nil => exact List.prefix_rfl
  | cons first _ ih => exact first.models_prefix.trans ih

end Chain
end Stage

/-- Entries that all have one name are at most a hoisted one and, after it, one of a component. -/
theorem exists_eq_of_pairwise {l : List Entry}
    (h : l.Pairwise fun e f => e.isComponent = false ∧ f.isComponent = true) :
    ∃ hoisted component : Option Model,
      l = hoisted.toList.map .hoisted ++ component.toList.map .component := by
  by_cases hcomponent : ∃ c ∈ l, c.isComponent = true
  · obtain ⟨c, hc, hcomponent⟩ := hcomponent
    cases c with
    | hoisted => cases hcomponent
    | component m =>
      rcases eq_singleton_or_pair h hc hcomponent with rfl | ⟨e, he, rfl⟩
      · exact ⟨none, some m, rfl⟩
      · cases e with
        | hoisted m' => exact ⟨some m', some m, rfl⟩
        | component => cases he
  · -- all entries are hoisted, so there are no two of them
    rcases l with _ | ⟨a, _ | ⟨b, l⟩⟩
    · exact ⟨none, none, rfl⟩
    · cases a with
      | hoisted m => exact ⟨some m, none, rfl⟩
      | component m => exact absurd ⟨_, List.mem_cons_self, rfl⟩ hcomponent
    · have hab := List.rel_of_pairwise_cons h List.mem_cons_self
      exact absurd ⟨b, List.mem_cons_of_mem _ List.mem_cons_self, hab.2⟩ hcomponent

namespace Document

variable {d : Document}

/-- The models of a name: at most one that is hoisted and, after it, at most one component. -/
theorem Accounts.of_name {models : List Model} {es : List Entry} (h : d.Accounts models es)
    (n : String) : ∃ hoisted component : Option Model,
      (es.filter fun e => e.model.name = n) =
        hoisted.toList.map .hoisted ++ component.toList.map .component := by
  refine exists_eq_of_pairwise ((h.shared.filter _).imp_of_mem fun {e f} he hf hef => ?_)
  have hename : e.model.name = n := of_decide_eq_true (List.mem_filter.mp he).2
  have hfname : f.model.name = n := of_decide_eq_true (List.mem_filter.mp hf).2
  exact hef (hename.trans hfname.symm)

end Document

/-- **The registry of a build.**  A build that returns goes through the stages of its components and
then through those of its operations.  Before and after each of them, the names that are taken are
exactly the names of the models, and every stage leaves the models before it where they are; so the
models of the components come first in the description.  Of one name there is at most one hoisted
model and at most one component, in this order.  What was hoisted out of which schema, and which
component was entered when, is recorded in the entries. -/
theorem registry_consistent (d : Document) (hkeys : (d.schemas.map (·.1)).Nodup) {strict : Bool}
    {api : Api} {notices : List Notice} (hcompile : d.compile strict = (.ok api, notices)) :
    ∃ middle after, d.compileModels.Returns (Build.start strict) () middle ∧
      d.build.Returns (Build.start strict) api after ∧
      Stage.Chain Stage.Keeps d.componentStages (Build.start strict) middle ∧
      Stage.Chain Stage.Keeps (d.operationStages none) middle after ∧
      after.registry.Consistent ∧ api.models = after.registry.models ∧
      middle.registry.models <+: api.models ∧
      ∃ es, d.Records (.empty strict) es after.registry ∧ d.Accounts api.models es ∧
        ∀ n, ∃ hoisted component : Option Model,
          (es.filter fun e => e.model.name = n) =
            hoisted.toList.map .hoisted ++ component.toList.map .component := by
  obtain ⟨after, hbuild, -⟩ := Document.build_returns_of_compile hcompile
  obtain ⟨es, hes, hentries, hregistry, hnames, -⟩ := Document.build_records hbuild
  have haccounts : d.Accounts api.models es := by
    rw [← hregistry] at hentries ⊢
    exact hes.accounts hkeys hentries hnames
  have hrun := hbuild
  rw [Document.build, Build.bind_returns] at hrun
  obtain ⟨_, middle, hmodels, hrun⟩ := hrun
  rw [Build.bind_returns] at hrun
  obtain ⟨services, u, hservices, hrun⟩ := hrun
  rw [Build.registry_bind_returns] at hrun
  obtain ⟨-, rfl⟩ := Build.pure_returns.mp hrun
  obtain ⟨hcomponents, hmiddle⟩ :=
    (Document.compileModels_chain hmodels).keeps (Registry.consistent_empty strict)
  obtain ⟨hoperations, hlast⟩ := (Document.compileServices_chain hservices).keeps hmiddle
  refine ⟨middle, after, hmodels, hbuild, hcomponents, hoperations, hlast, hregistry.symm, ?_, es,
    hes, haccounts, haccounts.of_name⟩
  rw [← hregistry]
  exact hoperations.models_prefix

/-- The components of the orders are compiled in four stages. -/
theorem Orders.orders_consistent :
    (Orders.document.schemas.map (·.1)).Nodup ∧
      Orders.document.compile true = (.ok Orders.api, []) ∧
      Orders.document.componentStages.length = 4 ∧
      ∃ middle, Stage.Chain Stage.Keeps Orders.document.componentStages (Build.start true) middle ∧
        middle.registry.models <+: Orders.api.models := by
  refine ⟨Orders.nodup_keys, Orders.compile_document, by cbv, ?_⟩
  obtain ⟨middle, after, -, -, hcomponents, -, -, -, hprefix, -⟩ :=
    registry_consistent Orders.document Orders.nodup_keys Orders.compile_document
  exact ⟨middle, hcomponents, hprefix⟩

end ApiCompiler
