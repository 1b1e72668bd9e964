import ApiCompiler.Proofs.Compilation.NameCollisions
import ApiCompiler.Proofs.Compilation.Resolution
import ApiCompiler.Proofs.Derivation.DependencyOrder
import ApiCompiler.Proofs.Derivation.Narrowing

/-!
# Dependencies come first

A document whose schemas write no references is compiled to models in which references come from
hoisting alone.  A hoisted model is entered after everything that was hoisted out of it, and the
registry is only ever appended to.  So every reference of a model names a model before it, and
every reference of an operation names a model.

Filtering, pruning and deduplication keep this order.  Pruning keeps what is reached, so whatever
a model that stays refers to stays as well.
-/

namespace ApiCompiler

/-- Dependencies come first: every reference of an operation names a model, every reference of a
model names a model before it, and no chain of references leads back to where it started. -/
structure Layered (services : List Service) (models : List Model) : Prop where
  operations : ∀ s ∈ services, ∀ op ∈ s.operations, ∀ shape ∈ op.shapes, ∀ n,
    shape.RefersTo n → n ∈ models.map (·.name)
  dependenciesFirst : DependenciesFirst models
  acyclic : Acyclic models

namespace Document

/-- No schema of the document is a reference. -/
def ReferenceFree (d : Document) : Prop := ∀ r, ¬ d.Writes (.reference r)

variable {d : Document}

/-- Where no schema is a reference, a shape refers only to models that are there. -/
theorem ReferenceFree.mem_of_refersTo (h : d.ReferenceFree) {r : Registry} {shape : Shape}
    (hmeant : d.Meant r shape) {n : String} (hn : shape.RefersTo n) :
    n ∈ r.models.map (·.name) := by
  obtain ⟨s, hs, hrep⟩ := hmeant
  rcases hrep.refersTo hn with ⟨p, hp, ref, hocc, -⟩ | ⟨m, hm⟩
  · exact absurd ((hs p hp).occurs hocc) (h ref)
  · exact List.mem_map.mpr ⟨m, Registry.mem_of_model? hm, Registry.name_of_model? hm⟩

/-- Every entry of a build keeps dependencies first. -/
theorem Records.dependenciesFirst {r r' : Registry} {es : List Entry} (h : d.Records r es r')
    (hfree : d.ReferenceFree) (hr : DependenciesFirst r.models) : DependenciesFirst r'.models := by
  induction h with
  | refl => exact hr
  | hoisted _ _ hm ih => exact ih.append_singleton fun n => hfree.mem_of_refersTo hm.meant
  | component _ hm ih => exact ih.append_singleton fun n => hfree.mem_of_refersTo hm.meant

/-- What a document without references among its schemas is compiled to. -/
theorem ReferenceFree.layered (h : d.ReferenceFree) {strict : Bool} {api : Api}
    {notices : List Notice} (hcompile : d.compile strict = (.ok api, notices)) :
    Layered api.services api.models := by
  obtain ⟨after, hbuild, -⟩ := build_returns_of_compile hcompile
  obtain ⟨es, hes, -, hregistry, -, hoperations⟩ := build_records hbuild
  have hmodels : DependenciesFirst api.models := by
    rw [← hregistry]
    exact hes.dependenciesFirst h .nil
  refine ⟨fun s hs op hop shape hshape n hn => ?_, hmodels, hmodels.acyclic⟩
  rw [← hregistry]
  exact h.mem_of_refersTo (hoperations s hs op hop shape hshape) hn

end Document

/-- What remains for some of the operations is in order, too. -/
theorem Layered.definitionsFor {services part : List Service} {models : List Model}
    (h : Layered services models)
    (hpart : ∀ s ∈ part, ∀ op ∈ s.operations, ∃ s' ∈ services, op ∈ s'.operations) :
    Layered part (ApiCompiler.definitionsFor part models) := by
  have hclosed := (reaches_isLeast part (nodup_names_definitions models)).1
  have hmodels : DependenciesFirst (ApiCompiler.definitionsFor part models) := by
    rw [definitionsFor_eq]
    refine h.dependenciesFirst.definitions.ofNames fun m hm hmet n hn => isMet_iff.mpr ?_
    exact hclosed.definitions m hm (isMet_iff.mp hmet) n hn.mentions
  refine ⟨fun s hs op hop shape hshape n hn => ?_, hmodels, hmodels.acyclic⟩
  rw [definitionsFor_eq, mem_names_ofNames, mem_names_definitions]
  obtain ⟨s', hs', hop'⟩ := hpart s hs op hop
  exact ⟨isMet_iff.mpr (hclosed.operations s hs op hop shape hshape n hn.mentions),
    h.operations s' hs' op hop' shape hshape n hn⟩

/-- **Dependencies come first.**  In what a document without references among its schemas is
compiled to, every reference of a model names a model before it and every reference of an operation
names a model.  The same holds for the part of it that any filter leaves, where no two models share
a name. -/
theorem dependencies_first (d : Document) (hfree : d.ReferenceFree) {strict : Bool} {api : Api}
    {notices : List Notice} (hcompile : d.compile strict = (.ok api, notices)) :
    Layered api.services api.models ∧
      ∀ f : TagFilter, ∃ derived ns, api.derive false f = .ok (derived, ns) ∧
        (derived.models.map (·.name)).Nodup ∧ Layered derived.services derived.models := by
  have hlayered := hfree.layered hcompile
  refine ⟨hlayered, fun f => ⟨_, _, api.derive_lenient f, nodup_names_definitions _, ?_⟩⟩
  exact hlayered.definitionsFor fun s hs op hop => TagFilter.mem_apply hs hop

namespace Orders

open Schema (Keywords)

/-- The order that the list of orders consists of. -/
def order : Schema := .inline { Keywords.blank with type := some (.one .object) } .blank

theorem mem_schemas {s : Schema} (h : document.Writes s) : s ∈ [Schema.orders, text, order] := by
  induction h with
  | @component e h =>
    have hschemas : document.schemas = [("Orders", Schema.orders), ("Orders_Item", text)] := rfl
    rw [hschemas] at h
    rcases List.mem_pair.mp h with rfl | rfl <;> simp
  | parameter h => cases h
  | body h => cases h
  | response h => cases h
  | part _ hc ih =>
    have horders : Schema.orders.parts = [order] := rfl
    have htext : text.parts = [] := rfl
    have horder : order.parts = [] := rfl
    simp only [List.mem_cons, List.not_mem_nil, or_false] at ih
    rcases ih with rfl | rfl | rfl
    · rw [horders, List.mem_singleton] at hc
      simp [hc]
    · rw [htext] at hc
      cases hc
    · rw [horder] at hc
      cases hc

theorem referenceFree : document.ReferenceFree := by
  intro r hr
  have hmem := mem_schemas hr
  simp [Schema.orders, text, order] at hmem

/-- The orders come after their items. -/
theorem orders_layered :
    document.ReferenceFree ∧ document.compile true = (.ok api, []) ∧
      Layered api.services api.models :=
  ⟨referenceFree, compile_document, (dependencies_first document referenceFree compile_document).1⟩

end Orders
end ApiCompiler
