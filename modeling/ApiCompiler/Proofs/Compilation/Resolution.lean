import ApiCompiler.Derivation
import ApiCompiler.Proofs.Compilation.Ledger
import ApiCompiler.Proofs.Derivation.TreeShaking
import ApiCompiler.Proofs.Hoisting.Mentions
import Mathlib

/-!
# References resolve

A document in which every reference of a schema and every target of a discriminator names a
component schema is compiled to a description without dangling names, and so is every part of it
that a filter leaves (`derive_resolved`).

What the document wrote names a component, and every component becomes a model; what hoisting
added names a model that the registry already has.  So the names of all models are closed under
references, and the least closed set that pruning computes lies within them.
-/

namespace ApiCompiler

/-! ## Names of models -/

namespace Document

/-- Every reference and every target of a discriminator, anywhere in the components or the
operations, is the name of a component schema. -/
def ReferencesKnown (d : Document) : Prop :=
  ∀ s, d.Writes s → ∀ n ∈ s.targets, n ∈ d.schemas.map (·.1)

variable {d : Document}

/-- What a shape of the document mentions is a component or a model of the registry. -/
theorem ReferencesKnown.of_meant (h : d.ReferencesKnown) {r : Registry} {shape : Shape}
    (hmeant : d.Meant r shape) {n : String} (hn : shape.Mentions n) :
    n ∈ d.schemas.map (·.1) ∨ n ∈ r.models.map (·.name) := by
  obtain ⟨s, hs, hrep⟩ := hmeant
  rcases hrep.mentions hn with ⟨p, hp, c, hocc, htarget⟩ | ⟨m, hm⟩
  · exact Or.inl (h c ((hs p hp).occurs hocc) n htarget)
  · exact Or.inr (List.mem_map.mpr ⟨m, Registry.mem_of_model? hm, Registry.name_of_model? hm⟩)

/-- Every component is a model of the description. -/
theorem mem_names_of_component {strict : Bool} {api : Api} {after : BuildState}
    (h : d.build.Returns (Build.start strict) api after) {n : String}
    (hn : n ∈ d.schemas.map (·.1)) : n ∈ api.models.map (·.name) := by
  obtain ⟨es, -, hmodels, -, hnames, -⟩ := build_records h
  obtain ⟨e, he, rfl⟩ := List.mem_map.mp hn
  have hsorted : e.1 ∈ (sortedByKey d.schemas).map (·.1) :=
    List.mem_map.mpr ⟨e, List.mem_mergeSort.mpr he, rfl⟩
  rw [← hnames] at hsorted
  obtain ⟨entry, hentry, hname⟩ := List.mem_map.mp hsorted
  rw [hmodels, ← hname, List.map_map]
  exact List.mem_map.mpr ⟨entry, (List.mem_filter.mp hentry).1, rfl⟩

end Document

/-- No name is left dangling: what operations and models mention is the name of a model. -/
structure Resolved (services : List Service) (models : List Model) : Prop where
  operations : ∀ s ∈ services, ∀ op ∈ s.operations, ∀ shape ∈ op.shapes, ∀ n,
    shape.Mentions n → n ∈ models.map (·.name)
  models : ∀ m ∈ models, ∀ n, m.shape.Mentions n → n ∈ models.map (·.name)

/-- A document whose references are known is compiled to a description without dangling names. -/
theorem Document.ReferencesKnown.resolved {d : Document} (h : d.ReferencesKnown) {strict : Bool}
    {api : Api} {notices : List Notice} (hcompile : d.compile strict = (.ok api, notices)) :
    Resolved api.services api.models := by
  obtain ⟨after, hbuild, -⟩ := Document.build_returns_of_compile hcompile
  obtain ⟨es, hes, hmodels, hregistry, -, hoperations⟩ := Document.build_records hbuild
  have hknown : ∀ shape, d.Meant after.registry shape → ∀ n, shape.Mentions n →
      n ∈ api.models.map (·.name) := by
    intro shape hmeant n hn
    rcases h.of_meant hmeant hn with hn | hn
    · exact Document.mem_names_of_component hbuild hn
    · rwa [hregistry] at hn
  refine ⟨fun s hs op hop shape hshape => hknown shape (hoperations s hs op hop shape hshape), ?_⟩
  intro m hm
  rw [hmodels] at hm
  obtain ⟨e, he, rfl⟩ := List.mem_map.mp hm
  exact hknown _ (hes.models_meant e he)

/-! ## Derived descriptions -/

/-- A filter leaves operations as they are. -/
theorem TagFilter.mem_apply {f : TagFilter} {services : List Service} {s : Service}
    (hs : s ∈ f.apply services) {op : Operation} (hop : op ∈ s.operations) :
    ∃ s' ∈ services, op ∈ s'.operations := by
  obtain ⟨s', hs', hkeep⟩ := List.mem_filterMap.mp hs
  split at hkeep
  · cases hkeep
  · cases hkeep
    refine ⟨s', hs', ?_⟩
    dsimp only at hop
    unfold TagFilter.keep at hop
    split at hop
    · split at hop
      · exact hop
      · cases hop
    · exact (List.mem_filter.mp hop).1

namespace Resolved

variable {services : List Service} {models : List Model}

theorem filtered (h : Resolved services models) (f : TagFilter) :
    Resolved (f.apply services) models := by
  refine ⟨fun s hs op hop => ?_, h.models⟩
  obtain ⟨s', hs', hop'⟩ := TagFilter.mem_apply hs hop
  exact h.operations s' hs' op hop'

/-- The names of the models are closed under references, so the least closed set lies within
them. -/
theorem reaches_subset (h : Resolved services models) {n : String}
    (hn : Reaches (definitions models) (rootReferences services) n) :
    n ∈ models.map (·.name) := by
  have hclosed : ReferencesClosed services (definitions models) {n | n ∈ models.map (·.name)} :=
    ⟨h.operations, fun m hm _ n hn => h.models m (mem_of_mem_definitions hm) n hn⟩
  exact (reaches_isLeast services (nodup_names_definitions models)).2 hclosed hn

/-- Where no name dangles, pruning reports none. -/
theorem unresolved_eq_nil (h : Resolved services models) :
    (pruneModels services models).unresolved = [] := by
  refine List.eq_nil_iff_forall_not_mem.mpr fun n hn => ?_
  obtain ⟨hreach, hnone⟩ := ((pruneModels_keepsExactly services models).mem_unresolved n).mp hn
  obtain ⟨m, hm, hname⟩ := List.mem_map.mp (h.reaches_subset hreach)
  exact hnone m hm hname

/-- Pruning and deduplication leave no dangling name either. -/
theorem pruned (h : Resolved services models) :
    Resolved services (definitions (pruneModels services models).models) := by
  have hkeeps := pruneModels_keepsExactly services models
  obtain ⟨hclosed, -⟩ := reaches_isLeast services (nodup_names_definitions models)
  -- what is reached is defined, and its definition is among those that are kept
  have hkept : ∀ n, Reaches (definitions models) (rootReferences services) n →
      n ∈ (definitions (pruneModels services models).models).map (·.name) := by
    intro n hn
    obtain ⟨m, hm, hname⟩ := List.mem_map.mp (h.reaches_subset hn)
    have hmem := (hkeeps.mem_reachable n).mpr ⟨hn, m, hm, hname⟩
    rwa [names_definitions]
  refine ⟨fun s hs op hop shape hshape n hn => ?_, fun m hm n hn => ?_⟩
  · exact hkept n (hclosed.operations s hs op hop shape hshape n hn)
  · rw [hkeeps.definitions_eq] at hm
    obtain ⟨hm, hreach⟩ := List.mem_filter.mp hm
    exact hkept n (hclosed.definitions m hm (by simpa using hreach) n hn)

/-- Deriving the part that passes a filter succeeds, strict or not, and leaves no dangling name. -/
theorem derive {api : Api} (h : Resolved api.services api.models) (strict : Bool)
    (f : TagFilter) : ∃ derived, api.derive strict f = .ok (derived, []) ∧
      Resolved derived.services derived.models := by
  have hfiltered := h.filtered f
  have hprune : prune strict (f.apply api.services) api.models =
      .ok (pruneModels (f.apply api.services) api.models, []) := by
    rw [prune, hfiltered.unresolved_eq_nil]
    rfl
  refine ⟨⟨f.apply api.services,
    definitions (pruneModels (f.apply api.services) api.models).models, api.securitySchemes⟩, ?_,
    hfiltered.pruned⟩
  rw [Api.derive, hprune]
  rfl

end Resolved

/-- **No dangling references, end to end.**  If every reference and every discriminator target of
a document names a component schema and the document is compiled, then whatever a filter leaves,
pruning reports no name, deriving succeeds in a strict run as in any other, and every name that
the derived operations and models mention is that of a derived model. -/
theorem derive_resolved (d : Document) (hknown : d.ReferencesKnown) {strict : Bool} {api : Api}
    {notices : List Notice} (hcompile : d.compile strict = (.ok api, notices)) (f : TagFilter) :
    (pruneModels (f.apply api.services) api.models).unresolved = [] ∧
      ∀ strict', ∃ derived, api.derive strict' f = .ok (derived, []) ∧
        Resolved derived.services derived.models := by
  have hresolved := hknown.resolved hcompile
  exact ⟨(hresolved.filtered f).unresolved_eq_nil, fun strict' => hresolved.derive strict' f⟩

/-! ## A pet store -/

namespace PetStore

open Schema (Keywords Children)

def cat : Schema := .inline { Keywords.blank with type := some (.one .object) } .blank

def referenceTo (name : String) : Schema :=
  .reference ⟨"#/components/schemas/" ++ name, none, none, []⟩

/-- A pet is a cat, and says so. -/
def pet : Schema :=
  .inline
    { Keywords.blank with
      discriminator := some ⟨"kind", some [("cat", "#/components/schemas/Cat")], []⟩ }
    { Children.blank with oneOf := some [referenceTo "Cat"] }

def pets : Schema :=
  .inline { Keywords.blank with type := some (.one .array) }
    { Children.blank with items := some (referenceTo "Pet") }

def answer : Document.Response :=
  ⟨none, some [("application/json", ⟨some pets, none, [], []⟩)], [], []⟩

/-- The operation that lists the pets. -/
def listing : Document.Operation :=
  ⟨none, none, none, none, none, none, some [("200", .inline answer)], none, none, [], []⟩

def item : Document.PathItem :=
  ⟨none, none, some listing, none, none, none, none, none, none, none, none, [], []⟩

/-- One component refers to the other, by a reference and by a discriminator, and the operation
refers to the first one. -/
def document : Document :=
  { openapi := "3.0.0"
    info := ⟨"Pets", "1", none, [], []⟩
    paths := some [("/pets", item)]
    components := some { Document.Components.empty with
      schemas := some [("Cat", cat), ("Pet", pet)] }
    tags := none
    extra := []
    nulls := [] }

/-- The schemas of the document. -/
def schemas : List Schema := [cat, pet, pets, referenceTo "Cat", referenceTo "Pet"]

theorem parts_subset : ∀ s ∈ schemas, s.parts ⊆ schemas := by
  have hcat : cat.parts = [] := rfl
  have hpet : pet.parts = [referenceTo "Cat"] := rfl
  have hpets : pets.parts = [referenceTo "Pet"] := rfl
  have href : ∀ name, (referenceTo name).parts = [] := fun _ => rfl
  simp [schemas, hcat, hpet, hpets, href]

theorem mem_schemas {s : Schema} (h : document.Writes s) : s ∈ schemas := by
  induction h with
  | component h =>
    have hschemas : document.schemas = [("Cat", cat), ("Pet", pet)] := rfl
    rw [hschemas] at h
    rcases List.mem_pair.mp h with rfl | rfl <;> simp [schemas]
  | parameter h => cases h
  | body h => cases h
  | response h hs =>
    have hnodes : document.responseNodes = [.inline answer] := rfl
    rw [hnodes, List.mem_singleton] at h
    cases h
    have hcontent : Document.contentSchemas answer.content = [pets] := rfl
    rw [hcontent, List.mem_singleton] at hs
    simp [schemas, hs]
  | part _ hc ih => exact parts_subset _ ih hc

theorem referencesKnown : document.ReferencesKnown := by
  have hnames : document.schemas.map (·.1) = ["Cat", "Pet"] := rfl
  have htargets : schemas.flatMap (·.targets) = ["Cat", "Cat", "Pet"] := by cbv
  intro s hs n hn
  have hmem : n ∈ schemas.flatMap (·.targets) := List.mem_flatMap.mpr ⟨s, mem_schemas hs, hn⟩
  rw [htargets] at hmem
  rw [hnames]
  simpa using hmem

/-! Its shapes. -/

def catShape : Shape := .object .none [] none

def petShape : Shape :=
  .composition ⟨false, none, some ⟨"kind", [("cat", "Cat")]⟩⟩ .oneOf [.ref .none "Cat"]

def petsShape : Shape := .array .none (.ref .none "Pet")

/-- The operation as clients see it. -/
def listed : Operation :=
  ⟨none, "GET", "/pets", "misc", [], none, none, false, [], [], [], none,
    ⟨.content, some petsShape, none, some "application/json", some "200"⟩⟩

theorem compile_referenceTo {name : String} (hname : (referenceTo name).targets = [name])
    (hne : name.isEmpty = false) (owner property : String) (isItem : Bool) :
    (referenceTo name).compile owner property isItem = pure (.ref .none name) := by
  rw [referenceTo, Schema.targets, List.singleton_inj] at hname
  rw [referenceTo, Schema.compile, Schema.compileReference, hname, hne]
  rfl

theorem compile_cat (owner : String) : cat.compile owner "" false = pure catShape := by
  cbv

theorem compile_pet (owner : String) : pet.compile owner "" false = pure petShape := by
  have htraits : Keywords.compositionTraits { Keywords.blank with
      discriminator := some ⟨"kind", some [("cat", "#/components/schemas/Cat")], []⟩ } =
        ⟨false, none, some ⟨"kind", [("cat", "Cat")]⟩⟩ := by
    cbv
  rw [pet, Schema.compile_inline, htraits]
  show Build.forEach (fun s => Schema.compile s owner "" false) [referenceTo "Cat"] >>= _ = _
  rw [Build.forEach, compile_referenceTo (by cbv) (by cbv), Build.forEach]
  rfl

theorem compile_pets (owner : String) : pets.compile owner "" false = pure petsShape := by
  rw [pets, Schema.compile_inline]
  show Schema.compile (referenceTo "Pet") owner "" true >>= _ = _
  rw [compile_referenceTo (by cbv) (by cbv), pure_bind]
  rfl

theorem compile_listing : listing.compile document.parts "/pets" "GET" "misc" [] = pure listed := by
  have hparams : ∀ base,
      Document.compileParameters (.parameters document.parts) base [] = pure ([], []) := by
    intro base
    simp [Document.compileParameters, Build.forEach, Document.mergeParameters, lastWins,
      Document.sortParams]
  have hresponse : ∀ base, Document.compileResponse (.responses document.parts) base
      [("200", .inline answer)] = pure listed.response := by
    intro base
    have hcodes : Document.successCodes ["200"] = ["200"] := by cbv
    have hjson : MediaType.isJson "application/json" = true := by cbv
    unfold Document.compileResponse
    rw [List.map_cons, List.map_nil, hcodes]
    show Document.compileResponseOf "200" base answer = _
    simp [Document.compileResponseOf, answer, hjson, Schema.compileOptional, compile_pets, listed]
  have hpath : PathTemplate.params "/pets" = [] := by cbv
  have hbody : ∀ base, Document.compileBody (.requestBodies document.parts) base
      listing.requestBody = pure none := fun _ => rfl
  have hresponses : listing.responses.getD [] = [("200", .inline answer)] := rfl
  rw [Document.Operation.compile, hpath, hresponses]
  show Document.compileParameters _ _ [] >>= _ = _
  simp only [hparams, hbody, hresponse, pure_bind]
  rfl

/-- The description of the pet store. -/
def api : Api :=
  ⟨[⟨"misc", [listed]⟩], [⟨"Cat", catShape, .none⟩, ⟨"Pet", petShape, .none⟩], []⟩

theorem compile_document : document.compile false = (.ok api, []) := by
  have hsorted : sortedByKey document.schemas = [("Cat", cat), ("Pet", pet)] := by cbv
  have hgrouped : document.groupedOperations none = [("misc", "/pets", item, .get, listing)] := by
    cbv
  have hitem : item.parameters.getD [] = [] := rfl
  have hgroup : Document.group [listed] = [⟨"misc", [listed]⟩] := by cbv
  simp only [Document.compile, Document.build, Document.compileModels, hsorted,
    Document.compileSchemas, compile_cat, compile_pet, pure_bind, Document.compileServices,
    Document.compileOperations, hgrouped, Build.forEach, hitem, Method.name, compile_listing,
    hgroup]
  cbv

/-- Nothing is filtered. -/
def everything : TagFilter := ⟨[], [], .operation⟩

/-- Every client of the pet store gets both models, and no name dangles. -/
theorem derived_resolved :
    document.ReferencesKnown ∧ document.compile false = (.ok api, []) ∧
      ∃ derived, api.derive true everything = .ok (derived, []) ∧
        derived.models.map (·.name) = ["Cat", "Pet"] ∧
        Resolved derived.services derived.models := by
  refine ⟨referencesKnown, compile_document, ?_⟩
  obtain ⟨-, hderive⟩ := derive_resolved document referencesKnown compile_document everything
  obtain ⟨derived, hderived, hresolved⟩ := hderive true
  refine ⟨derived, hderived, ?_, hresolved⟩
  have hmodels : (api.derive true everything).toOption.map (fun r => r.1.models.map (·.name)) =
      some ["Cat", "Pet"] := by
    cbv
  rw [hderived] at hmodels
  exact Option.some.inj hmodels

end PetStore

end ApiCompiler
