import ApiCompiler.Proofs.Derivation.Restriction

/-!
# Deriving commutes and is monotone

A client of a client is a client: deriving one description from another filters what has been
filtered and restricts what has been restricted.  So the order of two filters does not matter, and
deriving with the same filter again changes nothing (`derive_commutes`).  A filter that lets less
pass gives fewer operations, fewer models and fewer unresolved names, each where it was
(`derive_antitone`).
-/

namespace ApiCompiler

variable {few many : List Service} {api : Api}

/-! ## Parts of services -/

/-- Parts of services refer to nothing else. -/
theorem rootReferences_subset (h : List.SublistForall₂ Service.PartOf few many) :
    rootReferences few ⊆ rootReferences many := by
  have hsplit : ∀ services : List Service, rootReferences services =
      (services.flatMap (·.operations)).flatMap fun op => op.shapes.flatMap (·.references) :=
    fun _ => List.flatMap_assoc.symm
  rw [hsplit, hsplit]
  intro n hn
  obtain ⟨op, hop, hn⟩ := List.mem_flatMap.mp hn
  exact List.mem_flatMap.mpr ⟨op, (flatMap_operations_sublist h).subset hop, hn⟩

namespace Api

/-- A description restricted to some services. -/
def restricted (services : List Service) (api : Api) : Api :=
  ⟨services, definitionsFor services api.models, api.securitySchemes⟩

/-- What is reported when names are not resolved. -/
def unresolvedNotices (names : List String) : List Notice :=
  if names.isEmpty then [] else [.unresolvedReferences names]

/-- The report says which names are unresolved. -/
theorem unresolvedNotices_injective : Function.Injective unresolvedNotices := by
  intro us vs h
  cases us <;> cases vs <;> simp_all [unresolvedNotices]

/-- A run that is not strict derives the restriction to the services that pass. -/
theorem derive_lenient (f : TagFilter) (api : Api) :
    api.derive false f = .ok (api.restricted (f.apply api.services),
      unresolvedNotices (unresolvedFor (f.apply api.services) api.models)) := by
  rw [derive, prune, unresolvedNotices, unresolvedFor]
  split
  · rfl
  · rfl

section Derived

variable {derived : Api} {strict : Bool} {f : TagFilter} {notices : List Notice}

/-- What is derived is the restriction to the services that pass. -/
theorem eq_restricted_of_derive (h : api.derive strict f = .ok (derived, notices)) :
    derived = api.restricted (f.apply api.services) := by
  unfold derive prune at h
  dsimp only at h
  split at h
  · cases h
    rfl
  · split at h
    · cases h
    · cases h
      rfl

/-- Deriving leaves operations as they are. -/
theorem mem_operations_of_derive (h : api.derive strict f = .ok (derived, notices))
    {op : Operation} (hop : op ∈ derived.operations) : op ∈ api.operations := by
  rw [eq_restricted_of_derive h] at hop
  exact (flatMap_operations_sublist (f.apply_partOf api.services)).subset hop

/-- The models of a derived description are among those that deduplication keeps. -/
theorem mem_definitions_of_derive (h : api.derive strict f = .ok (derived, notices)) {m : Model}
    (hm : m ∈ derived.models) : m ∈ definitions api.models := by
  rw [eq_restricted_of_derive h, restricted, definitionsFor_eq] at hm
  exact (List.mem_filter.mp hm).1

/-- No two models of a derived description share a name. -/
theorem nodup_names_of_derive (h : api.derive strict f = .ok (derived, notices)) :
    (derived.models.map (·.name)).Nodup := by
  rw [eq_restricted_of_derive h]
  exact nodup_names_definitions _

end Derived

/-- A description may be restricted further as if it had not been restricted before. -/
theorem restricted_restricted (h : List.SublistForall₂ Service.PartOf few many) :
    (api.restricted many).restricted few = api.restricted few := by
  rw [restricted, restricted, restricted, definitionsFor_definitionsFor (rootReferences_subset h)]

/-- Deriving from a derived description filters the services that are left. -/
theorem derive_restricted (f g : TagFilter) (api : Api) :
    (api.restricted (f.apply api.services)).derive false g =
      .ok (api.restricted (g.apply (f.apply api.services)),
        unresolvedNotices (unresolvedFor (g.apply (f.apply api.services)) api.models)) := by
  have hpart := g.apply_partOf (f.apply api.services)
  rw [derive_lenient]
  show Except.ok (Api.restricted (g.apply (f.apply api.services)) _,
    unresolvedNotices (unresolvedFor (g.apply (f.apply api.services)) (definitionsFor _ _))) = _
  rw [restricted_restricted hpart, unresolvedFor_definitionsFor (rootReferences_subset hpart)]

end Api

/-- **Deriving commutes and is idempotent.**  Two filters can be applied in either order, with the
same result and the same report, and the same filter again changes nothing.  What is derived are
parts of the services, with unchanged operations in their order, and the security schemes stay as
they are. -/
theorem derive_commutes (api : Api) (c d : TagFilter) :
    ∃ (ac ad both : Api) (nc nd nboth : List Notice),
      api.derive false c = .ok (ac, nc) ∧ api.derive false d = .ok (ad, nd) ∧
        ac.derive false d = .ok (both, nboth) ∧ ad.derive false c = .ok (both, nboth) ∧
        ac.derive false c = .ok (ac, nc) ∧
        List.SublistForall₂ Service.PartOf ac.services api.services ∧
        ac.securitySchemes = api.securitySchemes := by
  refine ⟨_, _, _, _, _, _, Api.derive_lenient c api, Api.derive_lenient d api,
    Api.derive_restricted c d api, ?_, ?_, c.apply_partOf api.services, rfl⟩
  · rw [Api.derive_restricted, TagFilter.apply_comm]
  · rw [Api.derive_restricted, TagFilter.apply_self]

/-- **Filtering is monotone.**  If a filter is tightened, the operations and the models that are
derived are some of those that were derived before, in the same order, and no name is unresolved
that was not. -/
theorem derive_antitone (api : Api) {f g : TagFilter} (h : f.Tightens g) :
    ∃ (a b : Api) (us vs : List String),
      api.derive false f = .ok (a, Api.unresolvedNotices us) ∧
        api.derive false g = .ok (b, Api.unresolvedNotices vs) ∧
        b.operations.Sublist a.operations ∧ b.models.Sublist a.models ∧ vs ⊆ us := by
  have hpart : List.SublistForall₂ Service.PartOf (g.apply api.services) (f.apply api.services) := by
    rw [← h.apply_apply]
    exact g.apply_partOf _
  have hroots := rootReferences_subset hpart
  exact ⟨_, _, _, _, Api.derive_lenient f api, Api.derive_lenient g api,
    flatMap_operations_sublist hpart, definitionsFor_sublist hroots, unresolvedFor_subset hroots⟩

/-! ## Cats and dogs -/

namespace Animals

def operation (tag name : String) : Operation :=
  ⟨none, "GET", "/" ++ tag, tag, [tag], none, none, false, [], [], [], none,
    ⟨.content, some (.ref .none name), none, some "application/json", some "200"⟩⟩

/-- There is no model of a dog. -/
def animals : Api :=
  ⟨[⟨"cats", [operation "cats" "Cat"]⟩, ⟨"dogs", [operation "dogs" "Dog"]⟩],
    [⟨"Cat", .object .none [] none, .none⟩], []⟩

def everything : TagFilter := ⟨[], [], .operation⟩

def withoutDogs : TagFilter := ⟨[], [fun tag => tag == "dogs"], .operation⟩

theorem derive_everything :
    animals.derive false everything = .ok (animals, Api.unresolvedNotices ["Dog"]) := by
  cbv

/-- Excluding the dogs leaves a part of the operations and of the models. -/
theorem dogs_excluded :
    everything.Tightens withoutDogs ∧
      ∃ (b : Api) (vs : List String),
        animals.derive false withoutDogs = .ok (b, Api.unresolvedNotices vs) ∧
          b.operations.Sublist animals.operations ∧ b.models.Sublist animals.models ∧
          vs ⊆ ["Dog"] := by
  have htightens : everything.Tightens withoutDogs := .exclude (List.nil_subset _)
  obtain ⟨a, b, us, vs, ha, hb, hparts⟩ := derive_antitone animals htightens
  rw [derive_everything] at ha
  obtain ⟨rfl, hnotices⟩ := Prod.mk.inj (Except.ok.inj ha)
  obtain rfl := Api.unresolvedNotices_injective hnotices
  exact ⟨htightens, b, vs, hb, hparts⟩

end Animals
end ApiCompiler
