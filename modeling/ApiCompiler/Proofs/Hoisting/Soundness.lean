import ApiCompiler.Proofs.Hoisting.Meaning
import ApiCompiler.Proofs.Registry.Naming

/-!
# Compiling is sound

The shape a schema is compiled to stands for the schema, read with the models that are registered
once it is compiled.  The proof is one induction over schemas, `sound`, in which everything that
occurs inside a schema comes first.  It carries two facts about a run: what the registry gains is
hoisted out of the schema under names that hang from the owner, and the result stands for the
schema.

The first fact is what makes the second one provable for objects.  Compiling the second field
registers further models, and the search for the name of the object rebuilds all of its fields
under every candidate.  Since a registry only grows by models with free names, what was compiled
before keeps its meaning; since all of these names are longer than the candidate, none of them is
the candidate itself, which is what the search needs.
-/

namespace ApiCompiler
namespace Schema

/-! ## Names of what is hoisted -/

theorem syntheticName_of_not_nested {owner property : String} {isItem : Bool}
    (h : isNested property isItem = false) : syntheticName owner property isItem = owner := by
  rw [isNested, Bool.or_eq_false_iff, Bool.not_eq_false'] at h
  rw [syntheticName, h.1, h.2]
  simp

/-- The name of what stands below an owner hangs from the owner's. -/
theorem hangsFrom_syntheticName {property : String} {isItem : Bool} (owner : String)
    (h : isNested property isItem = true) :
    Registry.HangsFrom owner (syntheticName owner property isItem) := by
  rw [Registry.HangsFrom, syntheticName]
  by_cases hproperty : property.isEmpty
  · -- only the items of an array have no property of their own
    rw [isNested, hproperty, Bool.not_true, Bool.false_or] at h
    refine ⟨"Item".toList, ?_⟩
    simp [hproperty, h, String.toList_append]
  · refine ⟨(Name.Case.pascal.write property ++ if isItem then "_Item" else "").toList, ?_⟩
    simp [hproperty, String.toList_append]

theorem hangsFrom_candidate {owner name : String} (h : Registry.HangsFrom owner name) (k : Nat) :
    Registry.HangsFrom owner (Build.candidate name k) := by
  obtain ⟨suffix, hsuffix⟩ := Build.exists_candidate_eq name k
  rw [hsuffix]
  exact h.append suffix

/-! ## What a run does -/

/-- A run that started with one registry and ended with another: what was added is hoisted out of
a schema. -/
abbrev Hoisted (owner : String) (s : Schema) (before after : BuildState) : Prop :=
  before.registry.Grows (Hoists owner s) after.registry

/-- Compiling a schema only adds what is hoisted out of it, and its result stands for it. -/
def Sound (s : Schema) : Prop :=
  ∀ {owner property : String} {isItem : Bool} {before after : BuildState} {shape : Shape},
    (s.compile owner property isItem).Returns before shape after →
      Hoisted owner s before after ∧
        Represents after.registry (some s) (isNested property isItem) shape

/-- What is hoisted out of a part is hoisted out of the whole. -/
theorem Hoisted.of_part {owner : String} {part s : Schema} {before after : BuildState}
    (h : Hoisted owner part before after) (hpart : part.Occurs s) :
    Hoisted owner s before after :=
  h.imp fun _ _ hm => hm.of_part hpart fun _ hn => hn

/-- What is hoisted under an owner that itself hangs from another one hangs from that one. -/
theorem Hoisted.of_owner {owner owner' : String} {s : Schema} {before after : BuildState}
    (h : Hoisted owner s before after) (howner : Registry.HangsFrom owner' owner) :
    Hoisted owner' s before after :=
  h.imp fun _ _ hm => hm.of_part (.refl s) fun _ hn => howner.trans hn

/-- Nothing is hoisted where there is no schema. -/
theorem compileOptional_none_returns {owner property : String} {isItem : Bool}
    {before after : BuildState} {shape : Shape}
    (h : (compileOptional none owner property isItem).Returns before shape after) :
    after = before ∧ ∀ r nested, Represents r none nested shape := by
  obtain ⟨rfl, rfl⟩ := Build.pure_returns.mp h
  exact ⟨rfl, fun _ _ => .missing⟩

/-- An optional schema is compiled soundly if it is a sound part of a schema. -/
theorem compileOptional_part {part : Option Schema} {s : Schema}
    (hpart : ∀ p ∈ part, p.Occurs s ∧ p.Sound) {owner property : String} {isItem : Bool}
    {before after : BuildState} {shape : Shape}
    (h : (compileOptional part owner property isItem).Returns before shape after) :
    Hoisted owner s before after ∧
      Represents after.registry part (isNested property isItem) shape := by
  cases part with
  | none =>
    obtain ⟨rfl, hrep⟩ := compileOptional_none_returns h
    exact ⟨.refl _, hrep _ _⟩
  | some p =>
    obtain ⟨hocc, hsound⟩ := hpart p rfl
    obtain ⟨hgrows, hrep⟩ := hsound h
    exact ⟨hgrows.of_part hocc, hrep⟩

/-! ## Objects in place -/

variable {k : Keywords} {c : Children Schema} {owner property : String} {isItem : Bool}
  {before after : BuildState} {shape : Shape}

theorem compileField_returns {f : Field Schema} {g : Field Shape}
    (hocc : f.type.Occurs (.inline k c)) (hsound : f.type.Sound)
    (h : (compileField owner f).Returns before g after) :
    Hoisted owner (.inline k c) before after ∧ f.name = g.name ∧ g.label = f.label ∧
      Represents after.registry (some f.type) (isNested f.name false) g.type := by
  rw [compileField, Build.bind_returns] at h
  obtain ⟨a, t, ha, hpure⟩ := h
  obtain ⟨rfl, rfl⟩ := Build.pure_returns.mp hpure
  obtain ⟨hgrows, hrep⟩ := hsound ha
  exact ⟨hgrows.of_part hocc, rfl, rfl, hrep⟩

theorem compileRemaining_returns {further : Option (Option Schema)} {extra : Option Shape}
    (hpart : ∀ s ∈ further, ∀ p ∈ s, p.Occurs (.inline k c) ∧ p.Sound)
    (h : (compileRemaining owner further).Returns before extra after) :
    Hoisted owner (.inline k c) before after ∧ extra.isSome = further.isSome ∧
      ∀ s ∈ further, ∀ a ∈ extra, Represents after.registry s true a := by
  cases further with
  | none =>
    obtain ⟨rfl, rfl⟩ := Build.pure_returns.mp h
    exact ⟨.refl _, rfl, fun _ hs => nomatch hs⟩
  | some s =>
    rw [compileRemaining, Build.bind_returns] at h
    obtain ⟨a, t, ha, hpure⟩ := h
    obtain ⟨rfl, rfl⟩ := Build.pure_returns.mp hpure
    obtain ⟨hgrows, hrep⟩ := compileOptional_part (hpart s rfl) ha
    refine ⟨hgrows, rfl, fun s' hs' a' ha' => ?_⟩
    obtain rfl := Option.some.inj hs'
    obtain rfl := Option.some.inj ha'
    exact hrep

/-- The parts of an object: the types of its fields, and the schema of further properties. -/
theorem object_parts (hparts : ∀ part ∈ (Schema.inline k c).parts, ∀ p : Schema,
    p.Occurs part → p.Sound) :
    (∀ f ∈ k.declaredFields c, f.type.Occurs (.inline k c) ∧ f.type.Sound) ∧
      ∀ s ∈ c.remaining, ∀ p ∈ s, p.Occurs (.inline k c) ∧ p.Sound := by
  constructor
  · intro f hf
    obtain ⟨part, hpart, hocc⟩ := occurs_of_mem_declaredFields hf
    exact ⟨hocc.trans (.of_mem_parts hpart), hparts part hpart _ hocc⟩
  · intro s hs p hp
    have hremaining : c.remaining = some (some p) := by
      rw [Option.mem_def.mp hs, Option.mem_def.mp hp]
    have hpart : p ∈ (Schema.inline k c).parts := mem_parts_of_remaining hremaining
    exact ⟨.of_mem_parts hpart, hparts p hpart p (.refl p)⟩

/-- An object in place stands for its schema. -/
theorem compileMembers_returns
    (hparts : ∀ part ∈ (Schema.inline k c).parts, ∀ p : Schema, p.Occurs part → p.Sound)
    (hform : k.form c = .object) (h : (compileMembers k c owner).Returns before shape after) :
    Hoisted owner (.inline k c) before after ∧
      Represents after.registry (some (.inline k c)) false shape ∧
      shape.nullable = k.declaresNull := by
  obtain ⟨hfields, hremaining⟩ := object_parts hparts
  rw [compileMembers, Build.bind_returns] at h
  obtain ⟨fields, u, hrun, h⟩ := h
  rw [Build.bind_returns] at h
  obtain ⟨extra, v, hextra, hpure⟩ := h
  obtain ⟨rfl, rfl⟩ := Build.pure_returns.mp hpure
  obtain ⟨hgrowsFields, hall⟩ := Build.forEach_grows
    (T := fun (f : Field Schema) (g : Field Shape) r => f.name = g.name ∧ g.label = f.label ∧
      Represents r (some f.type) (isNested f.name false) g.type)
    (fun f g r r' hT hr => ⟨hT.1, hT.2.1, hT.2.2.grows hr⟩)
    (fun f hf u g v hg => compileField_returns (hfields f hf).1 (hfields f hf).2 hg) hrun
  obtain ⟨hgrowsExtra, hopen, hfurther⟩ := compileRemaining_returns hremaining hextra
  -- the fields correspond to the declared ones before they are sorted, so they do so afterwards
  have hsorted := Sorting.forall₂_mergeSort (fun f g hfg => hfg.1) hall
  refine ⟨hgrowsFields.trans hgrowsExtra, .object hform ?_ ?_ hopen hfurther, rfl⟩
  · rw [← List.forall₂_eq_eq_eq, List.forall₂_map_left_iff, List.forall₂_map_right_iff]
    exact hsorted.flip.imp fun g f hfg => hfg.2.1
  · rintro ⟨f, g⟩ hfg
    exact ((List.forall₂_iff_zip.mp hsorted).2 hfg).2.2.grows hgrowsExtra

/-! ## Objects and enumerations below another schema -/

/-- Naming a shape that stands for a schema in place hoists it: the name that is returned is the
name of a model that stands for the schema. -/
theorem registerShape_hoists {build : String → Build Shape} {name n : String} {nullable : Bool}
    (hform : (k.form c).isModel)
    (hbuild : ∀ owner u body v, (build owner).Returns u body v →
      Hoisted owner (.inline k c) u v ∧ Represents v.registry (some (.inline k c)) false body ∧
        body.nullable = nullable)
    (hname : Registry.HangsFrom owner name)
    (h : (Build.registerShape name build (Schema.inline k c).annotations).Returns before n after) :
    Hoisted owner (.inline k c) before after ∧
      Represents after.registry (some (.inline k c)) true (.ref ⟨nullable, none, none⟩ n) := by
  obtain ⟨i, -, hends⟩ := Registration.exists_ends
    (r := ⟨name, build, (Schema.inline k c).annotations, before⟩)
    fun owner u body v hrun => (hbuild owner u body v hrun).1.imp fun _ _ hm => hm.name.ne
  rw [Registration.outcome, h] at hends
  cases hends with
  | @chosen u v _ body tried built stored =>
  obtain ⟨hgrows, hrep, rfl⟩ := hbuild _ _ _ _ built
  have hcandidate := hangsFrom_candidate hname i
  have hstart : Hoisted owner (.inline k c) before v := by
    have hregistry := tried.registry_eq
    unfold Hoisted
    rw [← hregistry]
    exact hgrows.of_owner hcandidate
  cases stored with
  | shared found like => exact ⟨hstart, .hoisted hform found (Or.inr like) hrep⟩
  | fresh free =>
    -- the new model is built under the name it is given, so its parts were there before it
    have hfound := Registry.model?_addModel_self
      (m := ⟨Build.candidate name i, body, (Schema.inline k c).annotations⟩) free
    refine ⟨.add _ hstart free ⟨hcandidate, k, c, .refl _, hform, hrep, rfl⟩, ?_⟩
    refine .hoisted hform hfound (Or.inl rfl) (hrep.mono fun _ _ hm => ?_)
    exact Registry.model?_addModel_of_some hm

theorem compileObject_returns
    (hparts : ∀ part ∈ (Schema.inline k c).parts, ∀ p : Schema, p.Occurs part → p.Sound)
    (hform : k.form c = .object)
    (h : (compileObject k (annotations (.inline k c)) (pendingFields (c.properties.getD []))
      (further c.additional).rest owner property isItem).Returns before shape after) :
    Hoisted owner (.inline k c) before after ∧
      Represents after.registry (some (.inline k c)) (isNested property isItem) shape := by
  have hmodel : (k.form c).isModel := by
    rw [hform]
    trivial
  unfold compileObject at h
  split at h
  · case isTrue hnested =>
    rw [Build.bind_returns] at h
    obtain ⟨n, t, hregister, hpure⟩ := h
    obtain ⟨rfl, rfl⟩ := Build.pure_returns.mp hpure
    rw [hnested]
    refine registerShape_hoists hmodel (fun owner u body v hrun => ?_)
      (hangsFrom_syntheticName owner hnested) hregister
    rw [objectFrom_eq] at hrun
    exact compileMembers_returns hparts hform hrun
  · case isFalse hnested =>
    rw [Bool.not_eq_true] at hnested
    rw [objectFrom_eq, syntheticName_of_not_nested hnested] at h
    obtain ⟨hgrows, hrep, -⟩ := compileMembers_returns hparts hform h
    rw [hnested]
    exact ⟨hgrows, hrep⟩

theorem compileEnum_returns (hform : k.form c = .literals)
    (h : (compileEnum k (annotations (.inline k c)) owner property isItem).Returns before shape
      after) :
    Hoisted owner (.inline k c) before after ∧
      Represents after.registry (some (.inline k c)) (isNested property isItem) shape := by
  have hmodel : (k.form c).isModel := by
    rw [hform]
    trivial
  rw [compileEnum, Build.bind_returns] at h
  obtain ⟨body, t, hlift, h⟩ := h
  obtain ⟨hok, rfl⟩ := Build.lift_returns.mp hlift
  obtain ⟨texts, htexts, rfl⟩ : ∃ texts, literalTexts k.values = .ok texts ∧
      body = .enum k.literalTraits ⟨texts, k.values, baseKind k k.values⟩ := by
    rw [enumeration_eq] at hok
    cases htexts : literalTexts k.values with
    | error e =>
      rw [htexts] at hok
      cases hok
    | ok texts =>
      rw [htexts] at hok
      cases hok
      exact ⟨texts, rfl, rfl⟩
  split at h
  · case isTrue hnested =>
    rw [Build.bind_returns] at h
    obtain ⟨n, u, hregister, hpure⟩ := h
    obtain ⟨rfl, rfl⟩ := Build.pure_returns.mp hpure
    rw [hnested]
    refine registerShape_hoists hmodel (fun owner u body v hrun => ?_)
      (hangsFrom_syntheticName owner hnested) hregister
    obtain ⟨rfl, rfl⟩ := Build.pure_returns.mp hrun
    exact ⟨.refl _, .literals hform htexts, rfl⟩
  · case isFalse hnested =>
    rw [Bool.not_eq_true] at hnested
    obtain ⟨rfl, rfl⟩ := Build.pure_returns.mp h
    rw [hnested]
    exact ⟨.refl _, .literals hform htexts⟩

/-! ## The other forms -/

theorem compileReference_returns {ref : Reference}
    (h : (compileReference ref).Returns before shape after) :
    after.registry = before.registry ∧
      ∀ r nested, Represents r (some (.reference ref)) nested shape := by
  unfold compileReference at h
  split at h
  · case isTrue hempty =>
    rw [Build.bind_returns] at h
    obtain ⟨_, t, hreport, hpure⟩ := h
    rw [Build.report_returns] at hreport
    subst hreport
    obtain ⟨rfl, rfl⟩ := Build.pure_returns.mp hpure
    exact ⟨rfl, fun _ _ => .nameless (String.isEmpty_iff.mp hempty)⟩
  · case isFalse hempty =>
    obtain ⟨rfl, rfl⟩ := Build.pure_returns.mp h
    exact ⟨rfl, fun _ _ => .reference fun heq => hempty (String.isEmpty_iff.mpr heq)⟩

theorem compileUntyped_returns (hform : k.form c = .untyped)
    (h : (compileUntyped k owner property isItem).Returns before shape after) :
    after.registry = before.registry ∧
      ∀ r nested, Represents r (some (.inline k c)) nested shape := by
  unfold compileUntyped at h
  split at h
  · case isTrue huntyped =>
    have hunknown : ∀ r nested, Represents r (some (.inline k c)) nested (.unknown k.traits) :=
      fun _ _ => .unknown hform (List.isEmpty_iff.mp huntyped)
    -- what is not recognised is reported, which leaves the registry alone
    split at h
    · rw [Build.bind_returns] at h
      obtain ⟨_, t, hreport, hpure⟩ := h
      rw [Build.report_returns] at hreport
      subst hreport
      obtain ⟨rfl, rfl⟩ := Build.pure_returns.mp hpure
      exact ⟨rfl, hunknown⟩
    · obtain ⟨rfl, rfl⟩ := Build.pure_returns.mp h
      exact ⟨rfl, hunknown⟩
  · case isFalse htyped =>
    obtain ⟨rfl, rfl⟩ := Build.pure_returns.mp h
    exact ⟨rfl, fun _ _ => .null hform fun heq => htyped (List.isEmpty_iff.mpr heq)⟩

/-! ## The induction -/

/-- Where the registry is left alone, nothing is hoisted. -/
theorem hoisted_of_eq {s : Schema} (h : after.registry = before.registry) :
    Hoisted owner s before after := by
  unfold Hoisted
  rw [h]
  exact .refl _

/-- Every schema is compiled to a shape that stands for it. -/
theorem sound (s : Schema) : s.Sound := by
  induction s using rec_occurs with
  | step s hparts =>
  intro owner property isItem before after shape h
  cases s with
  | reference ref =>
    rw [compile_reference] at h
    obtain ⟨hregistry, hrep⟩ := compileReference_returns h
    exact ⟨hoisted_of_eq hregistry, hrep _ _⟩
  | inline k c =>
    rw [compile_inline] at h
    split at h
    · case h_1 how ms hform =>
      rw [Build.bind_returns] at h
      obtain ⟨as, u, hrun, hpure⟩ := h
      obtain ⟨rfl, rfl⟩ := Build.pure_returns.mp hpure
      obtain ⟨hgrows, hall⟩ := Build.forEach_grows
        (T := fun m a r => Represents r (some m) (isNested property isItem) a)
        (fun m a r r' hT hr => hT.grows hr)
        (fun m hm u a v ha => by
          have hpart := mem_parts_of_composition hform hm
          obtain ⟨hgrows, hrep⟩ := hparts m hpart m (.refl m) ha
          exact ⟨hgrows.of_part (.of_mem_parts hpart), hrep⟩) hrun
      obtain ⟨hlength, hmembers⟩ := List.forall₂_iff_zip.mp hall
      exact ⟨hgrows, .composition hform hlength fun p hp => hmembers hp⟩
    · case h_2 inner hform =>
      rw [Build.bind_returns] at h
      obtain ⟨a, u, hrun, hpure⟩ := h
      obtain ⟨rfl, rfl⟩ := Build.pure_returns.mp hpure
      have hpart := mem_parts_of_negation hform
      obtain ⟨hgrows, hrep⟩ := hparts inner hpart inner (.refl inner) hrun
      exact ⟨hgrows.of_part (.of_mem_parts hpart), .negation hform hrep⟩
    · case h_3 hform => exact compileEnum_returns hform h
    · case h_4 hform => exact compileObject_returns hparts hform h
    · case h_5 hform =>
      rw [Build.bind_returns] at h
      obtain ⟨a, u, hrun, hpure⟩ := h
      obtain ⟨rfl, rfl⟩ := Build.pure_returns.mp hpure
      obtain ⟨hgrows, hrep⟩ := compileOptional_part (fun p hp => by
        have hpart : p ∈ (Schema.inline k c).parts := mem_parts_of_items hp
        exact ⟨.of_mem_parts hpart, hparts p hpart p (.refl p)⟩) hrun
      rw [isNested, Bool.or_true] at hrep
      exact ⟨hgrows, .array hform hrep⟩
    · case h_6 kind hform =>
      obtain ⟨rfl, rfl⟩ := Build.pure_returns.mp h
      exact ⟨.refl _, .scalar hform⟩
    · case h_7 hform =>
      obtain ⟨hregistry, hrep⟩ := compileUntyped_returns hform h
      exact ⟨hoisted_of_eq hregistry, hrep _ _⟩

/-- Compiling a schema, if there is one, only adds what is hoisted out of it. -/
theorem compileOptional_sound {s : Option Schema} {owner property : String} {isItem : Bool}
    {before after : BuildState} {shape : Shape}
    (h : (compileOptional s owner property isItem).Returns before shape after) :
    before.registry.Grows (fun r m => ∃ p ∈ s, Hoists owner p r m) after.registry ∧
      Represents after.registry s (isNested property isItem) shape := by
  cases s with
  | none =>
    obtain ⟨rfl, hrep⟩ := compileOptional_none_returns h
    exact ⟨.refl _, hrep _ _⟩
  | some p =>
    obtain ⟨hgrows, hrep⟩ := p.sound h
    exact ⟨hgrows.imp fun r m hm => ⟨p, rfl, hm⟩, hrep⟩

end Schema
end ApiCompiler
