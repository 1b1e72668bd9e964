import ApiCompiler.Proofs.Build.Keeping
import ApiCompiler.Proofs.Hoisting.Completeness

/-!
# Where enumerations come from

`Schema.Enumerates s l` says that the literals `l` are the values that some enumeration inside the
schema `s` declares, with their texts and the kind that is recorded for them.

`compile_keeps` says of every run, failing or not and whatever is registered before it, that it
makes no other enumerations: neither the shape it returns nor a model it names contains one that the
schema does not declare.  Unlike what a shape means (`Represents`) this does not depend on names, so
one invariant carries it through the search for them.
-/

namespace ApiCompiler
namespace Schema

/-- The literals are those of an enumeration in the schema. -/
def Enumerates (s : Schema) (l : Literals) : Prop :=
  ∃ k c, (Schema.inline k c).Occurs s ∧ k.form c = .literals ∧
    literalTexts k.values = .ok l.values ∧ l.raw = k.values ∧ l.base = baseKind k k.values

/-- Every enumeration in the shape is one of the schema. -/
def EnumeratesAll (s : Schema) (a : Shape) : Prop := a.AllEnums s.Enumerates

theorem Enumerates.of_part {part s : Schema} {l : Literals} (h : part.Enumerates l)
    (hpart : part.Occurs s) : s.Enumerates l := by
  obtain ⟨k, c, hocc, hl⟩ := h
  exact ⟨k, c, hocc.trans hpart, hl⟩

variable {s part : Schema} {a : Shape}

theorem EnumeratesAll.of_part (h : part.EnumeratesAll a) (hpart : part.Occurs s) :
    s.EnumeratesAll a :=
  fun u l hl => (h u l hl).of_part hpart

theorem enumeratesAll_ref {u : Traits} {n : String} : s.EnumeratesAll (.ref u n) :=
  Shape.allEnums_of_children_eq_nil rfl rfl

theorem enumeratesAll_anything : s.EnumeratesAll .anything :=
  Shape.allEnums_of_children_eq_nil rfl rfl

/-! ## What compiling a schema makes -/

variable {known : Model → Prop}

theorem compileReference_keeps (r : Reference) :
    Build.Keeps known s.EnumeratesAll (compileReference r) := by
  unfold compileReference
  split
  · exact (Build.report_keeps _).bind fun _ _ => Build.pure_keeps enumeratesAll_anything
  · exact Build.pure_keeps enumeratesAll_ref

theorem compileUntyped_keeps (k : Keywords) (owner property : String) (isItem : Bool) :
    Build.Keeps known s.EnumeratesAll (compileUntyped k owner property isItem) := by
  unfold compileUntyped
  split
  · split
    · exact (Build.report_keeps _).bind fun _ _ =>
        Build.pure_keeps (Shape.allEnums_of_children_eq_nil rfl rfl)
    · exact Build.pure_keeps (Shape.allEnums_of_children_eq_nil rfl rfl)
  · exact Build.pure_keeps (Shape.allEnums_of_children_eq_nil rfl rfl)

/-- What is asked of an optional schema is asked of the schema, if there is one. -/
theorem compileOptional_keeps {o : Option Schema} {owner property : String} {isItem : Bool}
    (h : ∀ p ∈ o, Build.Keeps known s.EnumeratesAll (p.compile owner property isItem)) :
    Build.Keeps known s.EnumeratesAll (compileOptional o owner property isItem) := by
  cases o with
  | none => exact Build.pure_keeps enumeratesAll_anything
  | some p => exact h p rfl

section Inline

variable {k : Keywords} {c : Children Schema}

/-- An enumeration is the one that its schema declares. -/
theorem enumeratesAll_enumeration (hform : k.form c = .literals)
    (h : (enumeration k).mapError CompileError.breakdown = .ok a) :
    (Schema.inline k c).EnumeratesAll a := by
  rw [enumeration_eq] at h
  cases htexts : literalTexts k.values with
  | error e =>
    rw [htexts] at h
    cases h
  | ok texts =>
    rw [htexts] at h
    obtain rfl := Except.ok.inj h
    intro u l hl
    cases hl.eq_of_children_eq_nil rfl
    exact ⟨k, c, .refl _, hform, htexts, rfl, rfl⟩

theorem compileEnum_keeps (hform : k.form c = .literals)
    (hknown : ∀ m : Model, (Schema.inline k c).EnumeratesAll m.shape → known m)
    (notes : Annotations) (owner property : String) (isItem : Bool) :
    Build.Keeps known (Schema.inline k c).EnumeratesAll
      (compileEnum k notes owner property isItem) := by
  unfold compileEnum
  refine (Build.lift_keeps fun a ha => enumeratesAll_enumeration hform ha).bind fun a ha => ?_
  split
  · have hname : Build.Keeps known (fun _ => True)
        (Build.register (syntheticName owner property isItem) a notes) :=
      Build.registerShape_keeps (fun _ => Build.pure_keeps ha) fun _ _ hshape => hknown _ hshape
    exact hname.bind fun _ _ => Build.pure_keeps enumeratesAll_ref
  · exact Build.pure_keeps ha

theorem compileMembers_keeps
    (hparts : ∀ part ∈ (Schema.inline k c).parts, ∀ p : Schema, p.Occurs part →
      ∀ owner property isItem,
        Build.Keeps known (Schema.inline k c).EnumeratesAll (p.compile owner property isItem))
    (owner : String) :
    Build.Keeps known (Schema.inline k c).EnumeratesAll (compileMembers k c owner) := by
  have hfield : ∀ f ∈ k.declaredFields c,
      Build.Keeps known (fun g : Field Shape => (Schema.inline k c).EnumeratesAll g.type)
        (compileField owner f) := by
    intro f hf
    obtain ⟨part, hpart, hocc⟩ := occurs_of_mem_declaredFields hf
    exact (hparts part hpart f.type hocc _ _ _).bind fun a ha => Build.pure_keeps ha
  have hremaining : Build.Keeps known
      (fun extra => ∀ a ∈ extra, (Schema.inline k c).EnumeratesAll a)
      (compileRemaining owner c.remaining) := by
    cases hrest : c.remaining with
    | none => exact Build.pure_keeps fun a ha => nomatch ha
    | some o =>
      have hoption : Build.Keeps known (Schema.inline k c).EnumeratesAll
          (compileOptional o owner "Properties" false) := by
        refine compileOptional_keeps fun p hp => ?_
        have hpart : p ∈ (Schema.inline k c).parts :=
          mem_parts_of_remaining (by rw [hrest, Option.mem_def.mp hp])
        exact hparts p hpart p (.refl p) _ _ _
      refine hoption.bind fun a ha => Build.pure_keeps fun b hb => ?_
      obtain rfl := Option.some.inj hb
      exact ha
  unfold compileMembers
  refine (Build.forEach_keeps hfield).bind fun fields hfields => hremaining.bind fun extra hextra =>
    Build.pure_keeps (Shape.allEnums_of_children rfl fun b hb => ?_)
  rcases List.mem_append.mp hb with hb | hb
  · obtain ⟨g, hg, rfl⟩ := List.mem_map.mp hb
    exact hfields g (List.mem_mergeSort.mp hg)
  · exact hextra b (Option.mem_toList.mp hb)

end Inline

/-- **Enumerations come from the schema.**  Whatever run compiles the schema, the shape it returns
and the models it names contain no enumeration but those that the schema declares. -/
theorem compile_keeps (s : Schema) (owner property : String) (isItem : Bool)
    (hknown : ∀ m : Model, s.EnumeratesAll m.shape → known m) :
    Build.Keeps known s.EnumeratesAll (s.compile owner property isItem) := by
  induction s using rec_occurs generalizing owner property isItem with
  | step s ih =>
  cases s with
  | reference r =>
    rw [compile_reference]
    exact compileReference_keeps r
  | inline k c =>
    have hparts : ∀ part ∈ (Schema.inline k c).parts, ∀ p : Schema, p.Occurs part →
        ∀ owner property isItem, Build.Keeps known (Schema.inline k c).EnumeratesAll
          (p.compile owner property isItem) := by
      intro part hpart p hocc owner property isItem
      have hwhole : p.Occurs (Schema.inline k c) := hocc.trans (.of_mem_parts hpart)
      exact (ih part hpart p hocc owner property isItem fun m hm =>
        hknown m (hm.of_part hwhole)).imp fun a ha => ha.of_part hwhole
    have hpart : ∀ part ∈ (Schema.inline k c).parts, ∀ owner property isItem,
        Build.Keeps known (Schema.inline k c).EnumeratesAll
          (part.compile owner property isItem) :=
      fun part hpart => hparts part hpart part (.refl part)
    rw [compile_inline]
    split
    · case h_1 how ms hform =>
      have hmember : ∀ m ∈ ms, Build.Keeps known (Schema.inline k c).EnumeratesAll
          (m.compile owner property isItem) :=
        fun m hm => hpart m (mem_parts_of_composition hform hm) _ _ _
      exact (Build.forEach_keeps hmember).bind fun shapes hshapes =>
        Build.pure_keeps (Shape.allEnums_of_children rfl hshapes)
    · case h_2 inner hform =>
      exact (hpart inner (mem_parts_of_negation hform) _ _ _).bind fun a ha =>
        Build.pure_keeps (Shape.allEnums_of_child rfl rfl ha)
    · case h_3 hform => exact compileEnum_keeps hform hknown _ _ _ _
    · have hmembers : ∀ owner, Build.Keeps known (Schema.inline k c).EnumeratesAll
          (objectFrom k (pendingFields (c.properties.getD [])) (further c.additional).rest owner) := by
        intro owner
        rw [objectFrom_eq]
        exact compileMembers_keeps hparts owner
      unfold compileObject
      split
      · exact (Build.registerShape_keeps hmembers fun _ _ hshape => hknown _ hshape).bind
          fun _ _ => Build.pure_keeps enumeratesAll_ref
      · exact hmembers _
    · have hitems : Build.Keeps known (Schema.inline k c).EnumeratesAll
          (compileOptional c.items owner property true) :=
        compileOptional_keeps fun p hp => hpart p (mem_parts_of_items hp) _ _ _
      exact hitems.bind fun a ha => Build.pure_keeps (Shape.allEnums_of_child rfl rfl ha)
    · exact Build.pure_keeps (Shape.allEnums_of_children_eq_nil rfl rfl)
    · exact compileUntyped_keeps _ _ _ _

/-- What compiling a schema makes contains no enumeration but those the schema declares. -/
theorem enumeratesAll_of_makes {owner property : String} {isItem : Bool} {before : BuildState}
    (h : Build.Makes (s.compile owner property isItem) before a) : s.EnumeratesAll a :=
  h.of_keeps fun _ hknown => s.compile_keeps owner property isItem hknown

end Schema
end ApiCompiler
