import ApiCompiler.Proofs.Schema.Forms

/-!
# The declarations of an object

An object declares properties of its own, and it may take over those of the schema that stands for
further properties.  `Additional.TakesOver` says when it does, and `Keywords.Declares` says which
declaration counts for a name: the object's own one, or else the one that is taken over.

`further_cases` lists what can stand for further properties, and `mem_declaredFields_iff` says that
the fields an object is compiled from are the declarations that count.  What is declared stands
inside the object, so the two give where the schemas of an object come from.
-/

namespace ApiCompiler
namespace Schema

/-! ## The declarations that count -/

/-- The properties of the schema for further properties are taken over: it is written inline,
declares properties, and declares no type or that of objects. -/
def Additional.TakesOver (a : Additional Schema) (k : Keywords) (ps : List (String × Schema)) :
    Prop :=
  ∃ c : Children Schema, a = .schema (.inline k c) ∧ c.properties = some ps ∧ ps ≠ [] ∧
    (k.types = [] ∨ DataType.object ∈ k.types)

/-- The schema declares the property of an object, which is required or not: it stands under the
name among the object's own properties, or it is taken over and no own property has the name. -/
inductive Keywords.Declares (k : Keywords) (c : Children Schema) : String → Schema → Bool → Prop
  | own {n : String} {s : Schema} (h : (n, s) ∈ c.properties.getD []) :
      Declares k c n s ((k.required.getD []).contains n)
  | taken {n : String} {s : Schema} {k' : Keywords} {ps : List (String × Schema)}
      (source : c.additional.TakesOver k' ps) (new : n ∉ (c.properties.getD []).map (·.1))
      (h : (n, s) ∈ ps) : Declares k c n s ((k'.required.getD []).contains n)

variable {k k' : Keywords} {c : Children Schema} {a : Additional Schema}
  {ps : List (String × Schema)}

/-- What is taken over is merged. -/
theorem Additional.TakesOver.further_eq (h : a.TakesOver k' ps) :
    further a = .merged (k'.required.getD []) ps := by
  obtain ⟨c, rfl, hps, hne, htypes⟩ := h
  have hmerged : (!ps.isEmpty && (k'.types.isEmpty || k'.types.contains .object)) = true := by
    simpa [hne] using htypes
  simp only [further, hps, hmerged, if_true]

/-- A schema for further properties that is not taken over describes them. -/
theorem further_of_not_takesOver {s : Schema}
    (h : ∀ k' ps, ¬ (Additional.schema s).TakesOver k' ps) :
    further (.schema s) = .described (some s) := by
  rcases s with r | ⟨k', ⟨oneOf, anyOf, allOf, negated, items, _ | ps, additional⟩⟩
  · rfl
  · rfl
  · have hkept : (!ps.isEmpty && (k'.types.isEmpty || k'.types.contains .object)) = false := by
      rw [← Bool.not_eq_true]
      intro hmerged
      refine h k' ps ⟨_, rfl, rfl, ?_⟩
      simpa using hmerged
    simp only [further, hkept, Bool.false_eq_true, if_false]

/-- The four ways to deal with further properties. -/
theorem further_cases (a : Additional Schema) :
    (∃ k' ps, a.TakesOver k' ps ∧ further a = .merged (k'.required.getD []) ps) ∨
      (a = .absent ∨ a = .flag false) ∧ further a = .closed ∨
      a = .flag true ∧ further a = .described none ∨
      ∃ s, a = .schema s ∧ (∀ k' ps, ¬ a.TakesOver k' ps) ∧ further a = .described (some s) := by
  rcases a with _ | (_ | _) | s
  · exact Or.inr (Or.inl ⟨Or.inl rfl, rfl⟩)
  · exact Or.inr (Or.inl ⟨Or.inr rfl, rfl⟩)
  · exact Or.inr (Or.inr (Or.inl ⟨rfl, rfl⟩))
  · by_cases hover : ∃ k' ps, (Additional.schema s).TakesOver k' ps
    · obtain ⟨k', ps, hover⟩ := hover
      exact Or.inl ⟨k', ps, hover, hover.further_eq⟩
    · have hkept : ∀ k' ps, ¬ (Additional.schema s).TakesOver k' ps :=
        fun k' ps h => hover ⟨k', ps, h⟩
      exact Or.inr (Or.inr (Or.inr ⟨s, rfl, hkept, further_of_not_takesOver hkept⟩))

/-! ## The fields that are declared -/

theorem mem_fieldsOf_iff {required : List String} {f : Field Schema} :
    f ∈ fieldsOf required ps ↔ (f.name, f.type) ∈ ps ∧ f.required = required.contains f.name ∧
      f.annotations = f.type.annotations := by
  rw [fieldsOf, List.mem_map]
  constructor
  · rintro ⟨e, he, rfl⟩
    exact ⟨List.mem_mergeSort.mp he, rfl, rfl⟩
  · rintro ⟨hmem, hrequired, hannotations⟩
    refine ⟨_, List.mem_mergeSort.mpr hmem, ?_⟩
    rw [← hrequired, ← hannotations]

theorem names_fieldsOf (required : List String) (ps : List (String × Schema)) :
    (fieldsOf required ps).map (·.name) = (sortedByKey ps).map (·.1) := by
  rw [fieldsOf, List.map_map]
  rfl

theorem mem_names_fieldsOf {required : List String} {n : String} :
    n ∈ (fieldsOf required ps).map (·.name) ↔ n ∈ ps.map (·.1) := by
  rw [names_fieldsOf]
  exact ((List.mergeSort_perm _ _).map _).mem_iff

theorem nodup_names_fieldsOf {required : List String} (h : (ps.map (·.1)).Nodup) :
    ((fieldsOf required ps).map (·.name)).Nodup := by
  rw [names_fieldsOf]
  exact ((List.mergeSort_perm _ _).map _).nodup_iff.mpr h

/-- The fields that are taken over are those whose names no own property has. -/
theorem mem_mergedFields_iff {f : Field Schema} :
    f ∈ k.mergedFields c ↔ ∃ k' ps, c.additional.TakesOver k' ps ∧
      f ∈ fieldsOf (k'.required.getD []) ps ∧ f.name ∉ (c.properties.getD []).map (·.1) := by
  have hown : f.name ∈ (k.ownFields c).map (·.name) ↔ f.name ∈ (c.properties.getD []).map (·.1) :=
    mem_names_fieldsOf
  constructor
  · intro h
    rcases further_cases c.additional with ⟨k', ps, hover, hfurther⟩ | ⟨-, hfurther⟩ |
      ⟨-, hfurther⟩ | ⟨s, -, -, hfurther⟩
    · rw [Keywords.mergedFields, hfurther] at h
      obtain ⟨hmem, hnew⟩ := List.mem_filter.mp h
      refine ⟨k', ps, hover, hmem, fun hname => ?_⟩
      rw [Bool.not_eq_true', ← Bool.not_eq_true, List.contains_iff_mem, hown] at hnew
      exact hnew hname
    all_goals
      rw [Keywords.mergedFields, hfurther] at h
      cases h
  · rintro ⟨k', ps, hover, hmem, hnew⟩
    rw [Keywords.mergedFields, hover.further_eq]
    refine List.mem_filter.mpr ⟨hmem, ?_⟩
    rw [Bool.not_eq_true', ← Bool.not_eq_true, List.contains_iff_mem, hown]
    exact hnew

/-- The fields that are compiled are the declarations that count. -/
theorem mem_declaredFields_iff {f : Field Schema} :
    f ∈ k.declaredFields c ↔
      k.Declares c f.name f.type f.required ∧ f.annotations = f.type.annotations := by
  obtain ⟨n, s, required, notes⟩ := f
  rw [Keywords.declaredFields, List.mem_append, Keywords.ownFields, mem_mergedFields_iff]
  simp only [mem_fieldsOf_iff]
  constructor
  · rintro (⟨hmem, rfl, hnotes⟩ | ⟨k', ps, hover, ⟨hmem, rfl, hnotes⟩, hnew⟩)
    · exact ⟨.own hmem, hnotes⟩
    · exact ⟨.taken hover hnew hmem, hnotes⟩
  · rintro ⟨hdeclares, hnotes⟩
    cases hdeclares with
    | own h => exact Or.inl ⟨h, rfl, hnotes⟩
    | taken source new h => exact Or.inr ⟨_, _, source, ⟨h, rfl, hnotes⟩, new⟩

theorem mem_names_declaredFields {n : String} :
    n ∈ (k.declaredFields c).map (·.name) ↔ n ∈ (c.properties.getD []).map (·.1) ∨
      ∃ k' ps, c.additional.TakesOver k' ps ∧ n ∈ ps.map (·.1) := by
  rw [Keywords.declaredFields, List.map_append, List.mem_append, Keywords.ownFields,
    mem_names_fieldsOf]
  constructor
  · refine Or.imp_right fun h => ?_
    obtain ⟨f, hf, rfl⟩ := List.mem_map.mp h
    obtain ⟨k', ps, hover, hmem, -⟩ := mem_mergedFields_iff.mp hf
    exact ⟨k', ps, hover, List.mem_map.mpr ⟨_, (mem_fieldsOf_iff.mp hmem).1, rfl⟩⟩
  · rintro (h | ⟨k', ps, hover, h⟩)
    · exact Or.inl h
    · by_cases hown : n ∈ (c.properties.getD []).map (·.1)
      · exact Or.inl hown
      · have hname : n ∈ (fieldsOf (k'.required.getD []) ps).map (·.name) :=
          mem_names_fieldsOf.mpr h
        obtain ⟨f, hf, rfl⟩ := List.mem_map.mp hname
        exact Or.inr (List.mem_map_of_mem (mem_mergedFields_iff.mpr ⟨k', ps, hover, hf, hown⟩))

/-- Where the keys of properties are distinct, no two declarations that count have the same name. -/
theorem nodup_names_declaredFields (hown : ((c.properties.getD []).map (·.1)).Nodup)
    (htaken : ∀ k' ps, c.additional.TakesOver k' ps → (ps.map (·.1)).Nodup) :
    ((k.declaredFields c).map (·.name)).Nodup := by
  rw [Keywords.declaredFields, List.map_append, List.nodup_append]
  refine ⟨nodup_names_fieldsOf hown, ?_, ?_⟩
  · rcases further_cases c.additional with ⟨k', ps, hover, hfurther⟩ | ⟨-, hfurther⟩ |
      ⟨-, hfurther⟩ | ⟨s, -, -, hfurther⟩
    · rw [Keywords.mergedFields, hfurther]
      exact (nodup_names_fieldsOf (htaken k' ps hover)).sublist (List.filter_sublist.map _)
    all_goals
      rw [Keywords.mergedFields, hfurther]
      exact List.nodup_nil
  · rintro n hn m hm rfl
    obtain ⟨f, hf, rfl⟩ := List.mem_map.mp hm
    obtain ⟨-, -, -, -, hnew⟩ := mem_mergedFields_iff.mp hf
    exact hnew (mem_names_fieldsOf.mp hn)

/-! ## Where they stand -/

/-- The type of a field stands in the object, or in the schema that is taken over. -/
theorem occurs_of_mem_declaredFields {f : Field Schema} (h : f ∈ k.declaredFields c) :
    ∃ part ∈ (Schema.inline k c).parts, f.type.Occurs part := by
  obtain ⟨n, s, required, notes⟩ := f
  have hdeclares : k.Declares c n s required := (mem_declaredFields_iff.mp h).1
  cases hdeclares with
  | own hmem => exact ⟨s, mem_parts_of_properties (List.mem_map_of_mem hmem), .refl s⟩
  | taken source new hmem =>
    obtain ⟨c', hadditional, hps, -⟩ := source
    refine ⟨_, mem_parts_of_additional hadditional, .of_mem_parts ?_⟩
    refine mem_parts_of_properties ?_
    rw [hps]
    exact List.mem_map_of_mem hmem

/-- What is left to stand for further properties is the schema for them. -/
theorem remaining_eq_some_some_iff {s : Schema} :
    c.remaining = some (some s) ↔ c.additional = .schema s ∧
      ∀ k' ps, ¬ c.additional.TakesOver k' ps := by
  rw [Children.remaining]
  rcases further_cases c.additional with ⟨k', ps, hover, hfurther⟩ | ⟨hclosed, hfurther⟩ |
    ⟨hopen, hfurther⟩ | ⟨s', hschema, hkept, hfurther⟩
  · rw [hfurther]
    exact iff_of_false (fun h => nomatch h) fun h => h.2 k' ps hover
  · rw [hfurther]
    refine iff_of_false (fun h => nomatch h) fun h => ?_
    rw [h.1] at hclosed
    rcases hclosed with h | h
    · cases h
    · cases h
  · rw [hfurther]
    refine iff_of_false (fun h => nomatch h) fun h => ?_
    rw [h.1] at hopen
    cases hopen
  · rw [hfurther]
    constructor
    · rintro ⟨⟩
      exact ⟨hschema, hkept⟩
    · rintro ⟨h, -⟩
      rw [hschema] at h
      cases h
      rfl

/-- A schema that stands for further properties is the one under that keyword. -/
theorem mem_parts_of_remaining {s : Schema} (h : c.remaining = some (some s)) :
    s ∈ (Schema.inline k c).parts :=
  mem_parts_of_additional (remaining_eq_some_some_iff.mp h).1

end Schema
end ApiCompiler
