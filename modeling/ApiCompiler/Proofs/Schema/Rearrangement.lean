import ApiCompiler.Proofs.Hoisting.Equations
import ApiCompiler.Proofs.Shape.Rearrangement

/-!
# Schemas with maps in another order

`Schema.Rearranged s s'` says that the two schemas are the same but for the order of the keys in
their maps, at any depth: properties, discriminator mappings, keywords that are not known, and the
mappings inside values.  A map has every key once, which is part of the relation.

Before any schema inside it is compiled, a schema is read in four ways: what it says for
documentation, its traits, its form, and the fields of an object.  Each of them is the same for two
rearranged schemas, or corresponds: maps are sorted before anything depends on their order.
-/

namespace ApiCompiler

namespace Schema

/-! ## Rearranged schemas -/

/-- The same discriminator, its mapping in any order. -/
structure Discriminator.Rearranged (d e : Discriminator) : Prop where
  propertyName : d.propertyName = e.propertyName
  distinct : ((d.mapping.getD []).map (·.1)).Nodup
  mapping : (d.mapping.getD []).Perm (e.mapping.getD [])

/-- The same keywords, the maps in them in any order.  Of keywords that are not known only the names
are read. -/
structure Keywords.Rearranged (k l : Keywords) : Prop where
  title : k.title = l.title
  description : k.description = l.description
  type : k.type = l.type
  format : k.format = l.format
  nullable : k.nullable = l.nullable
  enum : Option.Rel (List.Forall₂ Value.Rearranged) k.enum l.enum
  const : Option.Rel Value.Rearranged k.const l.const
  discriminator : Option.Rel Discriminator.Rearranged k.discriminator l.discriminator
  required : k.required = l.required
  default : Option.Rel Value.Rearranged k.default l.default
  sample : Option.Rel Value.Rearranged k.sample l.sample
  samples : Option.Rel (List.Forall₂ Value.Rearranged) k.samples l.samples
  deprecated : k.deprecated = l.deprecated
  readOnly : k.readOnly = l.readOnly
  writeOnly : k.writeOnly = l.writeOnly
  extra : (k.extra.map (·.1)).Perm (l.extra.map (·.1))

/-- The same is said of the properties that are not declared, by related schemas. -/
inductive Additional.Rel {α β : Type} (R : α → β → Prop) : Additional α → Additional β → Prop
  | absent : Rel R .absent .absent
  | flag (allowed : Bool) : Rel R (.flag allowed) (.flag allowed)
  | schema {a : α} {b : β} (h : R a b) : Rel R (.schema a) (.schema b)

end Schema

/-- The same schema, its maps in any order. -/
inductive Schema.Rearranged : Schema → Schema → Prop
  | reference (r : Reference) : Rearranged (.reference r) (.reference r)
  | inline {k l : Schema.Keywords} {c e : Schema.Children Schema} (keywords : k.Rearranged l)
      (oneOf : Option.Rel (List.Forall₂ Rearranged) c.oneOf e.oneOf)
      (anyOf : Option.Rel (List.Forall₂ Rearranged) c.anyOf e.anyOf)
      (allOf : Option.Rel (List.Forall₂ Rearranged) c.allOf e.allOf)
      (negated : Option.Rel Rearranged c.negated e.negated)
      (items : Option.Rel Rearranged c.items e.items)
      (distinct : ((c.properties.getD []).map (·.1)).Nodup)
      (properties : Option.Rel (Reordered (SameKey Rearranged)) c.properties e.properties)
      (additional : Schema.Additional.Rel Rearranged c.additional e.additional) :
      Rearranged (.inline k c) (.inline l e)

namespace Schema

variable {k l : Keywords} {c e : Children Schema}

/-! ## Traits -/

theorem Discriminator.Rearranged.compile_eq {d d' : Discriminator} (h : d.Rearranged d') :
    d.compile = d'.compile := by
  unfold Discriminator.compile
  rw [h.propertyName, Sorting.sortedByKey_eq_of_perm h.mapping h.distinct]

/-- A compiled discriminator has the keys of its mapping. -/
theorem Discriminator.Rearranged.nodup {d d' : Discriminator} (h : d.Rearranged d') :
    (d.compile.mapping.map (·.1)).Nodup := by
  have hkeys : (sortedByKey (d.mapping.getD [])).map (·.1) |>.Perm
      ((d.mapping.getD []).map (·.1)) := (List.mergeSort_perm _ _).map _
  rw [Discriminator.compile, List.map_map]
  exact hkeys.nodup_iff.mpr h.distinct

theorem traits_distinct {t : Traits} (h : t.discriminator = none) : t.Distinct := by
  intro d hd
  rw [h] at hd
  cases hd

namespace Keywords.Rearranged

/-- No discriminator that the keywords give to a shape has a key twice. -/
theorem distinct (h : k.Rearranged l) {t : Traits}
    (ht : t.discriminator = k.discriminator.map (·.compile)) : t.Distinct := by
  intro d hd
  rw [ht] at hd
  obtain ⟨d', hd', rfl⟩ := Option.map_eq_some_iff.mp hd
  have hrel := h.discriminator
  rw [hd'] at hrel
  generalize l.discriminator = o at hrel
  cases hrel with
  | some hde => exact hde.nodup

theorem discriminator_eq (h : k.Rearranged l) :
    k.discriminator.map (·.compile) = l.discriminator.map (·.compile) :=
  map_eq_of_optionRel h.discriminator fun _ _ hde => hde.compile_eq

theorem types_eq (h : k.Rearranged l) : k.types = l.types := by
  rw [Keywords.types, Keywords.types, h.type]

theorem declaresNull_eq (h : k.Rearranged l) : k.declaresNull = l.declaresNull := by
  rw [Keywords.declaresNull, Keywords.declaresNull, h.nullable, h.types_eq]

theorem traits_eq (h : k.Rearranged l) : k.traits = l.traits := by
  rw [Keywords.traits, Keywords.traits, h.declaresNull_eq, h.format, h.discriminator_eq]

theorem compositionTraits_eq (h : k.Rearranged l) : k.compositionTraits = l.compositionTraits := by
  rw [Keywords.compositionTraits, Keywords.compositionTraits, h.declaresNull_eq,
    h.discriminator_eq]

/-- The unknown keywords are reported in order. -/
theorem unrecognized_eq (h : k.Rearranged l) : k.unrecognized = l.unrecognized :=
  Sorting.mergeSort_texts_eq_of_perm (h.extra.filter _)

/-! ## Values -/

theorem literals (h : k.Rearranged l) : List.Forall₂ Value.Rearranged k.literals l.literals := by
  have hconst := toList_rel h.const
  unfold Keywords.literals
  refine optionRel_elim h.enum hconst fun vs ws hvalues => ?_
  cases hvalues with
  | nil => exact hconst
  | cons hv hvs => exact .cons hv hvs

theorem values (h : k.Rearranged l) : List.Forall₂ Value.Rearranged k.values l.values :=
  List.rel_filter (fun v w hvw => by dsimp only; rw [hvw.isNull_eq]) h.literals

theorem literalTraits_eq (h : k.Rearranged l) : k.literalTraits = l.literalTraits := by
  have hnulls : k.literals.map isNull = l.literals.map isNull :=
    map_eq_of_forall₂ h.literals fun _ _ hvw => hvw.isNull_eq
  have hany : k.literals.any isNull = l.literals.any isNull := by
    simpa only [List.any_map, Function.id_comp] using congrArg (List.any · id) hnulls
  rw [Keywords.literalTraits, Keywords.literalTraits, h.traits_eq, h.declaresNull_eq, hany]

theorem baseKind_eq (h : k.Rearranged l) : baseKind k k.values = baseKind l l.values := by
  have hkinds : k.values.map literalKind = l.values.map literalKind :=
    map_eq_of_forall₂ h.values fun _ _ hvw => hvw.literalKind_eq
  rw [baseKind, baseKind, h.types_eq, ← List.head?_map, ← List.head?_map, hkinds]

/-- An enumeration with its values rearranged. -/
theorem enumeration (h : k.Rearranged l) :
    EndsAlike Breakdown.SameKind Shape.Rearranged (enumeration k) (enumeration l) := by
  rw [enumeration_eq, enumeration_eq]
  refine (Value.literalTexts_endsAlike h.values).map fun texts texts' htexts => ?_
  rw [htexts, ← h.literalTraits_eq, ← h.baseKind_eq]
  exact .enum (h.distinct rfl) texts' h.values _

theorem mainType_eq (h : k.Rearranged l) (b : Bool) : k.mainType b = l.mainType b := by
  rw [Keywords.mainType, Keywords.mainType, h.types_eq]

end Keywords.Rearranged

/-- Documentation is the same, the values in it rearranged. -/
theorem Rearranged.annotations {s t : Schema} (h : s.Rearranged t) :
    s.annotations.Rearranged t.annotations := by
  cases h with
  | reference r => exact ⟨rfl, rfl, rfl, rfl, rfl, .scalar _, .nil⟩
  | inline hk =>
    refine ⟨hk.title, hk.description, ?_, ?_, ?_, ?_, ?_⟩
    · exact congrArg (Option.getD · false) hk.deprecated
    · exact congrArg (Option.getD · false) hk.readOnly
    · exact congrArg (Option.getD · false) hk.writeOnly
    · exact getD_rel hk.default (.scalar _)
    · exact List.rel_append (toList_rel hk.sample) (getD_rel hk.samples .nil)

/-! ## Forms -/

/-- The same form, of rearranged schemas. -/
inductive Form.Rearranged : Form → Form → Prop
  | composition (how : Composition) {ms ns : List Schema}
      (members : List.Forall₂ Schema.Rearranged ms ns) :
      Rearranged (.composition how ms) (.composition how ns)
  | negation {s t : Schema} (inner : s.Rearranged t) : Rearranged (.negation s) (.negation t)
  | literals : Rearranged .literals .literals
  | object : Rearranged .object .object
  | array : Rearranged .array .array
  | scalar (kind : Scalar) : Rearranged (.scalar kind) (.scalar kind)
  | untyped : Rearranged .untyped .untyped

theorem plainForm_rearranged (k : Keywords) (c : Children Schema) :
    (k.plainForm c).Rearranged (k.plainForm c) := by
  unfold Keywords.plainForm
  split
  · exact .literals
  · split
    · exact .object
    · exact .array
    · exact .scalar _
    · exact .scalar _
    · exact .scalar _
    · exact .scalar _
    · exact .untyped

theorem speaksOfProperties_eq (hproperties : Option.Rel (Reordered (SameKey Schema.Rearranged))
      c.properties e.properties)
    (hadditional : c.additional.Rel Schema.Rearranged e.additional) :
    c.speaksOfProperties = e.speaksOfProperties := by
  unfold Children.speaksOfProperties
  refine optionRel_elim hproperties ?_ fun _ _ _ => rfl
  generalize c.additional = a at hadditional ⊢
  generalize e.additional = b at hadditional ⊢
  cases hadditional <;> rfl

/-- Rearranged schemas have the same form. -/
theorem Rearranged.form (h : (Schema.inline k c).Rearranged (.inline l e)) :
    (k.form c).Rearranged (l.form e) := by
  cases h with
  | inline hk oneOf anyOf allOf negated items distinct properties additional =>
    have hempty : k.literals.isEmpty = l.literals.isEmpty :=
      isEmpty_eq_of_length_eq hk.literals.length_eq
    have heq : k.plainForm c = l.plainForm e := by
      rw [Keywords.plainForm, Keywords.plainForm, hk.mainType_eq,
        speaksOfProperties_eq properties additional, hempty]
    have hplain : (k.plainForm c).Rearranged (l.plainForm e) := by
      rw [heq]
      exact plainForm_rearranged l e
    clear heq distinct
    obtain ⟨_, _, _, _, _, _, _⟩ := c
    obtain ⟨_, _, _, _, _, _, _⟩ := e
    dsimp only at *
    -- the keywords are tried in this order, and an empty composition is as good as none
    rcases oneOf with (_ | ⟨hm, hms⟩) | _
    case some.cons => exact .composition .oneOf (.cons hm hms)
    all_goals
      rcases anyOf with (_ | ⟨hm, hms⟩) | _
      case some.cons => exact .composition .anyOf (.cons hm hms)
      all_goals
        rcases allOf with (_ | ⟨hm, hms⟩) | _
        case some.cons => exact .composition .allOf (.cons hm hms)
        all_goals
          rcases negated with hst | _
          case some => exact .negation hst
          exact hplain

/-! ## Fields -/

/-- What is merged or described by further properties. -/
inductive Further.Rearranged : Further → Further → Prop
  | closed : Rearranged .closed .closed
  | merged (required : List String) {ps qs : List (String × Schema)}
      (distinct : (ps.map (·.1)).Nodup) (properties : Reordered (SameKey Schema.Rearranged) ps qs) :
      Rearranged (.merged required ps) (.merged required qs)
  | described {s t : Option Schema} (schema : Option.Rel Schema.Rearranged s t) :
      Rearranged (.described s) (.described t)

theorem Additional.Rel.further {a b : Additional Schema} (h : a.Rel Schema.Rearranged b) :
    (Schema.further a).Rearranged (Schema.further b) := by
  cases h with
  | absent => exact .closed
  | flag allowed =>
    cases allowed with
    | false => exact .closed
    | true => exact .described .none
  | schema hst =>
    have hdescribed := Further.Rearranged.described (.some hst)
    cases hst with
    | reference r => exact hdescribed
    | @inline k l c e hk _ _ _ _ _ distinct properties _ =>
      unfold Schema.further
      dsimp only
      revert distinct
      refine optionRel_elim properties (fun _ => hdescribed) fun ps qs hps distinct => ?_
      dsimp only
      rw [hk.types_eq, hk.required, isEmpty_eq_of_length_eq hps.length_eq]
      split
      · exact .merged _ distinct hps
      · exact hdescribed

variable {required : List String} {ps qs : List (String × Schema)}

/-- Fields come in the order of their names, so they correspond place by place. -/
theorem fieldsOf_rearranged (h : Reordered (SameKey Schema.Rearranged) ps qs)
    (hdistinct : (ps.map (·.1)).Nodup) :
    List.Forall₂ (Field.Rel Schema.Rearranged) (fieldsOf required ps) (fieldsOf required qs) := by
  rw [fieldsOf, fieldsOf, List.forall₂_map_left_iff, List.forall₂_map_right_iff]
  refine (h.sortedByKey hdistinct).imp fun f g hfg => ?_
  rw [hfg.key_eq]
  exact .mk g.1 hfg.value _ hfg.value.annotations

/-- The fields of two objects correspond, those that they take over as well. -/
theorem Rearranged.declaredFields (h : (Schema.inline k c).Rearranged (.inline l e)) :
    List.Forall₂ (Field.Rel Schema.Rearranged) (k.declaredFields c) (l.declaredFields e) := by
  cases h with
  | inline hk _ _ _ _ _ distinct properties additional =>
    have hown : List.Forall₂ (Field.Rel Schema.Rearranged) (k.ownFields c) (l.ownFields e) := by
      rw [Keywords.ownFields, Keywords.ownFields, hk.required]
      exact fieldsOf_rearranged (getD_rel properties .nil) distinct
    have hnames : (k.ownFields c).map (·.name) = (l.ownFields e).map (·.name) :=
      map_eq_of_forall₂ hown fun _ _ hfg => hfg.name_eq
    refine List.rel_append hown ?_
    have hfurther := additional.further
    unfold Keywords.mergedFields
    rw [hnames]
    generalize Schema.further c.additional = a at hfurther ⊢
    generalize Schema.further e.additional = b at hfurther ⊢
    cases hfurther with
    | closed => exact .nil
    | described => exact .nil
    | merged required distinct properties =>
      refine List.rel_filter (fun f g hfg => ?_) (fieldsOf_rearranged properties distinct)
      dsimp only
      rw [hfg.name_eq]

/-- What stands for further properties corresponds. -/
theorem Rearranged.remaining (h : (Schema.inline k c).Rearranged (.inline l e)) :
    Option.Rel (Option.Rel Schema.Rearranged) c.remaining e.remaining := by
  cases h with
  | inline _ _ _ _ _ _ _ _ additional =>
    have hfurther := additional.further
    unfold Children.remaining
    generalize Schema.further c.additional = a at hfurther ⊢
    generalize Schema.further e.additional = b at hfurther ⊢
    cases hfurther with
    | closed => exact .none
    | merged => exact .none
    | described hst => exact .some hst

end Schema
end ApiCompiler
