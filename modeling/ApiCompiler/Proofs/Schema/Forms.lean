import ApiCompiler.Hoisting
import ApiCompiler.Proofs.Sorting
import Mathlib.Logic.Relation

/-!
# The forms of schemas

Which shape an inline schema is compiled to hangs on the first of its keywords that counts: a
composition, a negation, enumerated values, and only then the type.  `Keywords.form` names the
case, so that the order of the cases is written down once.

A schema holds further schemas.  `Schema.parts` lists the ones directly inside it, wherever they
stand, and `Schema.Occurs` is its closure: any depth.  Proofs about schemas go by
`Schema.rec_occurs`, the induction in which everything that occurs inside a schema comes first.

An object has fields of its own and may take over the fields of the schema that stands for
further properties.  `Keywords.declaredFields` lists both, in the order in which they are
compiled, and `Schema.further` says what is left to stand for properties it does not declare.
-/

namespace ApiCompiler
namespace Schema

/-! ## Schemas inside schemas -/

/-- The schema that stands for further properties. -/
def Additional.toList {σ : Type} : Additional σ → List σ
  | .schema s => [s]
  | _ => []

/-- The schemas directly inside some keywords. -/
def Children.all {σ : Type} (c : Children σ) : List σ :=
  c.oneOf.getD [] ++ c.anyOf.getD [] ++ c.allOf.getD [] ++ c.negated.toList ++ c.items.toList ++
    (c.properties.getD []).map (·.2) ++ c.additional.toList

/-- The schemas directly inside a schema. -/
def parts : Schema → List Schema
  | .reference _ => []
  | .inline _ c => c.all

/-- The first schema is the second one or stands somewhere inside it. -/
def Occurs (c s : Schema) : Prop := Relation.ReflTransGen (fun s c => c ∈ s.parts) s c

theorem Occurs.refl (s : Schema) : s.Occurs s := Relation.ReflTransGen.refl

theorem Occurs.trans {a b c : Schema} (h : a.Occurs b) (h' : b.Occurs c) : a.Occurs c :=
  Relation.ReflTransGen.trans h' h

theorem Occurs.of_mem_parts {c s : Schema} (h : c ∈ s.parts) : c.Occurs s :=
  Relation.ReflTransGen.single h

theorem sizeOf_lt_of_mem_getD {s : Schema} {o : Option (List Schema)} (h : s ∈ o.getD []) :
    sizeOf s < sizeOf o := by
  cases o with
  | none => cases h
  | some ss =>
    have hlt := List.sizeOf_lt_of_mem h
    simp only [Option.getD_some, Option.some.sizeOf_spec] at hlt ⊢
    omega

theorem sizeOf_lt_of_mem_toList {s : Schema} {o : Option Schema} (h : s ∈ o.toList) :
    sizeOf s < sizeOf o := by
  cases o with
  | none => cases h
  | some t =>
    obtain rfl : s = t := by simpa using h
    rw [Option.some.sizeOf_spec]
    omega

theorem sizeOf_lt_of_mem_properties {s : Schema} {o : Option (List (String × Schema))}
    (h : s ∈ (o.getD []).map (·.2)) : sizeOf s < sizeOf o := by
  cases o with
  | none => cases h
  | some ps =>
    obtain ⟨⟨n, t⟩, he, rfl⟩ := List.mem_map.mp h
    have hlt := List.sizeOf_lt_of_mem he
    simp only [Option.getD_some, Option.some.sizeOf_spec, Prod.mk.sizeOf_spec] at hlt ⊢
    omega

theorem sizeOf_lt_of_mem_additional {s : Schema} {a : Additional Schema} (h : s ∈ a.toList) :
    sizeOf s < sizeOf a := by
  cases a with
  | absent => cases h
  | flag b => cases h
  | schema t =>
    obtain rfl : s = t := by simpa [Additional.toList] using h
    rw [Additional.schema.sizeOf_spec]
    omega

/-- What stands inside a schema is smaller. -/
theorem sizeOf_lt_of_mem_parts {c s : Schema} (h : c ∈ s.parts) : sizeOf c < sizeOf s := by
  cases s with
  | reference => cases h
  | inline k ch =>
    obtain ⟨oneOf, anyOf, allOf, negated, items, properties, additional⟩ := ch
    simp only [parts, Children.all, List.mem_append] at h
    simp only [Schema.inline.sizeOf_spec, Children.mk.sizeOf_spec]
    rcases h with (((((h | h) | h) | h) | h) | h) | h
    · have hlt := sizeOf_lt_of_mem_getD h
      omega
    · have hlt := sizeOf_lt_of_mem_getD h
      omega
    · have hlt := sizeOf_lt_of_mem_getD h
      omega
    · have hlt := sizeOf_lt_of_mem_toList h
      omega
    · have hlt := sizeOf_lt_of_mem_toList h
      omega
    · have hlt := sizeOf_lt_of_mem_properties h
      omega
    · have hlt := sizeOf_lt_of_mem_additional h
      omega

theorem Occurs.sizeOf_le {c s : Schema} (h : c.Occurs s) : sizeOf c ≤ sizeOf s := by
  induction h with
  | refl => exact Nat.le_refl _
  | tail _ hmem ih => exact Nat.le_trans (Nat.le_of_lt (sizeOf_lt_of_mem_parts hmem)) ih

/-- Induction over schemas: what holds of a schema as soon as it holds of all that occurs strictly
inside it holds of every schema. -/
theorem rec_occurs {P : Schema → Prop}
    (step : ∀ s, (∀ part ∈ s.parts, ∀ c : Schema, c.Occurs part → P c) → P s) (s : Schema) :
    P s := by
  induction hn : sizeOf s using Nat.strongRecOn generalizing s with
  | ind n ih =>
    subst hn
    refine step s fun part hpart c hc => ih (sizeOf c) ?_ c rfl
    exact Nat.lt_of_le_of_lt hc.sizeOf_le (sizeOf_lt_of_mem_parts hpart)

/-! ## Forms -/

/-- No keywords. -/
def Keywords.blank : Keywords :=
  ⟨none, none, none, none, none, none, none, none, none, none, none, none, none, none, none, [],
    []⟩

/-- No schemas inside. -/
def Children.blank {σ : Type} : Children σ := ⟨none, none, none, none, none, none, .absent⟩

/-- A schema that declares a type and nothing else. -/
def typed (t : DataType) : Schema := .inline { Keywords.blank with type := some (.one t) } .blank

/-- A list of what a schema describes. -/
def listOf (item : Schema) : Schema :=
  .inline { Keywords.blank with type := some (.one .array) }
    { Children.blank with items := some item }

/-- What decides how an inline schema is compiled. -/
inductive Form where
  | composition (how : Composition) (members : List Schema)
  | negation (inner : Schema)
  | literals
  | object
  | array
  | scalar (kind : Scalar)
  | untyped

/-- Whether keywords speak of properties, so that without a type they describe an object. -/
def Children.speaksOfProperties {σ : Type} (c : Children σ) : Bool :=
  c.properties.isSome ||
    match c.additional with
    | .absent => false
    | .flag b => b
    | .schema _ => true

/-- The form of an inline schema that neither composes nor negates. -/
def Keywords.plainForm (k : Keywords) (c : Children Schema) : Form :=
  if !k.literals.isEmpty then .literals
  else
    match k.mainType c.speaksOfProperties with
    | some .object => .object
    | some .array => .array
    | some .string => .scalar .string
    | some .integer => .scalar .integer
    | some .number => .scalar .number
    | some .boolean => .scalar .boolean
    | _ => .untyped

/-- The form of an inline schema: the first case that applies. -/
def Keywords.form (k : Keywords) (c : Children Schema) : Form :=
  match c.oneOf, c.anyOf, c.allOf, c.negated with
  | some (s :: ss), _, _, _ => .composition .oneOf (s :: ss)
  | _, some (s :: ss), _, _ => .composition .anyOf (s :: ss)
  | _, _, some (s :: ss), _ => .composition .allOf (s :: ss)
  | _, _, _, some s => .negation s
  | _, _, _, _ => k.plainForm c

theorem plainForm_ne_composition {k : Keywords} {c : Children Schema} {how : Composition}
    {ms : List Schema} : k.plainForm c ≠ .composition how ms := by
  unfold Keywords.plainForm
  split
  · exact Form.noConfusion
  · split <;> exact Form.noConfusion

theorem plainForm_ne_negation {k : Keywords} {c : Children Schema} {s : Schema} :
    k.plainForm c ≠ .negation s := by
  unfold Keywords.plainForm
  split
  · exact Form.noConfusion
  · split <;> exact Form.noConfusion

/-- The members of a composition stand under one of the three keywords. -/
theorem eq_of_form_composition {k : Keywords} {c : Children Schema} {how : Composition}
    {ms : List Schema} (h : k.form c = .composition how ms) :
    c.oneOf = some ms ∨ c.anyOf = some ms ∨ c.allOf = some ms := by
  unfold Keywords.form at h
  split at h
  · rename_i heq
    cases h
    exact Or.inl heq
  · rename_i heq _
    cases h
    exact Or.inr (Or.inl heq)
  · rename_i heq _ _
    cases h
    exact Or.inr (Or.inr heq)
  · cases h
  · exact absurd h plainForm_ne_composition

theorem eq_of_form_negation {k : Keywords} {c : Children Schema} {s : Schema}
    (h : k.form c = .negation s) : c.negated = some s := by
  unfold Keywords.form at h
  split at h
  · cases h
  · cases h
  · cases h
  · rename_i heq _ _ _
    cases h
    exact heq
  · exact absurd h plainForm_ne_negation

theorem mem_parts_of_composition {k : Keywords} {c : Children Schema} {how : Composition}
    {ms : List Schema} (h : k.form c = .composition how ms) {m : Schema} (hm : m ∈ ms) :
    m ∈ (Schema.inline k c).parts := by
  simp only [parts, Children.all, List.mem_append]
  rcases eq_of_form_composition h with h | h | h
  · exact Or.inl (Or.inl (Or.inl (Or.inl (Or.inl (Or.inl (by rwa [h]))))))
  · exact Or.inl (Or.inl (Or.inl (Or.inl (Or.inl (Or.inr (by rwa [h]))))))
  · exact Or.inl (Or.inl (Or.inl (Or.inl (Or.inr (by rwa [h])))))

theorem mem_parts_of_negation {k : Keywords} {c : Children Schema} {s : Schema}
    (h : k.form c = .negation s) : s ∈ (Schema.inline k c).parts := by
  simp [parts, Children.all, eq_of_form_negation h]

theorem mem_parts_of_items {k : Keywords} {c : Children Schema} {s : Schema}
    (h : c.items = some s) : s ∈ (Schema.inline k c).parts := by
  simp [parts, Children.all, h]

theorem mem_parts_of_properties {k : Keywords} {c : Children Schema} {s : Schema}
    (h : s ∈ (c.properties.getD []).map (·.2)) : s ∈ (Schema.inline k c).parts := by
  simp only [parts, Children.all, List.mem_append]
  exact Or.inl (Or.inr h)

theorem mem_parts_of_additional {k : Keywords} {c : Children Schema} {s : Schema}
    (h : c.additional = .schema s) : s ∈ (Schema.inline k c).parts := by
  simp [parts, Children.all, h, Additional.toList]

/-! ## The fields of objects -/

/-- Fields in the order of their names. -/
def sortFields {σ : Type} (fs : List (Field σ)) : List (Field σ) :=
  fs.mergeSort fun f g => f.name ≤ g.name

/-- Fields that are in the order of their names stay as they are. -/
theorem sortFields_eq_self {σ : Type} {fs : List (Field σ)}
    (h : (fs.map (·.name)).Pairwise (· ≤ ·)) : sortFields fs = fs :=
  Sorting.mergeSort_eq_self (List.pairwise_map.mp h)

/-- Properties as fields, in the order of their names. -/
def fieldsOf (required : List String) (ps : List (String × Schema)) : List (Field Schema) :=
  (sortedByKey ps).map fun e => ⟨e.1, e.2, required.contains e.1, e.2.annotations⟩

/-- What an object says of properties that it does not declare: nothing, that another schema
declares them, or that they are described by a schema, which may be missing. -/
inductive Further where
  | closed
  | merged (required : List String) (properties : List (String × Schema))
  | described (schema : Option Schema)

/-- What stands for further properties.  A schema is merged if it declares properties itself and
no type other than that of objects. -/
def further : Additional Schema → Further
  | .absent => .closed
  | .flag false => .closed
  | .flag true => .described none
  | .schema (.reference r) => .described (some (.reference r))
  | .schema (.inline k c) =>
    match c.properties with
    | some ps =>
      if !ps.isEmpty && (k.types.isEmpty || k.types.contains .object) then
        .merged (k.required.getD []) ps
      else .described (some (.inline k c))
    | none => .described (some (.inline k c))

/-- The fields that an object declares itself. -/
def Keywords.ownFields (k : Keywords) (c : Children Schema) : List (Field Schema) :=
  fieldsOf (k.required.getD []) (c.properties.getD [])

/-- The fields that an object takes over: those it does not declare itself. -/
def Keywords.mergedFields (k : Keywords) (c : Children Schema) : List (Field Schema) :=
  match further c.additional with
  | .merged required ps =>
    (fieldsOf required ps).filter fun f => !((k.ownFields c).map (·.name)).contains f.name
  | _ => []

/-- All fields of an object, those it takes over last. -/
def Keywords.declaredFields (k : Keywords) (c : Children Schema) : List (Field Schema) :=
  k.ownFields c ++ k.mergedFields c

/-- The schema of further properties, if any are allowed that no field declares. -/
def Children.remaining (c : Children Schema) : Option (Option Schema) :=
  match further c.additional with
  | .described s => some s
  | _ => none

theorem pairwise_fieldsOf (required : List String) (ps : List (String × Schema)) :
    ((fieldsOf required ps).map (·.name)).Pairwise (· ≤ ·) := by
  rw [fieldsOf, List.map_map, List.pairwise_map]
  exact Sorting.pairwise_mergeSort (fun e : String × Schema => e.1) ps

end Schema
end ApiCompiler
