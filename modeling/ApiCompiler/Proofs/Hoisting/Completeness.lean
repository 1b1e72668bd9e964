import ApiCompiler.Proofs.Hoisting.Mentions

/-!
# What hoisting leaves in place

Hoisting is complete if the only objects and enumerations a shape still contains belong to its top:
the shape itself, the members of a composition at the top, what is negated there.
`Shape.OnSpine` says that a shape stands at such a place of another one.

The program passes down the name of the property that a schema stands under, and takes the empty
name to mean that there is none.  So the type of a property whose name is empty is compiled as if
it stood at the top, and what is an object or an enumeration there stays where it is.
`Represents.onSpine` says that this is the only gap: an object or an enumeration off the spine
stands under a field without a name, and the schema declares such a property.
-/

namespace ApiCompiler
namespace Shape

/-- The first shape is the second one or stands somewhere below it. -/
inductive Within : Shape → Shape → Prop
  | refl (s : Shape) : Within s s
  | child {n c s : Shape} (below : c ∈ s.children) (h : Within n c) : Within n s

/-- The first shape stands on the spine of the second one: it is the second one, or is reached
from it through members of compositions and what is negated only. -/
inductive OnSpine : Shape → Shape → Prop
  | refl (s : Shape) : OnSpine s s
  | member {n m : Shape} {t : Traits} {how : Composition} {ms : List Shape} (mem : m ∈ ms)
      (h : OnSpine n m) : OnSpine n (.composition t how ms)
  | inner {n s : Shape} {t : Traits} (h : OnSpine n s) : OnSpine n (.negation t s)

/-- The first shape stands on the spine of the type of a field without a name, somewhere in the
second one. -/
def UnderNameless (n s : Shape) : Prop :=
  ∃ t fields extra, (Shape.object t fields extra).Within s ∧
    ∃ f ∈ fields, f.name = "" ∧ n.OnSpine f.type

/-- An object or an enumeration. -/
def isModel : Shape → Prop
  | .object _ _ _ => True
  | .enum _ _ => True
  | _ => False

theorem UnderNameless.child {n c s : Shape} (h : n.UnderNameless c) (hc : c ∈ s.children) :
    n.UnderNameless s := by
  obtain ⟨t, fields, extra, hwithin, hfield⟩ := h
  exact ⟨t, fields, extra, .child hc hwithin, hfield⟩

/-- What stands in a shape without children is that shape. -/
theorem Within.eq_of_children_eq_nil {n s : Shape} (h : n.Within s) (hs : s.children = []) :
    n = s := by
  cases h with
  | refl => rfl
  | child hc =>
    rw [hs] at hc
    cases hc

/-- Every enumeration in the shape satisfies the predicate. -/
def AllEnums (P : Literals → Prop) (a : Shape) : Prop :=
  ∀ u l, (Shape.enum u l).Within a → P l

section AllEnums

variable {P : Literals → Prop} {a : Shape}

/-- A shape that is no enumeration contains those of the shapes directly below it. -/
theorem allEnums_of_children (ha : a.isEnum = false) (h : ∀ b ∈ a.children, b.AllEnums P) :
    a.AllEnums P := by
  intro u l hl
  cases hl with
  | refl => cases ha
  | child hb hl => exact h _ hb u l hl

/-- A shape around another one contains the enumerations of that one. -/
theorem allEnums_of_child {b : Shape} (ha : a.isEnum = false) (h : a.children = [b])
    (hb : b.AllEnums P) : a.AllEnums P := by
  refine allEnums_of_children ha fun b' hb' => ?_
  rw [h, List.mem_singleton] at hb'
  rw [hb']
  exact hb

/-- A shape without parts that is no enumeration contains none. -/
theorem allEnums_of_children_eq_nil (ha : a.isEnum = false) (h : a.children = []) :
    a.AllEnums P := by
  refine allEnums_of_children ha fun b hb => ?_
  rw [h] at hb
  cases hb

end AllEnums
end Shape

namespace Schema

/-- A property without a name is declared by the schema or by one that occurs in it. -/
def DeclaresNameless (s : Schema) : Prop :=
  ∃ k c, (Schema.inline k c).Occurs s ∧ "" ∈ (c.properties.getD []).map (·.1)

theorem DeclaresNameless.of_part {part s : Schema} (h : part.DeclaresNameless)
    (hpart : part.Occurs s) : s.DeclaresNameless := by
  obtain ⟨k, c, hocc, hname⟩ := h
  exact ⟨k, c, hocc.trans hpart, hname⟩

/-- Partners in two lists that correspond to each other agree in what the lists agree in. -/
theorem eq_of_mem_zip {α β γ : Type} {f : α → γ} {g : β → γ} {as : List α} {bs : List β}
    (h : as.map f = bs.map g) {p : α × β} (hp : p ∈ as.zip bs) : f p.1 = g p.2 := by
  rw [← List.forall₂_eq_eq_eq, List.forall₂_map_left_iff, List.forall₂_map_right_iff] at h
  exact (List.forall₂_iff_zip.mp h).2 hp

/-- A field without a name comes from a property without a name, of the object itself or of the
schema that is merged into it. -/
theorem declaresNameless_of_field {k : Keywords} {c : Children Schema} {f : Field Schema}
    (hf : f ∈ k.declaredFields c) (hname : f.name = "") :
    (Schema.inline k c).DeclaresNameless := by
  obtain ⟨n, s, required, notes⟩ := f
  obtain rfl : n = "" := hname
  have hdeclares : k.Declares c "" s required := (mem_declaredFields_iff.mp hf).1
  cases hdeclares with
  | own hmem => exact ⟨k, c, .refl _, List.mem_map_of_mem hmem⟩
  | @taken k' ps source new hmem =>
    obtain ⟨c', hadditional, hps, -⟩ := source
    refine ⟨k', c', .of_mem_parts (mem_parts_of_additional hadditional), ?_⟩
    rw [hps]
    exact List.mem_map_of_mem hmem

/-- Every field of a compiled object comes from a declared one of the same name; if it has none, a
property without a name is declared. -/
theorem exists_declaredField {k : Keywords} {c : Children Schema} {fields : List (Field Shape)}
    (labels : fields.map (·.label) = (sortFields (k.declaredFields c)).map (·.label))
    {g : Field Shape} (hg : g ∈ fields) :
    ∃ f, (f, g) ∈ (sortFields (k.declaredFields c)).zip fields ∧ g.name = f.name ∧
      (f.name = "" → (Schema.inline k c).DeclaresNameless) := by
  have hlength := congrArg List.length labels
  rw [List.length_map, List.length_map] at hlength
  obtain ⟨f, hmem⟩ := exists_mem_zip hlength.symm hg
  have hname : g.name = f.name := (congrArg Prod.fst (eq_of_mem_zip labels.symm hmem)).symm
  have hdeclared : f ∈ k.declaredFields c := List.mem_mergeSort.mp (List.of_mem_zip hmem).1
  exact ⟨f, hmem, hname, declaresNameless_of_field hdeclared⟩

/-- **Hoisting leaves nothing below the top.**  An object or an enumeration in a shape that stands
for a schema means that the schema stands in place, and is on the spine of the shape, or else it
stands under a field without a name, which comes from a property without a name. -/
theorem Represents.onSpine {r : Registry} {s : Option Schema} {nested : Bool} {a n : Shape}
    (h : Represents r s nested a) (hn : n.Within a) (hmodel : n.isModel) :
    nested = false ∧
      (n.OnSpine a ∨ n.UnderNameless a ∧ ∃ p ∈ s, p.DeclaresNameless) := by
  induction h with
  | @composition k c how ms as nested form length _ ih =>
    cases hn with
    | refl => cases hmodel
    | child hc hn =>
      obtain ⟨m, hmem⟩ := exists_mem_zip length hc
      obtain ⟨hnested, hplace⟩ := ih _ hmem hn
      refine ⟨hnested, hplace.imp (.member hc) ?_⟩
      rintro ⟨hunder, p, hp, hdeclares⟩
      obtain rfl := Option.some.inj hp
      have hpart := mem_parts_of_composition form (List.of_mem_zip hmem).1
      exact ⟨hunder.child hc, _, rfl, hdeclares.of_part (.of_mem_parts hpart)⟩
  | @negation k c s a nested form _ ih =>
    cases hn with
    | refl => cases hmodel
    | child hc hn =>
      obtain rfl := List.mem_singleton.mp hc
      obtain ⟨hnested, hplace⟩ := ih hn
      refine ⟨hnested, hplace.imp .inner ?_⟩
      rintro ⟨hunder, p, hp, hdeclares⟩
      obtain rfl := Option.some.inj hp
      exact ⟨hunder.child hc, _, rfl,
        hdeclares.of_part (.of_mem_parts (mem_parts_of_negation form))⟩
  | literals =>
    obtain rfl := hn.eq_of_children_eq_nil rfl
    exact ⟨rfl, Or.inl (.refl _)⟩
  | @object k c fields extra form labels types open_iff further ihTypes ihFurther =>
    refine ⟨rfl, ?_⟩
    cases hn with
    | refl => exact Or.inl (.refl _)
    | child hc hn =>
      refine Or.inr ?_
      rcases List.mem_append.mp hc with ha | ha
      · -- what stands in the type of a field gives away that the field has no name
        obtain ⟨g, hg, rfl⟩ := List.mem_map.mp ha
        obtain ⟨f, hmem, hname, hdeclares⟩ := exists_declaredField labels hg
        obtain ⟨hnested, hplace⟩ := ihTypes _ hmem hn
        have hfname : f.name = "" := by
          simpa [isNested, String.isEmpty_iff] using hnested
        refine ⟨?_, _, rfl, hdeclares hfname⟩
        rcases hplace with hspine | ⟨hunder, -⟩
        · exact ⟨k.traits, fields, extra, .refl _, g, hg, hname.trans hfname, hspine⟩
        · exact hunder.child hc
      · -- further properties stand below the object, whatever they are
        rw [Option.mem_toList] at ha
        have hopen : c.remaining.isSome = true := by
          rw [← open_iff, Option.mem_def.mp ha]
          rfl
        obtain ⟨s, hs⟩ := Option.isSome_iff_exists.mp hopen
        obtain ⟨hnested, -⟩ := ihFurther s hs _ ha hn
        cases hnested
  | array form _ ih =>
    cases hn with
    | refl => cases hmodel
    | child hc hn =>
      obtain rfl := List.mem_singleton.mp hc
      obtain ⟨hnested, -⟩ := ih hn
      cases hnested
  | _ =>
    obtain rfl := hn.eq_of_children_eq_nil rfl
    cases hmodel

end Schema
end ApiCompiler
