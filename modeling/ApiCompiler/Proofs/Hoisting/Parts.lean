import ApiCompiler.Proofs.Hoisting.Completeness

/-!
# What stands inside a shape

A shape that stands for a schema is built from shapes that stand for its parts.
`Represents.child` says so for what stands directly below it, and `Represents.within` for
whatever stands in it at any depth.

`Represents.refersTo` reads off where a reference comes from: either the schema writes one, or the
reference took the place of something that was hoisted, and then names a model of the registry.
`Shape.RefersTo` is about references alone.  It says less than `Shape.Mentions`, which also counts
the names that a discriminator selects.
-/

namespace ApiCompiler
namespace Shape

/-- The shape contains a reference to the name, at any depth. -/
def RefersTo (s : Shape) (n : String) : Prop := ∃ t, (Shape.ref t n).Within s

/-- What is mentioned in a part of a shape is mentioned in the shape. -/
theorem Within.mentions {p s : Shape} {n : String} (h : p.Within s) (hp : p.Mentions n) :
    s.Mentions n := by
  induction h with
  | refl => exact hp
  | child hc _ ih => exact .child hc ih

/-- A reference is a name that is mentioned. -/
theorem RefersTo.mentions {s : Shape} {n : String} (h : s.RefersTo n) : s.Mentions n := by
  obtain ⟨t, hwithin⟩ := h
  exact hwithin.mentions .ref

/-- An enumeration contains no references. -/
theorem not_refersTo_of_isEnum {s : Shape} (hs : s.isEnum = true) (n : String) :
    ¬ s.RefersTo n := by
  rintro ⟨t, hwithin⟩
  cases s with
  | enum => cases hwithin.eq_of_children_eq_nil rfl
  | _ => cases hs

end Shape

namespace Schema

/-- The shape stands, in place or below another one, for a schema that occurs in the given one, or
for no schema. -/
def StandsIn (r : Registry) (s : Option Schema) (a : Shape) : Prop :=
  ∃ part nested, (∀ p ∈ part, ∃ q ∈ s, p.Occurs q) ∧ Represents r part nested a

variable {r : Registry}

/-- What stands for a part of a schema stands in the schema. -/
theorem Represents.standsIn {part : Option Schema} {s : Schema} {nested : Bool} {a : Shape}
    (h : Represents r part nested a) (hpart : ∀ p ∈ part, p.Occurs s) :
    StandsIn r (some s) a :=
  ⟨part, nested, fun p hp => ⟨s, rfl, hpart p hp⟩, h⟩

/-- What stands directly below a shape stands for a part of the schema that the shape stands
for. -/
theorem Represents.child {s : Option Schema} {nested : Bool} {a b : Shape}
    (h : Represents r s nested a) (hb : b ∈ a.children) : StandsIn r s b := by
  cases h with
  | @composition k c how ms as _ form length members =>
    obtain ⟨m, hmem⟩ := exists_mem_zip length hb
    refine (members _ hmem).standsIn fun p hp => ?_
    obtain rfl := Option.some.inj hp
    exact .of_mem_parts (mem_parts_of_composition form (List.of_mem_zip hmem).1)
  | negation form inner =>
    obtain rfl := List.mem_singleton.mp hb
    refine inner.standsIn fun p hp => ?_
    obtain rfl := Option.some.inj hp
    exact .of_mem_parts (mem_parts_of_negation form)
  | @object k c fields extra form labels types open_iff further =>
    rcases List.mem_append.mp hb with hb | hb
    · -- a field stands at the place of a declared field, whose type occurs in the schema
      obtain ⟨g, hg, rfl⟩ := List.mem_map.mp hb
      obtain ⟨f, hmem, -, -⟩ := exists_declaredField labels hg
      refine (types _ hmem).standsIn fun p hp => ?_
      obtain rfl := Option.some.inj hp
      obtain ⟨part, hpart, hocc⟩ :=
        occurs_of_mem_declaredFields (List.mem_mergeSort.mp (List.of_mem_zip hmem).1)
      exact hocc.trans (.of_mem_parts hpart)
    · rw [Option.mem_toList] at hb
      have hopen : c.remaining.isSome = true := by
        rw [← open_iff, Option.mem_def.mp hb]
        rfl
      obtain ⟨s, hs⟩ := Option.isSome_iff_exists.mp hopen
      refine (further s hs _ hb).standsIn fun p hp => ?_
      exact .of_mem_parts (mem_parts_of_remaining (by rw [hs, Option.mem_def.mp hp]))
  | array form items =>
    obtain rfl := List.mem_singleton.mp hb
    exact items.standsIn fun p hp => .of_mem_parts (mem_parts_of_items hp)
  | _ => cases hb

/-- Whatever stands in a shape stands for a part of the schema that the shape stands for. -/
theorem Represents.within {s : Option Schema} {nested : Bool} {a b : Shape}
    (h : Represents r s nested a) (hb : b.Within a) : StandsIn r s b := by
  induction hb generalizing s nested with
  | refl => exact ⟨s, nested, fun p hp => ⟨p, hp, .refl p⟩, h⟩
  | child hc _ ih =>
    obtain ⟨part, nested', hpart, hrep⟩ := h.child hc
    obtain ⟨inner, nested'', hinner, hrep'⟩ := ih hrep
    refine ⟨inner, nested'', fun p hp => ?_, hrep'⟩
    obtain ⟨q, hq, hocc⟩ := hinner p hp
    obtain ⟨w, hw, hocc'⟩ := hpart q hq
    exact ⟨w, hw, hocc.trans hocc'⟩

/-- A reference in a shape is written in the schema it stands for, or names a model of the
registry. -/
theorem Represents.refersTo {s : Option Schema} {nested : Bool} {a : Shape} {n : String}
    (h : Represents r s nested a) (hn : a.RefersTo n) :
    (∃ p ∈ s, ∃ ref, (Schema.reference ref).Occurs p ∧ ref.name = n) ∨
      ∃ m, r.model? n = some m := by
  obtain ⟨t, hwithin⟩ := hn
  obtain ⟨part, nested', hpart, hrep⟩ := h.within hwithin
  cases hrep with
  | @reference ref =>
    obtain ⟨q, hq, hocc⟩ := hpart _ rfl
    exact Or.inl ⟨q, hq, ref, hocc, rfl⟩
  | @hoisted k c m body n' form found => exact Or.inr ⟨m, found⟩

end Schema
end ApiCompiler
