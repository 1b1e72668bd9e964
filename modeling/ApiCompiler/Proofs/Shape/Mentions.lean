import ApiCompiler.Shape.Walk
import Mathlib.Data.List.Basic

/-!
# The names a shape mentions

`Shape.Mentions s n` says that the shape refers to the name at some depth: it is a reference to
it, one of its discriminators selects it, or something below it mentions it.  This is what
`Shape.references` lists, whatever order the walk takes.
-/

namespace ApiCompiler
namespace Shape

/-- The shape refers to the name, itself or somewhere below. -/
inductive Mentions : Shape → String → Prop
  | ref {t : Traits} {n : String} : Mentions (.ref t n) n
  | target {s : Shape} {d : Discriminator} {e : String × String}
      (discriminator : s.traits.discriminator = some d) (selected : e ∈ d.mapping) :
      Mentions s e.2
  | child {s c : Shape} {n : String} (below : c ∈ s.children) (h : Mentions c n) : Mentions s n

theorem mentions_of_mem_ownReferences {s : Shape} {n : String} (h : n ∈ s.ownReferences) :
    s.Mentions n := by
  rcases List.mem_append.mp h with h | h
  · split at h
    · rw [List.mem_singleton] at h
      subst h
      exact .ref
    · cases h
  · split at h
    · rename_i d hd
      obtain ⟨e, he, rfl⟩ := List.mem_map.mp h
      exact .target hd he
    · cases h

/-- A shape mentions what it refers to itself and what its children mention. -/
theorem mentions_iff {s : Shape} {n : String} :
    s.Mentions n ↔ n ∈ s.ownReferences ∨ ∃ c ∈ s.children, c.Mentions n := by
  constructor
  · intro h
    cases h with
    | ref => exact Or.inl (List.mem_append_left _ List.mem_cons_self)
    | target hd he =>
      refine Or.inl (List.mem_append_right _ ?_)
      rw [hd]
      exact List.mem_map.mpr ⟨_, he, rfl⟩
    | child hc h => exact Or.inr ⟨_, hc, h⟩
  · rintro (h | ⟨c, hc, h⟩)
    · exact mentions_of_mem_ownReferences h
    · exact .child hc h

/-- The walk finds what the shapes it starts from mention. -/
theorem mem_walkFrom {pending : List Shape} {n : String} :
    n ∈ (walkFrom pending).flatMap ownReferences ↔ ∃ s ∈ pending, s.Mentions n := by
  induction pending using walkFrom.induct with
  | case1 => simp [walkFrom]
  | case2 s pending ih =>
    rw [walkFrom, List.flatMap_cons, List.mem_append, ih]
    simp only [List.mem_append, List.exists_mem_cons_iff, mentions_iff (s := s)]
    constructor
    · rintro (h | ⟨c, hc | hc, h⟩)
      · exact Or.inl (Or.inl h)
      · exact Or.inl (Or.inr ⟨c, hc, h⟩)
      · exact Or.inr ⟨c, hc, h⟩
    · rintro ((h | ⟨c, hc, h⟩) | ⟨c, hc, h⟩)
      · exact Or.inl h
      · exact Or.inr ⟨c, Or.inl hc, h⟩
      · exact Or.inr ⟨c, Or.inr hc, h⟩

/-- The references of a shape are the names it mentions. -/
@[simp] theorem mem_references {s : Shape} {n : String} : n ∈ s.references ↔ s.Mentions n := by
  rw [references, walk, mem_walkFrom]
  simp

end Shape
end ApiCompiler
