import ApiCompiler.Proofs.Shape.Rearrangement
import ApiCompiler.Target.Projection

/-!
# The parts of a type

A type holds further types in lists, in fields and in wrappers.  `TypeExpr.children` lists those
directly below it, and `TypeExpr.Within` says that a type stands somewhere inside another one.  What
holds of a type as soon as it holds of its children holds of every type (`TypeExpr.rec_children`).

The parts of a projected type are few: the type that is formed for a shape, that type with null
admitted, and the parts of the types of the shapes directly below (`within_project`).
-/

namespace ApiCompiler
namespace TypeExpr

/-- The types directly below, in order. -/
def children : TypeExpr → List TypeExpr
  | .sequence e => [e]
  | .mapping e => [e]
  | .union es => es
  | .intersection es => es
  | .optional e => [e]
  | .object fields => fields.map (·.2.1)
  | .approximated e _ => [e]
  | _ => []

/-- The first type is the second one or stands somewhere inside it. -/
inductive Within : TypeExpr → TypeExpr → Prop
  | refl (e : TypeExpr) : Within e e
  | child {n c e : TypeExpr} (below : c ∈ e.children) (h : Within n c) : Within n e

theorem sizeOf_lt_of_mem_children {e c : TypeExpr} (h : c ∈ e.children) : sizeOf c < sizeOf e := by
  cases e with
  | sequence item =>
    obtain rfl := List.mem_singleton.mp h
    simp
  | mapping value =>
    obtain rfl := List.mem_singleton.mp h
    simp
  | union members =>
    have hmem : c ∈ members := h
    have hlt := List.sizeOf_lt_of_mem hmem
    simp only [union.sizeOf_spec]
    omega
  | intersection members =>
    have hmem : c ∈ members := h
    have hlt := List.sizeOf_lt_of_mem hmem
    simp only [intersection.sizeOf_spec]
    omega
  | optional inner =>
    obtain rfl := List.mem_singleton.mp h
    simp
  | object fields =>
    obtain ⟨⟨name, type, required⟩, hmem, rfl⟩ := List.mem_map.mp h
    have hlt := List.sizeOf_lt_of_mem hmem
    simp only [object.sizeOf_spec, Prod.mk.sizeOf_spec] at hlt ⊢
    omega
  | approximated inner lost =>
    obtain rfl := List.mem_singleton.mp h
    simp only [approximated.sizeOf_spec]
    omega
  | _ => cases h

/-- Induction over types: what holds of a type as soon as it holds of the types directly below it
holds of every type. -/
theorem rec_children {P : TypeExpr → Prop} (step : ∀ e, (∀ c ∈ e.children, P c) → P e)
    (e : TypeExpr) : P e := by
  induction hn : sizeOf e using Nat.strongRecOn generalizing e with
  | ind n ih =>
    subst hn
    exact step e fun c hc => ih (sizeOf c) (sizeOf_lt_of_mem_children hc) c rfl

/-- What stands inside a type is the type or stands inside one of its children. -/
theorem within_iff {n e : TypeExpr} : n.Within e ↔ n = e ∨ ∃ c ∈ e.children, n.Within c := by
  constructor
  · intro h
    cases h with
    | refl => exact Or.inl rfl
    | child hc h => exact Or.inr ⟨_, hc, h⟩
  · rintro (rfl | ⟨c, hc, h⟩)
    · exact .refl n
    · exact .child hc h

theorem Within.trans {n m e : TypeExpr} (h : n.Within m) (hm : m.Within e) : n.Within e := by
  induction hm with
  | refl => exact h
  | child hc _ ih => exact .child hc ih

/-- Admitting null adds at most the type that admits it. -/
theorem within_orNull {n e : TypeExpr} (h : n.Within e.orNull) : n = .optional e ∨ n.Within e := by
  unfold orNull at h
  split at h
  · exact Or.inr h
  · rcases within_iff.mp h with rfl | ⟨c, hc, h⟩
    · exact Or.inl rfl
    · rw [List.mem_singleton.mp hc] at h
      exact Or.inr h

end TypeExpr

namespace Target

variable {t : Target} {known : Option (List String)}

theorem projectAll_eq (ss : List Shape) : projectAll t known ss = ss.map (project t known) := by
  induction ss with
  | nil => rw [projectAll, List.map_nil]
  | cons s ss ih => rw [projectAll, List.map_cons, ih]

theorem projectFields_eq (fields : List (Field Shape)) :
    projectFields t known fields =
      fields.map fun f => (f.name, project t known f.type, f.required) := by
  induction fields with
  | nil => rw [projectFields, List.map_nil]
  | cons f fields ih => rw [projectFields, List.map_cons, ih]

/-- The type that is formed for a shape, before null is admitted. -/
def projectBase (t : Target) (known : Option (List String)) : Shape → TypeExpr
  | .scalar u k => if k = .string && u.format = some "binary" then .bytes else .scalar (.scalar k)
  | .null _ => .null
  | .unknown _ => .unknown
  | .ref _ name => projectReference known name
  | .array _ s => .sequence (project t known s)
  | .composition _ how ms => projectComposition t how (ms.map (project t known))
  | .negation _ _ => .approximated .unknown .negation
  | .enum _ l => projectEnum t l
  | .object _ fields additional =>
    if !fields.isEmpty && t.inlineObjects then
      .object (fields.map fun f => (f.name, project t known f.type, f.required))
    else if fields.isEmpty then
      match additional with
      | some s => .mapping (project t known s)
      | none => .mapping .unknown
    else .mapping .unknown

/-- The type of a shape is the type that is formed for it, with null admitted if the shape is
nullable. -/
theorem project_eq (s : Shape) :
    project t known s = orNullIf s.traits (projectBase t known s) := by
  cases s with
  | object u fields additional =>
    cases additional <;> simp only [project, projectBase, Shape.traits, projectFields_eq]
  | composition u how ms =>
    rw [project, projectAll_eq]
    rfl
  | _ =>
    rw [project]
    rfl

/-- A part of the type of a shape is a part of the type that is formed for it, or it is that type
with null admitted. -/
theorem within_project {s : Shape} {n : TypeExpr} (h : n.Within (project t known s)) :
    n = .optional (projectBase t known s) ∨ n.Within (projectBase t known s) := by
  rw [project_eq, orNullIf] at h
  split at h
  · exact TypeExpr.within_orNull h
  · exact Or.inr h

/-- What stands directly below the type that is formed for a shape is the type of a shape directly
below that shape, or it is the unknown type. -/
theorem mem_children_projectBase {s : Shape} {c : TypeExpr}
    (h : c ∈ (projectBase t known s).children) :
    (∃ child ∈ s.children, c = project t known child) ∨ c = .unknown := by
  cases s with
  | unknown u => cases h
  | scalar u k =>
    simp only [projectBase] at h
    split at h <;> cases h
  | null u => cases h
  | array u s =>
    obtain rfl := List.mem_singleton.mp h
    exact Or.inl ⟨s, List.mem_singleton_self s, rfl⟩
  | object u fields additional =>
    simp only [projectBase] at h
    split at h
    · rw [TypeExpr.children, List.map_map] at h
      obtain ⟨f, hf, rfl⟩ := List.mem_map.mp h
      exact Or.inl ⟨f.type, List.mem_append_left _ (List.mem_map_of_mem hf), rfl⟩
    · split at h
      · split at h
        · rename_i s
          obtain rfl := List.mem_singleton.mp h
          exact Or.inl ⟨s, List.mem_append_right _ (List.mem_singleton_self s), rfl⟩
        · exact Or.inr (List.mem_singleton.mp h)
      · exact Or.inr (List.mem_singleton.mp h)
  | enum u l =>
    simp only [projectBase, projectEnum] at h
    split at h
    · cases h
    · split at h
      · cases h
      · split at h <;> cases h
  | ref u name =>
    simp only [projectBase, projectReference] at h
    split at h
    · cases h
    · split at h <;> cases h
  | composition u how ms =>
    have hmember : ∀ c ∈ ms.map (project t known),
        (∃ child ∈ (Shape.composition u how ms).children, c = project t known child) ∨
          c = .unknown := by
      intro c hc
      obtain ⟨m, hm, rfl⟩ := List.mem_map.mp hc
      exact Or.inl ⟨m, hm, rfl⟩
    simp only [projectBase, projectComposition] at h
    split at h
    · split at h
      · exact hmember c h
      · obtain rfl := List.mem_singleton.mp h
        cases ms with
        | nil => exact Or.inr rfl
        | cons m ms => exact hmember _ List.mem_cons_self
    · split at h
      · exact hmember c h
      · exact Or.inr (List.mem_singleton.mp h)
  | negation u s => exact Or.inr (List.mem_singleton.mp h)

end Target
end ApiCompiler
