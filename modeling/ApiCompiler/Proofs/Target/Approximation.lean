import ApiCompiler.Proofs.Target.Expressible

/-!
# Types without the marks of approximation

What a target cannot express is replaced by another type, and the replacement is marked as an
approximation.  The mark is for those who want to know; it is not spelled.  `TypeExpr.unmarked`
takes the marks away at every depth, so what it leaves is the type as a reader of the spelling sees
it.

A mark can still matter for the spelling: a compound item of a sequence stands in parentheses where
the target groups items, and a marked item counts as simple.  The known targets that group items
have intersections, so nothing but the unknown type is ever marked there
(`eq_unknown_of_approximated`), and the spelling of the type of a shape is that of the type without
marks (`render_unmarked_project`).
-/

namespace ApiCompiler
namespace TypeExpr

mutual

/-- The type without the marks of approximation. -/
def unmarked : TypeExpr → TypeExpr
  | .approximated e _ => unmarked e
  | .sequence e => .sequence (unmarked e)
  | .mapping e => .mapping (unmarked e)
  | .optional e => .optional (unmarked e)
  | .union es => .union (unmarkedAll es)
  | .intersection es => .intersection (unmarkedAll es)
  | .object fields => .object (unmarkedFields fields)
  | e => e

/-- Types without the marks of approximation. -/
def unmarkedAll : List TypeExpr → List TypeExpr
  | [] => []
  | e :: es => unmarked e :: unmarkedAll es

/-- Fields whose types are without the marks of approximation. -/
def unmarkedFields : List (String × TypeExpr × Bool) → List (String × TypeExpr × Bool)
  | [] => []
  | (name, e, required) :: fields => (name, unmarked e, required) :: unmarkedFields fields

end

theorem unmarkedAll_eq (es : List TypeExpr) : unmarkedAll es = es.map unmarked := by
  induction es with
  | nil => rw [unmarkedAll, List.map_nil]
  | cons e es ih => rw [unmarkedAll, List.map_cons, ih]

theorem unmarkedFields_eq (fields : List (String × TypeExpr × Bool)) :
    unmarkedFields fields = fields.map fun f => (f.1, f.2.1.unmarked, f.2.2) := by
  induction fields with
  | nil => rw [unmarkedFields, List.map_nil]
  | cons f fields ih => rw [unmarkedFields, List.map_cons, ih]

/-- Taking the marks away keeps every constructor but the marks, so the types below are those below
without their marks. -/
theorem children_unmarked {e : TypeExpr} (h : ∀ a lost, e ≠ .approximated a lost) :
    e.unmarked.children = e.children.map unmarked := by
  cases e with
  | approximated a lost => exact absurd rfl (h a lost)
  | union es => rw [unmarked, unmarkedAll_eq, children, children]
  | intersection es => rw [unmarked, unmarkedAll_eq, children, children]
  | object fields =>
    rw [unmarked, unmarkedFields_eq, children, children, List.map_map, List.map_map]
    rfl
  | sequence e | mapping e | optional e => rw [unmarked, children, children, List.map_singleton]
  | scalar kind | bytes | null | unknown | named name | literal values => rfl

/-- A type that is not marked is as compound, and admits null as visibly, as without the marks
below. -/
theorem form_unmarked {e : TypeExpr} (h : ∀ a lost, e ≠ .approximated a lost) :
    e.unmarked.isCompound = e.isCompound ∧ e.unmarked.isOptional = e.isOptional := by
  cases e with
  | approximated a lost => exact absurd rfl (h a lost)
  | union es | intersection es | object fields | sequence e | mapping e | optional e =>
    rw [unmarked]
    exact ⟨rfl, rfl⟩
  | scalar kind | bytes | null | unknown | named name | literal values => exact ⟨rfl, rfl⟩

/-- Types that neither have parts nor admit null. -/
def isAtom : TypeExpr → Bool
  | .scalar _ | .bytes | .unknown | .named _ | .literal _ => true
  | _ => false

theorem of_isAtom {e : TypeExpr} (h : e.isAtom = true) :
    e.children = [] ∧ e.isOptional = false ∧ ∀ a lost, e ≠ .approximated a lost := by
  cases e with
  | scalar kind | bytes | unknown | named name | literal values =>
    exact ⟨rfl, rfl, fun a lost => TypeExpr.noConfusion⟩
  | _ => cases h

end TypeExpr

namespace Target

variable {t : Target} {known : Option (List String)}

/-! ## Marks are not spelled -/

theorem renderAll_unmarked {es : List TypeExpr}
    (h : ∀ e ∈ es, t.render e.unmarked = t.render e) :
    t.renderAll (es.map TypeExpr.unmarked) = t.renderAll es := by
  induction es with
  | nil => rfl
  | cons e es ih =>
    rw [List.forall_mem_cons] at h
    rw [List.map_cons, renderAll, renderAll, h.1, ih h.2]

theorem renderFields_unmarked {fields : List (String × TypeExpr × Bool)}
    (h : ∀ e ∈ fields.map (·.2.1), t.render e.unmarked = t.render e) :
    t.renderFields (fields.map fun f => (f.1, f.2.1.unmarked, f.2.2)) = t.renderFields fields := by
  induction fields with
  | nil => rfl
  | cons f fields ih =>
    obtain ⟨name, e, required⟩ := f
    rw [List.map_cons, List.forall_mem_cons] at h
    rw [List.map_cons, renderFields, renderFields, h.1, ih h.2]

/-- A type is spelled as it is without marks, if no compound type is marked where items are
grouped. -/
theorem render_unmarked {e : TypeExpr}
    (h : t.groupsItems = true → ∀ a lost, (TypeExpr.approximated a lost).Within e →
      a.unmarked.isCompound = false) :
    t.render e.unmarked = t.render e := by
  induction e using TypeExpr.rec_children with
  | step e ih =>
    have hparts : ∀ c ∈ e.children, t.render c.unmarked = t.render c :=
      fun c hc => ih c hc fun hgroups a lost ha => h hgroups a lost (.child hc ha)
    clear ih
    cases e with
    | scalar kind | bytes | null | unknown | named name | literal values => rfl
    | approximated a lost =>
      rw [TypeExpr.unmarked, render]
      exact hparts a (List.mem_singleton_self a)
    | mapping e | optional e =>
      rw [TypeExpr.unmarked, render, render, hparts e (List.mem_singleton_self e)]
    | sequence e =>
      -- the one place where a mark is looked at
      have hcompound : (e.unmarked.isCompound && t.groupsItems) =
          (e.isCompound && t.groupsItems) := by
        cases hgroups : t.groupsItems with
        | false => rw [Bool.and_false, Bool.and_false]
        | true =>
          cases e with
          | approximated a lost =>
            have hbelow : (TypeExpr.approximated a lost).Within
                (.sequence (.approximated a lost)) :=
              .child (List.mem_singleton_self _) (.refl _)
            rw [TypeExpr.unmarked, h hgroups a lost hbelow]
            rfl
          | _ => rw [(TypeExpr.form_unmarked fun a lost => TypeExpr.noConfusion).1]
      rw [TypeExpr.unmarked, render, render, hparts e (List.mem_singleton_self e), hcompound]
    | union es =>
      have hmembers : t.renderAll (es.map TypeExpr.unmarked) = t.renderAll es :=
        renderAll_unmarked hparts
      rw [TypeExpr.unmarked, TypeExpr.unmarkedAll_eq, render, render, hmembers]
    | intersection es =>
      have hmembers : t.renderAll (es.map TypeExpr.unmarked) = t.renderAll es :=
        renderAll_unmarked hparts
      rw [TypeExpr.unmarked, TypeExpr.unmarkedAll_eq]
      cases hseparator : t.intersectionSeparator with
      | some separator =>
        rw [render_intersection hseparator, render_intersection hseparator, hmembers]
      | none =>
        cases es with
        | nil => rfl
        | cons e es =>
          simp only [List.map_cons, render, hseparator]
          exact hparts e List.mem_cons_self
    | object fields =>
      rw [TypeExpr.unmarked, TypeExpr.unmarkedFields_eq, render, render,
        renderFields_unmarked hparts]

/-! ## What is marked -/

theorem isAtom_projectBase_scalar (u : Traits) (k : Scalar) :
    (t.projectBase known (.scalar u k)).isAtom = true := by
  rw [projectBase]
  split <;> rfl

theorem isAtom_projectBase_ref (u : Traits) (name : String) :
    (t.projectBase known (.ref u name)).isAtom = true := by
  simp only [projectBase, projectReference]
  split
  · rfl
  · split <;> rfl

theorem isAtom_projectBase_enum (u : Traits) (l : Literals) :
    (t.projectBase known (.enum u l)).isAtom = true := by
  rw [projectBase, projectEnum]
  split
  · rfl
  · split
    · rfl
    · split <;> rfl

/-- What is marked is the unknown type, or the type of the first part of an intersection where the
target has none. -/
theorem eq_of_projectBase_approximated {s : Shape} {a : TypeExpr} {lost : Construct}
    (h : t.projectBase known s = .approximated a lost) :
    a = .unknown ∨ t.hasIntersections = false ∧
      ∃ u m ms, s = .composition u .allOf (m :: ms) ∧ a = t.project known m := by
  cases s with
  | unknown u | null u | array u s => cases h
  | scalar u k => exact absurd h ((TypeExpr.of_isAtom (isAtom_projectBase_scalar u k)).2.2 a lost)
  | ref u name => exact absurd h ((TypeExpr.of_isAtom (isAtom_projectBase_ref u name)).2.2 a lost)
  | enum u l => exact absurd h ((TypeExpr.of_isAtom (isAtom_projectBase_enum u l)).2.2 a lost)
  | object u fields additional =>
    simp only [projectBase] at h
    split at h
    · cases h
    · split at h
      · split at h <;> cases h
      · cases h
  | negation u s =>
    cases h
    exact Or.inl rfl
  | composition u how ms =>
    simp only [projectBase, projectComposition] at h
    split at h
    · split at h
      · cases h
      · case isFalse hnone =>
        cases h
        cases ms with
        | nil => exact Or.inl rfl
        | cons m ms => exact Or.inr ⟨Bool.eq_false_iff.mpr hnone, u, m, ms, rfl, rfl⟩
    · split at h
      · cases h
      · cases h
        exact Or.inl rfl

/-- A target with intersections marks nothing but the unknown type. -/
theorem eq_unknown_of_approximated (hintersections : t.hasIntersections = true) (s : Shape)
    {a : TypeExpr} {lost : Construct}
    (h : (TypeExpr.approximated a lost).Within (t.project known s)) : a = .unknown := by
  induction s using Shape.rec_children with
  | step s ih =>
    rcases within_project h with heq | hbase
    · cases heq
    · rcases TypeExpr.within_iff.mp hbase with heq | ⟨c, hc, hn⟩
      · refine (eq_of_projectBase_approximated heq.symm).resolve_right ?_
        rintro ⟨hnone, -⟩
        rw [hintersections] at hnone
        cases hnone
      · rcases mem_children_projectBase hc with ⟨child, hchild, rfl⟩ | rfl
        · exact ih child hchild hn
        · cases hn with
          | child hc _ => cases hc

/-- The type of a shape is spelled by a known target as it is without marks. -/
theorem render_unmarked_project (ht : t ∈ all) (s : Shape) :
    t.render (t.project known s).unmarked = t.render (t.project known s) := by
  refine render_unmarked fun hgroups a lost ha => ?_
  have hhas : t.hasIntersections = true := by
    simp only [all, List.mem_cons, List.not_mem_nil, or_false] at ht
    rcases ht with rfl | rfl | rfl | rfl
    · rfl
    · rfl
    · cases hgroups
    · cases hgroups
  rw [eq_unknown_of_approximated hhas s ha]
  rfl

end Target
end ApiCompiler
