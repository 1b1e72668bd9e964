import ApiCompiler.Proofs.Target.Approximation
import Mathlib

/-!
# Null is admitted once

A nullable shape becomes an optional type, unless its type is null or optional already.  Whether it
is gets decided by the outermost constructor.  A mark of approximation hides that constructor and is
not spelled, so `TypeExpr.RepeatsNull` is asked of types without marks: an optional type stands
directly inside another one, or null does.

Where a target has no intersections, the type of all of some shapes is that of the first one,
marked.  If this type admits null (`Target.AdmitsNull`) and all of the shapes together are nullable,
null is admitted a second time, outside the mark.  `null_admitted_once` says that this is the only
way: null is repeated in the type of a shape exactly if one of the shapes whose types are shown in it
(`Target.Shows`) is of that form.  A target with intersections never repeats null.
-/

namespace ApiCompiler
namespace TypeExpr

/-- Null is admitted where it is admitted already. -/
def RepeatsNull (e : TypeExpr) : Prop :=
  ∃ inner, (TypeExpr.optional inner).Within e ∧ inner.isOptional = true

/-- Null is repeated at the top of a type or in a type directly below. -/
theorem repeatsNull_iff {e : TypeExpr} :
    e.RepeatsNull ↔ (∃ inner, e = .optional inner ∧ inner.isOptional = true) ∨
      ∃ c ∈ e.children, c.RepeatsNull := by
  constructor
  · rintro ⟨inner, hwithin, hinner⟩
    rcases within_iff.mp hwithin with heq | ⟨c, hc, h⟩
    · exact Or.inl ⟨inner, heq.symm, hinner⟩
    · exact Or.inr ⟨c, hc, inner, h, hinner⟩
  · rintro (⟨inner, rfl, hinner⟩ | ⟨c, hc, inner, h, hinner⟩)
    · exact ⟨inner, .refl _, hinner⟩
    · exact ⟨inner, .child hc h, hinner⟩

/-- The same without marks. -/
theorem repeatsNull_unmarked_iff {e : TypeExpr} :
    e.unmarked.RepeatsNull ↔
      (∃ inner, e = .optional inner ∧ inner.unmarked.isOptional = true) ∨
        ∃ c ∈ e.children, c.unmarked.RepeatsNull := by
  by_cases hmarked : ∃ a lost, e = .approximated a lost
  · obtain ⟨a, lost, rfl⟩ := hmarked
    rw [unmarked, children]
    simp
  · have hplain : ∀ a lost, e ≠ .approximated a lost :=
      fun a lost heq => hmarked ⟨a, lost, heq⟩
    have htop : (∃ inner, e.unmarked = .optional inner ∧ inner.isOptional = true) ↔
        ∃ inner, e = .optional inner ∧ inner.unmarked.isOptional = true := by
      cases e with
      | approximated a lost => exact absurd rfl (hplain a lost)
      | _ => simp [unmarked]
    rw [repeatsNull_iff, htop, children_unmarked hplain]
    simp only [List.mem_map, exists_exists_and_eq_and]

end TypeExpr

namespace Target

variable {t : Target} {known : Option (List String)}

/-! ## What is shown -/

/-- The shapes directly below whose types stand in the type of a shape. -/
def shown (t : Target) : Shape → List Shape
  | .array _ s => [s]
  | .object _ fields additional =>
    if fields.isEmpty then additional.toList
    else if t.inlineObjects then fields.map (·.type) else []
  | .composition _ .allOf ms => if t.hasIntersections then ms else ms.head?.toList
  | .composition _ _ ms => if t.hasUnions then ms else []
  | _ => []

/-- What is shown is a part of the shape. -/
theorem mem_children_of_mem_shown {c s : Shape} (h : c ∈ t.shown s) : c ∈ s.children := by
  cases s with
  | unknown u | null u | negation u s | scalar u k | ref u name | enum u l => cases h
  | array u s => exact h
  | object u fields additional =>
    rw [Shape.children]
    simp only [shown] at h
    split at h
    · exact List.mem_append_right _ h
    · split at h
      · exact List.mem_append_left _ h
      · cases h
  | composition u how ms =>
    rw [Shape.children]
    cases how with
    | allOf =>
      simp only [shown] at h
      split at h
      · exact h
      · exact List.mem_of_mem_head? (Option.mem_toList.mp h)
    | oneOf | anyOf =>
      simp only [shown] at h
      split at h
      · exact h
      · cases h

/-- The type of the first shape stands in the type of the second one, as the type of it or of a
shape below that is shown. -/
inductive Shows (t : Target) : Shape → Shape → Prop
  | refl (s : Shape) : Shows t s s
  | child {n c s : Shape} (below : c ∈ t.shown s) (h : Shows t n c) : Shows t n s

/-- Directly below the type that is formed for a shape stand the types of the shapes that are
shown.  Where nothing is shown it may be the unknown type. -/
theorem children_projectBase (s : Shape) :
    (t.projectBase known s).children = (t.shown s).map (t.project known) ∨
      (t.projectBase known s).children = [.unknown] ∧ t.shown s = [] := by
  cases s with
  | unknown u | null u | array u s => exact Or.inl rfl
  | negation u s => exact Or.inr ⟨rfl, rfl⟩
  | scalar u k => exact Or.inl (TypeExpr.of_isAtom (isAtom_projectBase_scalar u k)).1
  | ref u name => exact Or.inl (TypeExpr.of_isAtom (isAtom_projectBase_ref u name)).1
  | enum u l => exact Or.inl (TypeExpr.of_isAtom (isAtom_projectBase_enum u l)).1
  | object u fields additional =>
    cases fields with
    | nil => cases additional <;> simp [projectBase, shown, TypeExpr.children]
    | cons f fields => cases hobjects : t.inlineObjects <;>
        simp [projectBase, shown, TypeExpr.children, hobjects]
  | composition u how ms =>
    cases how with
    | allOf =>
      cases hhas : t.hasIntersections with
      | true => simp [projectBase, projectComposition, shown, TypeExpr.children, hhas]
      | false => cases ms <;>
          simp [projectBase, projectComposition, shown, TypeExpr.children, hhas]
    | oneOf | anyOf =>
      cases hhas : t.hasUnions <;>
        simp [projectBase, projectComposition, shown, TypeExpr.children, hhas]

/-! ## What admits null -/

/-- The type of the shape admits null as it is spelled: the shape is null or nullable, or its type is
that of the first of several shapes, which does. -/
inductive AdmitsNull (t : Target) : Shape → Prop
  | null (u : Traits) : AdmitsNull t (.null u)
  | nullable {s : Shape} (h : s.nullable = true) : AdmitsNull t s
  | first {u : Traits} {m : Shape} {ms : List Shape} (hnone : t.hasIntersections = false)
      (h : AdmitsNull t m) : AdmitsNull t (.composition u .allOf (m :: ms))

/-- The shape admits null, and its type is that of a shape that does. -/
def DoublesNull (t : Target) (s : Shape) : Prop :=
  ∃ u m ms, s = .composition u .allOf (m :: ms) ∧ u.nullable = true ∧
    t.hasIntersections = false ∧ t.AdmitsNull m

/-- Null is the only shape for which a type is formed that admits null by its form. -/
theorem isOptional_projectBase_iff {s : Shape} :
    (t.projectBase known s).isOptional = true ↔ ∃ u, s = .null u := by
  cases s with
  | null u => exact ⟨fun _ => ⟨u, rfl⟩, fun _ => rfl⟩
  | unknown u | array u s | negation u s => simp [projectBase, TypeExpr.isOptional]
  | scalar u k => simp [(TypeExpr.of_isAtom (isAtom_projectBase_scalar u k)).2.1]
  | ref u name => simp [(TypeExpr.of_isAtom (isAtom_projectBase_ref u name)).2.1]
  | enum u l => simp [(TypeExpr.of_isAtom (isAtom_projectBase_enum u l)).2.1]
  | object u fields additional =>
    simp only [projectBase]
    split
    · simp [TypeExpr.isOptional]
    · split
      · split <;> simp [TypeExpr.isOptional]
      · simp [TypeExpr.isOptional]
  | composition u how ms =>
    simp only [projectBase, projectComposition]
    split
    · split <;> simp [TypeExpr.isOptional]
    · split <;> simp [TypeExpr.isOptional]

/-- Without marks there is one more: all of some shapes, the first of which admits null, where the
target has no intersections. -/
theorem isOptional_unmarked_projectBase_iff {s : Shape} :
    (t.projectBase known s).unmarked.isOptional = true ↔
      (∃ u, s = .null u) ∨ t.hasIntersections = false ∧
        ∃ u m ms, s = .composition u .allOf (m :: ms) ∧
          (t.project known m).unmarked.isOptional = true := by
  constructor
  · intro h
    by_cases hmarked : ∃ a lost, t.projectBase known s = .approximated a lost
    · obtain ⟨a, lost, hbase⟩ := hmarked
      rw [hbase, TypeExpr.unmarked] at h
      rcases eq_of_projectBase_approximated hbase with rfl | ⟨hnone, u, m, ms, hs, rfl⟩
      · cases h
      · exact Or.inr ⟨hnone, u, m, ms, hs, h⟩
    · have hplain : ∀ a lost, t.projectBase known s ≠ .approximated a lost :=
        fun a lost heq => hmarked ⟨a, lost, heq⟩
      rw [(TypeExpr.form_unmarked hplain).2] at h
      exact Or.inl (isOptional_projectBase_iff.mp h)
  · rintro (⟨u, rfl⟩ | ⟨hnone, u, m, ms, rfl, h⟩)
    · rfl
    · simpa [projectBase, projectComposition, hnone, TypeExpr.unmarked] using h

/-- Admitting null leaves a mark where it is. -/
theorem unmarked_project (s : Shape) :
    (t.project known s).unmarked =
      if s.nullable = true ∧ (t.projectBase known s).isOptional = false
      then .optional (t.projectBase known s).unmarked
      else (t.projectBase known s).unmarked := by
  rw [project_eq, orNullIf, TypeExpr.orNull, Shape.nullable]
  cases s.traits.nullable with
  | false => simp
  | true =>
    cases (t.projectBase known s).isOptional with
    | false => simp [TypeExpr.unmarked]
    | true => simp

/-- The type of a shape admits null, marks apart, exactly if the shape is one that does. -/
theorem isOptional_unmarked_project_iff (s : Shape) :
    (t.project known s).unmarked.isOptional = true ↔ t.AdmitsNull s := by
  induction s using Shape.rec_children with
  | step s ih =>
    constructor
    · intro h
      by_cases hnullable : s.nullable = true
      · exact .nullable hnullable
      · rw [unmarked_project, if_neg fun hboth => hnullable hboth.1,
          isOptional_unmarked_projectBase_iff] at h
        rcases h with ⟨u, rfl⟩ | ⟨hnone, u, m, ms, rfl, h⟩
        · exact .null u
        · exact .first hnone ((ih m List.mem_cons_self).mp h)
    · intro h
      rw [unmarked_project]
      split
      · rfl
      · case isFalse hkept =>
        cases h with
        | null u => rfl
        | nullable hnullable =>
          -- what is nullable and gets no null is null itself
          have hoptional : (t.projectBase known s).isOptional = true := by
            by_contra hnot
            exact hkept ⟨hnullable, Bool.eq_false_iff.mpr hnot⟩
          exact isOptional_unmarked_projectBase_iff.mpr
            (Or.inl (isOptional_projectBase_iff.mp hoptional))
        | @first u m ms hnone hm =>
          exact isOptional_unmarked_projectBase_iff.mpr
            (Or.inr ⟨hnone, u, m, ms, rfl, (ih m List.mem_cons_self).mpr hm⟩)

/-! ## Where null is repeated -/

/-- In the type that is formed for a shape, null is repeated in the parts only. -/
theorem repeatsNull_projectBase_iff (s : Shape) :
    (t.projectBase known s).unmarked.RepeatsNull ↔
      ∃ c ∈ t.shown s, (t.project known c).unmarked.RepeatsNull := by
  have hnever : ¬ ∃ inner, t.projectBase known s = .optional inner ∧
      inner.unmarked.isOptional = true := by
    rintro ⟨inner, heq, -⟩
    have hoptional : (t.projectBase known s).isOptional = true := by
      rw [heq]
      rfl
    obtain ⟨u, rfl⟩ := isOptional_projectBase_iff.mp hoptional
    cases heq
  have hunknown : ¬ TypeExpr.unknown.unmarked.RepeatsNull := by
    rw [TypeExpr.repeatsNull_unmarked_iff]
    simp [TypeExpr.children]
  rw [TypeExpr.repeatsNull_unmarked_iff]
  rcases @children_projectBase t known s with hchildren | ⟨hchildren, hshown⟩
  · simp [hchildren, hnever]
  · simp [hchildren, hshown, hnever, hunknown]

/-- Null is admitted twice at the top where the shape is nullable and the type that is formed for it
admits null under a mark only. -/
theorem doublesNull_iff (s : Shape) :
    t.DoublesNull s ↔ s.nullable = true ∧ (t.projectBase known s).isOptional = false ∧
      (t.projectBase known s).unmarked.isOptional = true := by
  rw [isOptional_unmarked_projectBase_iff, ← Bool.not_eq_true, isOptional_projectBase_iff]
  constructor
  · rintro ⟨u, m, ms, rfl, hnullable, hnone, hm⟩
    refine ⟨hnullable, ?_, Or.inr
      ⟨hnone, u, m, ms, rfl, (isOptional_unmarked_project_iff m).mpr hm⟩⟩
    rintro ⟨_, heq⟩
    cases heq
  · rintro ⟨hnullable, hnot, hnull | ⟨hnone, u, m, ms, rfl, hm⟩⟩
    · exact absurd hnull hnot
    · exact ⟨u, m, ms, rfl, hnullable, hnone, (isOptional_unmarked_project_iff m).mp hm⟩

/-- Null is repeated in the type of a shape by the shape itself or by one that is shown directly
below it. -/
theorem repeatsNull_project_iff (s : Shape) :
    (t.project known s).unmarked.RepeatsNull ↔
      t.DoublesNull s ∨ ∃ c ∈ t.shown s, (t.project known c).unmarked.RepeatsNull := by
  rw [unmarked_project, @doublesNull_iff t known s, ← repeatsNull_projectBase_iff]
  split
  · case isTrue hboth =>
    rw [TypeExpr.repeatsNull_iff, TypeExpr.children]
    simp [hboth.1, hboth.2]
  · case isFalse hkept =>
    constructor
    · exact Or.inr
    · rintro (⟨hnullable, hplain, -⟩ | h)
      · exact absurd ⟨hnullable, hplain⟩ hkept
      · exact h

/-- **Null is admitted once.**  The type of a shape is spelled by a known target as it is without
marks, exactly if the values of its literals can be written.  Without marks null is repeated in it
exactly if a shape that is shown is nullable and all of several shapes, the first of which admits
null, and the target has no intersections; so a target that has them never repeats null. -/
theorem null_admitted_once (ht : t ∈ all) (known : Option (List String)) (s : Shape) :
    t.render (t.project known s).unmarked = t.typeText known s ∧
      ((∃ text, t.typeText known s = .ok text) ↔ (t.project known s).Writable) ∧
      ((t.project known s).unmarked.RepeatsNull ↔ ∃ n, t.Shows n s ∧ t.DoublesNull n) ∧
      (t.hasIntersections = true → ¬ (t.project known s).unmarked.RepeatsNull) := by
  have hiff : (t.project known s).unmarked.RepeatsNull ↔
      ∃ n, t.Shows n s ∧ t.DoublesNull n := by
    constructor
    · intro h
      induction s using Shape.rec_children with
      | step s ih =>
        rcases (repeatsNull_project_iff s).mp h with hdoubles | ⟨c, hc, hrepeats⟩
        · exact ⟨s, .refl s, hdoubles⟩
        · obtain ⟨n, hshows, hdoubles⟩ := ih c (mem_children_of_mem_shown hc) hrepeats
          exact ⟨n, .child hc hshows, hdoubles⟩
    · rintro ⟨n, hshows, hdoubles⟩
      induction hshows with
      | refl => exact (repeatsNull_project_iff _).mpr (Or.inl hdoubles)
      | child hc _ ih => exact (repeatsNull_project_iff _).mpr (Or.inr ⟨_, hc, ih⟩)
  refine ⟨render_unmarked_project ht s, exists_render_iff (.refl _), hiff, fun hhas h => ?_⟩
  obtain ⟨_, _, _, _, _, -, -, hnone, -⟩ := hiff.mp h
  rw [hhas] at hnone
  cases hnone

namespace Owners

/-- All of a person who may be missing, which may be missing itself. -/
def owner : Shape :=
  .composition ⟨true, none, none⟩ .allOf [.ref ⟨true, none, none⟩ "Person"]

/-- Null is admitted twice where there are no intersections, and it is spelled twice. -/
theorem owner_repeats_null :
    ¬ (∀ t ∈ all, ∀ known s, ¬ (t.project known s).unmarked.RepeatsNull) ∧
      (python.project none owner).unmarked = .optional (.optional (.named "Person")) ∧
      python.typeText none owner = .ok "Optional[Optional[Person]]" ∧
      go.typeText none owner = .ok "**Person" := by
  have hunmarked : (python.project none owner).unmarked =
      .optional (.optional (.named "Person")) := rfl
  refine ⟨fun h => ?_, hunmarked, by cbv, by cbv⟩
  refine h python (by simp [all]) none owner ?_
  rw [hunmarked]
  exact ⟨.optional (.named "Person"), .refl _, rfl⟩

/-- This shape is spelled as it is without marks, and a target with intersections does not repeat
null in it. -/
theorem owner_null_twice :
    python ∈ all ∧ typescript ∈ all ∧
      python.render (python.project none owner).unmarked = python.typeText none owner ∧
      (python.project none owner).Writable ∧
      python.DoublesNull owner ∧ (python.project none owner).unmarked.RepeatsNull ∧
      ¬ (typescript.project none owner).unmarked.RepeatsNull := by
  have hpython : python ∈ all := by simp [all]
  have htypescript : typescript ∈ all := by simp [all]
  have hdoubles : python.DoublesNull owner :=
    ⟨_, _, _, rfl, rfl, rfl, .nullable rfl⟩
  have htext : python.typeText none owner = .ok "Optional[Optional[Person]]" := by cbv
  obtain ⟨hspelled, hwritable, hiff, -⟩ := null_admitted_once hpython none owner
  exact ⟨hpython, htypescript, hspelled, hwritable.mp ⟨_, htext⟩, hdoubles,
    hiff.mpr ⟨owner, .refl _, hdoubles⟩, (null_admitted_once htypescript none owner).2.2.2 rfl⟩

end Owners

end Target
end ApiCompiler
