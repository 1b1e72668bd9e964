import ApiCompiler.Proofs.Build.Agreement
import ApiCompiler.Proofs.Schema.Rearrangement

/-!
# Compiling schemas with maps in another order

Two rearranged schemas are compiled alike, wherever they stand: the two runs register the same
names in the same order, report the same, and end with shapes that are equal but for the order of
keys inside values (`Rearranged.agrees`).

The induction is over what occurs inside a schema.  Everything that is done with a schema before and
after its parts are compiled hangs on what two rearranged schemas have in common, so each case joins
the lemma about that with the induction hypothesis for the parts.
-/

namespace ApiCompiler
namespace Schema

variable {s s' : Schema} {k l : Keywords} {c e : Children Schema} {owner property : String}
  {isItem : Bool} {notes notes' : Annotations}

/-- Wherever the two schemas stand, they are compiled alike. -/
def Agrees (s s' : Schema) : Prop :=
  ∀ owner property isItem, Build.Agree Shape.Rearranged (compile s owner property isItem)
    (compile s' owner property isItem)

theorem anything_rearranged : Shape.anything.Rearranged Shape.anything :=
  .unknown (traits_distinct rfl)

theorem compileOptional_agree {a b : Option Schema} (h : Option.Rel Schema.Rearranged a b)
    (hparts : ∀ s ∈ a, ∀ s', s.Rearranged s' → s.Agrees s') :
    Build.Agree Shape.Rearranged (compileOptional a owner property isItem)
      (compileOptional b owner property isItem) := by
  cases h with
  | none => exact Build.pure_agree anything_rearranged
  | some hs => exact hparts _ rfl _ hs owner property isItem

/-! ## The cases without parts -/

theorem compileReference_agree (r : Reference) :
    Build.Agree Shape.Rearranged (compileReference r) (compileReference r) := by
  unfold compileReference
  split
  · exact (Build.report_agree _).bind fun _ _ _ => Build.pure_agree anything_rearranged
  · exact Build.pure_agree (.ref (traits_distinct rfl) _)

theorem compileEnum_agree (hk : k.Rearranged l) (hnotes : notes.Rearranged notes') :
    Build.Agree Shape.Rearranged (compileEnum k notes owner property isItem)
      (compileEnum l notes' owner property isItem) := by
  have hlift : Build.Agree Shape.Rearranged
      (Build.lift ((enumeration k).mapError CompileError.breakdown))
      (Build.lift ((enumeration l).mapError CompileError.breakdown)) :=
    Build.lift_agree (hk.enumeration.mapError fun _ _ he => .breakdown he)
  unfold compileEnum
  refine hlift.bind fun shape shape' hshape => ?_
  split
  · refine (Build.registerShape_agree (fun _ => Build.pure_agree hshape) hnotes).bind
      fun n n' hn => ?_
    subst hn
    rw [Shape.nullable, Shape.nullable, hshape.traits_eq]
    exact Build.pure_agree (.ref (traits_distinct rfl) n)
  · exact Build.pure_agree hshape

theorem compileUntyped_agree (hk : k.Rearranged l) :
    Build.Agree Shape.Rearranged (compileUntyped k owner property isItem)
      (compileUntyped l owner property isItem) := by
  have hunknown : (Shape.unknown k.traits).Rearranged (.unknown l.traits) := by
    rw [← hk.traits_eq]
    exact .unknown (hk.distinct rfl)
  unfold compileUntyped
  rw [hk.types_eq, hk.unrecognized_eq, hk.format, ← hk.discriminator_eq]
  split
  · split
    · exact (Build.report_agree _).bind fun _ _ _ => Build.pure_agree hunknown
    · exact Build.pure_agree hunknown
  · exact Build.pure_agree (.null (hk.distinct rfl))

/-! ## Objects -/

section Objects

variable (hparts : ∀ part ∈ (Schema.inline k c).parts, ∀ p : Schema, p.Occurs part →
  ∀ p', p.Rearranged p' → p.Agrees p')

include hparts

theorem compileMembers_agree (h : (Schema.inline k c).Rearranged (.inline l e)) (hk : k.Rearranged l) :
    Build.Agree Shape.Rearranged (compileMembers k c owner) (compileMembers l e owner) := by
  have hfield : ∀ f ∈ k.declaredFields c, ∀ g, Field.Rel Schema.Rearranged f g →
      Build.Agree (Field.Rel Shape.Rearranged) (compileField owner f) (compileField owner g) := by
    intro f hf g hfg
    obtain ⟨part, hpart, hocc⟩ := occurs_of_mem_declaredFields hf
    cases hfg with
    | mk name type required annotations =>
      refine (hparts part hpart _ hocc _ type owner name false).bind fun a b hab => ?_
      exact Build.pure_agree (.mk name hab required annotations)
  have hremaining : Build.Agree (Option.Rel Shape.Rearranged)
      (compileRemaining owner c.remaining) (compileRemaining owner e.remaining) := by
    have hrel := h.remaining
    have hpart : ∀ s, c.remaining = some (some s) → s ∈ (Schema.inline k c).parts :=
      fun s hs => mem_parts_of_remaining hs
    generalize c.remaining = a at hrel hpart ⊢
    generalize e.remaining = b at hrel ⊢
    cases hrel with
    | none => exact Build.pure_agree .none
    | some hst =>
      refine (compileOptional_agree hst fun s hs s' hss' => ?_).bind fun x y hxy =>
        Build.pure_agree (.some hxy)
      exact hparts s (hpart s (by rw [Option.mem_def.mp hs])) s (.refl s) s' hss'
  refine (Build.forEach_agree h.declaredFields hfield).bind fun fs gs hfs => ?_
  refine hremaining.bind fun a b hab => Build.pure_agree ?_
  rw [← hk.traits_eq]
  exact .object (hk.distinct rfl) (Sorting.forall₂_mergeSort (fun _ _ hfg => hfg.name_eq) hfs) hab

theorem compileObject_agree (h : (Schema.inline k c).Rearranged (.inline l e)) (hk : k.Rearranged l)
    (hnotes : notes.Rearranged notes') :
    Build.Agree Shape.Rearranged
      (compileObject k notes (pendingFields (c.properties.getD [])) (further c.additional).rest
        owner property isItem)
      (compileObject l notes' (pendingFields (e.properties.getD [])) (further e.additional).rest
        owner property isItem) := by
  have hbuild : ∀ owner, Build.Agree Shape.Rearranged
      (objectFrom k (pendingFields (c.properties.getD [])) (further c.additional).rest owner)
      (objectFrom l (pendingFields (e.properties.getD [])) (further e.additional).rest owner) := by
    intro owner
    rw [objectFrom_eq, objectFrom_eq]
    exact compileMembers_agree hparts h hk
  unfold compileObject
  split
  · refine (Build.registerShape_agree hbuild hnotes).bind fun n n' hn => ?_
    subst hn
    rw [hk.declaresNull_eq]
    exact Build.pure_agree (.ref (traits_distinct rfl) n)
  · exact hbuild _

end Objects

/-! ## The recursion -/

/-- **Rearranged schemas are compiled alike.** -/
theorem Rearranged.agrees (h : s.Rearranged s') : s.Agrees s' := by
  induction s using rec_occurs generalizing s' with
  | step s hparts =>
  intro owner property isItem
  cases h with
  | reference r =>
    rw [compile_reference]
    exact compileReference_agree r
  | @inline k l c e hk oneOf anyOf allOf negated items distinct properties additional =>
    have h : (Schema.inline k c).Rearranged (.inline l e) :=
      .inline hk oneOf anyOf allOf negated items distinct properties additional
    have hform := h.form
    rw [compile_inline, compile_inline, ← hk.traits_eq, ← hk.compositionTraits_eq]
    generalize hf : k.form c = f at hform ⊢
    generalize l.form e = g at hform ⊢
    cases hform with
    | composition how members =>
      refine (Build.forEach_agree members fun m hm m' hmm' => ?_).bind fun as bs has =>
        Build.pure_agree (.composition (hk.distinct rfl) how has)
      exact hparts m (mem_parts_of_composition hf hm) m (.refl m) hmm' owner property isItem
    | negation inner =>
      refine Build.Agree.bind ?_ fun a b hab => Build.pure_agree (.negation (hk.distinct rfl) hab)
      exact hparts _ (mem_parts_of_negation hf) _ (.refl _) inner owner property isItem
    | literals => exact compileEnum_agree hk h.annotations
    | object =>
      exact compileObject_agree (fun part hpart p hp p' hpp' => hparts part hpart p hp hpp') h hk
        h.annotations
    | array =>
      refine (compileOptional_agree items fun p hp p' hpp' => ?_).bind fun a b hab =>
        Build.pure_agree (.array (hk.distinct rfl) hab)
      exact hparts p (mem_parts_of_items hp) p (.refl p) hpp'
    | scalar kind => exact Build.pure_agree (.scalar (hk.distinct rfl) kind)
    | untyped => exact compileUntyped_agree hk

/-- Optional schemas that are rearranged are compiled alike. -/
theorem compileOptional_agree_of_rel {a b : Option Schema} (h : Option.Rel Schema.Rearranged a b) :
    Build.Agree Shape.Rearranged (compileOptional a owner property isItem)
      (compileOptional b owner property isItem) :=
  compileOptional_agree h fun _ _ _ hs => hs.agrees

end Schema
end ApiCompiler
