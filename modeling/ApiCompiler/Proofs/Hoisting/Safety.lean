import ApiCompiler.Proofs.Build.Safety
import ApiCompiler.Proofs.Hoisting.Equations

/-!
# How compiling a schema can end

Whatever a build tolerates, compiling a schema keeps, and there are two ways to fail: a refusal to
name a shape, and an enumeration with a value that cannot be written (`compile_endsIn`).  The
proof is an induction over schemas in which everything inside a schema comes first; each case
puts together what the parts do.
-/

namespace ApiCompiler
namespace Schema

/-- The error comes from an enumeration in the schema one of whose values cannot be written. -/
def Unwritable (s : Schema) (e : CompileError) : Prop :=
  ∃ k c reason, (Schema.inline k c).Occurs s ∧ k.form c = .literals ∧
    literalTexts k.values = .error reason ∧ e = .breakdown reason

theorem Unwritable.of_part {part s : Schema} {e : CompileError} (h : part.Unwritable e)
    (hpart : part.Occurs s) : s.Unwritable e := by
  obtain ⟨k, c, reason, hocc, hrest⟩ := h
  exact ⟨k, c, reason, hocc.trans hpart, hrest⟩

variable {I : BuildState → Prop} {refusal : CompileError → Prop} {k : Keywords}
  {c : Children Schema} {owner property : String} {isItem : Bool} {before : BuildState}

/-- Compiling the schema keeps an invariant, and fails only for a value that cannot be written or
with a refusal. -/
def Ends (I : BuildState → Prop) (refusal : CompileError → Prop) (s : Schema) : Prop :=
  ∀ owner property isItem before, I before →
    Build.EndsIn I (fun e => s.Unwritable e ∨ refusal e) (s.compile owner property isItem) before

/-- What a part of a schema can fail with, the schema can fail with. -/
theorem Ends.of_part {part s : Schema} (h : part.Ends I refusal) (hpart : part.Occurs s)
    (hbefore : I before) :
    Build.EndsIn I (fun e => s.Unwritable e ∨ refusal e) (part.compile owner property isItem)
      before :=
  (h owner property isItem before hbefore).imp fun _ he => he.imp_left fun hu => hu.of_part hpart

theorem compileOptional_endsIn {part : Option Schema} {s : Schema}
    (hpart : ∀ p ∈ part, p.Occurs s ∧ p.Ends I refusal) (hbefore : I before) :
    Build.EndsIn I (fun e => s.Unwritable e ∨ refusal e)
      (compileOptional part owner property isItem) before := by
  cases part with
  | none => exact Build.pure_endsIn hbefore
  | some p =>
    obtain ⟨hocc, hends⟩ := hpart p rfl
    exact hends.of_part hocc hbefore

theorem compileMembers_endsIn
    (hparts : ∀ part ∈ (Schema.inline k c).parts, ∀ p : Schema, p.Occurs part → p.Ends I refusal)
    (hbefore : I before) :
    Build.EndsIn I (fun e => (Schema.inline k c).Unwritable e ∨ refusal e)
      (compileMembers k c owner) before := by
  have hfield : ∀ f ∈ k.declaredFields c, ∀ s, I s →
      Build.EndsIn I (fun e => (Schema.inline k c).Unwritable e ∨ refusal e)
        (compileField owner f) s := by
    intro f hf s hs
    obtain ⟨part, hpart, hocc⟩ := occurs_of_mem_declaredFields hf
    have hends := hparts part hpart f.type hocc
    exact Build.bind_endsIn (hends.of_part (hocc.trans (.of_mem_parts hpart)) hs)
      fun a t _ ht => Build.pure_endsIn ht
  unfold compileMembers
  refine Build.bind_endsIn (Build.forEach_endsIn hfield hbefore) fun fields t _ ht => ?_
  refine Build.bind_endsIn ?_ fun extra u _ hu => Build.pure_endsIn hu
  cases hremaining : c.remaining with
  | none => exact Build.pure_endsIn ht
  | some s =>
    refine Build.bind_endsIn ?_ fun a u _ hu => Build.pure_endsIn hu
    refine compileOptional_endsIn (fun p hp => ?_) ht
    have hpart : p ∈ (Schema.inline k c).parts :=
      mem_parts_of_remaining (by rw [hremaining, Option.mem_def.mp hp])
    exact ⟨.of_mem_parts hpart, hparts p hpart p (.refl p)⟩

theorem compileObject_endsIn (hI : Build.Tolerates I refusal)
    (hparts : ∀ part ∈ (Schema.inline k c).parts, ∀ p : Schema, p.Occurs part → p.Ends I refusal)
    {notes : Annotations} (hbefore : I before) :
    Build.EndsIn I (fun e => (Schema.inline k c).Unwritable e ∨ refusal e)
      (compileObject k notes (pendingFields (c.properties.getD [])) (further c.additional).rest
        owner property isItem) before := by
  have hbuild : ∀ owner s, I s →
      Build.EndsIn I (fun e => (Schema.inline k c).Unwritable e ∨ refusal e)
        (objectFrom k (pendingFields (c.properties.getD [])) (further c.additional).rest owner)
        s := by
    intro owner s hs
    rw [objectFrom_eq]
    exact compileMembers_endsIn hparts hs
  unfold compileObject
  split
  · exact Build.bind_endsIn (hI.register (fun _ he => Or.inr he) hbuild hbefore)
      fun n t _ ht => Build.pure_endsIn ht
  · exact hbuild _ _ hbefore

theorem compileEnum_endsIn (hI : Build.Tolerates I refusal) {notes : Annotations}
    (hform : k.form c = .literals) (hbefore : I before) :
    Build.EndsIn I (fun e => (Schema.inline k c).Unwritable e ∨ refusal e)
      (compileEnum k notes owner property isItem) before := by
  have hlift : ∀ e, (enumeration k).mapError CompileError.breakdown = .error e →
      (Schema.inline k c).Unwritable e ∨ refusal e := by
    intro e he
    rw [enumeration_eq] at he
    cases htexts : literalTexts k.values with
    | ok texts =>
      rw [htexts] at he
      cases he
    | error reason =>
      rw [htexts] at he
      cases he
      exact Or.inl ⟨k, c, reason, .refl _, hform, htexts, rfl⟩
  unfold compileEnum
  refine Build.bind_endsIn (Build.lift_endsIn hbefore hlift) fun a t _ ht => ?_
  split
  · exact Build.bind_endsIn
      (hI.register (fun _ he => Or.inr he) (fun _ _ hs => Build.pure_endsIn hs) ht)
      fun n u _ hu => Build.pure_endsIn hu
  · exact Build.pure_endsIn ht

/-- How compiling a schema can end in a build that tolerates it. -/
theorem compile_endsIn (hI : Build.Tolerates I refusal) (s : Schema) : s.Ends I refusal := by
  induction s using rec_occurs with
  | step s hparts =>
  intro owner property isItem before hbefore
  cases s with
  | reference ref =>
    rw [compile_reference, compileReference]
    split
    · exact Build.bind_endsIn (hI.report_endsIn (by simp) hbefore)
        fun _ t _ ht => Build.pure_endsIn ht
    · exact Build.pure_endsIn hbefore
  | inline k c =>
    have hpart : ∀ part ∈ (Schema.inline k c).parts, part.Ends I refusal :=
      fun part hpart => hparts part hpart part (.refl part)
    rw [compile_inline]
    split
    · case h_1 how ms hform =>
      refine Build.bind_endsIn (Build.forEach_endsIn (fun m hm s hs => ?_) hbefore)
        fun as t _ ht => Build.pure_endsIn ht
      have hmem := mem_parts_of_composition hform hm
      exact (hpart m hmem).of_part (.of_mem_parts hmem) hs
    · case h_2 inner hform =>
      have hmem := mem_parts_of_negation hform
      exact Build.bind_endsIn ((hpart inner hmem).of_part (.of_mem_parts hmem) hbefore)
        fun a t _ ht => Build.pure_endsIn ht
    · case h_3 hform => exact compileEnum_endsIn hI hform hbefore
    · exact compileObject_endsIn hI hparts hbefore
    · refine Build.bind_endsIn (compileOptional_endsIn (fun p hp => ?_) hbefore)
        fun a t _ ht => Build.pure_endsIn ht
      have hitems : p ∈ (Schema.inline k c).parts := mem_parts_of_items hp
      exact ⟨.of_mem_parts hitems, hpart p hitems⟩
    · exact Build.pure_endsIn hbefore
    · rw [compileUntyped]
      split
      · split
        · exact Build.bind_endsIn (hI.report_endsIn (by simp) hbefore)
            fun _ t _ ht => Build.pure_endsIn ht
        · exact Build.pure_endsIn hbefore
      · exact Build.pure_endsIn hbefore

end Schema
end ApiCompiler
