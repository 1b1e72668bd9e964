import ApiCompiler.Compilation
import ApiCompiler.Proofs.Hoisting.Equations

/-!
# What builds are put together from

A build looks at the registry in very few ways.  It names shapes, it appends components, and at the
end it reads the models; everything else is reporting, failing and putting steps in a row.
`Build.Assembled` lists these ways, and `Document.build_assembled` says that the build of a document
is put together from them.

So whatever is to be said of all builds at once needs one case for each way, and no further look at
how schemas, parameters or responses are compiled.
-/

namespace ApiCompiler
namespace Build

/-- The step is put together from reports, failures, naming shapes, appending components and reading
the models. -/
inductive Assembled : {α : Type} → Build α → Prop
  | pure {α : Type} (a : α) : Assembled (Pure.pure a : Build α)
  | bind {α β : Type} {m : Build α} {f : α → Build β} (hm : Assembled m)
      (hf : ∀ a, Assembled (f a)) : Assembled (m >>= f)
  | throw {α : Type} (e : CompileError) : Assembled (MonadExcept.throw e : Build α)
  | report {n : Notice} (hn : ∀ name stored, n ≠ .renamedModel name stored) :
      Assembled (Build.report n)
  | registerShape (name : String) {build : String → Build Shape} (notes : Annotations)
      (hbuild : ∀ c, Assembled (build c)) : Assembled (Build.registerShape name build notes)
  | addComponent (m : Model) : Assembled (registry >>= fun r => setRegistry (r.addComponent m))
  | models : Assembled (registry >>= fun r => Pure.pure r.models)

variable {α β : Type}

theorem lift_assembled (r : Except CompileError α) : Assembled (lift r) := by
  cases r with
  | ok a => exact .pure a
  | error e => exact .throw e

theorem forEach_assembled {step : α → Build β} {as : List α}
    (hstep : ∀ a ∈ as, Assembled (step a)) : Assembled (forEach step as) := by
  induction as with
  | nil => exact .pure []
  | cons a as ih =>
    rw [List.forall_mem_cons] at hstep
    rw [forEach]
    exact (hstep.1).bind fun b => (ih hstep.2).bind fun bs => .pure (b :: bs)

end Build

open Build (Assembled)

/-! ## Schemas -/

namespace Schema

theorem compileReference_assembled (r : Reference) : Assembled (compileReference r) := by
  unfold compileReference
  split
  · exact (Assembled.report (by simp)).bind fun _ => .pure _
  · exact .pure _

theorem compileUntyped_assembled (k : Keywords) (owner property : String) (isItem : Bool) :
    Assembled (compileUntyped k owner property isItem) := by
  unfold compileUntyped
  split
  · split
    · exact (Assembled.report (by simp)).bind fun _ => .pure _
    · exact .pure _
  · exact .pure _

theorem compileEnum_assembled (k : Keywords) (notes : Annotations) (owner property : String)
    (isItem : Bool) : Assembled (compileEnum k notes owner property isItem) := by
  unfold compileEnum
  refine (Build.lift_assembled _).bind fun shape => ?_
  split
  · exact (Assembled.registerShape _ notes fun _ => .pure shape).bind fun _ => .pure _
  · exact .pure shape

/-- What is asked of an optional schema is asked of the schema, if there is one. -/
theorem compileOptional_assembled {s : Option Schema} {owner property : String} {isItem : Bool}
    (hs : ∀ p ∈ s, Assembled (p.compile owner property isItem)) :
    Assembled (compileOptional s owner property isItem) := by
  cases s with
  | none => exact .pure _
  | some p => exact hs p rfl

theorem compileMembers_assembled {k : Keywords} {c : Children Schema}
    (hparts : ∀ part ∈ (Schema.inline k c).parts, ∀ p : Schema, p.Occurs part →
      ∀ owner property isItem, Assembled (p.compile owner property isItem)) (owner : String) :
    Assembled (compileMembers k c owner) := by
  have hfield : ∀ f ∈ k.declaredFields c, Assembled (compileField owner f) := by
    intro f hf
    obtain ⟨part, hpart, hocc⟩ := occurs_of_mem_declaredFields hf
    exact (hparts part hpart f.type hocc _ _ _).bind fun _ => .pure _
  unfold compileMembers
  refine (Build.forEach_assembled hfield).bind fun fields => ?_
  refine Assembled.bind ?_ fun extra => .pure _
  cases hremaining : c.remaining with
  | none => exact .pure none
  | some s =>
    refine (compileOptional_assembled fun p hp => ?_).bind fun _ => .pure _
    have hpart : p ∈ (Schema.inline k c).parts :=
      mem_parts_of_remaining (by rw [hremaining, Option.mem_def.mp hp])
    exact hparts p hpart p (.refl p) _ _ _

/-- Compiling a schema is put together from the listed steps. -/
theorem compile_assembled (s : Schema) (owner property : String) (isItem : Bool) :
    Assembled (s.compile owner property isItem) := by
  induction s using rec_occurs generalizing owner property isItem with
  | step s hparts =>
  cases s with
  | reference ref =>
    rw [compile_reference]
    exact compileReference_assembled ref
  | inline k c =>
    have hpart : ∀ part ∈ (Schema.inline k c).parts, ∀ owner property isItem,
        Assembled (part.compile owner property isItem) :=
      fun part hpart => hparts part hpart part (.refl part)
    rw [compile_inline]
    split
    · case h_1 how ms hform =>
      refine (Build.forEach_assembled fun m hm => ?_).bind fun _ => .pure _
      exact hpart m (mem_parts_of_composition hform hm) _ _ _
    · case h_2 inner hform =>
      exact (hpart inner (mem_parts_of_negation hform) _ _ _).bind fun _ => .pure _
    · exact compileEnum_assembled _ _ _ _ _
    · have hmembers : ∀ owner, Assembled (objectFrom k (pendingFields (c.properties.getD []))
          (further c.additional).rest owner) := by
        intro owner
        rw [objectFrom_eq]
        exact compileMembers_assembled hparts owner
      unfold compileObject
      split
      · exact (Assembled.registerShape _ _ hmembers).bind fun _ => .pure _
      · exact hmembers _
    · refine (compileOptional_assembled fun p hp => ?_).bind fun _ => .pure _
      exact hpart p (mem_parts_of_items hp) _ _ _
    · exact .pure _
    · exact compileUntyped_assembled _ _ _ _

end Schema

/-! ## Operations and documents -/

namespace Document

theorem compileOptional_assembled (s : Option Schema) (owner : String) :
    Assembled (Schema.compileOptional s owner "" false) :=
  Schema.compileOptional_assembled fun p _ => p.compile_assembled _ _ _

theorem compileParameters_assembled (s : Section Parameter) (baseName : String)
    (nodes : List (OrReference Parameter)) :
    Assembled (compileParameters s baseName nodes) := by
  have hparameter : ∀ p : Parameter, Assembled (p.compile baseName) :=
    fun p => (compileOptional_assembled _ _).bind fun _ => .pure _
  unfold compileParameters
  refine (Build.forEach_assembled fun n _ => Build.lift_assembled _).bind fun resolved => ?_
  refine (Build.forEach_assembled fun p _ => ?_).bind fun compiled => .pure _
  exact (hparameter p).bind fun param => .pure _

theorem compileBody_assembled (s : Section RequestBody) (baseName : String)
    (node : Option (OrReference RequestBody)) : Assembled (compileBody s baseName node) := by
  unfold compileBody
  split
  · exact .pure _
  · refine (Build.lift_assembled _).bind fun body => ?_
    split
    · exact .pure _
    · dsimp only
      split
      · exact (Assembled.pure _).bind fun _ => .pure _
      · exact (compileOptional_assembled _ _).bind fun _ => .pure _

theorem compileResponse_assembled (s : Section Response) (baseName : String)
    (responses : List (String × OrReference Response)) :
    Assembled (compileResponse s baseName responses) := by
  have hresponse : ∀ code r, Assembled (compileResponseOf code baseName r) := by
    intro code r
    unfold compileResponseOf
    dsimp only
    split
    · exact .pure _
    · split
      · exact .pure _
      · exact (compileOptional_assembled _ _).bind fun _ => .pure _
  unfold compileResponse
  split
  · exact .pure _
  · split
    · exact .pure _
    · exact (Build.lift_assembled _).bind fun r => hresponse _ r

theorem compileOperations_assembled (d : Document) (allowed : Option (List String)) :
    Assembled (d.compileOperations allowed) := by
  refine Build.forEach_assembled fun o _ => ?_
  refine (compileParameters_assembled _ _ _).bind fun params => ?_
  refine (compileBody_assembled _ _ _).bind fun body => ?_
  exact (compileResponse_assembled _ _ _).bind fun response => .pure _

theorem compileSchemas_assembled (l : List (String × Schema)) : Assembled (compileSchemas l) := by
  induction l with
  | nil => exact .pure ()
  | cons e l ih =>
    obtain ⟨name, s⟩ := e
    have hrest : ∀ shape, Assembled (do
        let r ← Build.registry
        Build.setRegistry (r.addComponent ⟨name, shape, s.annotations⟩)
        compileSchemas l) := by
      intro shape
      have hadd := (Assembled.addComponent ⟨name, shape, s.annotations⟩).bind fun _ => ih
      rwa [bind_assoc] at hadd
    rw [compileSchemas]
    exact (s.compile_assembled _ _ _).bind hrest

/-- The build of a document is put together from the listed steps. -/
theorem build_assembled (d : Document) : Assembled d.build := by
  have hservices : Assembled (d.compileServices none) :=
    (d.compileOperations_assembled none).bind fun ops => .pure _
  have hend : ∀ services, Assembled (do
      let r ← Build.registry
      pure (⟨services, r.models, d.compileSecurity⟩ : Api)) := by
    intro services
    have hmodels := Assembled.models.bind fun models =>
      .pure (⟨services, models, d.compileSecurity⟩ : Api)
    simpa only [bind_assoc, pure_bind] using hmodels
  exact (compileSchemas_assembled _).bind fun _ => hservices.bind hend

end Document
end ApiCompiler
