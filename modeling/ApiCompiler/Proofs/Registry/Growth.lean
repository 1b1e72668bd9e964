import ApiCompiler.Proofs.Build.Returning

/-!
# How a registry grows

Naming a shape only ever appends a model, and only under a name that no model has yet.
`Registry.Grows ok r r'` says that `r'` is `r` after any number of such additions, each of a
model of which `ok` held in the registry it was added to.  What is true of one addition is then
true of all of them by one induction, and the file draws the consequences that every later proof
uses: earlier models stay where they are, and the first model of a name stays the first.

Names are handed down from owner to part.  `Registry.HangsFrom owner name` says that a name
starts with its owner's name and an underscore, which no name does with itself.
-/

namespace ApiCompiler
namespace Registry

/-! ## Looking up and adding -/

/-- A registry with one more model finds that model where it found nothing before. -/
theorem model?_addModel (r : Registry) (m : Model) (n : String) :
    (r.addModel m).model? n = (r.model? n).or (if m.name = n then some m else none) := by
  rw [model?, addModel, List.find?_append, List.find?_singleton]
  simp only [decide_eq_true_eq]
  rfl

theorem model?_addModel_self {r : Registry} {m : Model} (h : r.model? m.name = none) :
    (r.addModel m).model? m.name = some m := by
  rw [model?_addModel, h, if_pos rfl, Option.none_or]

theorem model?_addModel_of_some {r : Registry} {m m' : Model} {n : String}
    (h : r.model? n = some m') : (r.addModel m).model? n = some m' := by
  rw [model?_addModel, h, Option.some_or]

theorem name_of_model? {r : Registry} {m : Model} {n : String} (h : r.model? n = some m) :
    m.name = n := by
  simpa using List.find?_some h

theorem mem_of_model? {r : Registry} {m : Model} {n : String} (h : r.model? n = some m) :
    m ∈ r.models :=
  List.mem_of_find?_eq_some h

/-- A name finds nothing exactly when no model has it. -/
theorem model?_eq_none {r : Registry} {n : String} :
    r.model? n = none ↔ n ∉ r.models.map (·.name) := by
  simp [model?, List.find?_eq_none]

/-! ## Growing -/

/-- The second registry is the first one after some additions, each of a model whose name was
free and of which `ok` held at the time. -/
inductive Grows (ok : Registry → Model → Prop) : Registry → Registry → Prop
  | refl (r : Registry) : Grows ok r r
  | add {r r' : Registry} (m : Model) (h : Grows ok r r') (free : r'.model? m.name = none)
      (hm : ok r' m) : Grows ok r (r'.addModel m)

namespace Grows

variable {ok ok' : Registry → Model → Prop} {r r' r'' : Registry}

theorem trans (h : Grows ok r r') (h' : Grows ok r' r'') : Grows ok r r'' := by
  induction h' with
  | refl => exact h
  | add m _ free hm ih => exact .add m ih free hm

theorem imp (h : Grows ok r r') (hok : ∀ r m, ok r m → ok' r m) : Grows ok' r r' := by
  induction h with
  | refl => exact .refl _
  | add m _ free hm ih => exact .add m ih free (hok _ _ hm)

/-- Nothing that was registered is removed, changed or moved. -/
theorem models_prefix (h : Grows ok r r') : r.models <+: r'.models := by
  induction h with
  | refl => exact List.prefix_rfl
  | add m _ _ _ ih => exact ih.trans (List.prefix_append _ _)

/-- A strict registry stays strict, and a lenient one lenient. -/
theorem strict_eq (h : Grows ok r r') : r'.strict = r.strict := by
  induction h with
  | refl => rfl
  | add _ _ _ _ ih => exact ih

/-- What was added comes last, and where nothing was added nothing has changed. -/
theorem exists_models (h : Grows ok r r') :
    ∃ added, r'.models = r.models ++ added ∧ (∀ m ∈ added, ∃ q, ok q m) ∧
      (added = [] → r' = r) := by
  induction h with
  | refl => exact ⟨[], (List.append_nil _).symm, List.forall_mem_nil _, fun _ => rfl⟩
  | @add r' m _ _ hm ih =>
    obtain ⟨added, hadded, hok, -⟩ := ih
    refine ⟨added ++ [m], by rw [addModel, hadded, List.append_assoc], fun x hx => ?_,
      fun hnil => absurd hnil (by simp)⟩
    rcases List.mem_append.mp hx with hx | hx
    · exact hok x hx
    · obtain rfl := List.mem_singleton.mp hx
      exact ⟨r', hm⟩

/-- The first model of a name stays the first. -/
theorem model?_eq_some {n : String} {m : Model} (h : Grows ok r r')
    (hm : r.model? n = some m) : r'.model? n = some m := by
  induction h with
  | refl => exact hm
  | add _ _ _ _ ih => exact model?_addModel_of_some ih

/-- A name that no addition takes finds what it found before. -/
theorem model?_eq {n : String} (h : Grows ok r r') (hok : ∀ r m, ok r m → m.name ≠ n) :
    r'.model? n = r.model? n := by
  induction h with
  | refl => rfl
  | add m _ _ hm ih => rw [model?_addModel, if_neg (hok _ _ hm), ih, Option.or_none]

end Grows

/-! ## Names that hang from others -/

/-- The name starts with another one and an underscore. -/
def HangsFrom (owner name : String) : Prop := (owner ++ "_").toList <+: name.toList

namespace HangsFrom

variable {owner n n' : String}

theorem append (h : HangsFrom owner n) (suffix : String) : HangsFrom owner (n ++ suffix) := by
  refine List.IsPrefix.trans h ⟨suffix.toList, ?_⟩
  rw [String.toList_append]

theorem trans (h : HangsFrom owner n) (h' : HangsFrom n n') : HangsFrom owner n' := by
  have hstep : HangsFrom owner (n ++ "_") := h.append "_"
  exact List.IsPrefix.trans hstep h'

/-- What hangs from a name is longer, so it is another name. -/
theorem ne (h : HangsFrom owner n) : n ≠ owner := by
  rintro rfl
  have hlen := h.length_le
  rw [String.toList_append, List.length_append] at hlen
  have hone : "_".toList.length = 1 := rfl
  omega

end HangsFrom
end Registry

/-! ## Steps that only add -/

/-- If each of several steps only adds models, then so do all of them in a row, and what is true of
each result and outlasts further additions is true of all results at the end. -/
theorem Build.forEach_grows {α β : Type} {step : α → Build β} {ok : Registry → Model → Prop}
    {T : α → β → Registry → Prop} {as : List α} {bs : List β} {before after : BuildState}
    (hkeep : ∀ a b r r', T a b r → r.Grows ok r' → T a b r')
    (hstep : ∀ a ∈ as, ∀ u b v, (step a).Returns u b v →
      u.registry.Grows ok v.registry ∧ T a b v.registry)
    (h : (Build.forEach step as).Returns before bs after) :
    before.registry.Grows ok after.registry ∧
      List.Forall₂ (fun a b => T a b after.registry) as bs := by
  have hsequence := (Build.forEach_returns.mp h).imp hstep
  exact hsequence.forall₂ (fun _ => .refl _) (fun _ _ _ hst htu => hst.trans htu)
    (fun a b t u hT hle => hkeep a b _ _ hT hle)

/-- The same where what is true of a result does not depend on its item. -/
theorem Build.forEach_grows_all {α β : Type} {step : α → Build β}
    {ok : Registry → Model → Prop} {T : β → Registry → Prop} {as : List α} {bs : List β}
    {before after : BuildState} (hkeep : ∀ b r r', T b r → r.Grows ok r' → T b r')
    (hstep : ∀ a ∈ as, ∀ u b v, (step a).Returns u b v →
      u.registry.Grows ok v.registry ∧ T b v.registry)
    (h : (Build.forEach step as).Returns before bs after) :
    before.registry.Grows ok after.registry ∧ ∀ b ∈ bs, T b after.registry := by
  obtain ⟨hgrows, hall⟩ := Build.forEach_grows (T := fun _ b r => T b r)
    (fun _ b r r' => hkeep b r r') hstep h
  refine ⟨hgrows, ?_⟩
  clear hstep h
  induction hall with
  | nil => exact fun b hb => nomatch hb
  | cons hab _ ih => exact List.forall_mem_cons.mpr ⟨hab, ih⟩

end ApiCompiler
