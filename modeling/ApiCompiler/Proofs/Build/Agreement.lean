import ApiCompiler.Proofs.Build.Returning
import ApiCompiler.Proofs.Shape.Rearrangement

/-!
# Two runs of a build

A document and a rearranged copy of it are built by two runs that do the same, step by step, on data
that differs in the order of keys inside raw values only.  `Build.Agree R m m'` says that two steps,
started in states that differ in this way, leave states that differ in this way and return results
related by `R`, or fail with the same error.

As for single runs there is one lemma for each way of putting steps together.  The one with an
argument is `registerShape_agree`: the search for a name compares shapes, and shapes that differ only
in the order of keys are like the same shapes, so both runs stop at the same candidate.
-/

namespace ApiCompiler

/-! ## States -/

/-- Two models of one name that differ only in the order of keys inside raw values. -/
structure Model.Rearranged (m n : Model) : Prop where
  name : m.name = n.name
  shape : m.shape.Rearranged n.shape
  annotations : m.annotations.Rearranged n.annotations

/-- Two registries whose models correspond. -/
structure Registry.Rearranged (r r' : Registry) : Prop where
  strict : r.strict = r'.strict
  models : List.Forall₂ Model.Rearranged r.models r'.models
  taken : r.taken = r'.taken

/-- Two states whose registries correspond and in which the same was reported. -/
structure BuildState.Rearranged (s s' : BuildState) : Prop where
  registry : s.registry.Rearranged s'.registry
  notices : s.notices = s'.notices

/-- Two errors are the same, or both are about keys that cannot be ordered. -/
inductive CompileError.SameKind : CompileError → CompileError → Prop
  | refl (e : CompileError) : SameKind e e
  | breakdown {a b : Breakdown} (h : a.SameKind b) : SameKind (.breakdown a) (.breakdown b)

namespace Registry.Rearranged

variable {r r' : Registry}

theorem addModel (h : r.Rearranged r') {m n : Model} (hmn : m.Rearranged n) :
    (r.addModel m).Rearranged (r'.addModel n) := by
  refine ⟨h.strict, List.rel_append h.models (.cons hmn .nil), ?_⟩
  show (if _ then _ else _) = if _ then _ else _
  rw [h.taken, hmn.name]

theorem model? (h : r.Rearranged r') (name : String) :
    Option.Rel Model.Rearranged (r.model? name) (r'.model? name) :=
  find?_rel h.models fun _ _ hmn => by rw [hmn.name]

end Registry.Rearranged

namespace Build

variable {α β γ δ : Type} {R : α → β → Prop} {S : γ → δ → Prop}

/-! ## Steps that agree -/

/-- Wherever the two steps start, they end alike. -/
def Agree (R : α → β → Prop) (m : Build α) (m' : Build β) : Prop :=
  ∀ s s', s.Rearranged s' →
    EndsAlike CompileError.SameKind R (m.outcome s).1 (m'.outcome s').1 ∧
      (m.outcome s).2.Rearranged (m'.outcome s').2

theorem pure_agree {a : α} {b : β} (h : R a b) : Agree R (pure a) (pure b) :=
  fun _ _ hs => ⟨.ok h, hs⟩

theorem Agree.bind {m : Build α} {m' : Build β} {f : α → Build γ} {f' : β → Build δ}
    (h : Agree R m m') (hf : ∀ a b, R a b → Agree S (f a) (f' b)) :
    Agree S (m >>= f) (m' >>= f') := by
  intro s s' hs
  obtain ⟨hends, hstate⟩ := h s s' hs
  rw [outcome_bind, outcome_bind]
  rcases hm : m.outcome s with ⟨e | a, t⟩
  · rcases hm' : m'.outcome s' with ⟨e' | b, t'⟩
    · rw [hm, hm'] at hends hstate
      cases hends with
      | error he => exact ⟨.error he, hstate⟩
    · rw [hm, hm'] at hends
      cases hends
  · rcases hm' : m'.outcome s' with ⟨e' | b, t'⟩
    · rw [hm, hm'] at hends
      cases hends
    · rw [hm, hm'] at hends hstate
      cases hends with
      | ok hab => exact hf a b hab t t' hstate

theorem throw_agree (e : CompileError) : Agree R (throw e : Build α) (throw e : Build β) :=
  fun _ _ hs => ⟨.error (.refl e), hs⟩

theorem lift_agree {r : Except CompileError α} {r' : Except CompileError β}
    (h : EndsAlike CompileError.SameKind R r r') : Agree R (lift r) (lift r') := by
  cases h with
  | ok hab => exact pure_agree hab
  | error he => exact fun _ _ hs => ⟨.error he, hs⟩

theorem report_agree (n : Notice) : Agree (fun _ _ => True) (report n) (report n) :=
  fun _ _ hs => ⟨.ok trivial, hs.registry, congrArg (· ++ [n]) hs.notices⟩

theorem registry_agree : Agree Registry.Rearranged registry registry :=
  fun _ _ hs => ⟨.ok hs.registry, hs⟩

theorem setRegistry_agree {r r' : Registry} (h : r.Rearranged r') :
    Agree (fun _ _ => True) (setRegistry r) (setRegistry r') :=
  fun _ _ hs => ⟨.ok trivial, h, hs.notices⟩

theorem forEach_agree {step : α → Build γ} {step' : β → Build δ} {as : List α} {bs : List β}
    (h : List.Forall₂ R as bs) (hstep : ∀ a ∈ as, ∀ b, R a b → Agree S (step a) (step' b)) :
    Agree (List.Forall₂ S) (forEach step as) (forEach step' bs) := by
  induction h with
  | nil => exact pure_agree .nil
  | cons hab _ ih =>
    rw [List.forall_mem_cons] at hstep
    rw [forEach, forEach]
    refine (hstep.1 _ hab).bind fun c d hcd => (ih hstep.2).bind fun cs ds hcds => ?_
    exact pure_agree (.cons hcd hcds)

/-! ## Naming shapes -/

variable {name : String} {build build' : String → Build Shape} {notes notes' : Annotations}

theorem store_agree (candidate : String) {shape shape' : Shape} (hshape : shape.Rearranged shape')
    (hnotes : notes.Rearranged notes') :
    Agree Eq (store name candidate shape notes) (store name candidate shape' notes') := by
  have hmodel : Model.Rearranged ⟨candidate, shape, notes⟩ ⟨candidate, shape', notes'⟩ :=
    ⟨rfl, hshape, hnotes⟩
  have htail : Agree Eq
      (registry >>= fun r => setRegistry (r.addModel ⟨candidate, shape, notes⟩) >>= fun _ =>
        pure candidate)
      (registry >>= fun r => setRegistry (r.addModel ⟨candidate, shape', notes'⟩) >>= fun _ =>
        pure candidate) :=
    registry_agree.bind fun _ _ hr =>
      (setRegistry_agree (hr.addModel hmodel)).bind fun _ _ _ => pure_agree rfl
  unfold store
  split
  · exact (report_agree _).bind fun _ _ _ => htail
  · exact htail

theorem registerFrom_agree (hbuild : ∀ c, Agree Shape.Rearranged (build c) (build' c))
    (hnotes : notes.Rearranged notes') (bound counter : Nat) :
    Agree Eq (registerFrom name build notes bound counter)
      (registerFrom name build' notes' bound counter) := by
  induction bound generalizing counter with
  | zero =>
    rw [registerFrom, registerFrom]
    exact (hbuild _).bind fun shape shape' hshape => store_agree _ hshape hnotes
  | succ bound ih =>
    rw [registerFrom, registerFrom]
    refine registry_agree.bind fun before before' hbefore => ?_
    refine (hbuild _).bind fun shape shape' hshape => ?_
    refine registry_agree.bind fun now now' hnow => ?_
    refine optionRel_elim (hnow.model? (candidate name counter)) (store_agree _ hshape hnotes)
      fun existing existing' hexisting => ?_
    dsimp only
    rw [hexisting.shape.like_eq hshape]
    split
    · exact pure_agree rfl
    · refine (setRegistry_agree hbefore).bind fun _ _ _ => ?_
      rw [hbefore.strict]
      split
      · exact throw_agree _
      · exact ih _

/-- Both runs find the same name for a shape. -/
theorem registerShape_agree (hbuild : ∀ c, Agree Shape.Rearranged (build c) (build' c))
    (hnotes : notes.Rearranged notes') :
    Agree Eq (registerShape name build notes) (registerShape name build' notes') := by
  refine registry_agree.bind fun r r' hr => ?_
  rw [hr.models.length_eq]
  exact registerFrom_agree hbuild hnotes _ _

end Build
end ApiCompiler
