import ApiCompiler.Proofs.Build.Returning

/-!
# How a build can end

`Build.EndsIn I ok m s` says how the step `m`, started in `s`, can end: it returns and leaves a
state of which `I` holds, or it fails with an error of which `ok` holds.  The lemmas follow the
ways in which steps are put together, so that what is true of the parts of a build is true of the
whole.

Only naming shapes treats the two kinds of builds differently, and `Build.Tolerates I refusal`
says all that the rest of a build has to know about it: reporting and naming keep `I`, and naming
a shape fails only if building the shape does, or with a `refusal`.

* A build that is not strict refuses nothing: it tries the next candidate
  (`lenient_tolerates`).
* A strict build refuses a name that is taken by another shape; so it never renames a model
  (`unrenamed_tolerates`).
-/

namespace ApiCompiler
namespace Build

variable {α β : Type} {I : BuildState → Prop} {ok ok' : CompileError → Prop} {s : BuildState}

/-- The step, started in `s`, returns with a state of which `I` holds, or fails with an error of
which `ok` holds. -/
def EndsIn (I : BuildState → Prop) (ok : CompileError → Prop) (m : Build α) (s : BuildState) :
    Prop :=
  match m.outcome s with
  | (.ok _, t) => I t
  | (.error e, _) => ok e

theorem EndsIn.imp {m : Build α} (h : EndsIn I ok m s) (hok : ∀ e, ok e → ok' e) :
    EndsIn I ok' m s := by
  unfold EndsIn at *
  rcases hm : m.outcome s with ⟨e | a, t⟩
  · rw [hm] at h
    exact hok e h
  · rw [hm] at h
    exact h

/-- Either the step returns, or it fails in one of the ways it may fail in. -/
theorem EndsIn.returns_or {m : Build α} (h : EndsIn I ok m s) :
    (∃ a t, m.Returns s a t ∧ I t) ∨ ∃ e t, m.outcome s = (.error e, t) ∧ ok e := by
  unfold EndsIn at h
  rcases hm : m.outcome s with ⟨e | a, t⟩
  · rw [hm] at h
    exact Or.inr ⟨e, t, rfl, h⟩
  · rw [hm] at h
    exact Or.inl ⟨a, t, hm, h⟩

theorem pure_endsIn {a : α} (hs : I s) : EndsIn I ok (pure a) s := hs

theorem bind_endsIn {m : Build α} {f : α → Build β} (hm : EndsIn I ok m s)
    (hf : ∀ a t, m.Returns s a t → I t → EndsIn I ok (f a) t) : EndsIn I ok (m >>= f) s := by
  unfold EndsIn at hm ⊢
  rw [outcome_bind]
  rcases hrun : m.outcome s with ⟨e | a, t⟩
  · rw [hrun] at hm
    exact hm
  · rw [hrun] at hm
    exact hf a t hrun hm

theorem lift_endsIn {r : Except CompileError α} (hs : I s) (hr : ∀ e, r = .error e → ok e) :
    EndsIn I ok (lift r) s := by
  cases r with
  | ok a => exact hs
  | error e => exact hr e rfl

theorem forEach_endsIn {step : α → Build β} {as : List α}
    (hstep : ∀ a ∈ as, ∀ s, I s → EndsIn I ok (step a) s) (hs : I s) :
    EndsIn I ok (forEach step as) s := by
  induction as generalizing s with
  | nil => exact pure_endsIn hs
  | cons a as ih =>
    rw [List.forall_mem_cons] at hstep
    rw [forEach]
    refine bind_endsIn (hstep.1 s hs) fun b t _ ht => ?_
    exact bind_endsIn (ih hstep.2 ht) fun bs u _ hu => pure_endsIn hu

/-- Reading the registry does not move the state. -/
theorem registry_bind_endsIn {f : Registry → Build β} (h : EndsIn I ok (f s.registry) s) :
    EndsIn I ok (registry >>= f) s := h

theorem setRegistry_bind_endsIn {r : Registry} {f : Unit → Build β}
    (h : EndsIn I ok (f ()) { s with registry := r }) : EndsIn I ok (setRegistry r >>= f) s := h

/-! ## Naming shapes -/

/-- What the parts of a build have to know about its policy for names: reports other than those of
renamed models keep `I`, and so does naming a shape, which fails only if building the shape does,
or with a refusal. -/
structure Tolerates (I : BuildState → Prop) (refusal : CompileError → Prop) : Prop where
  report : ∀ {n : Notice} {s : BuildState}, (∀ name stored, n ≠ .renamedModel name stored) →
    I s → I { s with notices := s.notices ++ [n] }
  register : ∀ {ok : CompileError → Prop} {name : String} {build : String → Build Shape}
    {notes : Annotations} {s : BuildState}, (∀ e, refusal e → ok e) →
    (∀ c s, I s → EndsIn I ok (build c) s) → I s →
      EndsIn I ok (registerShape name build notes) s

theorem Tolerates.report_endsIn {refusal : CompileError → Prop} (h : Tolerates I refusal)
    {n : Notice} (hn : ∀ name stored, n ≠ .renamedModel name stored) (hs : I s) :
    EndsIn I ok (Build.report n) s :=
  h.report hn hs

variable {name : String} {build : String → Build Shape} {notes : Annotations}

/-- Storing a shape keeps what adding a model keeps, if it keeps the report of a new name. -/
theorem store_endsIn {c : String} {shape : Shape}
    (hadd : ∀ s, I s → I { s with registry := s.registry.addModel ⟨c, shape, notes⟩ })
    (hreport : c ≠ name → ∀ s, I s → I { s with notices := s.notices ++ [.renamedModel name c] })
    (hs : I s) : EndsIn I ok (store name c shape notes) s := by
  unfold store
  split
  · case isTrue hne =>
    have hc : c ≠ name := by simpa using hne
    exact bind_endsIn (m := report _) (hreport hc s hs) fun _ t _ ht => hadd t ht
  · exact hadd s hs

/-! ## Lenient builds -/

/-- The state of a build that is not strict. -/
def Lenient (s : BuildState) : Prop := s.registry.strict = false

theorem registerFrom_endsIn_lenient (hbuild : ∀ c s, Lenient s → EndsIn Lenient ok (build c) s)
    {bound counter : Nat} (hs : Lenient s) :
    EndsIn Lenient ok (registerFrom name build notes bound counter) s := by
  have hstore : ∀ c shape t, Lenient t → EndsIn Lenient ok (store name c shape notes) t :=
    fun c shape t ht => store_endsIn (fun _ h => h) (fun _ _ h => h) ht
  induction bound generalizing counter s with
  | zero =>
    rw [registerFrom]
    exact bind_endsIn (hbuild _ s hs) fun shape t _ ht => hstore _ shape t ht
  | succ bound ih =>
    rw [registerFrom]
    refine registry_bind_endsIn (bind_endsIn (hbuild _ s hs) fun shape t _ ht => ?_)
    refine registry_bind_endsIn ?_
    cases t.registry.model? (candidate name counter) with
    | none => exact hstore _ shape t ht
    | some existing =>
      dsimp only
      split
      · exact pure_endsIn ht
      · -- the models of the start are put back, and with them its leniency
        refine setRegistry_bind_endsIn ?_
        split
        · case isTrue hstrict =>
          rw [Lenient, hstrict] at hs
          cases hs
        · exact ih hs

/-- A build that is not strict refuses no name. -/
theorem lenient_tolerates : Tolerates Lenient fun _ => False where
  report _ hs := hs
  register _ hbuild hs := registry_bind_endsIn (registerFrom_endsIn_lenient hbuild hs)

/-! ## Strict builds -/

/-- The build is strict, and it has renamed no model. -/
structure Unrenamed (s : BuildState) : Prop where
  strict : s.registry.strict = true
  notices : ∀ name stored, .renamedModel name stored ∉ s.notices

theorem start_unrenamed : Unrenamed (start true) :=
  ⟨rfl, fun _ _ h => nomatch h⟩

/-- Adding a model renames none. -/
theorem Unrenamed.addModel (h : Unrenamed s) (m : Model) :
    Unrenamed { s with registry := s.registry.addModel m } :=
  ⟨h.strict, h.notices⟩

/-- A strict build names a shape by the first candidate or not at all. -/
theorem registerFrom_endsIn_unrenamed (hrefusal : ∀ e, e = .nameCollision name → ok e)
    (hbuild : ∀ c s, Unrenamed s → EndsIn Unrenamed ok (build c) s) {bound : Nat}
    (hs : Unrenamed s) : EndsIn Unrenamed ok (registerFrom name build notes (bound + 1) 1) s := by
  rw [registerFrom]
  refine registry_bind_endsIn (bind_endsIn (hbuild _ s hs) fun shape t _ ht => ?_)
  refine registry_bind_endsIn ?_
  cases t.registry.model? (candidate name 1) with
  | none => exact store_endsIn (fun _ h => h.addModel _) (fun h => absurd rfl h) ht
  | some existing =>
    dsimp only
    split
    · exact pure_endsIn ht
    · refine setRegistry_bind_endsIn ?_
      rw [if_pos hs.strict]
      exact hrefusal _ rfl

/-- A strict build refuses a name that another shape has taken. -/
theorem unrenamed_tolerates : Tolerates Unrenamed fun e => ∃ name, e = .nameCollision name where
  report hn hs := by
    refine ⟨hs.strict, fun name stored hmem => ?_⟩
    rcases List.mem_append.mp hmem with hmem | hmem
    · exact hs.notices name stored hmem
    · exact hn name stored (List.mem_singleton.mp hmem).symm
  register hrefusal hbuild hs :=
    registry_bind_endsIn (registerFrom_endsIn_unrenamed (fun e he => hrefusal e ⟨_, he⟩) hbuild hs)

end Build
end ApiCompiler
