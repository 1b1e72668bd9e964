import ApiCompiler.Proofs.Build.Returning

/-!
# What a build step keeps

`Build.Keeps known good m` is about all runs of the step `m`, those that fail included: if every
model of the state it starts in is `known`, every model of the state it leaves is, and a value that
it returns is `good`.  The lemmas follow the ways in which steps are put together.

Naming a shape keeps what is known if a model of a good shape is known (`registerShape_keeps`).
Nothing has to be said of rejected candidates, since with them the registry goes back to where it
was.
-/

namespace ApiCompiler
namespace Build

variable {α β : Type} {known : Model → Prop} {good : α → Prop} {fine : β → Prop}

/-- A step that starts with known models leaves known models, and returns good values only. -/
def Keeps (known : Model → Prop) (good : α → Prop) (m : Build α) : Prop :=
  ∀ s, (∀ x ∈ s.registry.models, known x) →
    (∀ x ∈ (m.outcome s).2.registry.models, known x) ∧ ∀ a, (m.outcome s).1 = .ok a → good a

theorem Keeps.imp {weaker : α → Prop} {m : Build α} (h : Keeps known good m)
    (hgood : ∀ a, good a → weaker a) : Keeps known weaker m :=
  fun s hs => ⟨(h s hs).1, fun a ha => hgood a ((h s hs).2 a ha)⟩

theorem pure_keeps {a : α} (h : good a) : Keeps known good (pure a) := by
  intro s hs
  refine ⟨hs, fun b hb => ?_⟩
  cases hb
  exact h

theorem throw_keeps (e : CompileError) : Keeps known good (throw e) := by
  intro s hs
  refine ⟨hs, fun b hb => ?_⟩
  cases hb

theorem Keeps.bind {m : Build α} {f : α → Build β} (hm : Keeps known good m)
    (hf : ∀ a, good a → Keeps known fine (f a)) : Keeps known fine (m >>= f) := by
  intro s hs
  obtain ⟨hmodels, hreturned⟩ := hm s hs
  rw [outcome_bind]
  rcases hrun : m.outcome s with ⟨e | a, t⟩
  · rw [hrun] at hmodels
    refine ⟨hmodels, fun b hb => ?_⟩
    cases hb
  · rw [hrun] at hmodels hreturned
    exact hf a (hreturned a rfl) t hmodels

theorem lift_keeps {r : Except CompileError α} (h : ∀ a, r = .ok a → good a) :
    Keeps known good (lift r) := by
  cases r with
  | ok a => exact pure_keeps (h a rfl)
  | error e => exact throw_keeps e

theorem report_keeps (n : Notice) : Keeps known (fun _ => True) (report n) :=
  fun _ hs => ⟨hs, fun _ _ => trivial⟩

/-- Reading the registry gives known models. -/
theorem registry_keeps : Keeps known (fun r : Registry => ∀ x ∈ r.models, known x) registry := by
  intro s hs
  refine ⟨hs, fun r hr => ?_⟩
  cases hr
  exact hs

/-- The registry may be replaced by one with known models. -/
theorem setRegistry_keeps {r : Registry} (h : ∀ x ∈ r.models, known x) :
    Keeps known (fun _ => True) (setRegistry r) :=
  fun _ _ => ⟨h, fun _ _ => trivial⟩

theorem forEach_keeps {step : α → Build β} {as : List α}
    (h : ∀ a ∈ as, Keeps known fine (step a)) :
    Keeps known (fun bs => ∀ b ∈ bs, fine b) (forEach step as) := by
  induction as with
  | nil => exact pure_keeps (List.forall_mem_nil _)
  | cons a as ih =>
    rw [List.forall_mem_cons] at h
    rw [forEach]
    refine h.1.bind fun b hb => (ih h.2).bind fun bs hbs => pure_keeps ?_
    exact List.forall_mem_cons.mpr ⟨hb, hbs⟩

/-! ## Naming shapes -/

variable {name : String} {build : String → Build Shape} {notes : Annotations}
  {fits : Shape → Prop}

theorem store_keeps {c : String} {shape : Shape} (h : known ⟨c, shape, notes⟩) :
    Keeps known (fun _ => True) (store name c shape notes) := by
  have hadd : Keeps known (fun _ : String => True)
      (registry >>= fun r => setRegistry (r.addModel ⟨c, shape, notes⟩) >>= fun _ => pure c) := by
    refine registry_keeps.bind fun r hr => (setRegistry_keeps fun x hx => ?_).bind fun _ _ =>
      pure_keeps trivial
    rcases List.mem_append.mp hx with hx | hx
    · exact hr x hx
    · rw [List.mem_singleton.mp hx]
      exact h
  unfold store
  split
  · exact (report_keeps _).bind fun _ _ => hadd
  · exact hadd

theorem registerFrom_keeps (hbuild : ∀ c, Keeps known fits (build c))
    (hknown : ∀ c shape, fits shape → known ⟨c, shape, notes⟩) (bound counter : Nat) :
    Keeps known (fun _ => True) (registerFrom name build notes bound counter) := by
  induction bound generalizing counter with
  | zero =>
    rw [registerFrom]
    exact (hbuild _).bind fun shape hshape => store_keeps (hknown _ shape hshape)
  | succ bound ih =>
    rw [registerFrom]
    refine registry_keeps.bind fun before hbefore => (hbuild _).bind fun shape hshape => ?_
    refine registry_keeps.bind fun now _ => ?_
    cases now.model? (candidate name counter) with
    | none => exact store_keeps (hknown _ shape hshape)
    | some existing =>
      dsimp only
      split
      · exact pure_keeps trivial
      · refine (setRegistry_keeps hbefore).bind fun _ _ => ?_
        split
        · exact throw_keeps _
        · exact ih (counter + 1)

/-- Naming a shape keeps what is known, if a model of a shape that fits is known. -/
theorem registerShape_keeps (hbuild : ∀ c, Keeps known fits (build c))
    (hknown : ∀ c shape, fits shape → known ⟨c, shape, notes⟩) :
    Keeps known (fun _ => True) (registerShape name build notes) :=
  registry_keeps.bind fun _ _ => registerFrom_keeps hbuild hknown _ _

/-! ## What a step makes -/

/-- The shape is what the step returns, started in the state, or that of a model which the state it
leaves has and the state it started in has not. -/
def Makes (m : Build Shape) (s : BuildState) (a : Shape) : Prop :=
  (m.outcome s).1 = .ok a ∨
    ∃ x ∈ (m.outcome s).2.registry.models, x ∉ s.registry.models ∧ x.shape = a

/-- What holds of everything a step returns and of all models it names holds of what it makes. -/
theorem Makes.of_keeps {m : Build Shape} {s : BuildState} {a : Shape} (h : m.Makes s a)
    (hkeeps : ∀ known : Model → Prop, (∀ x, fits x.shape → known x) → Keeps known fits m) :
    fits a := by
  obtain ⟨hmodels, hreturned⟩ :=
    hkeeps (fun x => x ∈ s.registry.models ∨ fits x.shape) (fun _ hx => Or.inr hx) s
      fun _ hx => Or.inl hx
  rcases h with hreturn | ⟨x, hx, hnew, rfl⟩
  · exact hreturned a hreturn
  · exact (hmodels x hx).resolve_left hnew

end Build
end ApiCompiler
