import ApiCompiler.Operation.Compile
import Mathlib.Data.List.Forall2

/-!
# What a build step returns

A step of a build is a function of the state it starts in: it ends with a value or an error, and
with the state it leaves behind.  `Build.Returns m s a t` says that the step `m`, started in `s`,
returns `a` and leaves `t`.  Everything that is proved about building starts from such a run and
takes it apart, so this file has one lemma for each way of putting steps together; after it no
proof looks inside the monad again.

## Steps in a row

`Build.forEach` performs a step for every item of a list.  Its runs are the chains of runs of the
step, the state handed from one to the next, and `Build.Sequence` is that chain.
`Build.Sequence.forall₂` is the induction over it that later proofs need: what every single run
says about its item, and what later runs do not undo, holds of all items at the end.

## Steps that fail

`Build.Fails m s e t` says that the step fails with `e` and leaves `t`.  A failure in a row of steps
is the failure of one of them, after those before it have returned; so a failure can be followed
inwards to the step that raised it.
-/

namespace ApiCompiler
namespace Build

variable {α β : Type}

/-- How a step ends, and the state it leaves. -/
def outcome (m : Build α) (s : BuildState) : Except CompileError α × BuildState := m.run.run s

/-- The step, started in `s`, returns `a` and leaves `t`. -/
def Returns (m : Build α) (s : BuildState) (a : α) (t : BuildState) : Prop :=
  m.outcome s = (.ok a, t)

/-! ## Single steps -/

/-- The second of two steps is performed where the first one ended, unless that failed. -/
theorem outcome_bind (m : Build α) (f : α → Build β) (s : BuildState) :
    outcome (m >>= f) s =
      match m.outcome s with
      | (.ok a, t) => (f a).outcome t
      | (.error e, t) => (.error e, t) := by
  show (ExceptT.run (m >>= f)).run s = _
  rw [ExceptT.run_bind, StateT.run_bind, outcome]
  rcases StateT.run (ExceptT.run m) s with ⟨_ | a, t⟩ <;> rfl

theorem registry_bind_outcome (f : Registry → Build β) (s : BuildState) :
    outcome (registry >>= f) s = (f s.registry).outcome s := rfl

theorem setRegistry_bind_outcome (r : Registry) (f : Unit → Build β) (s : BuildState) :
    outcome (setRegistry r >>= f) s = (f ()).outcome { s with registry := r } := rfl

/-- A step leaves the same state if its value is replaced by another one. -/
theorem outcome_bind_pure_snd (m : Build α) (f : α → β) (s : BuildState) :
    (outcome (m >>= fun a => pure (f a)) s).2 = (m.outcome s).2 := by
  rw [outcome_bind]
  rcases m.outcome s with ⟨_ | a, t⟩ <;> rfl

/-- Two steps that end alike wherever they start are the same step. -/
theorem ext_outcome {m m' : Build α} (h : ∀ s, m.outcome s = m'.outcome s) : m = m' :=
  funext h

/-- What follows a step may be replaced by what does the same wherever the step can end. -/
theorem bind_congr_of_returns {m : Build α} {f g : α → Build β}
    (h : ∀ s a t, m.Returns s a t → f a = g a) : m >>= f = m >>= g := by
  refine ext_outcome fun s => ?_
  rw [outcome_bind, outcome_bind]
  rcases hm : m.outcome s with ⟨_ | a, t⟩
  · rfl
  · show (f a).outcome t = (g a).outcome t
    rw [h s a t hm]

theorem pure_returns {a b : α} {s t : BuildState} :
    Returns (pure a) s b t ↔ b = a ∧ t = s := by
  constructor
  · intro h
    cases h
    exact ⟨rfl, rfl⟩
  · rintro ⟨rfl, rfl⟩
    rfl

theorem bind_returns {m : Build α} {f : α → Build β} {s u : BuildState} {b : β} :
    Returns (m >>= f) s b u ↔ ∃ a t, m.Returns s a t ∧ (f a).Returns t b u := by
  unfold Returns
  rw [outcome_bind]
  constructor
  · intro h
    rcases hm : m.outcome s with ⟨_ | a, t⟩
    · rw [hm] at h
      cases h
    · rw [hm] at h
      exact ⟨a, t, rfl, h⟩
  · rintro ⟨a, t, hm, hf⟩
    rw [hm]
    exact hf

theorem not_throw_returns {e : CompileError} {s t : BuildState} {a : α} :
    ¬ Returns (throw e) s a t := by
  intro h
  cases h

theorem lift_returns {r : Except CompileError α} {s t : BuildState} {a : α} :
    (lift r).Returns s a t ↔ r = .ok a ∧ t = s := by
  cases r with
  | ok b => simp only [lift, pure_returns, Except.ok.injEq, eq_comm]
  | error e =>
    constructor
    · intro h
      exact absurd h not_throw_returns
    · rintro ⟨h, -⟩
      cases h

theorem report_returns {n : Notice} {s t : BuildState} {a : Unit} :
    (report n).Returns s a t ↔ t = { s with notices := s.notices ++ [n] } := by
  constructor
  · intro h
    cases h
    rfl
  · rintro rfl
    rfl

theorem registry_returns {s t : BuildState} {r : Registry} :
    registry.Returns s r t ↔ r = s.registry ∧ t = s := by
  constructor
  · intro h
    cases h
    exact ⟨rfl, rfl⟩
  · rintro ⟨rfl, rfl⟩
    rfl

theorem setRegistry_returns {r : Registry} {s t : BuildState} {a : Unit} :
    (setRegistry r).Returns s a t ↔ t = { s with registry := r } := by
  constructor
  · intro h
    cases h
    rfl
  · rintro rfl
    rfl

/-- Reading the registry does not move the state. -/
theorem registry_bind_returns {f : Registry → Build β} {s t : BuildState} {b : β} :
    Returns (registry >>= f) s b t ↔ (f s.registry).Returns s b t := by
  rw [bind_returns]
  constructor
  · rintro ⟨r, u, hr, hf⟩
    obtain ⟨rfl, rfl⟩ := registry_returns.mp hr
    exact hf
  · intro hf
    exact ⟨s.registry, s, registry_returns.mpr ⟨rfl, rfl⟩, hf⟩

theorem setRegistry_bind_returns {r : Registry} {f : Unit → Build β} {s t : BuildState} {b : β} :
    Returns (setRegistry r >>= f) s b t ↔ (f ()).Returns { s with registry := r } b t := by
  rw [bind_returns]
  constructor
  · rintro ⟨_, u, hr, hf⟩
    rw [setRegistry_returns] at hr
    subst hr
    exact hf
  · intro hf
    exact ⟨(), _, setRegistry_returns.mpr rfl, hf⟩

/-! ## Steps in a row -/

/-- A chain of runs, one for each item, the state handed from one to the next. -/
inductive Sequence (R : α → BuildState → β → BuildState → Prop) :
    List α → BuildState → List β → BuildState → Prop
  | nil (s : BuildState) : Sequence R [] s [] s
  | cons {a : α} {as : List α} {b : β} {bs : List β} {s t u : BuildState} :
      R a s b t → Sequence R as t bs u → Sequence R (a :: as) s (b :: bs) u

/-- The runs of a step performed for every item are the chains of its runs. -/
theorem forEach_returns {step : α → Build β} {as : List α} {bs : List β} {s t : BuildState} :
    (forEach step as).Returns s bs t ↔
      Sequence (fun a s b t => (step a).Returns s b t) as s bs t := by
  induction as generalizing s bs t with
  | nil =>
    rw [forEach, pure_returns]
    constructor
    · rintro ⟨rfl, rfl⟩
      exact .nil _
    · intro h
      cases h
      exact ⟨rfl, rfl⟩
  | cons a as ih =>
    rw [forEach]
    simp only [bind_returns, pure_returns, ih]
    constructor
    · rintro ⟨b, u, hb, bs, v, hbs, rfl, rfl⟩
      exact .cons hb hbs
    · intro h
      cases h with
      | cons hb hbs => exact ⟨_, _, hb, _, _, hbs, rfl, rfl⟩

/-- Performing a step for two lists, one after the other, is performing it for both joined. -/
theorem forEach_append (step : α → Build β) (as as' : List α) :
    forEach step (as ++ as') = (do
      let bs ← forEach step as
      let bs' ← forEach step as'
      pure (bs ++ bs')) := by
  induction as with
  | nil => simp [forEach]
  | cons a as ih => simp [forEach, ih]

namespace Sequence

variable {R R' : α → BuildState → β → BuildState → Prop}
  {as : List α} {bs : List β} {s t : BuildState}

/-- A chain of runs is a chain of whatever each of its runs is. -/
theorem imp (h : Sequence R as s bs t) (hR : ∀ a ∈ as, ∀ s b t, R a s b t → R' a s b t) :
    Sequence R' as s bs t := by
  induction h with
  | nil s => exact .nil s
  | cons hab _ ih =>
    rw [List.forall_mem_cons] at hR
    exact .cons (hR.1 _ _ _ hab) (ih hR.2)

/-- A chain of runs returns one value for each item. -/
theorem length_eq (h : Sequence R as s bs t) : as.length = bs.length := by
  induction h with
  | nil s => rfl
  | cons _ _ ih => rw [List.length_cons, List.length_cons, ih]

/-- What every run says of its item holds of all items at the end, if later runs keep it.  `Le` is
the order in which states may follow each other. -/
theorem forall₂ {Le : BuildState → BuildState → Prop} {T : α → β → BuildState → Prop}
    (h : Sequence (fun a s b t => Le s t ∧ T a b t) as s bs t)
    (hrefl : ∀ s, Le s s) (htrans : ∀ s t u, Le s t → Le t u → Le s u)
    (hkeep : ∀ a b t u, T a b t → Le t u → T a b u) :
    Le s t ∧ List.Forall₂ (fun a b => T a b t) as bs := by
  induction h with
  | nil s => exact ⟨hrefl s, .nil⟩
  | cons hab _ ih =>
    obtain ⟨hle, hall⟩ := ih
    exact ⟨htrans _ _ _ hab.1 hle, .cons (hkeep _ _ _ _ hab.2 hle) hall⟩

end Sequence

/-! ## Steps that fail -/

/-- The step, started in `s`, fails with `e` and leaves `t`. -/
def Fails (m : Build α) (s : BuildState) (e : CompileError) (t : BuildState) : Prop :=
  m.outcome s = (.error e, t)

variable {e : CompileError} {s t : BuildState}

theorem not_pure_fails {a : α} : ¬ Fails (pure a) s e t := by
  intro h
  cases h

theorem lift_fails {r : Except CompileError α} : (lift r).Fails s e t ↔ r = .error e ∧ t = s := by
  cases r with
  | ok a =>
    refine iff_of_false not_pure_fails ?_
    rintro ⟨h, -⟩
    cases h
  | error f =>
    constructor
    · intro h
      cases h
      exact ⟨rfl, rfl⟩
    · rintro ⟨h, rfl⟩
      cases h
      rfl

/-- Two steps fail if the first one does, or if it returns and the second one fails. -/
theorem bind_fails {m : Build α} {f : α → Build β} :
    Fails (m >>= f) s e t ↔ m.Fails s e t ∨ ∃ a u, m.Returns s a u ∧ (f a).Fails u e t := by
  unfold Fails Returns
  rw [outcome_bind]
  rcases m.outcome s with ⟨e' | a, u⟩
  · simp
  · simp

/-- What follows a step and cannot fail does not matter. -/
theorem bind_pure_fails {m : Build α} {f : α → β} :
    Fails (m >>= fun a => pure (f a)) s e t ↔ m.Fails s e t := by
  simp only [bind_fails, not_pure_fails, and_false, exists_false, or_false]

/-- If a step performed for every item fails, it fails for one of them, and returns for those
before it. -/
theorem forEach_fails {step : α → Build β} {as : List α} (h : (forEach step as).Fails s e t) :
    ∃ done a rest bs u, as = done ++ a :: rest ∧ (forEach step done).Returns s bs u ∧
      (step a).Fails u e t := by
  induction as generalizing s with
  | nil => exact absurd h not_pure_fails
  | cons a as ih =>
    rw [forEach, bind_fails] at h
    rcases h with hfirst | ⟨b, u, hb, h⟩
    · exact ⟨[], a, as, [], s, rfl, rfl, hfirst⟩
    · rw [bind_pure_fails] at h
      obtain ⟨done, a', rest, bs, v, rfl, hdone, hfails⟩ := ih h
      refine ⟨a :: done, a', rest, b :: bs, v, rfl, ?_, hfails⟩
      rw [forEach, bind_returns]
      exact ⟨b, u, hb, bind_returns.mpr ⟨bs, v, hdone, rfl⟩⟩

/-- What every step of a row keeps, in the state in which those before it leave it, the row keeps,
also if one of the steps fails. -/
theorem forEach_keeps_state {I : BuildState → Prop} {step : α → Build β} {as : List α} (hs : I s)
    (hstep : ∀ done a rest bs u, as = done ++ a :: rest → (forEach step done).Returns s bs u →
      I u → I ((step a).outcome u).2) :
    I ((forEach step as).outcome s).2 := by
  induction as generalizing s with
  | nil => exact hs
  | cons a as ih =>
    have hfirst : I ((step a).outcome s).2 := hstep [] a as [] s rfl rfl hs
    rw [forEach, outcome_bind]
    rcases hb : (step a).outcome s with ⟨e | b, t⟩
    · rw [hb] at hfirst
      exact hfirst
    · rw [hb] at hfirst
      dsimp only
      rw [outcome_bind_pure_snd]
      refine ih hfirst fun done a' rest bs u has hdone hu => ?_
      refine hstep (a :: done) a' rest (b :: bs) u (by rw [has, List.cons_append]) ?_ hu
      rw [forEach, bind_returns]
      exact ⟨b, t, hb, bind_returns.mpr ⟨bs, u, hdone, rfl⟩⟩

end Build
end ApiCompiler
