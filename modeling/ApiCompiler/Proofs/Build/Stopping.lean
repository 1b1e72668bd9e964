import ApiCompiler.Proofs.Build.Safety

/-!
# Where a build stops

`Build.StopsWith flaw stop m` says where the step `m` of a lenient build stops, if not at a flaw of
another kind: with the error `stop`, or nowhere if that is `none`.  Steps in a row stop where the
first of them does that stops at all, so `Option.or` and `List.findSome?` are what becomes of `stop`
when steps are put together.
-/

namespace ApiCompiler
namespace Build

variable {α β : Type} {flaw : CompileError → Prop} {stop stop' : Option CompileError}

/-- A lenient build gets past the step only if nothing stops it, and fails in it only with what
stops it, or at a flaw. -/
def StopsWith (flaw : CompileError → Prop) (stop : Option CompileError) (m : Build α) : Prop :=
  ∀ s, Lenient s → match m.outcome s with
    | (.ok _, t) => stop = none ∧ Lenient t
    | (.error e, _) => stop = some e ∨ flaw e

/-- The error of a result, if it is one. -/
def errorOf (r : Except CompileError α) : Option CompileError :=
  match r with
  | .ok _ => none
  | .error e => some e

theorem errorOf_eq_some_iff {r : Except CompileError α} {e : CompileError} :
    errorOf r = some e ↔ r = .error e := by
  cases r with
  | ok a => simp [errorOf]
  | error e' => simp [errorOf]

/-- A step that can fail at a flaw only is stopped by nothing. -/
theorem stopsWith_of_endsIn {m : Build α} (h : ∀ s, Lenient s → EndsIn Lenient flaw m s) :
    StopsWith flaw none m := by
  intro s hs
  have hends := h s hs
  unfold EndsIn at hends
  rcases hm : m.outcome s with ⟨e | a, t⟩
  · rw [hm] at hends
    exact Or.inr hends
  · rw [hm] at hends
    exact ⟨rfl, hends⟩

theorem pure_stopsWith (a : α) : StopsWith flaw none (pure a) := fun _ hs => ⟨rfl, hs⟩

theorem lift_stopsWith (r : Except CompileError α) : StopsWith flaw (errorOf r) (lift r) := by
  intro s hs
  cases r with
  | ok a => exact ⟨rfl, hs⟩
  | error e => exact Or.inl rfl

/-- The second of two steps stops the build only if the first one does not. -/
theorem bind_stopsWith {m : Build α} {f : α → Build β} (hm : StopsWith flaw stop m)
    (hf : ∀ a s t, m.Returns s a t → StopsWith flaw stop' (f a)) :
    StopsWith flaw (stop.or stop') (m >>= f) := by
  intro s hs
  have hfirst := hm s hs
  rw [outcome_bind]
  rcases hrun : m.outcome s with ⟨e | a, t⟩
  · rw [hrun] at hfirst
    rcases hfirst with hstop | hflaw
    · exact Or.inl (by rw [hstop, Option.some_or])
    · exact Or.inr hflaw
  · rw [hrun] at hfirst
    obtain ⟨hstop, ht⟩ := hfirst
    rw [hstop, Option.none_or]
    exact hf a s t hrun t ht

/-- What follows a step and is stopped by nothing does not matter. -/
theorem bind_stopsWith_first {m : Build α} {f : α → Build β} (hm : StopsWith flaw stop m)
    (hf : ∀ a s t, m.Returns s a t → StopsWith flaw none (f a)) :
    StopsWith flaw stop (m >>= f) := by
  have hboth := bind_stopsWith hm hf
  rwa [Option.or_none] at hboth

/-- A step that is stopped by nothing leaves it to what follows. -/
theorem bind_stopsWith_second {m : Build α} {f : α → Build β} (hm : StopsWith flaw none m)
    (hf : ∀ a s t, m.Returns s a t → StopsWith flaw stop (f a)) :
    StopsWith flaw stop (m >>= f) := by
  have hboth := bind_stopsWith hm hf
  rwa [Option.none_or] at hboth

/-- The first item that gives something is the first one, or is found among the others. -/
theorem findSome?_cons_eq_or {γ : Type} (f : α → Option γ) (a : α) (as : List α) :
    (a :: as).findSome? f = (f a).or (as.findSome? f) := by
  rw [List.findSome?_cons]
  cases f a <;> rfl

/-- A step for every item stops the build at the first item that does. -/
theorem forEach_stopsWith {step : α → Build β} {stopOf : α → Option CompileError} {as : List α}
    (hstep : ∀ a ∈ as, StopsWith flaw (stopOf a) (step a)) :
    StopsWith flaw (as.findSome? stopOf) (forEach step as) := by
  induction as with
  | nil => exact pure_stopsWith []
  | cons a as ih =>
    rw [List.forall_mem_cons] at hstep
    rw [forEach, findSome?_cons_eq_or]
    exact bind_stopsWith hstep.1 fun b _ _ _ =>
      bind_stopsWith_first (ih hstep.2) fun bs _ _ _ => pure_stopsWith (b :: bs)

end Build
end ApiCompiler
