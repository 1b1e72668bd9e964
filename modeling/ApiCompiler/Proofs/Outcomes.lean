import ApiCompiler.Breakdown
import Mathlib.Data.List.Forall2

/-!
# Results that correspond

A step that can fail ends with a value or an error.  `EndsWith good bad` says of the result what it
may be: a good value or a bad error.  `EndsAlike E R` compares two results: both are values, related
by `R`, or both are errors, related by `E`.

Breakdowns are told apart by their wording only where the wording says something about the input
(`Breakdown.SameKind`): which two keys were compared when it was found that they have no order is an
accident of the sort.
-/

namespace ApiCompiler

variable {ε α β γ δ : Type} {E : ε → ε → Prop} {R : α → β → Prop} {S : γ → δ → Prop}

theorem bind_eq_ok {m : Except ε α} {f : α → Except ε γ} {c : γ} :
    m >>= f = .ok c ↔ ∃ a, m = .ok a ∧ f a = .ok c := by
  cases m with
  | error e => simp [bind, Except.bind]
  | ok a => simp [bind, Except.bind]

theorem bind_eq_error {m : Except ε α} {f : α → Except ε γ} {e : ε} :
    m >>= f = .error e ↔ m = .error e ∨ ∃ a, m = .ok a ∧ f a = .error e := by
  cases m with
  | error e' => simp [bind, Except.bind]
  | ok a => simp [bind, Except.bind]

/-- A row of steps succeeds exactly with the values of the single steps. -/
theorem mapM_eq_ok_iff {f : α → Except ε β} {as : List α} {bs : List β} :
    as.mapM f = .ok bs ↔ List.Forall₂ (fun a b => f a = .ok b) as bs := by
  induction as generalizing bs with
  | nil => simp [pure, Except.pure, eq_comm]
  | cons a as ih =>
    rw [List.mapM_cons, bind_eq_ok, List.forall₂_cons_left_iff]
    refine exists_congr fun b => ?_
    rw [bind_eq_ok]
    constructor
    · rintro ⟨hb, rest, hrest, heq⟩
      cases heq
      exact ⟨rest, hb, ih.mp hrest, rfl⟩
    · rintro ⟨rest, hb, hrest, rfl⟩
      exact ⟨hb, rest, ih.mpr hrest, rfl⟩

/-- The result is a good value, or an error that is bad. -/
inductive EndsWith (good : α → Prop) (bad : ε → Prop) : Except ε α → Prop
  | ok {a : α} (h : good a) : EndsWith good bad (.ok a)
  | error {e : ε} (h : bad e) : EndsWith good bad (.error e)

namespace EndsWith

variable {good : α → Prop} {fine : γ → Prop} {bad worse : ε → Prop} {m : Except ε α}

theorem imp {better : α → Prop} (h : EndsWith good bad m) (hgood : ∀ a, good a → better a)
    (hbad : ∀ e, bad e → worse e) : EndsWith better worse m := by
  cases h with
  | ok ha => exact .ok (hgood _ ha)
  | error he => exact .error (hbad _ he)

theorem bind {f : α → Except ε γ} (h : EndsWith good bad m)
    (hf : ∀ a, good a → EndsWith fine bad (f a)) : EndsWith fine bad (m >>= f) := by
  cases h with
  | ok ha => exact hf _ ha
  | error he => exact .error he

theorem of_eq_ok {a : α} (h : EndsWith good bad m) (hm : m = .ok a) : good a := by
  rw [hm] at h
  cases h with
  | ok ha => exact ha

theorem of_eq_error {e : ε} (h : EndsWith good bad m) (hm : m = .error e) : bad e := by
  rw [hm] at h
  cases h with
  | error he => exact he

/-- Where no error is bad, there is a good value. -/
theorem exists_ok (h : EndsWith good bad m) (hbad : ∀ e, ¬ bad e) : ∃ a, m = .ok a ∧ good a := by
  cases h with
  | ok ha => exact ⟨_, rfl, ha⟩
  | error he => exact absurd he (hbad _)

/-- A row of steps ends with good values, or at the first step that ends badly. -/
theorem mapM {fits : α → β → Prop} {f : α → Except ε β} {as : List α}
    (h : ∀ a ∈ as, EndsWith (fits a) bad (f a)) :
    EndsWith (List.Forall₂ fits as) bad (as.mapM f) := by
  induction as with
  | nil => exact .ok .nil
  | cons a as ih =>
    rw [List.forall_mem_cons] at h
    rw [List.mapM_cons]
    exact h.1.bind fun b hb => (ih h.2).bind fun bs hbs => .ok (.cons hb hbs)

end EndsWith

/-- Both results are values that are related, or both are errors that are. -/
inductive EndsAlike (E : ε → ε → Prop) (R : α → β → Prop) : Except ε α → Except ε β → Prop
  | ok {a : α} {b : β} (h : R a b) : EndsAlike E R (.ok a) (.ok b)
  | error {e f : ε} (h : E e f) : EndsAlike E R (.error e) (.error f)

namespace EndsAlike

variable {m : Except ε α} {n : Except ε β}

theorem refl (hE : ∀ e, E e e) (m : Except ε α) : EndsAlike E Eq m m := by
  cases m with
  | ok a => exact .ok rfl
  | error e => exact .error (hE e)

theorem bind {f : α → Except ε γ} {g : β → Except ε δ} (h : EndsAlike E R m n)
    (hfg : ∀ a b, R a b → EndsAlike E S (f a) (g b)) : EndsAlike E S (m >>= f) (n >>= g) := by
  cases h with
  | ok hab => exact hfg _ _ hab
  | error he => exact .error he

theorem map {f : α → γ} {g : β → δ} (h : EndsAlike E R m n) (hfg : ∀ a b, R a b → S (f a) (g b)) :
    EndsAlike E S (m.map f) (n.map g) := by
  cases h with
  | ok hab => exact .ok (hfg _ _ hab)
  | error he => exact .error he

theorem mapError {ε' : Type} {F : ε' → ε' → Prop} {f : ε → ε'} (h : EndsAlike E R m n)
    (hF : ∀ a b, E a b → F (f a) (f b)) : EndsAlike F R (m.mapError f) (n.mapError f) := by
  cases h with
  | ok hab => exact .ok hab
  | error he => exact .error (hF _ _ he)

end EndsAlike

/-- Two breakdowns are the same, or both are about keys that cannot be ordered. -/
inductive Breakdown.SameKind : Breakdown → Breakdown → Prop
  | refl (reason : Breakdown) : SameKind reason reason
  | unordered (a b c d : String) : SameKind (.unordered a b) (.unordered c d)

end ApiCompiler
