import ApiCompiler.Text.Accents
import Mathlib.Logic.Basic

/-!
# White space between the parts of a text

White space is not taken apart into anything else, and it is not composed with its neighbours.  So
the parts of a text that stand on both sides of it lose their accents independently of each other
(`stripAccents_append`).
-/

namespace ApiCompiler
namespace Text

/-- The code points of white space. -/
theorem isSpace_iff {c : Char} :
    isSpace c = true ↔
      (9 ≤ c.toNat ∧ c.toNat ≤ 13) ∨ (28 ≤ c.toNat ∧ c.toNat ≤ 32) ∨ c.toNat = 0x85 ∨
        c.toNat = 0xA0 ∨ c.toNat = 0x1680 ∨ (0x2000 ≤ c.toNat ∧ c.toNat ≤ 0x200A) ∨
        (0x2028 ≤ c.toNat ∧ c.toNat ≤ 0x2029) ∨ c.toNat = 0x202F ∨ c.toNat = 0x205F ∨
        c.toNat = 0x3000 := by
  simp only [isSpace, CodePoints.holds, List.any_cons, List.any_nil, Bool.or_eq_true,
    Bool.and_eq_true, decide_eq_true_eq, Bool.or_false]
  omega

theorem isSpace_plainSpace {c : Char} (h : isSpace c = true) : isSpace (plainSpace c) = true := by
  rw [plainSpace]
  split
  · decide
  · split
    · decide
    · exact h

/-- White space is taken apart into one white-space character. -/
theorem bases_of_isSpace {c : Char} (h : isSpace c = true) : bases c = [plainSpace c] := by
  by_cases hlow : c.toNat < 0xC0
  · have hsame : plainSpace c = c := by
      rw [plainSpace, if_neg, if_neg]
      · rintro rfl
        exact absurd hlow (by decide)
      · rintro rfl
        exact absurd hlow (by decide)
    rw [bases_of_lt hlow, hsame]
  · simp only [bases, hlow, h, if_true, if_false]

/-- No white space takes part in a composition that is listed. -/
theorem composites_apart : ∀ r ∈ composites,
    (r.1 < 0x1680 ∧ 0xC0 ≤ r.1 ∨ 0x1680 < r.1 ∧ r.1 < 0x2000 ∨ 0x3000 < r.1) ∧
      (r.2.1 < 0x1680 ∧ 0xC0 ≤ r.2.1 ∨ 0x1680 < r.2.1 ∧ r.2.1 < 0x2000 ∨ 0x3000 < r.2.1) := by
  decide

/-- White space is composed with none of its neighbours. -/
theorem compose?_space {a b : Char} (h : isSpace a = true ∨ isSpace b = true) :
    compose? a b = none := by
  rw [isSpace_iff, isSpace_iff] at h
  have hfind : composites.find? (fun r => r.1 = a.toNat && r.2.1 = b.toNat) = none := by
    refine List.find?_eq_none.mpr fun r hr heq => ?_
    obtain ⟨hfirst, hsecond⟩ := composites_apart r hr
    simp only [Bool.and_eq_true, decide_eq_true_eq] at heq
    omega
  simp only [compose?, hfind, Option.map_none, Bool.and_eq_true, decide_eq_true_eq]
  split
  · rfl
  · rw [if_neg (by omega), if_neg (by omega)]

theorem composeFrom_space {c : Char} (h : isSpace c = true) (cs : List Char) :
    composeFrom c cs = c :: composeAll cs := by
  cases cs with
  | nil => rfl
  | cons d cs => rw [composeFrom, compose?_space (.inl h), composeAll]

theorem composeFrom_append_space {c : Char} (h : isSpace c = true) (last : Char)
    (as bs : List Char) :
    composeFrom last (as ++ c :: bs) = composeFrom last as ++ c :: composeAll bs := by
  induction as generalizing last with
  | nil =>
    have hstep : composeFrom last (c :: bs) = last :: composeFrom c bs := by
      rw [composeFrom, compose?_space (.inr h)]
    rw [List.nil_append, hstep, composeFrom_space h]
    rfl
  | cons a as ih =>
    rw [List.cons_append, composeFrom, composeFrom]
    cases compose? last a with
    | none =>
      dsimp only
      rw [ih, List.cons_append]
    | some d => exact ih d

theorem composeAll_append_space {c : Char} (h : isSpace c = true) (as bs : List Char) :
    composeAll (as ++ c :: bs) = composeAll as ++ c :: composeAll bs := by
  cases as with
  | nil => exact composeFrom_space h bs
  | cons a as => exact composeFrom_append_space h a as bs

/-- What stands before white space and what stands after it lose their accents independently of
each other. -/
theorem stripAccents_append {c : Char} (h : isSpace c = true) (as bs : List Char) :
    stripAccents (as ++ c :: bs) = stripAccents as ++ plainSpace c :: stripAccents bs := by
  rw [stripAccents, List.flatMap_append, List.flatMap_cons, bases_of_isSpace h]
  exact composeAll_append_space (isSpace_plainSpace h) _ _

end Text
end ApiCompiler
