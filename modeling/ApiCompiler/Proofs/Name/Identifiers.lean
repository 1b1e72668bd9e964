import ApiCompiler.Proofs.Name.Resplitting

/-!
# Names that are identifiers

An identifier is not empty, consists of ASCII letters, digits and underscores, and does not begin
with a digit.  What a name in a case consists of is settled by the case (`chars_apply`).  How it
begins is not: no case puts anything in front of the first word, so a name begins with the first
letter or digit of the text that it is made from, small or capital (`head?_apply`), and is empty if
there is none.  So a text can be written as an identifier exactly if the first of its letters and
digits is a letter (`isIdentifier_apply_iff`).
-/

namespace ApiCompiler
namespace Name

/-! ## Letters and digits -/

theorem isDigit_eq_false_of_isAlpha {c : Char} (h : c.isAlpha = true) : c.isDigit = false := by
  simp only [Char.isAlpha, Char.isUpper, Char.isLower, Char.isDigit, UInt32.le_iff_toNat_le,
    Bool.or_eq_true, Bool.and_eq_true, decide_eq_true_eq, Bool.and_eq_false_iff,
    decide_eq_false_iff_not, Char.reduceVal, UInt32.reduceToNat, Char.toNat_val] at h ⊢
  omega

/-- A letter or digit is a letter exactly if it is no digit, whatever its case. -/
theorem isDigit_toLower_eq_false_iff {c : Char} (h : isWordChar c = true) :
    c.isDigit = false ↔ c.toLower.isAlpha = true := by
  rw [Char.isAlpha_toLower_eq_isAlpha]
  constructor
  · intro hdigit
    rwa [isWordChar, Char.isAlphanum, hdigit, Bool.or_false] at h
  · exact isDigit_eq_false_of_isAlpha

/-- The letters and digits of a text are those of its words, in small letters. -/
theorem letters_eq (text : List Char) : letters text = ((words text).map lower).flatten := by
  rw [letters, ← flatten_words, lower, List.map_flatten]
  rfl

/-! ## Names in a case -/

/-- Joined texts that are not empty begin alike with and without separators. -/
theorem head?_intercalate {separator : List Char} {ws : List (List Char)} (h : [] ∉ ws) :
    (separator.intercalate ws).head? = ws.flatten.head? := by
  match ws with
  | [] => rfl
  | [w] => rw [List.intercalate_singleton, List.flatten_cons, List.flatten_nil, List.append_nil]
  | [] :: _ => exact absurd List.mem_cons_self h
  | (c :: cs) :: v :: vs => rw [List.intercalate_cons_cons]; rfl

theorem nil_notMem_map_lower_words (text : List Char) : [] ∉ (words text).map lower := by
  intro h
  obtain ⟨w, hw, hnil⟩ := List.mem_map.mp h
  exact (unbroken_lower hw).nonempty hnil

theorem head?_separated (separator : Char) (text : List Char) :
    (separated separator text).head? = (letters text).head? := by
  rw [separated, head?_intercalate (nil_notMem_map_lower_words text), letters_eq]

theorem lower_lowerFirst (cs : List Char) : lower (lowerFirst cs) = lower cs := by
  cases cs with
  | nil => rfl
  | cons c cs => simp only [lowerFirst, lower, List.map_cons, Char.toLower_toLower_eq_toLower]

/-- A name in a case begins with the first letter or digit of the text, if one looks at it in small
letters. -/
theorem head?_apply (c : Case) (text : List Char) :
    (c.apply text).head?.map Char.toLower = (letters text).head? := by
  have hletters : (letters text).head?.map Char.toLower = (letters text).head? := by
    rw [← List.head?_map, letters]
    exact congrArg List.head? (lower_lower _)
  cases c with
  | pascal => rw [Case.apply, ← List.head?_map, ← lower_pascal, lower]
  | camel =>
    rw [Case.apply, ← List.head?_map, ← lower_pascal, ← lower_lowerFirst (pascal text), camel, lower]
  | snake => rw [Case.apply, snake, head?_separated, hletters]
  | kebab => rw [Case.apply, kebab, head?_separated, hletters]

/-- Nothing is written in a case exactly for a text without letters and digits. -/
theorem apply_eq_nil_iff (c : Case) (text : List Char) : c.apply text = [] ↔ letters text = [] := by
  rw [← List.head?_eq_none_iff, ← List.head?_eq_none_iff, ← head?_apply c, Option.map_eq_none_iff]

theorem isWordChar_of_mem_pascal {text : List Char} {x : Char} (h : x ∈ pascal text) :
    isWordChar x = true := by
  obtain ⟨v, hv, hx⟩ := List.mem_flatten.mp h
  obtain ⟨w, hw, rfl⟩ := List.mem_map.mp hv
  exact (unbroken_capitalize hw).chars x hx

/-- In every case but the one with hyphens a name consists of letters, digits and underscores. -/
theorem chars_apply {c : Case} (hc : c ≠ .kebab) (text : List Char) :
    ∀ x ∈ c.apply text, isWordChar x = true ∨ x = '_' := by
  intro x hx
  cases c with
  | kebab => exact absurd rfl hc
  | pascal => exact Or.inl (isWordChar_of_mem_pascal hx)
  | camel =>
    refine Or.inl ?_
    rw [Case.apply, camel] at hx
    cases hpascal : pascal text with
    | nil =>
      rw [hpascal] at hx
      cases hx
    | cons y ys =>
      have hchars : ∀ z ∈ y :: ys, isWordChar z = true :=
        fun z hz => isWordChar_of_mem_pascal (hpascal ▸ hz)
      rw [hpascal, lowerFirst] at hx
      rcases List.mem_cons.mp hx with rfl | hx
      · rw [isWordChar_toLower]
        exact hchars y List.mem_cons_self
      · exact hchars x (List.mem_cons_of_mem _ hx)
  | snake =>
    rcases mem_intercalate_singleton hx with rfl | ⟨v, hv, hxv⟩
    · exact Or.inr rfl
    · obtain ⟨w, hw, rfl⟩ := List.mem_map.mp hv
      exact Or.inl ((unbroken_lower hw).chars x hxv)

/-! ## Identifiers -/

/-- A name that is not empty, consists of letters, digits and underscores, and does not begin with a
digit. -/
structure IsIdentifier (name : List Char) : Prop where
  nonempty : name ≠ []
  chars : ∀ c ∈ name, isWordChar c = true ∨ c = '_'
  start : ∀ c ∈ name.head?, c.isDigit = false

/-- The first character of a name in a case is a letter or digit, whatever separates its words. -/
theorem isWordChar_of_head?_apply {c : Case} {text : List Char} {x : Char}
    (h : (c.apply text).head? = some x) : isWordChar x = true := by
  have hx := head?_apply c text
  rw [h, Option.map_some, eq_comm] at hx
  obtain ⟨y, hy, hyx⟩ := List.mem_map.mp (List.mem_of_head? hx)
  rw [← isWordChar_toLower, ← hyx, isWordChar_toLower]
  exact (List.mem_filter.mp hy).2

/-- A text is written as an identifier exactly if the first of its letters and digits is a letter. -/
theorem isIdentifier_apply_iff {c : Case} (hc : c ≠ .kebab) (text : List Char) :
    IsIdentifier (c.apply text) ↔ ∃ x ∈ (letters text).head?, x.isAlpha = true := by
  rw [← head?_apply c]
  cases hhead : (c.apply text).head? with
  | none =>
    refine iff_of_false (fun h => h.nonempty (List.head?_eq_none_iff.mp hhead)) ?_
    rintro ⟨x, hx, -⟩
    cases hx
  | some x =>
    have hstart := isDigit_toLower_eq_false_iff (isWordChar_of_head?_apply hhead)
    constructor
    · exact fun h => ⟨x.toLower, rfl, hstart.mp (h.start x hhead)⟩
    · rintro ⟨y, hy, halpha⟩
      obtain rfl := Option.some.inj hy
      refine ⟨?_, chars_apply hc text, ?_⟩
      · rintro hnil
        rw [hnil] at hhead
        cases hhead
      · intro y hy
        rw [hhead] at hy
        obtain rfl := Option.some.inj hy
        exact hstart.mpr halpha

end Name
end ApiCompiler
