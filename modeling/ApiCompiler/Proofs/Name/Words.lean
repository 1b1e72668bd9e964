import ApiCompiler.Name.Case
import Mathlib

/-!
# What is left of a name

Splitting a name into words drops what is neither an ASCII letter nor a digit and keeps the rest in
order (`flatten_words`); writing the words in Pascal case changes the case of letters.  So of a name
in Pascal case one thing is still known: its letters and digits in lower case, which are those of the
name without accents (`lower_pascal`).  Two names that differ in these are written differently, and a
name is written as nothing only if it has none (`pascal_eq_nil_iff`).
-/

namespace ApiCompiler
namespace Name

/-- The letters and digits of a name without accents, in lower case. -/
def letters (text : List Char) : List Char := lower ((Text.stripAccents text).filter isWordChar)

/-! ## Words -/

/-- A word character begins the first run, or a run of its own. -/
theorem flatten_runs_cons {c : Char} (hc : isWordChar c = true) (cs : List Char) :
    (runs (c :: cs)).flatten = c :: (runs cs).flatten := by
  rw [runs.eq_def]
  simp only [hc, if_true]
  split
  · case h_1 hruns =>
    rw [hruns]
    split <;> rfl
  · rfl

/-- The runs of word characters hold all of them, in order. -/
theorem flatten_runs (cs : List Char) : (runs cs).flatten = cs.filter isWordChar := by
  induction cs with
  | nil => rfl
  | cons c cs ih =>
    cases hc : isWordChar c with
    | true => rw [flatten_runs_cons hc, ih, List.filter_cons_of_pos hc]
    | false =>
      have hruns : runs (c :: cs) = runs cs := by
        rw [runs.eq_def]
        simp only [hc, Bool.false_eq_true, if_false]
      rw [hruns, ih, List.filter_cons, hc, if_neg Bool.false_ne_true]

/-- The words of a run hold its characters, in order. -/
theorem flatten_splitAfter (x : Char) (cs : List Char) :
    (splitAfter x cs).1 ++ (splitAfter x cs).2.flatten = cs := by
  induction cs generalizing x with
  | nil => rfl
  | cons y after ih =>
    simp only [splitAfter]
    split
    · simpa using ih y
    · simpa using ih y

theorem flatten_splitRun (run : List Char) : (splitRun run).flatten = run := by
  cases run with
  | nil => rfl
  | cons c cs => rw [splitRun, List.flatten_cons, List.cons_append, flatten_splitAfter]

/-- The words of a text hold the word characters of the text without accents, in order. -/
theorem flatten_words (text : List Char) :
    (words text).flatten = (Text.stripAccents text).filter isWordChar := by
  rw [words, ← flatten_runs]
  induction runs (Text.stripAccents text) with
  | nil => rfl
  | cons run rest ih =>
    rw [List.flatMap_cons, List.flatten_append, flatten_splitRun, ih, List.flatten_cons]

/-! ## Cases -/

theorem lower_capitalize (word : List Char) : lower (capitalize word) = lower word := by
  cases word with
  | nil => rfl
  | cons c cs =>
    simp only [capitalize, lower, List.map_cons, List.map_map, Char.toLower_toUpper_eq_toLower]
    congr 1
    exact List.map_congr_left fun d _ => Char.toLower_toLower_eq_toLower d

/-- A name in Pascal case has the letters and digits of the name. -/
theorem lower_pascal (text : List Char) : lower (pascal text) = letters text := by
  rw [letters, ← flatten_words, pascal, lower, lower, List.map_flatten, List.map_flatten,
    List.map_map]
  congr 1
  exact List.map_congr_left fun word _ => lower_capitalize word

/-- Names that are written alike in Pascal case have the same letters and digits. -/
theorem letters_eq_of_pascal_eq {a b : List Char} (h : pascal a = pascal b) :
    letters a = letters b := by
  rw [← lower_pascal, ← lower_pascal, h]

/-- Nothing is written for a name exactly if it has neither letters nor digits. -/
theorem pascal_eq_nil_iff {text : List Char} : pascal text = [] ↔ letters text = [] := by
  rw [← lower_pascal, lower, List.map_eq_nil_iff]

end Name
end ApiCompiler
